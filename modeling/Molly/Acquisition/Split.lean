import Mathlib.Data.Nat.Digits.Defs
import Molly.Acquisition.Coding
import Molly.Acquisition.Policy

/-! Hosts and ports, and the splitting of a URL that was put together from its parts. -/
namespace Molly

/-! ### Hosts and ports -/

/-- The code points of a DNS name. -/
def isHostChar (p : CodePoint) : Bool := (97 ≤ p.val && p.val ≤ 122) || Urls.isDigit p || p = 45 || p = 46

theorem isHostChar_bounds {p : CodePoint} (host : isHostChar p = true) :
    32 < p.val ∧ p.val < 127 ∧ ¬(65 ≤ p.val ∧ p.val ≤ 90) ∧ p ∉ ([35, 37, 47, 58, 63, 64, 91, 93] : List CodePoint) := by
  simp only [isHostChar, Urls.isDigit, Bool.or_eq_true, Bool.and_eq_true, decide_eq_true_eq, List.mem_cons, List.not_mem_nil,
    or_false, Fin.ext_iff] at host ⊢
  have values : (45 : CodePoint).val = 45 ∧ (46 : CodePoint).val = 46 ∧ (35 : CodePoint).val = 35 ∧ (37 : CodePoint).val = 37 ∧
      (47 : CodePoint).val = 47 ∧ (58 : CodePoint).val = 58 ∧ (63 : CodePoint).val = 63 ∧ (64 : CodePoint).val = 64 ∧
      (91 : CodePoint).val = 91 ∧ (93 : CodePoint).val = 93 := by decide
  omega

theorem isDnsName_chars {host : PyText} (named : isDnsName host = true) : ∀ p ∈ host, isHostChar p = true := by
  intro p member
  have whole : [46].intercalate (host.splitOn 46) = host := List.intercalate_splitOn 46
  rw [← whole] at member
  rcases Urls.mem_intercalate member with rfl | ⟨label, inside, found⟩
  · decide
  · have valid := List.all_eq_true.mp named label inside
    simp only [isDnsLabel, Bool.and_eq_true, List.all_eq_true] at valid
    have shown := valid.2 p found
    simp only [Bool.or_eq_true, decide_eq_true_eq] at shown
    simp only [isHostChar, Bool.or_eq_true, decide_eq_true_eq]
    exact .inl shown

/-- The port of an authority, as it stands there. -/
def portText (n : Nat) : PyText := PyText.ofString (toString n)

theorem portText_eq (n : Nat) : portText n = (Nat.toDigits 10 n).map CodePoint.ofChar := by
  have shown : (toString n).toList = Nat.toDigits 10 n := by simp [toString, Nat.repr]
  rw [portText, PyText.ofString, Effect.chars_eq, shown]

theorem portText_digits {n : Nat} : ∀ p ∈ portText n, Urls.isDigit p = true := by
  intro p member
  rw [portText_eq] at member
  obtain ⟨c, digit, rfl⟩ := List.mem_map.mp member
  have isDigit := Nat.isDigit_of_mem_toDigits (by decide) (by decide) digit
  simp only [Char.isDigit, Bool.and_eq_true, decide_eq_true_eq, ge_iff_le, UInt32.le_iff_toNat_le] at isDigit
  simp only [Urls.isDigit, Bool.and_eq_true, decide_eq_true_eq]
  exact isDigit

theorem portText_value (n : Nat) : Effect.valueOf ((portText n).map CodePoint.toChar) = n := by
  rw [portText_eq, List.map_map]
  have same : (Nat.toDigits 10 n).map (CodePoint.toChar ∘ CodePoint.ofChar) = Nat.toDigits 10 n :=
    (List.map_congr_left fun c _ => CodePoint.toChar_ofChar c).trans (List.map_id _)
  rw [same, Effect.valueOf, Nat.ofDigitChars_ten_toDigits]

theorem portText_short {n : Nat} (small : n ≤ 65535) : portText n ≠ [] ∧ (portText n).length ≤ 5 := by
  rw [portText_eq, List.length_map]
  refine ⟨by simp [Nat.toDigits_ne_nil], ?_⟩
  exact Nat.toDigits_length 10 n 5 (by decide) (by omega)

namespace Urls

/-- The authority of a host, with a port or without one. -/
def netlocOf (host : PyText) : Option Nat → PyText
  | none => host
  | some n => host ++ 58 :: portText n

def isNetlocChar (p : CodePoint) : Bool := isHostChar p || p = 58

variable {host : PyText} {port : Option Nat}

theorem netlocOf_chars (named : ∀ p ∈ host, isHostChar p = true) : ∀ p ∈ netlocOf host port, isNetlocChar p = true := by
  intro p member
  cases port with
  | none => simp [isNetlocChar, named p member]
  | some n =>
    rcases List.mem_append.mp member with inside | behind
    · simp [isNetlocChar, named p inside]
    · rcases List.mem_cons.mp behind with rfl | digit
      · decide
      · simp [isNetlocChar, isHostChar, portText_digits p digit]

theorem isNetlocChar_bounds {p : CodePoint} (kept : isNetlocChar p = true) :
    32 < p.val ∧ p.val < 127 ∧ p ∉ ([35, 37, 47, 63, 64, 91, 93] : List CodePoint) := by
  simp only [isNetlocChar, Bool.or_eq_true, decide_eq_true_eq] at kept
  rcases kept with host | rfl
  · obtain ⟨low, high, _, marks⟩ := isHostChar_bounds host
    exact ⟨low, high, fun member => marks (by simp at member ⊢; tauto)⟩
  · decide

/-- A path and a query as a split leaves them. -/
structure Plain (path query : PyText) : Prop where
  rooted : path.head? = some 47
  visible : ∀ p ∈ path, 32 < p.val
  unmarked : (35 : CodePoint) ∉ path ∧ (63 : CodePoint) ∉ path
  encoded : ∀ p ∈ query, isEncoded p = true

theorem isEncoded_bounds {p : CodePoint} (encoded : isEncoded p = true) : 32 < p.val ∧ p.val < 127 ∧ p ≠ 35 := by
  simp only [isEncoded, Bool.or_eq_true, decide_eq_true_eq] at encoded
  rcases encoded with (quoted | rfl) | rfl
  · obtain ⟨low, high, marks⟩ := isQuoted_bounds quoted
    exact ⟨low, high, fun same => marks (by simp [same])⟩
  · decide
  · decide

variable {path query : PyText}

/-- The query of a value, with its mark. -/
def queryTail (query : PyText) : PyText := if query = [] then [] else 63 :: query

theorem Plain.urlunsplit (plain : Plain path query) (netloc : PyText) :
    urlunsplit (PyText.ofString "https") netloc path query =
      [104, 116, 116, 112, 115] ++ 58 :: 47 :: 47 :: (netloc ++ (path ++ queryTail query)) := by
  have scheme : PyText.ofString "https" = [104, 116, 116, 112, 115] := by decide
  have kept : (if path ≠ [] ∧ path.head? ≠ some 47 then 47 :: path else path) = path := if_neg fun other => other.2 plain.rooted
  unfold Urls.urlunsplit queryTail
  simp only [kept, scheme]
  by_cases empty : query = []
  · simp [empty]
  · simp [empty]

/-- No mark of a split stands in the rest of a value before its own. -/
theorem split_rest (unmarked : (35 : CodePoint) ∉ path ∧ (63 : CodePoint) ∉ path) (encoded : ∀ p ∈ query, isEncoded p = true) :
    partition 35 (path ++ queryTail query) = (path ++ queryTail query, none) ∧
      partition 63 (path ++ queryTail query) = (path, if query = [] then none else some query) := by
  constructor
  · refine partition_plain fun member => ?_
    rcases List.mem_append.mp member with inside | behind
    · exact unmarked.1 inside
    · unfold queryTail at behind
      split at behind
      · cases behind
      · rcases List.mem_cons.mp behind with mark | coded
        · exact absurd mark (by decide)
        · exact (isEncoded_bounds (encoded _ coded)).2.2 rfl
  · unfold queryTail
    split
    · rw [List.append_nil]
      exact partition_plain unmarked.2
    · exact partition_append unmarked.2 query

/-- A value put together from such parts splits into them. -/
theorem Plain.urlsplit [CompatText] (plain : Plain path query) (named : ∀ p ∈ host, isHostChar p = true) :
    urlsplit (Urls.urlunsplit (PyText.ofString "https") (netlocOf host port) path query) =
      .ok ⟨PyText.ofString "https", netlocOf host port, path, query, []⟩ := by
  have marks : ∀ p ∈ netlocOf host port, isNetlocChar p = true := netlocOf_chars named
  have bare (m : CodePoint) (mark : m ∈ ([35, 37, 47, 63, 64, 91, 93] : List CodePoint)) : m ∉ netlocOf host port := fun member =>
    (isNetlocChar_bounds (marks m member)).2.2 mark
  have ascii : ((netlocOf host port).all fun p => p.val < 128) = true := by
    rw [List.all_eq_true]
    intro p member
    have bounds := isNetlocChar_bounds (marks p member)
    simp only [decide_eq_true_eq]
    omega
  have visible : ∀ p ∈ path ++ queryTail query, 32 < p.val := by
    intro p member
    rcases List.mem_append.mp member with inside | behind
    · exact plain.visible p inside
    · unfold queryTail at behind
      split at behind
      · cases behind
      · rcases List.mem_cons.mp behind with rfl | coded
        · decide
        · exact (isEncoded_bounds (plain.encoded p coded)).1
  obtain ⟨more, rooted⟩ : ∃ more, path ++ queryTail query = 47 :: more := by
    obtain ⟨more, shown⟩ := List.head?_eq_some_iff.mp plain.rooted
    exact ⟨more ++ queryTail query, by rw [shown, List.cons_append]⟩
  obtain ⟨noFragment, parted⟩ := split_rest plain.unmarked plain.encoded
  rw [plain.urlunsplit]
  generalize path ++ queryTail query = rest at noFragment parted visible rooted ⊢
  have clean : cleanUrl ([104, 116, 116, 112, 115] ++ 58 :: 47 :: 47 :: (netlocOf host port ++ rest)) =
      [104, 116, 116, 112, 115] ++ 58 :: 47 :: 47 :: (netlocOf host port ++ rest) := by
    rw [cleanUrl, List.cons_append, List.dropWhile_cons_of_neg (by decide), List.filter_eq_self]
    intro p member
    have above : 32 < p.val := by
      simp only [List.mem_cons, List.mem_append, List.nil_append, List.cons_append] at member
      rcases member with rfl | rfl | rfl | rfl | rfl | rfl | rfl | rfl | inside | behind
      on_goal 9 => exact (isNetlocChar_bounds (marks p inside)).1
      on_goal 9 => exact visible p behind
      all_goals decide
    simp only [decide_eq_true_eq]
    intro blank
    rcases List.mem_cons.mp blank with rfl | blank
    · exact absurd above (by decide)
    · rcases List.mem_cons.mp blank with rfl | blank
      · exact absurd above (by decide)
      · rw [List.mem_singleton.mp blank] at above
        exact absurd above (by decide)
  have scheme : splitScheme ([104, 116, 116, 112, 115] ++ 58 :: 47 :: 47 :: (netlocOf host port ++ rest)) =
      (PyText.ofString "https", 47 :: 47 :: (netlocOf host port ++ rest)) := by
    have letters : ([104, 116, 116, 112, 115] : PyText).map asciiLower = PyText.ofString "https" := by decide
    rw [splitScheme, partition_append (by decide), ← letters]
    exact if_pos (by decide)
  have authority : splitNetloc (47 :: 47 :: (netlocOf host port ++ rest)) = (netlocOf host port, rest) := by
    rw [splitNetloc, rooted]
    refine cut_append ?_ (by decide) more
    intro p member
    simp only [decide_eq_false_iff_not]
    intro mark
    exact (isNetlocChar_bounds (marks p member)).2.2 (by simp at mark ⊢; tauto)
  have opened : (netlocOf host port).contains 91 = false := by
    simpa using bare 91 (by decide)
  have closed : (netlocOf host port).contains 93 = false := by
    simpa using bare 93 (by decide)
  unfold Urls.urlsplit
  rw [clean, scheme]
  dsimp only
  rw [authority]
  dsimp only
  rw [opened, closed, noFragment]
  dsimp only
  rw [parted, checkNetloc, if_pos ascii]
  by_cases empty : query = []
  · simp [ensure, empty, bind, Except.bind, pure, Except.pure]
  · simp [ensure, empty, bind, Except.bind, pure, Except.pure]

/-- The host and the port of such an authority are read back. -/
theorem hostinfo_netlocOf (named : ∀ p ∈ host, isHostChar p = true) {scheme path query fragment : PyText} :
    SplitResult.hostinfo ⟨scheme, netlocOf host port, path, query, fragment⟩ = (host, (port.map portText).getD []) := by
  have marks : ∀ p ∈ netlocOf host port, isNetlocChar p = true := netlocOf_chars named
  have bare (m : CodePoint) (mark : m ∈ ([35, 37, 47, 63, 64, 91, 93] : List CodePoint)) : m ∉ netlocOf host port := fun member =>
    (isNetlocChar_bounds (marks m member)).2.2 mark
  have noColon : (58 : CodePoint) ∉ host := fun member => (isHostChar_bounds (named _ member)).2.2.2 (by decide)
  unfold SplitResult.hostinfo
  simp only [afterLast_plain (bare 64 (by decide)), partition_plain (bare 91 (by decide))]
  cases port with
  | none => simp only [netlocOf, partition_plain noColon, Option.map_none, Option.getD_none]
  | some n => simp only [netlocOf, partition_append noColon, Option.map_some, Option.getD_some]

theorem port_netlocOf (named : ∀ p ∈ host, isHostChar p = true) (small : ∀ n, port = some n → n ≤ 65535)
    {scheme path query fragment : PyText} : SplitResult.port ⟨scheme, netlocOf host port, path, query, fragment⟩ = .ok port := by
  unfold SplitResult.port
  rw [hostinfo_netlocOf named]
  cases port with
  | none => rfl
  | some n =>
    obtain ⟨filled, short⟩ := portText_short (small n rfl)
    have digits : (portText n).all isDigit = true := List.all_eq_true.mpr portText_digits
    have limit : ¬maxStrDigits < (portText n).length := by
      have room : 5 ≤ maxStrDigits := by decide
      omega
    simp only [Option.map_some, Option.getD_some, if_neg filled, digits, if_neg limit, portText_value, if_pos (small n rfl)]
    rfl

theorem hostname_netlocOf [LowerText] (named : ∀ p ∈ host, isHostChar p = true) {scheme path query fragment : PyText} :
    SplitResult.hostname ⟨scheme, netlocOf host port, path, query, fragment⟩ = host := by
  have noZone : (37 : CodePoint) ∉ host := fun member => (isHostChar_bounds (named _ member)).2.2.2 (by decide)
  unfold SplitResult.hostname
  rw [hostinfo_netlocOf named]
  simp only [partition_plain noZone]
  rw [LowerText.lower_ascii host fun p member => (by
    have bounds := isHostChar_bounds (named p member)
    omega)]
  refine (List.map_congr_left fun p member => ?_).trans (List.map_id _)
  exact if_neg (isHostChar_bounds (named p member)).2.2.1

end Urls

end Molly
