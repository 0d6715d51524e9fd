import Molly.Acquisition.Split

/-! The URLs that a route accepts, and the one form in which they are returned. -/
namespace Molly
open Effect (Precedence)

/-! ### Accepted URLs -/

section
variable [CaseText] [LowerText] [CompatText]

namespace ProviderRoute

/-- The port that the value of a URL shows: none, or the one of the route. -/
def shownPort (route : ProviderRoute) (explicitPort : Option Nat) : Option Nat :=
  if explicitPort = none ∨ route.port = 443 then none else some route.port

def base (route : ProviderRoute) : PyText := if route.pathPrefix = [] then [47] else route.pathPrefix

/-- What a route makes of a URL that it accepts. -/
structure Accepts (route : ProviderRoute) (value : PyText) (s : Urls.SplitResult) (explicitPort : Option Nat)
    (fields : List (PyText × PyText)) (query : PyText) (c : CanonicalURL) : Prop where
  short : value ≠ [] ∧ value.length ≤ 16384
  visible : ∀ p ∈ value, isSpace p.toChar = false ∧ 32 ≤ p.val
  split : Urls.urlsplit value = .ok s
  host : canonicalHostname s.hostname = .ok c.hostname
  readPort : s.port = .ok explicitPort
  scheme : s.scheme.casefold = PyText.ofString "https"
  ported : ∀ n, explicitPort = some n → n = route.port
  named : canonicalHostname route.host = .ok c.hostname
  literal : isIpLiteral c.hostname = false
  path : safePath s.path = .ok c.path
  inside : ∃ base', safePath route.base = .ok base' ∧
    (c.path = base' || base' = [47] || (dropSlashes base' ++ [47]).isPrefixOf c.path) = true
  read : Urls.parseQsl s.query = .ok fields
  distinct : (fields.map Prod.fst).Nodup
  allowed : (fields.all fun pair => route.allowedQueryFields.contains pair.1) = true
  sorted : c.query = fieldOrder.sorted fields
  encoded : Urls.urlencode c.query = .ok query
  value : c.value = Urls.urlunsplit (PyText.ofString "https") (Urls.netlocOf c.hostname (route.shownPort explicitPort)) c.path query
  port : c.port = route.port

omit [CaseText] [LowerText] [CompatText] in
theorem shownPort_small (route : ProviderRoute) (explicitPort : Option Nat) : ∀ n, route.shownPort explicitPort = some n → n ≤ 65535 := by
  intro n shown
  unfold shownPort at shown
  split at shown
  · cases shown
  · cases shown
    exact route.portRange.2

theorem canonicalize_accepts {route : ProviderRoute} {value : PyText} {c : CanonicalURL} (accepted : route.canonicalize value = .ok c) :
    ∃ s explicitPort fields query, route.Accepts value s explicitPort fields query c := by
  unfold canonicalize canonicalizeUrl at accepted
  simp only [bind_ok, ensure_ok, exists_const] at accepted
  obtain ⟨short, visible, ⟨s, hostname, explicitPort⟩, parts, scheme, _, _, ported, hosts, mapped, member, literal, path, path', base,
    base', inside, fields, read, distinct, allowed, query, encoded, made⟩ := accepted
  simp only [pure, Except.pure, Except.ok.injEq] at made
  subst made
  have parts := orRaise_eq_ok.mp parts
  simp only [authority, bind_ok] at parts
  obtain ⟨s', split, hostname', host, explicitPort', readPort, same⟩ := parts
  cases same
  have named : canonicalHostname route.host = .ok hostname := by
    cases mapM_ok.mp mapped with
    | cons made rest =>
      cases rest
      simp only [List.contains_cons, List.contains_nil, Bool.or_false, beq_iff_eq] at member
      rw [made, member]
  simp only [Bool.and_eq_true, decide_eq_true_eq] at short
  refine ⟨s, explicitPort, fields, query, ?_⟩
  exact {
    short := short
    visible := by
      intro p member
      have shown := List.all_eq_true.mp visible p member
      simpa using shown
    split := split
    host := host
    readPort := readPort
    scheme := by simpa using scheme
    ported := by
      intro n given
      rw [given] at ported
      simpa using ported
    named := named
    literal := by simpa using literal
    path := path'
    inside := ⟨base, base', inside⟩
    read := orRaise_eq_ok.mp read
    distinct := by simpa using distinct
    allowed := allowed
    sorted := rfl
    encoded := encoded
    value := by
      unfold shownPort
      split <;> rfl
    port := rfl }

end ProviderRoute

omit [CaseText] [LowerText] [CompatText] in
/-- ASCII above the space is no space. -/
theorem visible_ascii {p : CodePoint} (low : 32 < p.val) (high : p.val < 127) : isSpace p.toChar = false ∧ 32 ≤ p.val := by
  have scalar : p.isSurrogate = false := by
    simp only [CodePoint.isSurrogate, CodePoint.isHigh, CodePoint.isLow, Bool.or_eq_false_iff, Bool.and_eq_false_iff,
      decide_eq_false_iff_not]
    omega
  have number : p.toChar.toNat = p.val := congrArg Fin.val (Urls.ofChar_toChar scalar)
  refine ⟨?_, by omega⟩
  simp only [isSpace, number, Bool.or_eq_false_iff, Bool.and_eq_false_iff, decide_eq_false_iff_not]
  omega

omit [LowerText] [CompatText] in
theorem canonicalHostname_ok {hostname host : PyText} (made : canonicalHostname hostname = .ok host) : host = hostname.casefold := by
  simp only [canonicalHostname, bind_ok, ensure_ok, exists_const] at made
  exact (Except.ok.inj made.2.2).symm

omit [CaseText] [LowerText] in
/-- The path of a split URL is part of the URL, and holds no mark. -/
theorem urlsplit_path {url : PyText} {s : Urls.SplitResult} (split : Urls.urlsplit url = .ok s) :
    s.path.Sublist url ∧ (35 : CodePoint) ∉ s.path ∧ (63 : CodePoint) ∉ s.path := by
  have cleaned : (Urls.cleanUrl url).Sublist url := List.filter_sublist.trans (List.dropWhile_sublist _)
  have schemed : (Urls.splitScheme (Urls.cleanUrl url)).2.Sublist (Urls.cleanUrl url) := by
    unfold Urls.splitScheme
    split
    · rename_i head rest found
      have rest' := (Urls.partition_parts 58 (Urls.cleanUrl url)).2.2 rest (by rw [found])
      split
      · exact rest'
      · exact List.Sublist.refl _
    · exact List.Sublist.refl _
  have ported : (Urls.splitNetloc (Urls.splitScheme (Urls.cleanUrl url)).2).2.Sublist (Urls.splitScheme (Urls.cleanUrl url)).2 := by
    unfold Urls.splitNetloc
    split
    · rename_i rest shown
      rw [shown]
      exact (List.dropWhile_sublist _).trans ((List.sublist_cons_self _ _).trans (List.sublist_cons_self _ _))
    · exact List.Sublist.refl _
  have whole := ported.trans (schemed.trans cleaned)
  unfold Urls.urlsplit at split
  simp only [bind_ok, ensure_ok, exists_const] at split
  generalize (Urls.splitNetloc (Urls.splitScheme (Urls.cleanUrl url)).2).2 = rest at split whole
  have shape : s.path = (Urls.partition 63 (Urls.partition 35 rest).1).1 := by
    have made := split.2
    split at made
    · simp only [bind_ok, pure, Except.pure, Except.ok.injEq] at made
      obtain ⟨_, _, _, _, rfl⟩ := made
      rfl
    · simp only [bind_ok, pure, Except.pure, Except.ok.injEq] at made
      obtain ⟨_, _, rfl⟩ := made
      rfl
  obtain ⟨noQuery, front, _⟩ := Urls.partition_parts 63 (Urls.partition 35 rest).1
  obtain ⟨noFragment, start, _⟩ := Urls.partition_parts 35 rest
  rw [shape]
  exact ⟨front.trans (start.trans whole), fun member => noFragment (front.subset member), noQuery⟩

namespace ProviderRoute.Accepts

variable {route : ProviderRoute} {value : PyText} {s : Urls.SplitResult} {explicitPort : Option Nat}
  {fields : List (PyText × PyText)} {query : PyText} {c : CanonicalURL}

/-- The only host is the one of the route. -/
theorem hostname_eq (accepts : route.Accepts value s explicitPort fields query c) : c.hostname = route.host := by
  rw [canonicalHostname_ok accepts.named]
  refine PyText.casefold_ascii (List.all_eq_true.mpr fun p member => ?_)
  have bounds := isHostChar_bounds (isDnsName_chars route.dnsName.1 p member)
  simp only [Bool.and_eq_true, decide_eq_true_eq, Bool.not_eq_true', Bool.and_eq_false_iff, decide_eq_false_iff_not]
  omega

theorem host_chars (accepts : route.Accepts value s explicitPort fields query c) : ∀ p ∈ c.hostname, isHostChar p = true :=
  accepts.hostname_eq ▸ isDnsName_chars route.dnsName.1

theorem path_cases (accepts : route.Accepts value s explicitPort fields query c) :
    (s.path = [] ∧ c.path = [47]) ∨ (s.path.head? = some 47 ∧ c.path = s.path) := by
  have made := accepts.path
  unfold safePath at made
  split at made
  · rename_i empty
    exact .inl ⟨empty, (Except.ok.inj made).symm⟩
  · simp only [bind_ok, ensure_ok, exists_const, Bool.and_eq_true, decide_eq_true_eq] at made
    exact .inr ⟨made.1.1, (Except.ok.inj made.2.2).symm⟩

theorem path_stable (accepts : route.Accepts value s explicitPort fields query c) : safePath c.path = .ok c.path := by
  rcases accepts.path_cases with ⟨_, root⟩ | ⟨_, same⟩
  · rw [root]
    rfl
  · have made := accepts.path
    rwa [← same] at made

theorem plain (accepts : route.Accepts value s explicitPort fields query c) : Urls.Plain c.path query := by
  obtain ⟨inside, noFragment, noQuery⟩ := urlsplit_path accepts.split
  have encoded := (Urls.parseQsl_urlencode accepts.encoded).2.1
  rcases accepts.path_cases with ⟨_, root⟩ | ⟨rooted, same⟩
  · rw [root]
    have visible : ∀ p ∈ ([47] : PyText), 32 < p.val := by
      intro p member
      rw [List.mem_singleton.mp member]
      decide
    exact ⟨rfl, visible, by decide, encoded⟩
  · rw [same]
    refine ⟨rooted, fun p member => ?_, ⟨noFragment, noQuery⟩, encoded⟩
    obtain ⟨solid, low⟩ := accepts.visible p (inside.subset member)
    by_contra small
    have blank : p = 32 := Fin.ext (by
      have value : (32 : CodePoint).val = 32 := rfl
      omega)
    have space : isSpace (CodePoint.toChar 32) = true := by decide +kernel
    rw [blank, space] at solid
    cases solid

/-- The value splits into the host, the shown port, the path and the query. -/
theorem split_value (accepts : route.Accepts value s explicitPort fields query c) :
    Urls.urlsplit c.value =
      .ok ⟨PyText.ofString "https", Urls.netlocOf c.hostname (route.shownPort explicitPort), c.path, query, []⟩ := by
  rw [accepts.value]
  exact accepts.plain.urlsplit accepts.host_chars

theorem authority_value (accepts : route.Accepts value s explicitPort fields query c) :
    authority c.value = .ok (⟨PyText.ofString "https", Urls.netlocOf c.hostname (route.shownPort explicitPort), c.path, query, []⟩,
      c.hostname, route.shownPort explicitPort) := by
  have named : canonicalHostname c.hostname = .ok c.hostname := by
    have made := accepts.named
    rwa [← accepts.hostname_eq] at made
  simp only [authority, bind_ok]
  refine ⟨_, accepts.split_value, c.hostname, ?_, route.shownPort explicitPort, ?_, rfl⟩
  · rw [Urls.hostname_netlocOf accepts.host_chars]
    exact named
  · exact Urls.port_netlocOf accepts.host_chars (route.shownPort_small explicitPort)

end ProviderRoute.Accepts

omit [CaseText] [LowerText] [CompatText] in
/-- Two different fields are ordered. -/
theorem fieldOrder_decides (fields : List (PyText × PyText)) : fieldOrder.Decides fields := by
  intro a _ b _ differ
  simp only [fieldOrder, Precedence.lex, Precedence.pull, Precedence.ofOrdering, keyOrder, Bool.or_eq_true, Bool.and_eq_true,
    Bool.not_eq_true']
  by_cases names : a.1 = b.1
  · have values : a.2 ≠ b.2 := fun same => differ (Prod.ext names same)
    rw [names, PyText.lt_irrefl]
    rcases PyText.lt_total values with first | second
    · exact .inl (.inr ⟨rfl, first⟩)
    · exact .inr (.inr ⟨rfl, second⟩)
  · rcases PyText.lt_total names with first | second
    · exact .inl (.inl first)
    · exact .inr (.inl second)

/-! ### Lengths -/

/-- The length of a quoted text. -/
def quotedLength (text : PyText) : Nat := (Effect.Percent.quotePlus (Effect.Utf8.encode (text.map CodePoint.toChar))).length

/-- The length that the fields of a query take with their marks. -/
def fieldsLength (fields : List (PyText × PyText)) : Nat := (fields.map fun f => 2 + quotedLength f.1 + quotedLength f.2).sum

omit [CaseText] [LowerText] [CompatText] in
theorem length_encodeField {field : PyText × PyText} {part : PyText} (made : Urls.encodeField field = .ok part) :
    part.length + 1 = 2 + quotedLength field.1 + quotedLength field.2 := by
  have quoted {text quoted : PyText} (made : Urls.quotePlus text = .ok quoted) : quoted.length = quotedLength text := by
    unfold Urls.quotePlus at made
    split at made
    · cases made
    · cases made
      rw [List.length_map, quotedLength]
  obtain ⟨name, value, named, valued, rfl⟩ := Urls.encodeField_ok made
  rw [List.length_append, List.length_cons, quoted named, quoted valued]
  omega

omit [CaseText] [LowerText] [CompatText] in
/-- A query has the length of its fields. -/
theorem length_queryTail {fields : List (PyText × PyText)} {query : PyText} (made : Urls.urlencode fields = .ok query) :
    (Urls.queryTail query).length = fieldsLength fields := by
  have empty := (Urls.parseQsl_urlencode made).2.2
  obtain ⟨parts, each, made⟩ := bind_ok.mp made
  obtain rfl := Except.ok.inj made
  have lengths : ∀ {fields : List (PyText × PyText)} {parts : List PyText},
      List.Forall₂ (fun f p => Urls.encodeField f = .ok p) fields parts → parts ≠ [] →
        (List.intercalate [38] parts).length + 1 = fieldsLength fields := by
    intro fields parts each
    induction each with
    | nil => exact fun filled => absurd rfl filled
    | @cons f p fields parts one rest ih =>
      intro _
      have here := length_encodeField one
      cases parts with
      | nil =>
        cases rest
        simp only [List.intercalate, List.intersperse, List.flatten_cons, List.flatten_nil, List.append_nil, fieldsLength,
          List.map_cons, List.map_nil, List.sum_cons, List.sum_nil]
        omega
      | cons next parts =>
        have later := ih (by simp)
        have shape : List.intercalate [38] (p :: next :: parts) = p ++ 38 :: List.intercalate [38] (next :: parts) := by
          simp [List.intercalate]
        rw [shape, List.length_append, List.length_cons]
        simp only [fieldsLength, List.map_cons, List.sum_cons] at later ⊢
        omega
  unfold Urls.queryTail
  by_cases none : List.intercalate [38] parts = []
  · rw [if_pos none, empty.mp none]
    rfl
  · rw [if_neg none, List.length_cons]
    exact lengths (mapM_ok.mp each) fun blank => none (by rw [blank]; rfl)

/-! ### One form -/

/-- What a URL names: its scheme, host, effective port, path and fields. -/
structure ParsedUrl where
  scheme : PyText
  hostname : PyText
  port : Nat
  path : PyText
  fields : List (PyText × PyText)

omit [CaseText] in
def parseUrl (value : PyText) : Except PyError ParsedUrl := do
  let s ← Urls.urlsplit value
  let explicitPort ← s.port
  let fields ← Urls.parseQsl s.query
  return ⟨s.scheme, s.hostname, explicitPort.getD 443, s.path, fields⟩

/-- Two URLs name one host, one port, one path and the same set of fields; no path is the root. -/
def SameTarget (u u' : ParsedUrl) : Prop :=
  u.hostname.casefold = u'.hostname.casefold ∧ u.port = u'.port ∧
    (if u.path = [] then [47] else u.path) = (if u'.path = [] then [47] else u'.path) ∧ ∀ f, f ∈ u.fields ↔ f ∈ u'.fields

/-- What is expected of the URL that a route returns. -/
structure OneForm (route : ProviderRoute) (value : PyText) (c : CanonicalURL) : Prop where
  parsed : parseUrl c.value = .ok ⟨PyText.ofString "https", c.hostname, c.port, c.path, c.query⟩
  stable : route.canonicalize c.value = .ok c
  agrees : ∀ (route' : ProviderRoute) value' c' u u', route'.canonicalize value' = .ok c' → parseUrl value = .ok u →
    parseUrl value' = .ok u' → SameTarget u u' → c'.value = c.value

/-- The URL has a port of its own. -/
def StatesPort (value : PyText) : Prop := ∃ s n, Urls.urlsplit value = .ok s ∧ s.port = .ok (some n)

/-- The length of the URL with its host, port, path and encoded fields. -/
def recodedLength (route : ProviderRoute) (explicitPort : Option Nat) (path : PyText) (fields : List (PyText × PyText)) : Nat :=
  8 + (Urls.netlocOf route.host (route.shownPort explicitPort)).length + max 1 path.length + fieldsLength fields

/-- With its fields encoded, the URL is not longer than an accepted one may be. -/
def RecodedFits (route : ProviderRoute) (value : PyText) : Prop :=
  ∀ s explicitPort fields, Urls.urlsplit value = .ok s → s.port = .ok explicitPort → Urls.parseQsl s.query = .ok fields →
    recodedLength route explicitPort s.path fields ≤ 16384

namespace ProviderRoute.Accepts

variable {route : ProviderRoute} {value : PyText} {s : Urls.SplitResult} {explicitPort : Option Nat}
  {fields : List (PyText × PyText)} {query : PyText} {c : CanonicalURL}

theorem parseUrl_value (accepts : route.Accepts value s explicitPort fields query c) :
    parseUrl c.value =
      .ok ⟨PyText.ofString "https", c.hostname, (route.shownPort explicitPort).getD 443, c.path, c.query⟩ := by
  have port : Urls.SplitResult.port ⟨PyText.ofString "https", Urls.netlocOf c.hostname (route.shownPort explicitPort), c.path,
      query, []⟩ = .ok (route.shownPort explicitPort) :=
    Urls.port_netlocOf accepts.host_chars (route.shownPort_small explicitPort)
  unfold parseUrl
  simp only [bind_ok]
  refine ⟨_, accepts.split_value, _, port, _, (Urls.parseQsl_urlencode accepts.encoded).1, ?_⟩
  rw [Urls.hostname_netlocOf accepts.host_chars]
  rfl

theorem parseUrl_source (accepts : route.Accepts value s explicitPort fields query c) :
    parseUrl value = .ok ⟨s.scheme, s.hostname, explicitPort.getD 443, s.path, fields⟩ := by
  unfold parseUrl
  simp only [bind_ok]
  exact ⟨_, accepts.split, _, accepts.readPort, _, accepts.read, rfl⟩

/-- A port is shown unless it is the standard one. -/
theorem shownPort_effective (accepts : route.Accepts value s explicitPort fields query c) :
    route.shownPort explicitPort = if explicitPort.getD 443 = 443 then none else some (explicitPort.getD 443) := by
  unfold shownPort
  cases given : explicitPort with
  | none => rfl
  | some n =>
    have same := accepts.ported n given
    subst same
    by_cases standard : route.port = 443
    · simp [standard]
    · simp [standard]

theorem length_value (accepts : route.Accepts value s explicitPort fields query c) :
    c.value.length = recodedLength route explicitPort s.path fields := by
  have path : c.path.length = max 1 s.path.length := by
    rcases accepts.path_cases with ⟨empty, root⟩ | ⟨rooted, same⟩
    · rw [root, empty]
      rfl
    · obtain ⟨more, shown⟩ := List.head?_eq_some_iff.mp rooted
      rw [same, shown, List.length_cons]
      omega
  have tail : (Urls.queryTail query).length = fieldsLength fields := by
    rw [length_queryTail accepts.encoded, accepts.sorted]
    exact ((fieldOrder.sorted_perm fields).map _).sum_nat
  rw [accepts.value, accepts.plain.urlunsplit, accepts.hostname_eq]
  simp only [List.length_append, List.length_cons, List.length_nil, path, tail, recodedLength]
  omega

theorem path_visible (accepts : route.Accepts value s explicitPort fields query c) :
    ∀ p ∈ c.path, isSpace p.toChar = false ∧ 32 ≤ p.val := by
  intro p member
  rcases accepts.path_cases with ⟨_, root⟩ | ⟨_, same⟩
  · rw [root] at member
    rw [List.mem_singleton.mp member]
    exact visible_ascii (by decide) (by decide)
  · rw [same] at member
    exact accepts.visible p ((urlsplit_path accepts.split).1.subset member)

theorem path_eq (accepts : route.Accepts value s explicitPort fields query c) :
    c.path = if s.path = [] then [47] else s.path := by
  rcases accepts.path_cases with ⟨empty, root⟩ | ⟨rooted, same⟩
  · rw [if_pos empty, root]
  · obtain ⟨more, shown⟩ := List.head?_eq_some_iff.mp rooted
    rw [if_neg (by rw [shown]; simp), same]

/-- The value is accepted again, unless it has become too long. -/
theorem recognized (accepts : route.Accepts value s explicitPort fields query c) (short : c.value.length ≤ 16384) :
    route.canonicalize c.value = .ok c := by
  have plain := accepts.plain
  have perm : c.query.Perm fields := accepts.sorted ▸ fieldOrder.sorted_perm fields
  have again : fieldOrder.sorted c.query = c.query := by
    conv_rhs => rw [accepts.sorted]
    exact Precedence.sorted_of_perm perm (fieldOrder_decides _)
  have marks : ∀ p ∈ Urls.netlocOf c.hostname (route.shownPort explicitPort), Urls.isNetlocChar p = true :=
    Urls.netlocOf_chars accepts.host_chars
  have shown := accepts.value
  rw [plain.urlunsplit] at shown
  obtain ⟨base', based, inside⟩ := accepts.inside
  unfold canonicalize canonicalizeUrl
  simp only [bind_ok, ensure_ok, exists_const]
  refine ⟨?_, ?_, ⟨_, c.hostname, route.shownPort explicitPort⟩, orRaise_eq_ok.mpr accepts.authority_value, ?_, ?_, ?_, ?_,
    [c.hostname], mapM_ok.mpr (.cons accepts.named .nil), ?_, ?_, c.path, accepts.path_stable, base', based, inside, c.query,
    orRaise_eq_ok.mpr (Urls.parseQsl_urlencode accepts.encoded).1, ?_, ?_, query, ?_, ?_⟩
  · rw [shown]
    rw [shown] at short
    simpa using short
  · rw [List.all_eq_true]
    intro p member
    have solid : isSpace p.toChar = false ∧ 32 ≤ p.val := by
      rw [shown] at member
      simp only [List.mem_append, List.mem_cons, List.not_mem_nil, or_false] at member
      rcases member with (rfl | rfl | rfl | rfl | rfl) | rfl | rfl | rfl | inside | inside | behind
      on_goal 9 => exact visible_ascii (Urls.isNetlocChar_bounds (marks p inside)).1 (Urls.isNetlocChar_bounds (marks p inside)).2.1
      on_goal 9 => exact accepts.path_visible p inside
      on_goal 9 =>
        unfold Urls.queryTail at behind
        split at behind
        · cases behind
        · rcases List.mem_cons.mp behind with rfl | coded
          · exact visible_ascii (by decide) (by decide)
          · exact visible_ascii (Urls.isEncoded_bounds (plain.encoded p coded)).1 (Urls.isEncoded_bounds (plain.encoded p coded)).2.1
      all_goals exact visible_ascii (by decide) (by decide)
    simp [solid]
  · have lower : (PyText.ofString "https").casefold = PyText.ofString "https" := PyText.casefold_ascii (by decide)
    simp [lower]
  · have bare : (64 : CodePoint) ∉ Urls.netlocOf c.hostname (route.shownPort explicitPort) := fun member =>
      (Urls.isNetlocChar_bounds (marks _ member)).2.2 (by decide)
    simpa using bare
  · rfl
  · unfold shownPort
    split <;> simp
  · simp
  · simp [accepts.literal]
  · simpa using (perm.map Prod.fst).nodup_iff.mpr accepts.distinct
  · rw [perm.all_eq]
    exact accepts.allowed
  · rw [again]
    exact accepts.encoded
  · have value : c.value = Urls.urlunsplit (PyText.ofString "https")
        (if route.shownPort explicitPort = none ∨ route.port = 443 then c.hostname
          else c.hostname ++ 58 :: PyText.ofString (toString route.port)) c.path query := by
      rw [accepts.value]
      congr 1
      unfold shownPort
      split
      · rfl
      · rename_i own
        rw [if_neg (by simp; tauto)]
        rfl
    dsimp only
    rw [again, ← value, ← accepts.port]
    rfl

end ProviderRoute.Accepts

/-- One host, effective port, path and set of fields have one value, whatever the routes. -/
theorem value_agrees {route route' : ProviderRoute} {value value' : PyText} {c c' : CanonicalURL} {u u' : ParsedUrl}
    (accepted : route.canonicalize value = .ok c) (accepted' : route'.canonicalize value' = .ok c')
    (parsed : parseUrl value = .ok u) (parsed' : parseUrl value' = .ok u') (same : SameTarget u u') : c'.value = c.value := by
  obtain ⟨s, port, fields, query, accepts⟩ := ProviderRoute.canonicalize_accepts accepted
  obtain ⟨s', port', fields', query', accepts'⟩ := ProviderRoute.canonicalize_accepts accepted'
  obtain rfl := Except.ok.inj (accepts.parseUrl_source.symm.trans parsed)
  obtain rfl := Except.ok.inj (accepts'.parseUrl_source.symm.trans parsed')
  obtain ⟨hosts, ports, paths, sets⟩ := same
  dsimp only at hosts ports paths sets
  have host : c'.hostname = c.hostname := by rw [canonicalHostname_ok accepts.host, canonicalHostname_ok accepts'.host, hosts]
  have shown : route'.shownPort port' = route.shownPort port := by rw [accepts.shownPort_effective, accepts'.shownPort_effective, ports]
  have path : c'.path = c.path := by rw [accepts.path_eq, accepts'.path_eq, paths]
  have perm : fields.Perm fields' :=
    (List.perm_ext_iff_of_nodup accepts.distinct.of_map accepts'.distinct.of_map).mpr sets
  have sorted : c'.query = c.query := by
    rw [accepts.sorted, accepts'.sorted]
    exact (Precedence.sorted_of_perm perm (fieldOrder_decides _)).symm
  have encoded : query' = query := by
    have written := accepts'.encoded
    rw [sorted, accepts.encoded] at written
    exact (Except.ok.inj written).symm
  rw [accepts.value, accepts'.value, host, shown, path, encoded]

/-- The recoded length is that of the value. -/
theorem recodedFits_iff {route : ProviderRoute} {value : PyText} {c : CanonicalURL} (accepted : route.canonicalize value = .ok c) :
    RecodedFits route value ↔ c.value.length ≤ 16384 := by
  obtain ⟨s, explicitPort, fields, query, accepts⟩ := ProviderRoute.canonicalize_accepts accepted
  rw [accepts.length_value]
  constructor
  · intro fits
    exact fits s explicitPort fields accepts.split accepts.readPort accepts.read
  · intro short s' port' fields' split read coded
    obtain rfl := Except.ok.inj (accepts.split.symm.trans split)
    obtain rfl := Except.ok.inj (accepts.readPort.symm.trans read)
    obtain rfl := Except.ok.inj (accepts.read.symm.trans coded)
    exact short

/-- An accepted URL is returned in one form exactly when it has a port of its own or its route the
standard one, and its fields do not make it too long when they are encoded. -/
theorem one_form (route : ProviderRoute) (value : PyText) (c : CanonicalURL) (accepted : route.canonicalize value = .ok c) :
    OneForm route value c ↔ (StatesPort value ∨ route.port = 443) ∧ RecodedFits route value := by
  obtain ⟨s, explicitPort, fields, query, accepts⟩ := ProviderRoute.canonicalize_accepts accepted
  constructor
  · intro form
    constructor
    · cases given : explicitPort with
      | some n => exact .inl ⟨s, n, accepts.split, given ▸ accepts.readPort⟩
      | none =>
        have ports := accepts.parseUrl_value.symm.trans form.parsed
        have shown : route.shownPort none = none := if_pos (.inl rfl)
        rw [given, shown, Except.ok.injEq, ParsedUrl.mk.injEq, accepts.port] at ports
        exact .inr ports.2.2.1.symm
    · obtain ⟨_, _, _, _, again⟩ := ProviderRoute.canonicalize_accepts form.stable
      exact (recodedFits_iff accepted).mpr again.short.2
  · intro condition
    obtain ⟨stated, fits⟩ := condition
    refine ⟨?_, ?_, ?_⟩
    · have shown : (route.shownPort explicitPort).getD 443 = c.port := by
        rw [accepts.port, accepts.shownPort_effective]
        have effective : explicitPort.getD 443 = route.port := by
          cases given : explicitPort with
          | some n => exact accepts.ported n given
          | none =>
            rcases stated with ⟨s', n, split, read⟩ | standard
            · obtain rfl := Except.ok.inj (accepts.split.symm.trans split)
              rw [accepts.readPort, given] at read
              cases read
            · exact standard.symm
        rw [effective]
        by_cases standard : route.port = 443
        · rw [if_pos standard, Option.getD_none, standard]
        · rw [if_neg standard, Option.getD_some]
      rw [accepts.parseUrl_value, shown]
    · exact accepts.recognized ((recodedFits_iff accepted).mp fits)
    · intro route' value' c' u u' accepted' parsed parsed' same
      exact value_agrees accepted accepted' parsed parsed' same

end

/-! ### A route on another port -/

namespace Sample

attribute [local instance] asciiCase

@[reducible] def asciiLowerText : LowerText where
  lower text := text.map Urls.asciiLower
  lower_ascii _ _ := rfl

@[reducible] def asciiCompat : CompatText := ⟨id⟩

attribute [local instance] asciiLowerText asciiCompat

def mirrorRoute (port : Nat) (range : 1 ≤ port ∧ port ≤ 65535) : ProviderRoute where
  host := PyText.ofString "mirror.example"
  port := port
  pathPrefix := PyText.ofString "/works/"
  allowedQueryFields := [PyText.ofString "q", PyText.ofString "rows"]
  dnsName := by decide +kernel
  portRange := range

def mirrorUrl : PyText := PyText.ofString "HTTPS://Mirror.Example:8443/works/a%20b?rows=5&q=x+y"

theorem one_form_stated : ∃ c, (mirrorRoute 8443 (by decide)).canonicalize mirrorUrl = .ok c ∧
    c.value = PyText.ofString "https://mirror.example:8443/works/a%20b?q=x+y&rows=5" ∧
    OneForm (mirrorRoute 8443 (by decide)) mirrorUrl c := by
  have passes : ((mirrorRoute 8443 (by decide)).canonicalize mirrorUrl).toOption.any (fun c =>
      c.value = PyText.ofString "https://mirror.example:8443/works/a%20b?q=x+y&rows=5") = true := by decide +kernel
  obtain ⟨c, accepted, shown⟩ := ok_of_any passes
  have value := of_decide_eq_true shown
  refine ⟨c, accepted, value, (one_form _ _ c accepted).mpr ⟨.inl ?_, (recodedFits_iff accepted).mpr ?_⟩⟩
  · have reads : ((Urls.urlsplit mirrorUrl).toOption.any fun s => s.port.toOption = some (some 8443)) = true := by decide +kernel
    obtain ⟨s, split, shows⟩ := ok_of_any reads
    refine ⟨s, 8443, split, ?_⟩
    have port := of_decide_eq_true shows
    cases read : s.port with
    | error e => rw [read] at port; cases port
    | ok n => rw [read] at port; cases port; rfl
  · rw [value]
    decide +kernel

/-- Without a port in the URL, the value names the standard port, and the route's port is returned. -/
theorem one_form_fails : ∃ c, (mirrorRoute 8443 (by decide)).canonicalize (PyText.ofString "https://mirror.example/works/a") = .ok c ∧
    ¬OneForm (mirrorRoute 8443 (by decide)) (PyText.ofString "https://mirror.example/works/a") c := by
  have passes : ((mirrorRoute 8443 (by decide)).canonicalize (PyText.ofString "https://mirror.example/works/a")).toOption.any
      (fun c => c.port = 8443 && (parseUrl c.value).toOption.any fun u => u.port = 443) = true := by decide +kernel
  obtain ⟨c, accepted, shown⟩ := ok_of_any passes
  simp only [Bool.and_eq_true, decide_eq_true_eq] at shown
  refine ⟨c, accepted, fun form => ?_⟩
  have ports := shown.2
  rw [form.parsed, shown.1] at ports
  exact Bool.false_ne_true ports

end Sample

end Molly
