import Molly.Br1.Sampling
import Molly.Effect.Firsts
import Molly.Disk.Linearize

/-! Sampling ends with the molecules that were asked for, or fails; the attempts it makes are those
that the outputs before them leave necessary. -/
namespace Molly
open Effect (firsts)

namespace GenerationScript

/-! ### What the outputs hold -/

section
variable [Chemistry]

/-- The rows that draw a molecule. -/
def drawn (rows : List SampleRow) : List SampleRow := rows.filter fun row => row.molecule.isSome

def SamplerOutput.rows : SamplerOutput → List SampleRow
  | .sampled rows _ => rows
  | _ => []

/-- The rows that draw a molecule in the first outputs, in the order of their appearance. -/
def appearances (outputs : Nat → SamplerOutput) (n : Nat) : List SampleRow :=
  (List.range n).flatMap fun i => drawn (outputs i).rows

/-- The first row of each molecule. -/
def novel (rows : List SampleRow) : List SampleRow := firsts SampleRow.molecule rows

theorem appearances_succ (outputs : Nat → SamplerOutput) (n : Nat) :
    appearances outputs (n + 1) = appearances outputs n ++ drawn (outputs n).rows := by
  simp [appearances, List.range_succ]

theorem appearances_grow (outputs : Nat → SamplerOutput) {k n : Nat} (order : k ≤ n) :
    appearances outputs k <+: appearances outputs n := by
  induction order with
  | refl => exact List.prefix_rfl
  | step _ ih =>
    rw [Nat.succ_eq_add_one, appearances_succ]
    exact ih.trans (List.prefix_append _ _)

theorem novel_grow (outputs : Nat → SamplerOutput) {k n : Nat} (order : k ≤ n) :
    novel (appearances outputs k) <+: novel (appearances outputs n) := by
  obtain ⟨more, same⟩ := appearances_grow outputs order
  rw [← same]
  exact Effect.firsts_grow _ _

theorem drawn_cons (row : SampleRow) (rows : List SampleRow) :
    drawn (row :: rows) = if row.molecule.isSome then row :: drawn rows else drawn rows := by
  rw [drawn, List.filter_cons]
  rfl

end

section
variable [Sha256] [DecimalText] [Chemistry]

/-! ### One file -/

/-- What has been found after some rows: the first row of each molecule, as many as are asked for, each
numbered by its place. -/
structure Found (taskDigest : String) (count : Nat) (seen : List SampleRow) (unique : List (String × Candidate)) : Prop where
  rows : unique.map (fun e => (some e.1, e.2.smiles)) = ((novel seen).take count).map fun row => (row.molecule, row.text)
  numbered : ∀ i e, unique[i]? = some e → e.2.candidateId = candidateId taskDigest (i + 1) e.1
  readable : ∀ row ∈ (novel seen).take count, ∃ nll, row.nllValue = .ok nll

variable {taskDigest : String} {count : Nat} {seen : List SampleRow}

namespace Found

theorem nothing (taskDigest : String) (count : Nat) : Found taskDigest count [] [] where
  rows := by simp [novel]
  numbered := by simp
  readable := by simp [novel]

variable {unique : List (String × Candidate)}

theorem length (found : Found taskDigest count seen unique) : unique.length = min count (novel seen).length := by
  simpa using congrArg List.length found.rows

theorem molecules (found : Found taskDigest count seen unique) :
    unique.map (fun e => some e.1) = ((novel seen).take count).map SampleRow.molecule := by
  have firsts := congrArg (List.map Prod.fst) found.rows
  rw [List.map_map, List.map_map] at firsts
  exact firsts

/-- While molecules are missing, the rows found are all that there are. -/
theorem all (found : Found taskDigest count seen unique) (missing : unique.length < count) :
    (novel seen).take count = novel seen := by
  have length := found.length
  exact List.take_of_length_le (by omega)

theorem known_iff (found : Found taskDigest count seen unique) (missing : unique.length < count) (canonical : String) :
    canonical ∈ unique.map Prod.fst ↔ some canonical ∈ seen.map SampleRow.molecule := by
  have same := found.molecules
  rw [found.all missing] at same
  rw [← Effect.firsts_keys seen, ← novel, ← same, List.mem_map, List.mem_map]
  simp only [Option.some.injEq]

/-- Rows that follow change nothing once there are enough. -/
theorem full (found : Found taskDigest count seen unique) (enough : count ≤ unique.length) (more : List SampleRow) :
    Found taskDigest count (seen ++ more) unique := by
  obtain ⟨rest, same⟩ : novel seen <+: novel (seen ++ more) := Effect.firsts_grow _ _
  have length := found.length
  have cut : (novel (seen ++ more)).take count = (novel seen).take count := by
    rw [← same, List.take_append_of_le_length (by omega)]
  exact ⟨cut ▸ found.rows, found.numbered, cut ▸ found.readable⟩

end Found

theorem readRow_ok {unique : List (String × Candidate)} {row : SampleRow} {added : Option (String × Candidate)}
    (read : readRow taskDigest unique row = .ok added) :
    (row.molecule = none ∧ added = none) ∨
    (∃ canonical, row.molecule = some canonical ∧ canonical ∈ unique.map Prod.fst ∧ added = none) ∨
    (∃ canonical nll smilesState, row.molecule = some canonical ∧ canonical ∉ unique.map Prod.fst ∧ row.nllValue = .ok nll ∧
      added = some (canonical, ⟨candidateId taskDigest (unique.length + 1) canonical, row.text, smilesState, nll⟩)) := by
  unfold readRow at read
  cases drawing : row.molecule with
  | none =>
    simp only [drawing] at read
    exact .inl ⟨rfl, (Except.ok.inj read).symm⟩
  | some canonical =>
    simp only [drawing] at read
    by_cases known : canonical ∈ unique.map Prod.fst
    · rw [if_pos known] at read
      exact .inr (.inl ⟨canonical, rfl, known, (Except.ok.inj read).symm⟩)
    · rw [if_neg known] at read
      obtain ⟨nll, value, made⟩ := bind_ok.mp read
      exact .inr (.inr ⟨canonical, nll, _, rfl, known, value, (Except.ok.inj made).symm⟩)

/-- A row is read when it draws nothing new, or its likelihood is a number. -/
theorem readRow_total {unique : List (String × Candidate)} {row : SampleRow}
    (good : ∀ canonical, row.molecule = some canonical → canonical ∉ unique.map Prod.fst → ∃ nll, row.nllValue = .ok nll) :
    ∃ added, readRow taskDigest unique row = .ok added := by
  unfold readRow
  cases drawing : row.molecule with
  | none => exact ⟨none, rfl⟩
  | some canonical =>
    by_cases known : canonical ∈ unique.map Prod.fst
    · exact ⟨none, if_pos known⟩
    · obtain ⟨nll, value⟩ := good canonical drawing known
      simp only [if_neg known, value]
      exact ⟨_, rfl⟩

namespace Found

variable {unique : List (String × Candidate)} {row : SampleRow}

/-- A row that draws a molecule already seen. -/
theorem old (found : Found taskDigest count seen unique) (again : row.molecule ∈ seen.map SampleRow.molecule) :
    Found taskDigest count (seen ++ [row]) unique := by
  have same : novel (seen ++ [row]) = novel seen := Effect.firsts_old again
  exact ⟨same ▸ found.rows, found.numbered, same ▸ found.readable⟩

/-- A row that draws a new one. -/
theorem grow (found : Found taskDigest count seen unique) (missing : unique.length < count) {canonical : String}
    {smilesState : PyText} {nll : Option PyFloat}
    (drawing : row.molecule = some canonical) (fresh : canonical ∉ unique.map Prod.fst) (value : row.nllValue = .ok nll) :
    Found taskDigest count (seen ++ [row])
      (unique ++ [(canonical, ⟨candidateId taskDigest (unique.length + 1) canonical, row.text, smilesState, nll⟩)]) := by
  have unseen : row.molecule ∉ seen.map SampleRow.molecule := by
    rw [drawing]
    exact fun again => fresh ((found.known_iff missing canonical).mpr again)
  have step : novel (seen ++ [row]) = novel seen ++ [row] := Effect.firsts_new unseen
  have length := found.length
  have whole : (novel (seen ++ [row])).take count = novel seen ++ [row] := by
    rw [step, List.take_of_length_le (by rw [List.length_append, List.length_singleton]; omega)]
  have before := found.all missing
  refine ⟨?_, ?_, ?_⟩
  · rw [whole, List.map_append, List.map_append, found.rows, before, List.map_singleton, List.map_singleton, drawing]
  · intro i e at_i
    rcases Nat.lt_trichotomy i unique.length with less | rfl | greater
    · rw [List.getElem?_append_left less] at at_i
      exact found.numbered i e at_i
    · rw [List.getElem?_concat_length] at at_i
      rw [← Option.some.inj at_i]
    · rw [List.getElem?_eq_none (by rw [List.length_append, List.length_singleton]; omega)] at at_i
      cases at_i
  · intro row' member
    rw [whole, List.mem_append, List.mem_singleton] at member
    rcases member with earlier | rfl
    · exact found.readable row' (before.symm ▸ earlier)
    · exact ⟨nll, value⟩

end Found

/-- A file that is read to its end, or until there are enough molecules. -/
theorem readRows_ok {rows : List SampleRow} {fault : Option PyError} {p p' : Progress}
    (found : Found taskDigest count seen p.unique) (missing : p.unique.length < count)
    (read : readRows taskDigest count rows fault p = .ok p') :
    Found taskDigest count (seen ++ drawn rows) p'.unique ∧ (p'.unique.length < count → fault = none) := by
  induction rows generalizing seen p with
  | nil =>
    cases fault with
    | some e => cases read
    | none =>
      cases read
      exact ⟨by simpa [drawn] using found, fun _ => rfl⟩
  | cons row rows ih =>
    rw [readRows] at read
    split at read
    · cases read
    · rename_i taken
      rcases readRow_ok taken with ⟨blank, _⟩ | ⟨canonical, drawing, known, _⟩ | ⟨_, _, _, _, _, _, added⟩
      · have skipped := ih (p := { p with samples := p.samples + 1 }) found missing read
        simpa [drawn_cons, blank] using skipped
      · have again : row.molecule ∈ seen.map SampleRow.molecule := by
          rw [drawing]
          exact (found.known_iff missing canonical).mp known
        have skipped := ih (p := { p with samples := p.samples + 1 }) (found.old again) missing read
        simpa [drawn_cons, drawing, List.append_assoc] using skipped
      · cases added
    · rename_i entry taken
      rcases readRow_ok taken with ⟨_, added⟩ | ⟨_, _, _, added⟩ | ⟨canonical, nll, smilesState, drawing, fresh, value, added⟩
      · cases added
      · cases added
      · cases added
        have grown : Found taskDigest count (seen ++ [row]) (p.unique ++ [(canonical,
            ⟨candidateId taskDigest (p.unique.length + 1) canonical, row.text, smilesState, nll⟩)]) :=
          found.grow missing drawing fresh value
        have tail : seen ++ drawn (row :: rows) = seen ++ [row] ++ drawn rows := by simp [drawn_cons, drawing]
        rw [tail]
        dsimp only at read
        split at read
        · rename_i enough
          cases read
          exact ⟨grown.full enough _, fun short => absurd short (by simpa using enough)⟩
        · rename_i short
          exact ih grown (by simpa using short) read

/-- A file without faults whose new molecules have readable likelihoods is read. -/
theorem readRows_total {rows : List SampleRow} {p : Progress} (found : Found taskDigest count seen p.unique)
    (missing : p.unique.length < count)
    (readable : ∀ row ∈ novel (seen ++ drawn rows), ∃ nll, row.nllValue = .ok nll) :
    ∃ p', readRows taskDigest count rows none p = .ok p' := by
  induction rows generalizing seen p with
  | nil => exact ⟨p, rfl⟩
  | cons row rows ih =>
    rw [readRows]
    have good (canonical) (drawing : row.molecule = some canonical) (fresh : canonical ∉ p.unique.map Prod.fst) :
        ∃ nll, row.nllValue = .ok nll := by
      apply readable
      have tail : seen ++ drawn (row :: rows) = seen ++ [row] ++ drawn rows := by simp [drawn_cons, drawing]
      rw [tail]
      refine (Effect.firsts_grow _ _).subset ?_
      rw [Effect.firsts_new (by
        rw [drawing]
        exact fun again => fresh ((found.known_iff missing canonical).mpr again))]
      exact List.mem_append_right _ List.mem_cons_self
    obtain ⟨added, taken⟩ : ∃ added, readRow taskDigest p.unique row = .ok added := readRow_total good
    rcases readRow_ok taken with ⟨blank, rfl⟩ | ⟨canonical, drawing, known, rfl⟩ |
      ⟨canonical, nll, smilesState, drawing, fresh, value, rfl⟩
    · simp only [taken]
      exact ih (p := { p with samples := p.samples + 1 }) found missing (by simpa [drawn_cons, blank] using readable)
    · simp only [taken]
      have again : row.molecule ∈ seen.map SampleRow.molecule := by
        rw [drawing]
        exact (found.known_iff missing canonical).mp known
      exact ih (p := { p with samples := p.samples + 1 }) (found.old again) missing
        (by simpa [drawn_cons, drawing, List.append_assoc] using readable)
    · simp only [taken]
      split
      · exact ⟨_, rfl⟩
      · rename_i short
        exact ih (found.grow missing drawing fresh value) (by simpa using short)
          (by simpa [drawn_cons, drawing, List.append_assoc] using readable)

/-! ### The attempts -/

/-- The first outputs are read and do not suffice: all are files without faults, the likelihoods of
their molecules are numbers, and there are fewer molecules than are asked for. -/
structure Insufficient (outputs : Nat → SamplerOutput) (count k : Nat) : Prop where
  read : ∀ i < k, ∃ rows, outputs i = .sampled rows none
  readable : ∀ row ∈ novel (appearances outputs k), ∃ nll, row.nllValue = .ok nll
  short : (novel (appearances outputs k)).length < count

omit [Sha256] in
theorem Insufficient.earlier {outputs : Nat → SamplerOutput} {j k : Nat} (insufficient : Insufficient outputs count k)
    (order : j ≤ k) : Insufficient outputs count j where
  read i less := insufficient.read i (Nat.lt_of_lt_of_le less order)
  readable row member := insufficient.readable row ((novel_grow outputs order).subset member)
  short := Nat.lt_of_le_of_lt (novel_grow outputs order).length_le insufficient.short

variable {a : SamplingArguments} {outputs : Nat → SamplerOutput}

/-- The seeds of the first attempts. -/
def seedsFrom (first : Int) (n : Nat) : List Int := (List.range n).map fun i : Nat => first + i

omit [Sha256] [DecimalText] [Chemistry] in
theorem seedsFrom_succ (first : Int) (n : Nat) : seedsFrom first (n + 1) = seedsFrom first n ++ [first + n] := by
  simp [seedsFrom, List.range_succ]

omit [Sha256] [DecimalText] [Chemistry] in
theorem seeds_length {runs : List SamplerRun} {n : Nat} {first : Int} (seeds : runs.map SamplerRun.seed = seedsFrom first n) :
    runs.length = n := by
  simpa [seedsFrom] using congrArg List.length seeds

/-- What holds between two attempts. -/
structure Reached (a : SamplingArguments) (outputs : Nat → SamplerOutput) (attempts : Nat) (runs : List SamplerRun) (p : Progress) :
    Prop where
  bounded : attempts ≤ maxAttempts
  seeds : runs.map SamplerRun.seed = seedsFrom a.seed.1 attempts
  found : Found a.taskDigest a.candidateCount (appearances outputs attempts) p.unique
  needed : ∀ k < attempts, Insufficient outputs a.candidateCount k
  unfinished : p.unique.length < a.candidateCount → ∀ i < attempts, ∃ rows, outputs i = .sampled rows none

/-- With molecules missing, another attempt is needed. -/
theorem Reached.insufficient {attempts : Nat} {runs : List SamplerRun} {p : Progress} (reached : Reached a outputs attempts runs p)
    (missing : p.unique.length < a.candidateCount) : Insufficient outputs a.candidateCount attempts where
  read := reached.unfinished missing
  readable row member := reached.found.readable row (by rwa [reached.found.all missing])
  short := by
    have length := reached.found.length
    omega

/-- An output that is read leads to the next attempt. -/
theorem Reached.next {attempts : Nat} {runs : List SamplerRun} {p p' : Progress} {run : SamplerRun}
    (reached : Reached a outputs attempts runs p) (missing : p.unique.length < a.candidateCount) (more : attempts < maxAttempts)
    (read : readOutput a.taskDigest a.candidateCount p (outputs attempts) = .ok p') (seed : run.seed = a.seed.1 + attempts) :
    Reached a outputs (attempts + 1) (runs ++ [run]) p' := by
  have insufficient := reached.insufficient missing
  unfold readOutput at read
  split at read
  · cases read
  · cases read
  · rename_i rows fault output
    split at read
    · rename_i taken
      cases read
      obtain ⟨found, whole⟩ := readRows_ok reached.found missing taken
      refine ⟨more, ?_, ?_, ?_, ?_⟩
      · rw [List.map_append, reached.seeds, seedsFrom_succ, List.map_singleton, seed]
      · rw [appearances_succ, output]
        exact found
      · intro k less
        rcases Nat.lt_succ_iff_lt_or_eq.mp less with before | rfl
        · exact reached.needed k before
        · exact insufficient
      · intro still i less
        rcases Nat.lt_succ_iff_lt_or_eq.mp less with before | rfl
        · exact reached.unfinished missing i before
        · exact ⟨rows, by rw [output, whole still]⟩
    · cases read

/-- A good output is read. -/
theorem Reached.readable {attempts : Nat} {runs : List SamplerRun} {p : Progress} (reached : Reached a outputs attempts runs p)
    (missing : p.unique.length < a.candidateCount) (later : Insufficient outputs a.candidateCount (attempts + 1)) :
    ∃ p', readOutput a.taskDigest a.candidateCount p (outputs attempts) = .ok p' := by
  obtain ⟨rows, output⟩ := later.read attempts (Nat.lt_succ_self _)
  have readable := later.readable
  rw [appearances_succ, output] at readable
  obtain ⟨p', read⟩ := readRows_total reached.found missing readable
  refine ⟨p', ?_⟩
  rw [output, readOutput]
  dsimp only [SamplerOutput.rows] at read
  rw [read]

/-- What an outcome shows of the outputs: which attempts were made, and what was found. -/
structure Ended (a : SamplingArguments) (outputs : Nat → SamplerOutput) (o : Outcome) : Prop where
  bounded : o.runs.length ≤ maxAttempts
  seeds : o.runs.map SamplerRun.seed = seedsFrom a.seed.1 o.runs.length
  made : ∀ k < maxAttempts, k < o.runs.length ↔ Insufficient outputs a.candidateCount k
  generated : ∀ g, o.result = .ok g → ∃ unique, Found a.taskDigest a.candidateCount (appearances outputs o.runs.length) unique ∧
    a.candidateCount ≤ unique.length ∧ g.rows = (unique.map Prod.snd).take a.candidateCount

/-- The attempts, by their number: each ends the script or leads to the next. -/
theorem sample_ended {attempts : Nat} {runs : List SamplerRun} {p : Progress} (reached : Reached a outputs attempts runs p) :
    Ended a outputs (sample a outputs attempts runs p) := by
  have count := seeds_length reached.seeds
  rw [sample]
  split
  · rename_i going
    obtain ⟨missing, more⟩ := going
    dsimp only
    have insufficient := reached.insufficient missing
    split
    · -- the output of this attempt ends the script
      rename_i e refused
      refine ⟨?_, ?_, ?_, fun g made => by cases made⟩
      · rw [List.length_append, List.length_singleton, count]
        exact more
      · rw [List.map_append, List.length_append, List.length_singleton, count, seedsFrom_succ, reached.seeds, List.map_singleton]
        congr 2
        simp only
        omega
      · intro k _
        simp only [List.length_append, List.length_singleton, count]
        constructor
        · intro less
          exact insufficient.earlier (by omega)
        · intro later
          by_contra beyond
          obtain ⟨p', read⟩ := reached.readable missing (later.earlier (by omega))
          rw [read] at refused
          cases refused
    · rename_i p' read
      exact sample_ended (reached.next missing more read (by simp only; omega))
  · rename_i stopped
    refine ⟨?_, ?_, ?_, ?_⟩
    · simpa [count] using reached.bounded
    · simpa [count] using reached.seeds
    · intro k small
      simp only [count]
      constructor
      · exact reached.needed k
      · intro later
        by_contra beyond
        have order : attempts ≤ k := by omega
        have short := (later.earlier order).short
        have length := reached.found.length
        exact stopped ⟨by omega, by omega⟩
    · intro g made
      simp only [count]
      unfold finish at made
      split at made
      · cases made
      · rename_i enough
        cases made
        exact ⟨p.unique, reached.found, by omega, rfl⟩
termination_by maxAttempts - attempts

end

/-! ### Identities -/

/-- A text splits at its first mark in one way. -/
theorem split_first {mark : Char} {xs xs' ys ys' : List Char} (plain : mark ∉ xs) (plain' : mark ∉ xs')
    (same : xs ++ mark :: ys = xs' ++ mark :: ys') : xs = xs' ∧ ys = ys' := by
  have heads (zs ws : List Char) (unmarked : mark ∉ zs) : (zs ++ mark :: ws).takeWhile (· ≠ mark) = zs := by
    rw [List.takeWhile_append_of_pos (by
      intro c member
      simpa using fun equal : c = mark => unmarked (equal ▸ member))]
    simp
  have first : xs = xs' := by rw [← heads xs ys plain, same, heads xs' ys' plain']
  subst first
  exact ⟨rfl, (List.cons.inj (List.append_cancel_left same)).2⟩

/-- The labels of different molecules differ. -/
theorem label_injective {taskDigest canonical canonical' : String} {i j : Nat}
    (same : label taskDigest i canonical = label taskDigest j canonical') : canonical = canonical' := by
  have mark (n : Nat) : ':' ∉ (toString n).toList := by
    intro member
    have shown : (toString n).toList = Nat.toDigits 10 n := by simp [toString, Nat.repr]
    rw [shown] at member
    exact absurd (Nat.isDigit_of_mem_toDigits (by decide) (by decide) member) (by decide)
  have texts := congrArg String.toList same
  simp only [label, String.toList_append, List.append_assoc] at texts
  have behind := List.append_cancel_left (List.append_cancel_left texts)
  exact String.toList_inj.mp (split_first (mark i) (mark j) behind).2

section
variable [Sha256] [DecimalText] [Chemistry]

/-- The labels of the molecules that the outputs of all attempts offer, in order. -/
def labels (a : SamplingArguments) (outputs : Nat → SamplerOutput) : List String :=
  ((novel (appearances outputs maxAttempts)).filterMap SampleRow.molecule).mapIdx fun i canonical =>
    label a.taskDigest (i + 1) canonical

/-- No two different texts among these share the digits of their hashes that an identity takes. -/
def Apart (texts : List String) : Prop := ∀ s ∈ texts, ∀ t ∈ texts, shortHash s = shortHash t → s = t

/-- The molecules written are the first ones of the outputs that were read, and no two are the same. -/
structure Written (a : SamplingArguments) (outputs : Nat → SamplerOutput) (attempts : Nat) (rows : List Candidate) : Prop where
  count : rows.length = a.candidateCount
  first : rows.map Candidate.smiles = ((novel (appearances outputs attempts)).take a.candidateCount).map SampleRow.text
  valid : ∀ row ∈ rows, row.smiles ≠ [] ∧ (Chemistry.canonical row.smiles).isSome
  distinct : (rows.map fun row => Chemistry.canonical row.smiles).Nodup
  identified : (rows.map Candidate.candidateId).Nodup

/-- The script ends as it should. -/
structure Completes (a : SamplingArguments) (outputs : Nat → SamplerOutput) (o : Outcome) : Prop where
  attempts : o.runs.length ≤ 8
  seeds : (o.runs.map SamplerRun.seed).Nodup
  admitted : ∀ run ∈ o.runs, 0 ≤ run.seed ∧ run.seed ≤ 2 ^ 63 - 1
  written : ∀ g, o.result = .ok g → Written a outputs o.runs.length g.rows

variable {a : SamplingArguments} {outputs : Nat → SamplerOutput}

omit [Sha256] [DecimalText] [Chemistry] in
theorem seedsFrom_nodup (first : Int) (n : Nat) : (seedsFrom first n).Nodup := by
  refine List.nodup_range.map fun i j same => ?_
  have apart : first + (i : Int) = first + j := same
  omega

omit [Sha256] [DecimalText] in
theorem mem_novel {seen : List SampleRow} {row : SampleRow} (member : row ∈ novel seen) : row ∈ seen :=
  (Effect.firsts_sublist seen).subset member

omit [Sha256] [DecimalText] in
/-- Every row that appears draws a molecule. -/
theorem appearances_drawn {n : Nat} {row : SampleRow} (member : row ∈ appearances outputs n) : ∃ canonical, row.molecule = some canonical := by
  obtain ⟨i, _, inside⟩ := List.mem_flatMap.mp member
  exact Option.isSome_iff_exists.mp (List.mem_filter.mp inside).2

omit [Sha256] [DecimalText] in
theorem SampleRow.canonical_text {row : SampleRow} {canonical : String} (drawing : row.molecule = some canonical) :
    row.text ≠ [] ∧ Chemistry.canonical row.text = some canonical := by
  unfold SampleRow.molecule at drawing
  split at drawing
  · cases drawing
  · rename_i filled
    exact ⟨filled, drawing⟩

namespace Found

variable {attempts : Nat} {unique : List (String × Candidate)}

/-- Each molecule found stands under its canonical SMILES. -/
theorem canonical (found : Found taskDigest count (appearances outputs attempts) unique) {e : String × Candidate} (member : e ∈ unique) :
    e.2.smiles ≠ [] ∧ Chemistry.canonical e.2.smiles = some e.1 := by
  have shown : (some e.1, e.2.smiles) ∈ unique.map fun e => (some e.1, e.2.smiles) := List.mem_map_of_mem member
  rw [found.rows] at shown
  obtain ⟨row, kept, same⟩ := List.mem_map.mp shown
  obtain ⟨drawing, text⟩ := Prod.mk.inj same
  rw [← text]
  exact SampleRow.canonical_text drawing

theorem keys_nodup (found : Found taskDigest count (appearances outputs attempts) unique) :
    (unique.map fun e => some e.1).Nodup := by
  rw [found.molecules, List.map_take]
  exact (Effect.firsts_nodup _).sublist (List.take_sublist _ _)

/-- The label of each molecule found is one of those of all outputs. -/
theorem labelled (found : Found a.taskDigest count (appearances outputs attempts) unique) (bounded : attempts ≤ maxAttempts)
    {i : Nat} {e : String × Candidate} (at_i : unique[i]? = some e) : label a.taskDigest (i + 1) e.1 ∈ labels a outputs := by
  have all : (novel (appearances outputs maxAttempts)).map SampleRow.molecule =
      ((novel (appearances outputs maxAttempts)).filterMap SampleRow.molecule).map some := by
    rw [List.map_filterMap_some_eq_filter_map_isSome, List.filter_eq_self.mpr]
    intro molecule member
    obtain ⟨row, kept, rfl⟩ := List.mem_map.mp member
    obtain ⟨canonical, drawing⟩ := appearances_drawn (mem_novel kept)
    rw [drawing]
    rfl
  have known : (unique.map fun e => some e.1)[i]? = some (some e.1) := by
    rw [List.getElem?_map, at_i]
    rfl
  have start : (unique.map fun e => some e.1) <+: (novel (appearances outputs maxAttempts)).map SampleRow.molecule := by
    rw [found.molecules]
    exact ((List.take_prefix _ _).trans (novel_grow outputs bounded)).map _
  obtain ⟨more, same⟩ := start
  have bound : i < (unique.map fun e => some e.1).length := (List.getElem?_eq_some_iff.mp known).1
  have here : (((novel (appearances outputs maxAttempts)).filterMap SampleRow.molecule).map some)[i]? = some (some e.1) := by
    rw [← all, ← same, List.getElem?_append_left bound]
    exact known
  rw [List.getElem?_map, Option.map_eq_some_iff] at here
  obtain ⟨canonical, at_i', drawing⟩ := here
  obtain rfl := Option.some.inj drawing
  refine List.mem_iff_getElem?.mpr ⟨i, ?_⟩
  rw [labels, List.getElem?_mapIdx, at_i']
  rfl

/-- Different molecules have different identities. -/
theorem identities_nodup (found : Found a.taskDigest count (appearances outputs attempts) unique) (bounded : attempts ≤ maxAttempts)
    (apart : Apart (labels a outputs)) : (unique.map fun e => e.2.candidateId).Nodup := by
  have keys := found.keys_nodup
  rw [List.nodup_iff_getElem?_ne_getElem?] at keys ⊢
  intro i j less short same
  rw [List.length_map] at short
  obtain ⟨e, at_i⟩ : ∃ e, unique[i]? = some e := ⟨_, List.getElem?_eq_getElem (Nat.lt_trans less short)⟩
  obtain ⟨e', at_j⟩ : ∃ e, unique[j]? = some e := ⟨_, List.getElem?_eq_getElem short⟩
  apply keys i j less (by simpa using short)
  simp only [List.getElem?_map, at_i, at_j, Option.map_some, Option.some.injEq, found.numbered i e at_i,
    found.numbered j e' at_j] at same ⊢
  have hashes : shortHash (label a.taskDigest (i + 1) e.1) = shortHash (label a.taskDigest (j + 1) e'.1) := by
    have texts := congrArg String.toList same
    simp only [candidateId, String.toList_append] at texts
    exact String.toList_inj.mp (List.append_cancel_left texts)
  exact label_injective (apart _ (found.labelled bounded at_i) _ (found.labelled bounded at_j) hashes)

/-- The molecules found are written when there are as many as were asked for. -/
theorem written (found : Found a.taskDigest a.candidateCount (appearances outputs attempts) unique) (bounded : attempts ≤ maxAttempts)
    (enough : a.candidateCount ≤ unique.length) (apart : Apart (labels a outputs)) :
    Written a outputs attempts ((unique.map Prod.snd).take a.candidateCount) := by
  have length := found.length
  have whole : (unique.map Prod.snd).take a.candidateCount = unique.map Prod.snd :=
    List.take_of_length_le (by rw [List.length_map]; omega)
  rw [whole]
  have smiles := congrArg (List.map Prod.snd) found.rows
  rw [List.map_map, List.map_map] at smiles
  refine ⟨by rw [List.length_map]; omega, ?_, ?_, ?_, ?_⟩
  · rw [List.map_map]
    exact smiles
  · intro row member
    obtain ⟨e, inside, rfl⟩ := List.mem_map.mp member
    obtain ⟨filled, drawing⟩ := found.canonical inside
    exact ⟨filled, by rw [drawing]; rfl⟩
  · have same : (unique.map Prod.snd).map (fun row => Chemistry.canonical row.smiles) = unique.map fun e => some e.1 := by
      rw [List.map_map]
      exact List.map_congr_left fun e inside => (found.canonical inside).2
    rw [same]
    exact found.keys_nodup
  · rw [List.map_map]
    exact found.identities_nodup bounded apart

end Found

theorem main_ended (passed : ready a = .ok ()) : Ended a outputs (main a outputs) := by
  rw [main, passed]
  refine sample_ended ⟨Nat.zero_le _, rfl, Found.nothing _ _, ?_, ?_⟩
  · intro k less
    exact absurd less (Nat.not_lt_zero k)
  · intro _ i less
    exact absurd less (Nat.not_lt_zero i)

/-- A seed is used in the attempt of its number. -/
theorem Ended.seed_mem {o : Outcome} (ended : Ended a outputs o) {k : Nat} (made : k < o.runs.length) :
    ∃ run ∈ o.runs, run.seed = a.seed.1 + (k : Int) := by
  have known : a.seed.1 + (k : Int) ∈ o.runs.map SamplerRun.seed := by
    rw [ended.seeds]
    exact List.mem_map.mpr ⟨k, List.mem_range.mpr made, rfl⟩
  exact List.mem_map.mp known

/-- The script ends as it should exactly when no attempt takes a seed beyond the largest one admitted:
attempt `k + 1` starts when the outputs of `k` attempts are read and do not suffice. -/
theorem sampling_completes (a : SamplingArguments) (outputs : Nat → SamplerOutput) (apart : Apart (labels a outputs)) :
    Completes a outputs (main a outputs) ↔
      (ready a = .ok () → ∀ k < maxAttempts, Insufficient outputs a.candidateCount k → a.seed.1 + (k : Int) ≤ 2 ^ 63 - 1) := by
  constructor
  · intro completes passed k less insufficient
    have ended : Ended a outputs (main a outputs) := main_ended passed
    obtain ⟨run, member, seed⟩ := ended.seed_mem ((ended.made k less).mpr insufficient)
    exact seed ▸ (completes.admitted run member).2
  · intro within
    cases checked : ready a with
    | error e =>
      rw [main, checked]
      exact ⟨Nat.zero_le 8, List.nodup_nil, fun run member => (by cases member), fun g made => (by cases made)⟩
    | ok u =>
      have ended : Ended a outputs (main a outputs) := main_ended checked
      refine ⟨ended.bounded, ended.seeds ▸ seedsFrom_nodup _ _, ?_, ?_⟩
      · intro run member
        have known := List.mem_map_of_mem (f := SamplerRun.seed) member
        rw [ended.seeds] at known
        obtain ⟨k, made, seed⟩ := List.mem_map.mp known
        have less := List.mem_range.mp made
        have small : k < maxAttempts := Nat.lt_of_lt_of_le less ended.bounded
        have low := a.seed.2.1
        have high := within checked k small ((ended.made k small).mp less)
        exact ⟨by omega, by omega⟩
      · intro g made
        obtain ⟨unique, found, enough, rows⟩ := ended.generated g made
        rw [rows]
        exact found.written ended.bounded enough apart

end

end GenerationScript

/-! ### Runs of examples -/

namespace Sample

open GenerationScript

attribute [local instance] standardSha256 asciiDecimal

/-- Texts of carbon atoms draw chains, which are their own canonical SMILES. -/
@[reducible] def chains : Chemistry where
  canonical text := if text.all (fun p => p = 67) then some text.display else none

attribute [local instance] chains

def generation (count : Nat) (seed : BoundedInt 0 (2 ^ 63 - 1)) : SamplingArguments where
  modelArtifactId := "sha256:model"
  configDigest := "config"
  runId := "run_1"
  stepId := "step_1"
  candidateCount := count
  seed := seed
  taskDigest := "task"
  parameters := .named [("unique_molecules", .bool true), ("randomize_smiles", .bool true), ("temperature", .int 1),
    ("device", .str (PyText.ofString "cpu")), ("prior_model_ref", .str (PyText.ofString "reinvent.prior"))]
  priorAvailable := true

def sampleRow (smiles : String) : SampleRow := ⟨some (PyText.ofString smiles), none, some (PyText.ofString "1.5")⟩

/-- The first attempt finds one molecule twice and a text that is none, the later ones two. -/
def chainOutputs : Nat → SamplerOutput
  | 0 => .sampled [sampleRow "CC", sampleRow "N", sampleRow " CC "] none
  | _ => .sampled [sampleRow "CC", sampleRow "CCC"] none

theorem sampling_completes_two :
    Completes (generation 2 ⟨5, by decide⟩) chainOutputs (main (generation 2 ⟨5, by decide⟩) chainOutputs) := by
  apply (sampling_completes (generation 2 ⟨5, by decide⟩) chainOutputs (by unfold Apart; decide +kernel)).mpr
  intro _ k less _
  have eight : maxAttempts = 8 := rfl
  simp only [generation]
  omega

/-- With the largest seed, a first output without molecules leads to a seed that is not admitted. -/
theorem sampling_completes_fails :
    ¬Completes (generation 1 ⟨2 ^ 63 - 1, by decide⟩) (fun _ => .sampled [] none)
      (main (generation 1 ⟨2 ^ 63 - 1, by decide⟩) fun _ => .sampled [] none) := by
  intro completes
  have passed : ready (generation 1 ⟨2 ^ 63 - 1, by decide⟩) = .ok () := by decide +kernel
  have ended : Ended _ (fun _ => .sampled [] none) _ := main_ended passed
  have insufficient : Insufficient (fun _ => .sampled [] none) 1 1 :=
    ⟨fun _ _ => ⟨[], rfl⟩, fun row member => (by cases member), Nat.zero_lt_one⟩
  obtain ⟨run, member, seed⟩ := ended.seed_mem ((ended.made 1 (by decide)).mpr insufficient)
  have admitted := (completes.admitted run member).2
  rw [seed] at admitted
  exact absurd admitted (by decide)

end Sample

end Molly
