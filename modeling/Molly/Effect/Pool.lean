import Molly.Effect.Program
import Mathlib.Logic.Relation
import Mathlib.Data.List.Forall2

/-! Any number of programs over one state, their requests interleaved in any order. A
program that died is one that is never scheduled again; one that returned stays in the
pool with its value. The rules are those of rely and guarantee: what a program knows
must survive what the others may do. -/
namespace Effect

/-- A program under way, under the name it was started by. -/
structure Thread (S : Signature) (ι α : Type) where
  label : ι
  rest : Prog S α

structure Pool (S : Signature) (ι α σ : Type) where
  state : σ
  threads : List (Thread S ι α)

namespace Pool

inductive Step (M : Machine S σ) (code : ι → Prog S α) : Pool S ι α σ → Pool S ι α σ → Prop where
  | start (label : ι) : Step M code P ⟨P.state, P.threads ++ [⟨label, code label⟩]⟩
  | move {before after label op next reply t} : P.threads = before ++ ⟨label, .call op next⟩ :: after →
      M.act op P.state reply t → Step M code P ⟨t, before ++ ⟨label, next reply⟩ :: after⟩

/-- The history that leads from one pool to another. -/
abbrev Reach (M : Machine S σ) (code : ι → Prog S α) : Pool S ι α σ → Pool S ι α σ → Prop :=
  Relation.ReflTransGen (Step M code)

def start (s : σ) : Pool S ι α σ := ⟨s, []⟩

/-- The program with this number has returned. -/
def Returned (P : Pool S ι α σ) (i : Nat) (label : ι) (value : α) : Prop :=
  P.threads[i]? = some ⟨label, .ret value⟩

section
variable {S : Signature} {M : Machine S σ} {code : ι → Prog S α} {P Q : Pool S ι α σ}

/-- A thread keeps its number and its name, and what it returned. -/
theorem Step.thread (step : Step M code P Q) {i : Nat} {thread : Thread S ι α} (found : P.threads[i]? = some thread) :
    ∃ later, Q.threads[i]? = some later ∧ later.label = thread.label ∧
      ∀ value, thread.rest = .ret value → later.rest = .ret value := by
  cases step with
  | start label =>
    obtain ⟨inside, _⟩ := List.getElem?_eq_some_iff.mp found
    exact ⟨thread, by rw [List.getElem?_append_left inside, found], rfl, fun _ same => same⟩
  | @move before after label op next reply t split acted =>
    rw [split] at found
    by_cases left : i < before.length
    · rw [List.getElem?_append_left left] at found
      exact ⟨thread, by simp only [List.getElem?_append_left left, found], rfl, fun _ same => same⟩
    · have right : before.length ≤ i := Nat.le_of_not_lt left
      rw [List.getElem?_append_right right] at found
      simp only [List.getElem?_append_right right]
      cases offset : i - before.length with
      | zero =>
        simp only [offset, List.getElem?_cons_zero, Option.some.injEq] at found
        subst found
        exact ⟨⟨label, next reply⟩, rfl, rfl, fun _ impossible => by cases impossible⟩
      | succ k =>
        simp only [offset, List.getElem?_cons_succ] at found
        exact ⟨thread, by simpa using found, rfl, fun _ same => same⟩

theorem thread_of_reach (reach : Reach M code P Q) {i : Nat} {thread : Thread S ι α}
    (found : P.threads[i]? = some thread) : ∃ later, Q.threads[i]? = some later ∧ later.label = thread.label ∧
      ∀ value, thread.rest = .ret value → later.rest = .ret value := by
  induction reach with
  | refl => exact ⟨thread, found, rfl, fun _ same => same⟩
  | tail _ step ih =>
    obtain ⟨middle, there, named, kept⟩ := ih
    obtain ⟨later, here, same, still⟩ := step.thread there
    exact ⟨later, here, same.trans named, fun value returned => still value (kept value returned)⟩

/-- What has returned stays returned. -/
theorem Returned.later (reach : Reach M code P Q) {i : Nat} {label : ι} {value : α} (returned : P.Returned i label value) :
    Q.Returned i label value := by
  obtain ⟨later, found, named, kept⟩ := thread_of_reach reach returned
  have rest := kept value rfl
  obtain ⟨name, code⟩ := later
  cases named
  cases rest
  exact found

/-- A name that some thread of the pool bears. -/
def Named (P : Pool S ι α σ) (label : ι) : Prop := ∃ thread ∈ P.threads, thread.label = label

theorem Named.later (reach : Reach M code P Q) {label : ι} (named : P.Named label) : Q.Named label := by
  obtain ⟨thread, member, rfl⟩ := named
  obtain ⟨i, found⟩ := List.getElem?_of_mem member
  obtain ⟨later, there, same, _⟩ := thread_of_reach reach found
  exact ⟨later, List.mem_of_getElem? there, same⟩

theorem length_le (reach : Reach M code P Q) : P.threads.length ≤ Q.threads.length := by
  refine Nat.le_of_not_lt fun inside => ?_
  obtain ⟨later, found, _⟩ := thread_of_reach reach (List.getElem?_eq_getElem inside)
  simp at found

/-- Where every request gets some answer, each program can go on alone until it returns. -/
theorem finishes {S : Signature} {M : Machine S σ} {code : ι → Prog S α} (total : ∀ op s, ∃ reply t, M.act op s reply t) :
    ∀ (p : Prog S α) (P : Pool S ι α σ) (i : Nat) (label : ι), P.threads[i]? = some ⟨label, p⟩ →
      ∃ Q value, Reach M code P Q ∧ Q.Returned i label value
  | .ret value, P, _, _, found => ⟨P, value, .refl, found⟩
  | .call op next, P, i, label, found => by
    obtain ⟨reply, t, acted⟩ := total op P.state
    obtain ⟨inside, here⟩ := List.getElem?_eq_some_iff.mp found
    have split : P.threads = P.threads.take i ++ ⟨label, .call op next⟩ :: P.threads.drop (i + 1) := by
      rw [← here, List.getElem_cons_drop, List.take_append_drop]
    have size : (P.threads.take i).length = i := List.length_take_of_le (Nat.le_of_lt inside)
    obtain ⟨Q, value, reach, done⟩ := finishes total (next reply)
      ⟨t, P.threads.take i ++ ⟨label, next reply⟩ :: P.threads.drop (i + 1)⟩ i label (by
        rw [List.getElem?_append_right (Nat.le_of_eq size), size, Nat.sub_self]
        rfl)
    exact ⟨Q, value, .head (.move split acted) reach, done⟩

end

/-! ### Scheduled histories -/

/-- A turn of a schedule: a program starts, or the program of this number goes on. -/
inductive Turn (ι : Type) where
  | start (label : ι)
  | move (i : Nat)

section
variable {S : Signature} (answer : (op : S.Op) → σ → Option (S.Reply op × σ)) (code : ι → Prog S α)

def turn : Turn ι → Pool S ι α σ → Option (Pool S ι α σ)
  | .start label, P => some ⟨P.state, P.threads ++ [⟨label, code label⟩]⟩
  | .move i, P =>
    match P.threads[i]? with
    | some ⟨label, .call op next⟩ =>
      match answer op P.state with
      | some (reply, t) => some ⟨t, P.threads.set i ⟨label, next reply⟩⟩
      | none => none
    | _ => none

def play : List (Turn ι) → Pool S ι α σ → Option (Pool S ι α σ)
  | [], P => some P
  | first :: turns, P => (turn answer code first P).bind (play turns)

def Turn.label : Turn ι → Option ι
  | .start label => some label
  | .move _ => none

variable {answer code}

/-- The names in a played pool are those of its start and of the starts since. -/
theorem labels_of_play : ∀ {turns : List (Turn ι)} {P Q : Pool S ι α σ}, play answer code turns P = some Q →
    Q.threads.map Thread.label = P.threads.map Thread.label ++ turns.filterMap Turn.label
  | [], _, _, played => by
    cases played
    simp
  | .start label :: turns, P, Q, played => by
    rw [labels_of_play (P := ⟨P.state, P.threads ++ [⟨label, code label⟩]⟩) played]
    simp [Turn.label]
  | .move i :: turns, P, Q, played => by
    obtain ⟨R, one, rest⟩ := Option.bind_eq_some_iff.mp played
    simp only [turn] at one
    split at one
    · rename_i label op next found
      split at one
      · rename_i reply t answered
        cases one
        rw [labels_of_play rest]
        obtain ⟨inside, here⟩ := List.getElem?_eq_some_iff.mp found
        have same : (P.threads.set i ⟨label, next reply⟩).map Thread.label = P.threads.map Thread.label := by
          have kept : label = (P.threads.map Thread.label).get ⟨i, by simpa using inside⟩ := by simp [here]
          rw [List.map_set]
          exact kept ▸ List.set_getElem_self _
        rw [List.filterMap_cons_none rfl, same]
      · cases one
    · cases one

variable {M : Machine S σ} (sound : ∀ {op s reply t}, answer op s = some (reply, t) → M.act op s reply t)
include sound

theorem step_of_turn {P Q : Pool S ι α σ} {next : Turn ι} (played : turn answer code next P = some Q) :
    Step M code P Q := by
  cases next with
  | start label =>
    cases played
    exact .start label
  | move i =>
    simp only [turn] at played
    split at played
    · rename_i label op next found
      split at played
      · rename_i reply t answered
        cases played
        obtain ⟨inside, here⟩ := List.getElem?_eq_some_iff.mp found
        rw [List.set_eq_take_append_cons_drop, if_pos inside]
        refine .move ?_ (sound answered)
        rw [← here, List.getElem_cons_drop, List.take_append_drop]
      · cases played
    · cases played

theorem reach_of_play : ∀ {turns : List (Turn ι)} {P Q : Pool S ι α σ}, play answer code turns P = some Q →
    Reach M code P Q
  | [], _, _, played => by
    cases played
    exact .refl
  | first :: turns, P, Q, played => by
    obtain ⟨R, one, rest⟩ := Option.bind_eq_some_iff.mp played
    exact .head (step_of_turn sound one) (reach_of_play rest)

end
end Pool

/-- A discipline with a bound on what the other programs may do to the state between two
requests. -/
structure Interference (S : Signature) (σ : Type) extends Discipline S σ where
  rely : σ → σ → Prop
  refl : ∀ s, rely s s
  trans : ∀ {s t u}, rely s t → rely t u → rely s u
  keeps : ∀ {op s reply t}, inv s → may op s → act op s reply t → inv t ∧ rely s t

namespace Interference
variable {S : Signature} (I : Interference S σ)

/-- Whatever the others do in between, the program asks only what it may, and a value it
returns satisfies the postcondition from then on. -/
def Survives (post : α → σ → Prop) : Prog S α → σ → Prop
  | .ret value, s => ∀ t, I.rely s t → I.inv t → post value t
  | .call op next, s => ∀ t, I.rely s t → I.inv t → I.may op t ∧
      ∀ reply u, I.act op t reply u → Survives post (next reply) u

variable {I}

theorem Survives.later {post : α → σ → Prop} {p : Prog S α} {s t : σ} (survives : I.Survives post p s)
    (relied : I.rely s t) : I.Survives post p t := by
  cases p with
  | ret value => exact fun u more holds => survives u (I.trans relied more) holds
  | call op next => exact fun u more holds => survives u (I.trans relied more) holds

theorem survives_mono {post weaker : α → σ → Prop} (implies : ∀ value t, I.inv t → post value t → weaker value t) :
    ∀ {p : Prog S α} {s : σ}, I.Survives post p s → I.Survives weaker p s
  | .ret _, _, survives => fun t relied holds => implies _ t holds (survives t relied holds)
  | .call _ _, _, survives => fun t relied holds =>
      ⟨(survives t relied holds).1, fun reply u acted => survives_mono implies ((survives t relied holds).2 reply u acted)⟩

theorem survives_bind {post : β → σ → Prop} {f : α → Prog S β} :
    ∀ {p : Prog S α} {s : σ}, I.inv s → I.Survives (fun value t => I.Survives post (f value) t) p s →
      I.Survives post (p.bind f) s
  | .ret _, s, holds, survives => survives s (I.refl s) holds
  | .call _ _, _, _, survives => fun t relied holds =>
      ⟨(survives t relied holds).1, fun reply u acted =>
        survives_bind (I.keeps holds (survives t relied holds).1 acted).1 ((survives t relied holds).2 reply u acted)⟩

/-- The state a value is returned in is one that may follow. -/
theorem survives_rely {post : α → σ → Prop} : ∀ {p : Prog S α} {r s : σ}, I.rely r s → I.Survives post p s →
    I.Survives (fun value t => I.rely r t ∧ post value t) p s
  | .ret _, _, _, before, survives => fun t relied holds => ⟨I.trans before relied, survives t relied holds⟩
  | .call _ _, _, _, before, survives => fun t relied holds =>
      ⟨(survives t relied holds).1, fun reply u acted =>
        survives_rely (I.trans before (I.trans relied (I.keeps holds (survives t relied holds).1 acted).2))
          ((survives t relied holds).2 reply u acted)⟩

/-- A program whose requests are always allowed survives, whatever it returns. -/
theorem survives_of_only {allowed : S.Op → Prop} {post : α → σ → Prop}
    (may : ∀ op t, allowed op → I.inv t → I.may op t) (anything : ∀ value t, I.inv t → post value t) :
    ∀ {p : Prog S α} {s : σ}, p.Only allowed → I.Survives post p s
  | .ret _, _, _ => fun t _ holds => anything _ t holds
  | .call _ _, _, only => fun t _ holds =>
      ⟨may _ t only.1 holds, fun reply _ _ => survives_of_only may anything (only.2 reply)⟩

/-- The pool rule: threads that survive one by one survive together. -/
theorem pool (I : Interference S σ) (post : Nat → ι → α → σ → Prop) {code : ι → Prog S α} {P Q : Pool S ι α σ}
    (reach : Pool.Reach I.toMachine code P Q) (holds : I.inv P.state)
    (kept : ∀ i thread, P.threads[i]? = some thread → I.Survives (post i thread.label) thread.rest P.state)
    (starts : ∀ i label s, P.threads.length ≤ i → Q.Named label → I.rely P.state s → I.inv s →
      I.Survives (post i label) (code label) s) :
    I.inv Q.state ∧ I.rely P.state Q.state ∧
      ∀ i thread, Q.threads[i]? = some thread → I.Survives (post i thread.label) thread.rest Q.state := by
  induction reach with
  | refl => exact ⟨holds, I.refl _, kept⟩
  | @tail R T run step ih =>
    obtain ⟨inv, relied, each⟩ := ih fun i label s fresh named => starts i label s fresh (named.later (.single step))
    cases step with
    | start label =>
      refine ⟨inv, relied, fun i thread found => ?_⟩
      by_cases old : i < R.threads.length
      · rw [List.getElem?_append_left old] at found
        exact each i thread found
      · have new : R.threads.length ≤ i := Nat.le_of_not_lt old
        rw [List.getElem?_append_right new] at found
        obtain rfl : (⟨label, code label⟩ : Thread S ι α) = thread := by
          cases offset : i - R.threads.length with
          | zero => simpa [offset] using found
          | succ k => simp [offset] at found
        exact starts i label _ (Nat.le_trans (Pool.length_le run) new) ⟨⟨label, code label⟩, by simp⟩ relied inv
    | @move before after label op next reply t split acted =>
      have here : R.threads[before.length]? = some ⟨label, .call op next⟩ := by simp [split]
      obtain ⟨may, rest⟩ := each _ _ here _ (I.refl _) inv
      obtain ⟨next_inv, moved⟩ := I.keeps inv may acted
      refine ⟨next_inv, I.trans relied moved, fun i thread found => ?_⟩
      rcases Nat.lt_trichotomy i before.length with left | rfl | right
      · rw [List.getElem?_append_left left] at found
        exact (each i thread (by rw [split, List.getElem?_append_left left, found])).later moved
      · obtain rfl : (⟨label, next reply⟩ : Thread S ι α) = thread := by simpa using found
        exact rest reply t acted
      · have later : before.length ≤ i := Nat.le_of_lt right
        obtain ⟨k, offset⟩ : ∃ k, i - before.length = k + 1 := ⟨i - before.length - 1, by omega⟩
        rw [List.getElem?_append_right later, offset, List.getElem?_cons_succ] at found
        refine (each i thread ?_).later moved
        rw [split, List.getElem?_append_right later, offset, List.getElem?_cons_succ, found]

/-! ### Tasks -/

/-- The task form of `Survives`. -/
def Endures (I : Interference S σ) (ensures : α → μ → σ → Prop) (raises : ε → μ → σ → Prop) (m : Task S μ ε α) (memory : μ)
    (s : σ) : Prop := I.Survives (Task.outcome ensures raises) (m memory) s

variable {ensures : β → μ → σ → Prop} {raises : ε → μ → σ → Prop} {memory : μ} {s : σ}

theorem endures_pure {value : β} (returned : ∀ t, I.rely s t → I.inv t → ensures value memory t) :
    I.Endures ensures raises (pure value : Task S μ ε β) memory s := returned

theorem endures_throw {error : ε} (raised : ∀ t, I.rely s t → I.inv t → raises error memory t) :
    I.Endures ensures raises (throw error : Task S μ ε β) memory s := raised

theorem endures_ofExcept {value : Except ε β} (returned : ∀ a t, value = .ok a → I.rely s t → I.inv t → ensures a memory t)
    (raised : ∀ e t, value = .error e → I.rely s t → I.inv t → raises e memory t) :
    I.Endures ensures raises (Task.ofExcept value : Task S μ ε β) memory s := by
  cases value with
  | ok a => exact fun t relied holds => returned a t rfl relied holds
  | error e => exact fun t relied holds => raised e t rfl relied holds

/-- A request, and what follows from each reply to it. -/
theorem endures_ask {op : S.Op} {f : S.Reply op → Task S μ ε β}
    (asked : ∀ t, I.rely s t → I.inv t → I.may op t ∧ ∀ reply u, I.act op t reply u → I.inv u → I.rely t u →
      I.Endures ensures raises (f reply) memory u) :
    I.Endures ensures raises (Task.ask op >>= f) memory s := by
  intro t relied holds
  obtain ⟨may, replied⟩ := asked t relied holds
  refine ⟨may, fun reply u acted => ?_⟩
  obtain ⟨inv, moved⟩ := I.keeps holds may acted
  exact replied reply u acted inv moved

theorem endures_bind {m : Task S μ ε α} {f : α → Task S μ ε β} (holds : I.inv s)
    (survives : I.Endures (fun value => I.Endures ensures raises (f value)) (fun e m t => ∀ u, I.rely t u → I.inv u →
      raises e m u) m memory s) : I.Endures ensures raises (m >>= f) memory s := by
  refine survives_bind holds (survives_mono ?_ survives)
  rintro ⟨error | value, memory⟩ t _ done
  · exact done
  · exact done

theorem endures_tryCatch {m : Task S μ ε β} {handle : ε → Task S μ ε β} (holds : I.inv s)
    (survives : I.Endures (fun value m t => ∀ u, I.rely t u → I.inv u → ensures value m u)
      (fun error => I.Endures ensures raises (handle error)) m memory s) :
    I.Endures ensures raises (tryCatch m handle) memory s := by
  refine survives_bind holds (survives_mono ?_ survives)
  rintro ⟨error | value, memory⟩ t _ done
  · exact done
  · exact done

theorem endures_rely {m : Task S μ ε β} (survives : I.Endures ensures raises m memory s) :
    I.Endures (fun value memory t => I.rely s t ∧ ensures value memory t)
      (fun error memory t => I.rely s t ∧ raises error memory t) m memory s := by
  refine survives_mono ?_ (survives_rely (I.refl s) survives)
  rintro ⟨error | value, memory⟩ t _ done
  · exact done
  · exact done

theorem endures_of_only {allowed : S.Op → Prop} {m : Task S μ ε β} (only : m.Only allowed)
    (may : ∀ op t, allowed op → I.inv t → I.may op t) (returned : ∀ value memory t, I.inv t → ensures value memory t)
    (raised : ∀ error memory t, I.inv t → raises error memory t) : I.Endures ensures raises m memory s := by
  refine survives_of_only may ?_ (only memory)
  rintro ⟨error | value, memory⟩ t holds
  · exact raised error memory t holds
  · exact returned value memory t holds

theorem endures_mono {m : Task S μ ε β} {ensures' : β → μ → σ → Prop} {raises' : ε → μ → σ → Prop}
    (survives : I.Endures ensures raises m memory s)
    (returned : ∀ value memory t, I.inv t → ensures value memory t → ensures' value memory t)
    (raised : ∀ error memory t, I.inv t → raises error memory t → raises' error memory t) :
    I.Endures ensures' raises' m memory s := by
  refine survives_mono ?_ survives
  rintro ⟨error | value, memory⟩ t holds done
  · exact raised _ _ _ holds done
  · exact returned _ _ _ holds done

end Interference
/-- A permit that some replies hand out and some requests use up. -/
structure Permit (S : Signature) where
  grants : (op : S.Op) → S.Reply op → Bool
  uses : S.Op → Bool

namespace Permit
variable {S : Signature} (T : Permit S)

/-- The program, which holds the permit or not, uses only what it was handed; what it
holds when it returns satisfies the postcondition. -/
def Honours (post : α → Bool → Prop) : Bool → Prog S α → Prop
  | held, .ret value => post value held
  | held, .call op next => (T.uses op = true → held = true) ∧
      ∀ reply, Honours post ((held && !T.uses op) || T.grants op reply) (next reply)

/-- A request that has nothing to do with the permit. -/
def Neutral (op : S.Op) : Prop := T.uses op = false ∧ ∀ reply, T.grants op reply = false

variable {T}

theorem honours_mono {post weaker : α → Bool → Prop} (implies : ∀ value held, post value held → weaker value held) :
    ∀ {p : Prog S α} {held : Bool}, T.Honours post held p → T.Honours weaker held p
  | .ret _, _, honours => implies _ _ honours
  | .call _ _, _, honours => ⟨honours.1, fun reply => honours_mono implies (honours.2 reply)⟩

theorem honours_bind {post : β → Bool → Prop} {f : α → Prog S β} : ∀ {p : Prog S α} {held : Bool},
    T.Honours (fun value held => T.Honours post held (f value)) held p → T.Honours post held (p.bind f)
  | .ret _, _, honours => honours
  | .call _ _, _, honours => ⟨honours.1, fun reply => honours_bind (honours.2 reply)⟩

theorem honours_of_only {post : α → Bool → Prop} {held : Bool} (anything : ∀ value, post value held) :
    ∀ {p : Prog S α}, p.Only T.Neutral → T.Honours post held p
  | .ret value, _ => anything value
  | .call op next, only => by
    obtain ⟨⟨unused, ungranted⟩, rest⟩ := only
    refine ⟨fun used => (by rw [unused] at used; cases used), fun reply => ?_⟩
    rw [unused, ungranted reply, Bool.not_false, Bool.and_true, Bool.or_false]
    exact honours_of_only anything (rest reply)

/-! ### Permits of tasks -/

/-- The task form; an error may leave the permit anywhere. -/
def Obeys (T : Permit S) (ensures : α → Bool → Prop) (held : Bool) (m : Task S μ ε α) : Prop :=
  ∀ memory, T.Honours (fun value held => ∀ a, value.1 = .ok a → ensures a held) held (m memory)

section
variable {ensures : α → Bool → Prop} {held : Bool}

theorem obeys_pure {value : α} (done : ensures value held) : T.Obeys ensures held (pure value : Task S μ ε α) := by
  intro memory a same
  cases same
  exact done

theorem obeys_throw {error : ε} : T.Obeys ensures held (throw error : Task S μ ε α) := by
  intro memory a same
  cases same

theorem obeys_ask {op : S.Op} {f : S.Reply op → Task S μ ε α} (allowed : T.uses op = true → held = true)
    (replied : ∀ reply, T.Obeys ensures ((held && !T.uses op) || T.grants op reply) (f reply)) :
    T.Obeys ensures held (Task.ask op >>= f) := fun memory => ⟨allowed, fun reply => replied reply memory⟩

theorem obeys_bind {m : Task S μ ε β} {f : β → Task S μ ε α}
    (obeys : T.Obeys (fun value held => T.Obeys ensures held (f value)) held m) : T.Obeys ensures held (m >>= f) := by
  intro memory
  refine honours_bind (honours_mono ?_ (obeys memory))
  rintro ⟨error | value, memory⟩ held done
  · intro a same
    cases same
  · exact done value rfl memory

theorem obeys_mono {m : Task S μ ε α} {weaker : α → Bool → Prop} (obeys : T.Obeys ensures held m)
    (implies : ∀ value held, ensures value held → weaker value held) : T.Obeys weaker held m := fun memory =>
  honours_mono (fun _ _ done a same => implies a _ (done a same)) (obeys memory)

theorem obeys_tryCatch {m : Task S μ ε α} {handle : ε → Task S μ ε α} (obeys : T.Obeys ensures held m)
    (handled : ∀ error held, T.Obeys ensures held (handle error)) : T.Obeys ensures held (tryCatch m handle) := by
  intro memory
  refine honours_bind (honours_mono ?_ (obeys memory))
  rintro ⟨error | value, memory⟩ held done
  · exact handled error held memory
  · intro a same
    exact done a same

theorem obeys_of_only {m : Task S μ ε α} (only : m.Only T.Neutral) (anything : ∀ value, ensures value held) :
    T.Obeys ensures held m := fun memory =>
  honours_of_only (fun _ a _ => anything a) (only memory)

end

/-- The permits handed out, those left and those used keep their balance in every history. -/
theorem balance {M : Machine S σ} {code : ι → Prog S α} (left used : σ → Nat)
    (law : ∀ {op s reply t}, M.act op s reply t →
      used t + left t + (T.grants op reply).toNat ≤ used s + left s + (T.uses op).toNat)
    (honours : ∀ label, T.Honours (fun _ _ => True) false (code label)) {s : σ} {Q : Pool S ι α σ}
    (reach : Pool.Reach M code (Pool.start s) Q) : used Q.state + left Q.state ≤ used s + left s := by
  have held : ∃ held : List Bool, List.Forall₂ (fun held thread => T.Honours (fun _ _ => True) held thread.rest)
      held Q.threads ∧ used Q.state + left Q.state + (held.map Bool.toNat).sum ≤ used s + left s := by
    induction reach with
    | refl => exact ⟨[], .nil, Nat.le_refl _⟩
    | tail _ step ih =>
      obtain ⟨held, each, bound⟩ := ih
      cases step with
      | start label =>
        refine ⟨held ++ [false], List.rel_append each (.cons (honours label) .nil), ?_⟩
        simpa using bound
      | @move before after label op next reply t split acted =>
        rw [split] at each
        have front := List.forall₂_take_append _ _ _ each
        obtain ⟨mine, rest, own, back, there⟩ := List.forall₂_cons_right_iff.mp (List.forall₂_drop_append _ _ _ each)
        have whole : held = held.take before.length ++ mine :: rest := by rw [← there, List.take_append_drop]
        generalize held.take before.length = first at front whole
        subst whole
        obtain ⟨allowed, replied⟩ := own
        refine ⟨first ++ ((mine && !T.uses op) || T.grants op reply) :: rest, List.rel_append front (.cons (replied reply) back), ?_⟩
        have moved := law acted
        simp only [List.map_append, List.map_cons, List.sum_append, List.sum_cons] at bound ⊢
        cases mine <;> cases uses : T.uses op <;> cases grants : T.grants op reply <;>
          simp_all <;> omega
  obtain ⟨_, _, bound⟩ := held
  omega

end Permit
end Effect
