import Mathlib.Logic.Basic

/-! Programs over an effect signature and the contracts they keep at every step.
A program stops after any prefix of its requests, so a crash needs no constructor
of its own: a contract holds of every state a partial run can leave behind. -/
namespace Effect

/-- The requests a program can make of its surroundings, each with its reply type. -/
structure Signature where
  Op : Type
  Reply : Op → Type

inductive Prog (S : Signature) (α : Type) : Type where
  | ret (value : α)
  | call (op : S.Op) (next : S.Reply op → Prog S α)

namespace Prog

def bind (p : Prog S α) (f : α → Prog S β) : Prog S β :=
  match p with
  | .ret value => f value
  | .call op next => .call op fun reply => (next reply).bind f

@[simp] theorem ret_bind (value : α) (f : α → Prog S β) : (Prog.ret value).bind f = f value := rfl
@[simp] theorem call_bind (op : S.Op) (next : S.Reply op → Prog S α) (f : α → Prog S β) :
    (Prog.call op next).bind f = .call op fun reply => (next reply).bind f := rfl

/-- Every request the program can make, whatever the replies, is allowed. -/
def Only (allowed : S.Op → Prop) : Prog S α → Prop
  | .ret _ => True
  | .call op next => allowed op ∧ ∀ reply, (next reply).Only allowed

theorem only_bind {allowed : S.Op → Prop} {f : α → Prog S β} :
    ∀ {p : Prog S α}, p.Only allowed → (∀ value, (f value).Only allowed) → (p.bind f).Only allowed
  | .ret value, _, rest => rest value
  | .call _ _, first, rest => ⟨first.1, fun reply => only_bind (first.2 reply) rest⟩

theorem only_weaken {allowed weaker : S.Op → Prop} (implies : ∀ op, allowed op → weaker op) :
    ∀ {p : Prog S α}, p.Only allowed → p.Only weaker
  | .ret _, _ => trivial
  | .call op _, only => ⟨implies op only.1, fun reply => only_weaken implies (only.2 reply)⟩

end Prog

/-- What the surroundings do with a request: the reply and the next state. -/
structure Machine (S : Signature) (σ : Type) where
  act : (op : S.Op) → σ → S.Reply op → σ → Prop

/-- A finite prefix of a run, with the program that remains. -/
inductive Steps {α : Type} (M : Machine S σ) : Prog S α → σ → Prog S α → σ → Prop where
  | refl : Steps M p s p s
  | step : M.act op s reply t → Steps M (next reply) t q u → Steps M (.call op next) s q u

namespace Steps
variable {M : Machine S σ}

theorem trans {p q r : Prog S α} (first : Steps M p s q t) (second : Steps M q t r u) :
    Steps M p s r u := by
  induction first with
  | refl => exact second
  | step acted _ ih => exact .step acted (ih second)

theorem bind {p q : Prog S α} (steps : Steps M p s q t) (f : α → Prog S β) :
    Steps M (p.bind f) s (q.bind f) t := by
  induction steps with
  | refl => exact .refl
  | step acted _ ih => exact .step acted (ih)

/-- Where every request gets some answer, every program goes on until it returns. -/
theorem completes {S : Signature} {M : Machine S σ} (total : ∀ op s, ∃ reply t, M.act op s reply t) :
    ∀ (p : Prog S α) (s : σ), ∃ value t, Steps M p s (.ret value) t
  | .ret value, s => ⟨value, s, .refl⟩
  | .call op next, s => by
    obtain ⟨reply, t, acted⟩ := total op s
    obtain ⟨value, u, rest⟩ := completes total (next reply) t
    exact ⟨value, u, .step acted rest⟩

theorem mono {N : Machine S σ} (acts : ∀ op s reply t, M.act op s reply t → N.act op s reply t) {p q : Prog S α}
    (steps : Steps M p s q t) : Steps N p s q t := by
  induction steps with
  | refl => exact .refl
  | step acted _ ih => exact .step (acts _ _ _ _ acted) ih

theorem preserves {holds : σ → Prop} (acts : ∀ op s reply t, M.act op s reply t → holds s → holds t) {p q : Prog S α}
    (steps : Steps M p s q t) (first : holds s) : holds t := by
  induction steps with
  | refl => exact first
  | step acted _ ih => exact ih (acts _ _ _ _ acted first)

end Steps

/-- The whole run of a program where each request has one answer. -/
def Prog.run (answer : (op : S.Op) → σ → Option (S.Reply op × σ)) : Prog S α → σ → Option (α × σ)
  | .ret value, s => some (value, s)
  | .call op next, s =>
    match answer op s with
    | none => none
    | some (reply, t) => (next reply).run answer t

theorem steps_of_run {M : Machine S σ} {answer : (op : S.Op) → σ → Option (S.Reply op × σ)}
    (acts : ∀ {op s reply t}, answer op s = some (reply, t) → M.act op s reply t) :
    ∀ {p : Prog S α} {s : σ}, p.run answer s = some (value, t) → Steps M p s (.ret value) t
  | .ret _, _, ran => by
    cases ran
    exact .refl
  | .call op next, s, ran => by
    simp only [Prog.run] at ran
    split at ran
    · cases ran
    · rename_i reply u answered
      exact .step (acts answered) (steps_of_run acts ran)

/-- A discipline fixes what must hold between two requests and which requests may
be made in which states. -/
structure Discipline (S : Signature) (σ : Type) extends Machine S σ where
  inv : σ → Prop
  may : S.Op → σ → Prop

namespace Discipline
variable (D : Discipline S σ)

/-- The program asks only what it may, every state between two of its requests
keeps the invariant, and a value it returns satisfies the postcondition. -/
def Keeps (post : α → σ → Prop) : Prog S α → σ → Prop
  | .ret value, s => post value s
  | .call op next, s => D.may op s ∧
      ∀ reply t, D.act op s reply t → D.inv t ∧ Keeps post (next reply) t

@[simp] theorem keeps_ret {post : α → σ → Prop} : D.Keeps post (.ret value) s ↔ post value s :=
  Iff.rfl

theorem keeps_call {post : α → σ → Prop} {next : S.Reply op → Prog S α} :
    D.Keeps post (.call op next) s ↔ D.may op s ∧
      ∀ reply t, D.act op s reply t → D.inv t ∧ D.Keeps post (next reply) t := Iff.rfl

theorem keeps_mono {post weaker : α → σ → Prop} (implies : ∀ value t, post value t → weaker value t) :
    ∀ {p : Prog S α} {s : σ}, D.Keeps post p s → D.Keeps weaker p s
  | .ret value, s, kept => implies value s kept
  | .call _ _, _, kept => ⟨kept.1, fun reply t acted =>
      ⟨(kept.2 reply t acted).1, keeps_mono implies (kept.2 reply t acted).2⟩⟩

theorem keeps_bind {post : β → σ → Prop} {f : α → Prog S β} :
    ∀ {p : Prog S α} {s : σ}, D.Keeps (fun value t => D.Keeps post (f value) t) p s →
      D.Keeps post (p.bind f) s
  | .ret _, _, kept => kept
  | .call _ _, _, kept => ⟨kept.1, fun reply t acted =>
      ⟨(kept.2 reply t acted).1, keeps_bind (kept.2 reply t acted).2⟩⟩

/-- The run rule: a prefix of a run leaves the invariant, and the rest of the
program still keeps the discipline. -/
theorem keeps_steps {post : α → σ → Prop} {p q : Prog S α} (steps : Steps D.toMachine p s q t)
    (holds : D.inv s) (kept : D.Keeps post p s) : D.inv t ∧ D.Keeps post q t := by
  induction steps with
  | refl => exact ⟨holds, kept⟩
  | step acted _ ih =>
    obtain ⟨next, rest⟩ := kept.2 _ _ acted
    exact ih next rest

theorem keeps_returns {post : α → σ → Prop} {p : Prog S α}
    (steps : Steps D.toMachine p s (.ret value) t) (holds : D.inv s) (kept : D.Keeps post p s) :
    post value t := (D.keeps_steps steps holds kept).2

/-- A program whose requests may always be made and never change the state
satisfies any postcondition that holds already. -/
theorem keeps_of_only {allowed : S.Op → Prop} {post : α → σ → Prop}
    (may : ∀ op, allowed op → D.may op s)
    (idle : ∀ op reply t, allowed op → D.act op s reply t → t = s) (holds : D.inv s) :
    ∀ {p : Prog S α}, p.Only allowed → (∀ value, post value s) → D.Keeps post p s
  | .ret value, _, done => done value
  | .call op next, only, done => ⟨may op only.1, fun reply t acted => by
      cases idle op reply t only.1 acted
      exact ⟨holds, keeps_of_only may idle holds (only.2 reply) done⟩⟩

end Discipline

/-- A computation with failures and a process-local memory that outlives them. -/
def Task (S : Signature) (μ ε α : Type) : Type := μ → Prog S (Except ε α × μ)

namespace Task

protected def pure (value : α) : Task S μ ε α := fun memory => .ret (.ok value, memory)

protected def bind (m : Task S μ ε α) (f : α → Task S μ ε β) : Task S μ ε β := fun memory =>
  (m memory).bind fun
    | (.ok value, memory) => f value memory
    | (.error error, memory) => .ret (.error error, memory)

protected def throw (error : ε) : Task S μ ε α := fun memory => .ret (.error error, memory)

protected def tryCatch (m : Task S μ ε α) (handle : ε → Task S μ ε α) : Task S μ ε α := fun memory =>
  (m memory).bind fun
    | (.ok value, memory) => .ret (.ok value, memory)
    | (.error error, memory) => handle error memory

instance : Monad (Task S μ ε) where
  pure := Task.pure
  bind := Task.bind

instance : MonadExcept ε (Task S μ ε) where
  throw := Task.throw
  tryCatch := Task.tryCatch

/-- One request of the surroundings. -/
def ask (op : S.Op) : Task S μ ε (S.Reply op) := fun memory =>
  .call op fun reply => .ret (.ok reply, memory)

def memory : Task S μ ε μ := fun memory => .ret (.ok memory, memory)

def remember (memory : μ) : Task S μ ε Unit := fun _ => .ret (.ok (), memory)

def ofExcept : Except ε α → Task S μ ε α
  | .ok value => Task.pure value
  | .error error => Task.throw error

/-- The requests of a task, from any memory. -/
def Only (allowed : S.Op → Prop) (m : Task S μ ε α) : Prop := ∀ memory, (m memory).Only allowed

section
variable {S : Signature} {allowed : S.Op → Prop}

@[simp] theorem only_pure (value : α) : (pure value : Task S μ ε α).Only allowed := fun _ => trivial
@[simp] theorem only_throw (error : ε) : (throw error : Task S μ ε α).Only allowed := fun _ => trivial
@[simp] theorem only_ofExcept (value : Except ε α) :
    (ofExcept value : Task S μ ε α).Only allowed := by
  cases value <;> exact fun _ => trivial
@[simp] theorem only_memory : (memory : Task S μ ε μ).Only allowed := fun _ => trivial
@[simp] theorem only_remember (memory : μ) : (remember memory : Task S μ ε Unit).Only allowed :=
  fun _ => trivial

theorem only_weaken {weaker : S.Op → Prop} (implies : ∀ op, allowed op → weaker op) {m : Task S μ ε α} (only : m.Only allowed) :
    m.Only weaker := fun memory => Prog.only_weaken implies (only memory)

theorem only_ask {op : S.Op} (permitted : allowed op) : (ask op : Task S μ ε _).Only allowed :=
  fun _ => ⟨permitted, fun _ => trivial⟩

theorem only_bind {m : Task S μ ε α} {f : α → Task S μ ε β} (first : m.Only allowed)
    (rest : ∀ value, (f value).Only allowed) : (m >>= f).Only allowed := by
  intro memory
  refine Prog.only_bind (first memory) ?_
  rintro ⟨_ | value, memory⟩
  · trivial
  · exact rest value memory

theorem only_tryCatch {m : Task S μ ε α} {handle : ε → Task S μ ε α} (first : m.Only allowed)
    (rest : ∀ error, (handle error).Only allowed) : (tryCatch m handle).Only allowed := by
  intro memory
  refine Prog.only_bind (first memory) ?_
  rintro ⟨error | _, memory⟩
  · exact rest error memory
  · trivial

end

/-- Postconditions of a task: one for a returned value, one for a raised error. -/
def outcome (ensures : α → μ → σ → Prop) (raises : ε → μ → σ → Prop) :
    Except ε α × μ → σ → Prop
  | (.ok value, memory), s => ensures value memory s
  | (.error error, memory), s => raises error memory s

end Task

namespace Discipline
variable {S : Signature} (D : Discipline S σ)

/-- The task form of `Keeps`. -/
def Runs (ensures : α → μ → σ → Prop) (raises : ε → μ → σ → Prop) (m : Task S μ ε α)
    (memory : μ) (s : σ) : Prop := D.Keeps (Task.outcome ensures raises) (m memory) s

variable {ensures : β → μ → σ → Prop} {raises : ε → μ → σ → Prop}

@[simp] theorem runs_pure {value : β} :
    D.Runs ensures raises (pure value : Task S μ ε β) memory s ↔ ensures value memory s := Iff.rfl

@[simp] theorem runs_throw {error : ε} :
    D.Runs ensures raises (throw error : Task S μ ε β) memory s ↔ raises error memory s := Iff.rfl

theorem runs_ofExcept {value : Except ε β} :
    D.Runs ensures raises (Task.ofExcept value : Task S μ ε β) memory s ↔
      (∀ a, value = .ok a → ensures a memory s) ∧ (∀ e, value = .error e → raises e memory s) := by
  cases value <;> simp [Task.ofExcept, Runs, Task.pure, Task.throw, Task.outcome]

theorem runs_bind {m : Task S μ ε α} {f : α → Task S μ ε β}
    (kept : D.Runs (fun value => D.Runs ensures raises (f value)) raises m memory s) :
    D.Runs ensures raises (m >>= f) memory s := by
  refine D.keeps_bind (D.keeps_mono ?_ kept)
  rintro ⟨_ | value, memory⟩ t done
  · exact done
  · exact done

theorem runs_tryCatch {m : Task S μ ε β} {handle : ε → Task S μ ε β}
    (kept : D.Runs ensures (fun error => D.Runs ensures raises (handle error)) m memory s) :
    D.Runs ensures raises (tryCatch m handle) memory s := by
  refine D.keeps_bind (D.keeps_mono ?_ kept)
  rintro ⟨error | value, memory⟩ t done
  · exact done
  · exact done

theorem runs_ask {op : S.Op} {ensures : S.Reply op → μ → σ → Prop} (may : D.may op s)
    (reply : ∀ reply t, D.act op s reply t → D.inv t ∧ ensures reply memory t) :
    D.Runs ensures raises (Task.ask op) memory s := ⟨may, reply⟩

@[simp] theorem runs_memory {ensures : μ → μ → σ → Prop} :
    D.Runs ensures raises (Task.memory : Task S μ ε μ) memory s ↔ ensures memory memory s := Iff.rfl

@[simp] theorem runs_remember {ensures : Unit → μ → σ → Prop} {next : μ} :
    D.Runs ensures raises (Task.remember next : Task S μ ε Unit) memory s ↔ ensures () next s := Iff.rfl

theorem runs_mono {m : Task S μ ε β} {ensures' : β → μ → σ → Prop} {raises' : ε → μ → σ → Prop}
    (kept : D.Runs ensures raises m memory s)
    (returned : ∀ value memory t, ensures value memory t → ensures' value memory t)
    (raised : ∀ error memory t, raises error memory t → raises' error memory t) :
    D.Runs ensures' raises' m memory s := by
  refine D.keeps_mono ?_ kept
  rintro ⟨error | value, memory⟩ t done
  · exact raised _ _ _ done
  · exact returned _ _ _ done

theorem runs_of_only {allowed : S.Op → Prop} {m : Task S μ ε β} (only : m.Only allowed)
    (may : ∀ op, allowed op → D.may op s)
    (idle : ∀ op reply t, allowed op → D.act op s reply t → t = s) (holds : D.inv s)
    (returned : ∀ value memory, ensures value memory s)
    (raised : ∀ error memory, raises error memory s) : D.Runs ensures raises m memory s := by
  refine D.keeps_of_only may idle holds (only memory) ?_
  rintro ⟨error | value, memory⟩
  · exact raised error memory
  · exact returned value memory

end Discipline
end Effect
