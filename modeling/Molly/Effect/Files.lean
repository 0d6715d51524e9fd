import Molly.Effect.Pool

/-! A file system as concurrent processes see it: files that appear whole, by a link that
never replaces or by a rename that always does, a clock, and what lies outside. -/
namespace Effect

inductive FileOp (π β : Type) (E : Signature) where
  /-- An existence test. -/
  | test (path : π)
  | read (path : π)
  /-- An atomic link of a complete file, refused when the path is taken. -/
  | link (path : π) (content : β)
  /-- An atomic rename of a complete file over the path. -/
  | replace (path : π) (content : β)
  | outside (op : E.Op)

def FileOp.Reply (π β : Type) (E : Signature) : FileOp π β E → Type
  | .test _ | .link _ _ => Bool
  | .read _ => Option β
  | .replace _ _ => Unit
  | .outside op => E.Reply op

def files (π β : Type) (E : Signature) : Signature := ⟨FileOp π β E, FileOp.Reply π β E⟩

/-- The files, and what was asked outside, with the replies, in order. -/
structure Disk (π β : Type) (E : Signature) where
  content : π → Option β
  log : List ((op : E.Op) × E.Reply op)

namespace Disk
variable {π β : Type} {E : Signature} [DecidableEq π]

def empty : Disk π β E := ⟨fun _ => none, []⟩

/-- The disk with a file at a path where there was none. -/
def link (d : Disk π β E) (path : π) (file : β) : Disk π β E :=
  { d with content := fun p => if p = path then some ((d.content path).getD file) else d.content p }

def replace (d : Disk π β E) (path : π) (file : β) : Disk π β E :=
  { d with content := fun p => if p = path then some file else d.content p }

/-- What the disk does with a request, where `outer` says what may be answered outside. -/
def act (outer : (op : E.Op) → E.Reply op → Prop) :
    (op : (files π β E).Op) → Disk π β E → (files π β E).Reply op → Disk π β E → Prop
  | .test path, d, reply, t => reply = (d.content path).isSome ∧ t = d
  | .read path, d, reply, t => reply = d.content path ∧ t = d
  | .link path file, d, reply, t => reply = (d.content path).isNone ∧ t = d.link path file
  | .replace path file, d, _, t => t = d.replace path file
  | .outside op, d, reply, t => outer op reply ∧ t = { d with log := d.log ++ [⟨op, reply⟩] }

def machine (outer : (op : E.Op) → E.Reply op → Prop) : Machine (files π β E) (Disk π β E) := ⟨act outer⟩

/-- The answers of a disk where those of the outside are fixed. -/
def answer (reply : (op : E.Op) → E.Reply op) :
    (op : (files π β E).Op) → Disk π β E → Option ((files π β E).Reply op × Disk π β E)
  | .test path, d => some ((d.content path).isSome, d)
  | .read path, d => some (d.content path, d)
  | .link path file, d => some ((d.content path).isNone, d.link path file)
  | .replace path file, d => some ((), d.replace path file)
  | .outside op, d => some (reply op, { d with log := d.log ++ [⟨op, reply op⟩] })

theorem act_of_answer {outer : (op : E.Op) → E.Reply op → Prop} {reply : (op : E.Op) → E.Reply op}
    (allowed : ∀ op, outer op (reply op)) {op : (files π β E).Op} {d t : Disk π β E} {value : (files π β E).Reply op}
    (answered : answer reply op d = some (value, t)) : act outer op d value t := by
  cases op with
  | outside op =>
    cases answered
    exact ⟨allowed op, rfl⟩
  | replace =>
    cases answered
    rfl
  | _ =>
    cases answered
    exact ⟨rfl, rfl⟩

/-! ### Files that are never replaced -/

/-- What is there stays as it is. -/
def Grows (d t : Disk π β E) : Prop := ∀ path file, d.content path = some file → t.content path = some file

omit [DecidableEq π] in
theorem Grows.refl (d : Disk π β E) : d.Grows d := fun _ _ same => same

omit [DecidableEq π] in
theorem Grows.trans {d t u : Disk π β E} (first : d.Grows t) (second : t.Grows u) : d.Grows u :=
  fun path file same => second path file (first path file same)

omit [DecidableEq π] in
theorem Grows.isSome {d t : Disk π β E} (grows : d.Grows t) {path : π} (there : (d.content path).isSome = true) :
    t.content path = d.content path := by
  obtain ⟨file, found⟩ := Option.isSome_iff_exists.mp there
  rw [found, grows path file found]

theorem link_grows (d : Disk π β E) (path : π) (file : β) : d.Grows (d.link path file) := by
  intro p content same
  by_cases here : p = path
  · subst here
    simp [link, same]
  · simp [link, here, same]

theorem link_there (d : Disk π β E) (path : π) (file : β) :
    (d.link path file).content path = some ((d.content path).getD file) := by
  simp [link]

theorem link_other (d : Disk π β E) {path other : π} (file : β) (different : other ≠ path) :
    (d.link path file).content other = d.content other := by
  simp [link, different]

theorem machine_total {outer : (op : E.Op) → E.Reply op → Prop} (answers : ∀ op, ∃ reply, outer op reply)
    (op : (files π β E).Op) (d : Disk π β E) : ∃ reply t, (machine outer).act op d reply t := by
  cases op with
  | outside op =>
    obtain ⟨reply, allowed⟩ := answers op
    exact ⟨reply, _, allowed, rfl⟩
  | replace path file => exact ⟨(), d.replace path file, rfl⟩
  | _ => exact ⟨_, _, rfl, rfl⟩

/-- Others only add files, and anything may be looked at. -/
structure Preserving (I : Interference (files π β E) (Disk π β E)) (outer : (op : E.Op) → E.Reply op → Prop) : Prop where
  act : ∀ {op d reply t}, I.act op d reply t → act outer op d reply t
  test : ∀ path d, I.may (.test path) d
  read : ∀ path d, I.may (.read path) d
  outside : ∀ op d, I.may (.outside op) d
  grows : ∀ {d t}, I.rely d t → d.Grows t

namespace Preserving
variable {I : Interference (files π β E) (Disk π β E)} {outer : (op : E.Op) → E.Reply op → Prop} {s : Disk π β E}
  {ensures : α → μ → Disk π β E → Prop} {raises : ε → μ → Disk π β E → Prop} {memory : μ}

/-- A file that was seen is there, and one that was there is seen. -/
theorem endures_test (preserving : Preserving I outer) {path : π} {f : Bool → Task (files π β E) μ ε α}
    (next : ∀ found t, I.rely s t → I.inv t → (found = true → (t.content path).isSome = true) →
      ((s.content path).isSome = true → found = true) → I.Endures ensures raises (f found) memory t) :
    I.Endures ensures raises (Task.ask (S := files π β E) (.test path) >>= f) memory s := by
  apply Interference.endures_ask
  intro t relied _
  refine ⟨preserving.test path t, fun reply u acted inv moved => ?_⟩
  obtain ⟨rfl, rfl⟩ := preserving.act acted
  refine next _ u (I.trans relied moved) inv id fun there => ?_
  rw [(preserving.grows relied).isSome there, there]

theorem endures_read (preserving : Preserving I outer) {path : π} {f : Option β → Task (files π β E) μ ε α}
    (next : ∀ reply t, I.rely s t → I.inv t → (∀ file, reply = some file → t.content path = some file) →
      (∀ file, s.content path = some file → reply = some file) → I.Endures ensures raises (f reply) memory t) :
    I.Endures ensures raises (Task.ask (S := files π β E) (.read path) >>= f) memory s := by
  apply Interference.endures_ask
  intro t relied _
  refine ⟨preserving.read path t, fun reply u acted inv moved => ?_⟩
  obtain ⟨rfl, rfl⟩ := preserving.act acted
  exact next _ u (I.trans relied moved) inv (fun _ found => found) fun file there => preserving.grows relied path file there

theorem endures_outside (preserving : Preserving I outer) {op : E.Op} {f : E.Reply op → Task (files π β E) μ ε α}
    (next : ∀ reply t, outer op reply → I.rely s t → I.inv t → I.Endures ensures raises (f reply) memory t) :
    I.Endures ensures raises (Task.ask (S := files π β E) (.outside op) >>= f) memory s := by
  apply Interference.endures_ask
  intro t relied _
  refine ⟨preserving.outside op t, fun reply u acted inv moved => ?_⟩
  exact next reply u (preserving.act acted).1 (I.trans relied moved) inv

/-- After a link there is a file, whoever made it. -/
theorem endures_link (preserving : Preserving I outer) {path : π} {file : β} {f : Bool → Task (files π β E) μ ε α}
    (may : ∀ t, I.may (.link path file) t) (next : ∀ linked t, I.rely s t → I.inv t → (t.content path).isSome = true →
      (linked = true → t.content path = some file) → I.Endures ensures raises (f linked) memory t) :
    I.Endures ensures raises (Task.ask (S := files π β E) (.link path file) >>= f) memory s := by
  apply Interference.endures_ask
  intro t relied _
  refine ⟨may t, fun reply u acted inv moved => ?_⟩
  obtain ⟨rfl, rfl⟩ := preserving.act acted
  have there := link_there t path file
  refine next _ _ (I.trans relied moved) inv (by rw [there]; rfl) fun absent => ?_
  rw [there, Option.isNone_iff_eq_none.mp absent]
  rfl

end Preserving
end Disk
end Effect
