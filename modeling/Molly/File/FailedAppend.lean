import Molly.File.Ledger

/-! Appends that raise: before the lock, in the locked section, or in the middle of the
writes of `append_all`. -/
namespace Molly

/-- What one `os.write` of a view does: it raises, or takes a number of the view's bytes. -/
inductive WriteReply where
  | failed
  | wrote (count : Nat)
  deriving DecidableEq

def noProgress : PyError := ⟨.osError, "append write made no progress"⟩

/-- `append_all`: the file after the writes that the descriptor answers so, and whether it
raised; nothing when it is still writing. -/
def appendAll : List WriteReply → (view file : Bytes) → Option (Except PyError Unit × Bytes)
  | _, [], file => some (.ok (), file)
  | [], _ :: _, _ => none
  | .failed :: _, _ :: _, file => some (.error ⟨.osError, "write failed"⟩, file)
  | .wrote 0 :: _, _ :: _, file => some (.error noProgress, file)
  | .wrote (n + 1) :: replies, b :: view, file =>
    appendAll replies ((b :: view).drop (n + 1)) (file ++ (b :: view).take (n + 1))

/-- A call of `append`: what the constructor makes of its arguments, whether the file can be
opened and locked, and what the writes and the sync do. -/
structure AppendCall where
  event : Except PyError StoredEvent
  opened : Except PyError Unit
  writes : List WriteReply
  synced : Except PyError Unit

namespace AppendCall
variable [Sha256] [PrintableText]

/-- `append`, on the bytes of the file. -/
def append (call : AppendCall) (file : Bytes) : Option (Except PyError StoredEvent × Bytes) :=
  match call.event, call.opened with
  | .error e, _ => some (.error e, file)
  | _, .error e => some (.error e, file)
  | .ok event, .ok () =>
    match RunLedger.appendLine file event with
    | .error e => some (.error e, file)
    | .ok (persisted, line) =>
      match appendAll call.writes line file with
      | none => none
      | some (.error e, after) => some (.error e, after)
      | some (.ok (), after) =>
        match call.synced with
        | .error e => some (.error e, after)
        | .ok () => some (.ok persisted, after)

/-- Nothing of the line is written: the event is malformed, the file cannot be opened, the
locked section refuses the event, or no write takes a byte. -/
def Untouched (call : AppendCall) (file : Bytes) : Prop :=
  ∀ event, call.event = .ok event → call.opened = .ok () → ∀ persisted line,
    RunLedger.appendLine file event = .ok (persisted, line) →
      call.writes.head? = some .failed ∨ call.writes.head? = some (.wrote 0)

/-- The ledger reads as before, and what could be appended still can. -/
def Kept (file after : Bytes) : Prop :=
  RunLedger.readEvents after = RunLedger.readEvents file ∧
    ∀ (later : AppendCall) persisted file', later.append file = some (.ok persisted, file') →
      ∃ file'', later.append after = some (.ok persisted, file'')

end AppendCall

/-- The writes raise or not whatever is in the file. -/
theorem appendAll_other : ∀ {replies : List WriteReply} {view file after : Bytes} {outcome : Except PyError Unit},
    appendAll replies view file = some (outcome, after) → ∀ other, ∃ after',
      appendAll replies view other = some (outcome, after')
  | replies, [], _, _, _, wrote, other => by
    rw [appendAll] at wrote
    cases wrote
    exact ⟨other, by rw [appendAll]⟩
  | [], _ :: _, _, _, _, wrote, _ => by cases wrote
  | .failed :: _, _ :: _, _, _, _, wrote, other => by
    cases wrote
    exact ⟨other, rfl⟩
  | .wrote 0 :: _, _ :: _, _, _, _, wrote, other => by
    cases wrote
    exact ⟨other, rfl⟩
  | .wrote (n + 1) :: replies, b :: view, _, _, _, wrote, other => by
    rw [appendAll] at wrote ⊢
    exact appendAll_other wrote _

/-! ### Reading a file that ends in a part of a line -/

namespace RunLedger

variable [Sha256] [PrintableText]

theorem appendLine_eq {file after : Bytes} (same : readEvents after = readEvents file) (event : StoredEvent) :
    appendLine after event = appendLine file event := by
  simp only [appendLine, same]

end RunLedger

/-! ### What a call that raises leaves -/

namespace AppendCall
open RunLedger
variable [Sha256] [PrintableText] {call : AppendCall} {file after : Bytes} {error : PyError}

/-- A call returns wherever the ledger reads as it did where the call returned. -/
theorem append_kept (same : readEvents after = readEvents file) {later : AppendCall} {persisted : StoredEvent}
    {file' : Bytes} (returned : later.append file = some (.ok persisted, file')) :
    ∃ file'', later.append after = some (.ok persisted, file'') := by
  obtain ⟨event, opened, writes, synced⟩ := later
  cases event with
  | error => cases returned
  | ok event =>
    cases opened with
    | error => cases returned
    | ok =>
      simp only [append] at returned ⊢
      rw [appendLine_eq same]
      cases appended : appendLine file event with
      | error e =>
        rw [appended] at returned
        cases returned
      | ok result =>
        obtain ⟨made, line⟩ := result
        rw [appended] at returned
        dsimp only at returned ⊢
        split at returned
        · cases returned
        · cases returned
        · rename_i wrote
          obtain ⟨after', wrote'⟩ := appendAll_other wrote after
          rw [wrote']
          cases synced with
          | error => cases returned
          | ok =>
            cases returned
            exact ⟨after', rfl⟩

end AppendCall

namespace Sample
attribute [local instance] standardSha256 asciiPrintable

end Sample
end Molly
