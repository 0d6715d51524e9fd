import Molly.File.Ledger
import Molly.Effect.HashChain

/-! Tamper evidence: the digest of the last line of a readable file determines every
record in the file, as far as no two of the hashed texts collide. -/
namespace Molly

/-- No two of the inputs have the same digest. -/
def CollisionFree [Sha256] (inputs : List Bytes) : Prop :=
  ∀ a ∈ inputs, ∀ b ∈ inputs, sha256Bytes a = sha256Bytes b → a = b

theorem Digest.reference_injective {a b : Digest} (same : a.reference = b.reference) : a = b :=
  Digest.ext (congrArg DigestReference.text same)

namespace StoredEvent
variable [Sha256] [PrintableText]

/-- The bytes whose digest an event carries. -/
def body (e : StoredEvent) : Bytes := (PyValue.obj (e.toDict false)).encode

omit [PrintableText] in
theorem Sealed.digest {e : StoredEvent} (sealed : e.Sealed) : e.eventSha256 = some (sha256Bytes e.body).reference := by
  obtain ⟨digest, computed, stored⟩ := sealed
  unfold computedSha256 at computed
  split at computed
  · cases computed
  · rename_i bytes encoded
    obtain ⟨_, rfl⟩ := (canonicalBytes_ok (e.toDict_accepted false)).mp encoded
    cases computed
    exact stored

/-- An accepted object is an event in the form it is written in. -/
theorem fromDict_ok {value : PyValue} {e : StoredEvent} (clean : value.Clean) (read : fromDict value = .ok e) :
    e.Settled ∧ e.Sealed := by
  cases value with
  | obj fields =>
    simp only [fromDict, bind_ok, orMalformed_eq_ok] at read
    obtain ⟨event, parsed, checked⟩ := read
    split at checked
    · cases checked
    · rename_i digest stored
      obtain ⟨computed, made, checked⟩ := bind_ok.mp checked
      split at checked
      · cases checked
      · rename_i same
        cases checked
        rw [ne_eq, Decidable.not_not] at same
        refine ⟨fun m member => ?_, computed, made, ?_⟩
        · have kept := clean_obj.mpr (parse_mappings (clean_obj.mp clean) parsed m member)
          exact kept
        · obtain ⟨text, valid⟩ := digest
          simp only at same
          subst same
          exact stored
  | _ => cases read

/-- Events with equal bodies are equal: nothing of an event is outside its digest. -/
theorem eq_of_body {e f : StoredEvent} (settled : e.Settled) (settled' : f.Settled) (sealed : e.Sealed)
    (sealed' : f.Sealed) (same : e.body = f.body) : e = f := by
  obtain ⟨fits, unpaired⟩ := toDict_settled settled false
  obtain ⟨fits', unpaired'⟩ := toDict_settled settled' false
  have frozen := encode_injective (canon_settled _ (e.toDict_accepted false) fits unpaired)
    (canon_settled _ (f.toDict_accepted false) fits' unpaired') same
  simp only [PyValue.canon, PyValue.obj.injEq] at frozen
  have first := parse_body e
  rw [frozen, parse_body f, Except.ok.injEq] at first
  have stored : e.eventSha256 = f.eventSha256 := by rw [sealed.digest, sealed'.digest, same]
  have whole := congrArg (fun x => x.withDigest e.eventSha256) first
  calc e = (e.withDigest none).withDigest e.eventSha256 := rfl
    _ = (f.withDigest none).withDigest e.eventSha256 := whole.symm
    _ = f := by rw [stored]; rfl

end StoredEvent

namespace RunLedger
variable [Sha256] [PrintableText]

theorem readLine_ok {number : Nat} {raw : Bytes} {e : StoredEvent} (read : readLine number raw = .ok e) :
    e.Settled ∧ e.Sealed := by
  unfold readLine at read
  split at read
  · cases read
  · split at read
    · cases read
    · dsimp only at read
      split at read
      · cases read
      · split at read
        · cases read
        · cases read
        · rename_i value loaded
          exact StoredEvent.fromDict_ok (loads_clean loaded) read

/-- The stored digest; every event that is read has one. -/
def digestText (e : StoredEvent) : String := (e.eventSha256.map (·.text)).getD ""

def previousText (e : StoredEvent) : Option String := e.previousEventSha256.map (·.text)

omit [PrintableText] in
theorem digestText_sealed {e : StoredEvent} (sealed : e.Sealed) : digestText e = (sha256Bytes e.body).text ∧
    e.eventSha256.map (·.text) = some (digestText e) := by
  simp [digestText, sealed.digest, Digest.reference]

/-- The events of a readable file, in their written form and linked by their digests. -/
theorem readLines_ok : ∀ {lines : List Bytes} {number : Nat} {previous : Option String} {seen : List Identifier}
    {events : List StoredEvent}, readLines number previous seen lines = .ok events →
    (∀ e ∈ events, e.Settled ∧ e.Sealed) ∧ Effect.HashChain.LinkedFrom digestText previousText previous events
  | [], _, _, _, _, read => by
    cases read
    simp [Effect.HashChain.LinkedFrom]
  | raw :: lines, number, previous, seen, events, read => by
    unfold readLines at read
    split at read
    · cases read
    · rename_i event head
      have written := readLine_ok head
      split at read
      · cases read
      · split at read
        · cases read
        · rename_i linked
          rw [ne_eq, Decidable.not_not] at linked
          split at read
          · cases read
          · rename_i more tail
            cases read
            rw [(digestText_sealed written.2).2] at tail
            obtain ⟨each, chained⟩ := readLines_ok tail
            exact ⟨by simpa [written] using each, linked, chained⟩

theorem events_eq_of_tip {file file' : Bytes} {events events' : List StoredEvent} {last last' : StoredEvent}
    (read : readEvents file = .ok events) (read' : readEvents file' = .ok events')
    (ends : events.getLast? = some last) (ends' : events'.getLast? = some last')
    (same : last.eventSha256 = last'.eventSha256)
    (free : CollisionFree (events.map (·.body) ++ events'.map (·.body))) : events = events' := by
  obtain ⟨written, linked⟩ := readLines_ok read
  obtain ⟨written', linked'⟩ := readLines_ok read'
  apply Effect.HashChain.eq_of_tip linked linked'
  · simp only [Effect.HashChain.tip, ends, ends', digestText, same]
  · intro e member f member' digests
    obtain ⟨settled, sealed⟩ := written e member
    obtain ⟨settled', sealed'⟩ := written' f member'
    rw [(digestText_sealed sealed).1, (digestText_sealed sealed').1] at digests
    have hashes : sha256Bytes e.body = sha256Bytes f.body := Digest.ext digests
    have bodies := free e.body (List.mem_append_left _ (List.mem_map_of_mem member)) f.body
      (List.mem_append_right _ (List.mem_map_of_mem member')) hashes
    exact StoredEvent.eq_of_body settled settled' sealed sealed' bodies

end RunLedger
end Molly
