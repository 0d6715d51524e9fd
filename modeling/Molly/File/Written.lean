import Molly.File.Ledger

/-! Values that are written as one canonical line, and what is read of that line. -/
namespace Molly

/-- A value whose canonical bytes are defined and read back as the value. -/
structure PyValue.Writable (v : PyValue) : Prop where
  accepted : v.accepted = true
  fits : v.fits = true
  unpaired : v.Unpaired

namespace PyValue.Writable

theorem null : PyValue.null.Writable := ⟨rfl, rfl, trivial⟩

theorem text (s : String) : (PyValue.str (PyText.ofString s)).Writable :=
  ⟨rfl, rfl, (PyText.ofString_scalar s).unpaired⟩

theorem optional (shown : α → String) (value : Option α) : (pyOptionalText shown value).Writable := by
  cases value with
  | none => exact null
  | some a => exact text (shown a)

theorem arr : ∀ {items : List PyValue}, (∀ v ∈ items, v.Writable) → (PyValue.arr items).Writable
  | [], _ => ⟨rfl, rfl, trivial⟩
  | item :: items, each => by
    have head := each item List.mem_cons_self
    have tail := arr fun v member => each v (List.mem_cons_of_mem _ member)
    refine ⟨?_, ?_, head.unpaired, tail.unpaired⟩
    · simpa [PyValue.accepted, PyValue.acceptedItems, head.accepted] using tail.accepted
    · simpa [PyValue.fits, PyValue.fitsItems, head.fits] using tail.fits

theorem artifactIds (a : ArtifactIds) : (pyArtifactIds a).Writable := by
  refine arr fun v member => ?_
  obtain ⟨id, _, rfl⟩ := List.mem_map.mp member
  exact text _

theorem obj {entries : List (String × PyValue)} (named : ∀ f ∈ entries, f.1 ≠ "" ∧ sensitiveKey f.1 = false)
    (each : ∀ f ∈ entries, f.2.Writable) :
    (PyValue.obj (entries.map fun f => (PyText.ofString f.1, f.2))).Writable := by
  refine ⟨acceptedFields_iff.mpr fun f member => ?_, fitsFields_iff.mpr fun f member => ?_,
    unpairedFields_iff.mpr fun f member => ?_⟩
  all_goals obtain ⟨entry, found, rfl⟩ := List.mem_map.mp member
  · obtain ⟨nonempty, plain⟩ := named entry found
    refine ⟨fun empty => ?_, by rwa [PyText.display_ofString], (each entry found).accepted⟩
    exact nonempty (PyText.ofString_injective (empty.trans (by simp [PyText.ofString])))
  · exact (each entry found).fits
  · exact ⟨(PyText.ofString_scalar _).unpaired, (each entry found).unpaired⟩

variable {v : PyValue}

theorem canonicalBytes (writable : v.Writable) : v.canonicalBytes = .ok v.encode :=
  (StoredEvent.canonicalBytes_ok writable.accepted).mpr ⟨writable.fits, rfl⟩

theorem settled (writable : v.Writable) : v.canon.Settled :=
  canon_settled v writable.accepted writable.fits writable.unpaired

/-- The frozen form has the same bytes. -/
theorem canonicalBytes_canon (writable : v.Writable) : v.canon.canonicalBytes = .ok v.encode := by
  have clean := clean_canon ⟨writable.fits, writable.unpaired⟩
  rw [(StoredEvent.canonicalBytes_ok (accepted_pyCanon v writable.accepted)).mpr ⟨clean.1, rfl⟩]
  rw [PyValue.encode, PyValue.encode, pyCanon_canon]

/-- The line of a value decodes to its frozen form. -/
theorem loads_line (writable : v.Writable) :
    decodeUtf8 (v.encode ++ [10]) = some (v.canon.dumps ++ ['\n']) ∧ loads (v.canon.dumps ++ ['\n']) = .ok v.canon := by
  have settled := writable.settled
  constructor
  · have newline : Effect.ascii [10] = some ['\n'] := rfl
    have whole := Effect.ascii_append (ascii_plain (dumps_plain v.canon)) newline
    simp only [decodeUtf8, PyValue.encode, whole]
  · have ends : Effect.EndsNumber ['\n'] := by
      intro c first
      obtain rfl : '\n' = c := by simpa using first
      decide
    obtain ⟨legible, same⟩ := settled.loaded
    have read := scanOnce_dumps v.canon ['\n'] (2 * (v.canon.dumps ++ ['\n']).length + 1) legible ends (by simp; omega)
    have skipped := (dumps_opens legible).skip ['\n']
    have unmarked : (v.canon.dumps ++ ['\n']).head? ≠ some '\uFEFF' := by
      intro marked
      rcases List.mem_append.mp (List.mem_of_mem_head? marked) with found | found
      · have plain := dumps_plain v.canon '\uFEFF' found
        contradiction
      · simp at found
    unfold loads
    rw [if_neg unmarked, skipped, read, same]
    rfl

end PyValue.Writable

/-- What a reader finds under a key of a record's dict. -/
theorem canon_obj_entries (entries : List (String × PyValue)) (key : String) :
    (PyValue.canonFields (entries.map fun f => (PyText.ofString f.1, f.2))).lookup (PyText.ofString key) =
      (entries.lookup key).map PyValue.canon := by
  rw [lookup_pyCanonFields, StoredEvent.lookup_named]

end Molly
