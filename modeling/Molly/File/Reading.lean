import Molly.File.RoundTrip

/-! What `json.loads` can make of any text: values whose integers have decimal texts and
whose strings hold no surrogate pair, which freezing keeps. -/
namespace Molly

/-- A value with a text and without surrogate pairs, as every value is that is read. -/
def PyValue.Clean (v : PyValue) : Prop := v.fits = true ∧ v.Unpaired

def CleanFields (fields : PyFields) : Prop := ∀ f ∈ fields, f.1.Unpaired ∧ f.2.Clean

theorem clean_obj {fields : PyFields} : (PyValue.obj fields).Clean ↔ CleanFields fields := by
  have fits : (PyValue.obj fields).fits = true ↔ ∀ f ∈ fields, f.2.fits = true := fitsFields_iff
  have unpaired : (PyValue.obj fields).Unpaired ↔ ∀ f ∈ fields, f.1.Unpaired ∧ f.2.Unpaired := unpairedFields_iff
  rw [PyValue.Clean, fits, unpaired]
  constructor
  · intro both f member
    exact ⟨(both.2 f member).1, both.1 f member, (both.2 f member).2⟩
  · intro each
    exact ⟨fun f member => (each f member).2.1, fun f member => ⟨(each f member).1, (each f member).2.2⟩⟩

theorem clean_arr {items : List PyValue} : (PyValue.arr items).Clean ↔ ∀ v ∈ items, v.Clean := by
  induction items with
  | nil => simp [PyValue.Clean, PyValue.fits, PyValue.fitsItems, PyValue.Unpaired, PyValue.UnpairedItems]
  | cons item items ih =>
    simp only [PyValue.Clean, PyValue.fits, PyValue.Unpaired] at ih
    simp only [PyValue.Clean, PyValue.fits, PyValue.fitsItems, PyValue.Unpaired, PyValue.UnpairedItems,
      Bool.and_eq_true, List.mem_cons, forall_eq_or_imp, ← ih]
    exact ⟨fun both => ⟨⟨both.1.1, both.2.1⟩, both.1.2, both.2.2⟩, fun both => ⟨⟨both.1.1, both.2.1⟩, both.1.2, both.2.2⟩⟩

theorem clean_setItem {fields : PyFields} {key : PyText} {item : PyValue} (clean : CleanFields fields)
    (named : key.Unpaired) (kept : item.Clean) : CleanFields (setItem fields key item) := by
  intro f member
  unfold setItem at member
  split at member
  · obtain ⟨g, found, rfl⟩ := List.mem_map.mp member
    split
    · exact ⟨named, kept⟩
    · exact clean g found
  · rcases List.mem_append.mp member with member | member
    · exact clean f member
    · obtain rfl : f = (key, item) := by simpa using member
      exact ⟨named, kept⟩

theorem scanString_unpaired {cs : List Char} (scanned : scanString cs = .ok (text, rest)) : text.Unpaired := by
  unfold scanString at scanned
  split at scanned
  · rename_i units left split
    cases scanned
    exact (joinUnits_unpaired units).1
  · cases scanned

theorem scanWord_clean {cs : List Char} (scanned : scanWord cs = some (v, rest)) : v.Clean := by
  obtain ⟨entry, member, found⟩ := List.exists_of_findSome?_eq_some scanned
  obtain ⟨left, _, same⟩ := Option.map_eq_some_iff.mp found
  cases same
  simp only [words, List.mem_cons, List.not_mem_nil, or_false] at member
  rcases member with rfl | rfl | rfl | rfl | rfl | rfl <;> exact ⟨rfl, trivial⟩

theorem scanNumberValue_clean {cs : List Char} (scanned : scanNumberValue cs = .ok (v, rest)) : v.Clean := by
  unfold scanNumberValue at scanned
  split at scanned
  · cases scanned
  · split at scanned
    · rename_i small
      cases scanned
      exact ⟨by simpa only [PyValue.fits] using small, trivial⟩
    · cases scanned
  · split at scanned
    · cases scanned
      exact ⟨rfl, trivial⟩
    · cases scanned
      exact ⟨rfl, trivial⟩

/-- One step of fuel: values, members and items are clean when those they hold are. -/
theorem scan_clean (fuel : Nat) :
    (∀ cs v rest, scanOnce fuel cs = .ok (v, rest) → v.Clean) ∧
    (∀ fields cs v rest, CleanFields fields → scanMembers fuel fields cs = .ok (v, rest) → v.Clean) ∧
    (∀ items cs v rest, (∀ i ∈ items, PyValue.Clean i) → scanItems fuel items cs = .ok (v, rest) → v.Clean) := by
  induction fuel with
  | zero =>
    refine ⟨?_, ?_, ?_⟩
    · intro cs v rest scanned
      cases scanned
    · intro fields cs v rest _ scanned
      cases scanned
    · intro items cs v rest _ scanned
      cases scanned
  | succ fuel ih =>
    obtain ⟨once, members, items⟩ := ih
    refine ⟨?_, ?_, ?_⟩
    · intro cs v rest scanned
      unfold scanOnce at scanned
      split at scanned
      · cases scanned
      · rename_i c more
        split at scanned
        · split at scanned
          · rename_i text left read
            cases scanned
            exact ⟨rfl, scanString_unpaired read⟩
          · cases scanned
        · split at scanned
          · split at scanned
            · cases scanned
              exact ⟨rfl, trivial⟩
            · exact members _ _ _ _ (by simp [CleanFields]) scanned
          · split at scanned
            · split at scanned
              · cases scanned
                exact ⟨rfl, trivial⟩
              · exact items _ _ _ _ (by simp) scanned
            · split at scanned
              · rename_i found word
                cases scanned
                exact scanWord_clean word
              · exact scanNumberValue_clean scanned
    · intro fields cs v rest clean scanned
      unfold scanMembers at scanned
      split at scanned
      · split at scanned
        · cases scanned
        · rename_i key left read
          split at scanned
          · split at scanned
            · cases scanned
            · rename_i item after value
              have kept := clean_setItem clean (scanString_unpaired read) (once _ _ _ value)
              split at scanned
              · cases scanned
                exact clean_obj.mpr kept
              · exact members _ _ _ _ kept scanned
              · cases scanned
          · cases scanned
      · cases scanned
    · intro acc cs v rest clean scanned
      unfold scanItems at scanned
      split at scanned
      · cases scanned
      · rename_i item after value
        have kept : ∀ i ∈ acc ++ [item], PyValue.Clean i := by
          intro i member
          rcases List.mem_append.mp member with member | member
          · exact clean i member
          · obtain rfl : i = item := by simpa using member
            exact once _ _ _ value
        split at scanned
        · cases scanned
          exact clean_arr.mpr kept
        · exact items _ _ _ _ kept scanned
        · cases scanned

theorem loads_clean {cs : List Char} (read : loads cs = .ok v) : v.Clean := by
  unfold loads at read
  split at read
  · cases read
  · split at read
    · cases read
    · rename_i value rest scanned
      split at read
      · cases read
        exact (scan_clean _).1 _ _ _ scanned
      · cases read

mutual
/-- Freezing keeps a value clean. -/
theorem clean_canon : ∀ {v : PyValue}, v.Clean → v.canon.Clean
  | .null, clean | .bool _, clean | .int _, clean | .float _, clean | .nonFinite _, clean | .str _, clean => by
    simpa only [PyValue.canon] using clean
  | .arr items, clean => by
    simp only [PyValue.canon]
    exact clean_arr.mpr (clean_canonItems items (clean_arr.mp clean))
  | .obj fields, clean => by
    simp only [PyValue.canon]
    refine clean_obj.mpr fun f member => ?_
    obtain ⟨g, found, rfl⟩ := mem_pyCanonFields member
    exact clean_canonEach fields (clean_obj.mp clean) g found

theorem clean_canonItems : ∀ items : List PyValue, (∀ v ∈ items, v.Clean) → ∀ v ∈ PyValue.canonItems items, v.Clean
  | [], _, _, member => by cases member
  | item :: items, clean, v, member => by
    rcases List.mem_cons.mp member with rfl | member
    · exact clean_canon (clean item List.mem_cons_self)
    · exact clean_canonItems items (fun v found => clean v (List.mem_cons_of_mem _ found)) v member

theorem clean_canonEach : ∀ fields : PyFields, CleanFields fields → ∀ f ∈ fields, f.1.Unpaired ∧ f.2.canon.Clean
  | (key, item) :: fields, clean, f, member => by
    rcases List.mem_cons.mp member with rfl | member
    · obtain ⟨named, kept⟩ := clean (key, item) List.mem_cons_self
      exact ⟨named, clean_canon kept⟩
    · exact clean_canonEach fields (fun g found => clean g (List.mem_cons_of_mem _ found)) f member
end

theorem clean_canonFields {fields : PyFields} (clean : CleanFields fields) : CleanFields (PyValue.canonFields fields) := by
  intro f member
  obtain ⟨g, found, rfl⟩ := mem_pyCanonFields member
  exact clean_canonEach fields clean g found

end Molly
