import Mathlib.Data.List.Nodup
import Chip8.Keymap

/-! Laws of keymaps. A name that is put into a keymap hides what it stood for, and no other name.
Overrides are refused for a number that is no key. Those of a normal keymap are not, and they lie over
the standard names. -/

namespace Chip8.Keymap

variable {m : Keymap} {name other : Text} {key : Int} {entries : List (Text × Int)}

/-- Different names, each in upper case and for a key of the keypad. -/
structure Normal (m : Keymap) : Prop where
  names : (m.entries.map Prod.fst).Nodup
  upper : ∀ entry ∈ m.entries, Text.upper entry.1 = entry.1
  keys : ∀ entry ∈ m.entries, IsKey entry.2

theorem lookup_cons (entry : Text × Int) (rest : List (Text × Int)) (name : Text) :
    (entry :: rest).lookup name = if name = entry.1 then some entry.2 else rest.lookup name := by
  rw [List.lookup_cons]
  by_cases same : name = entry.1
  · simp [same]
  · rw [beq_false_of_ne same, if_neg same]

theorem lookup_insertEntry : (insertEntry name key entries).lookup other =
    if other = name then some key else entries.lookup other := by
  induction entries with
  | nil => rw [insertEntry, lookup_cons]
  | cons entry rest ih =>
    by_cases there : entry.1 = name
    · by_cases same : other = name <;> simp [insertEntry, lookup_cons, there, same]
    · rw [insertEntry, if_neg there, lookup_cons, lookup_cons, ih]
      by_cases here : other = entry.1
      · simp [here, there]
      · simp [here]

theorem get?_insert (m : Keymap) (name other : Text) (key : Int) :
    (m.insert name key).get? other = if other = name then some key else m.get? other :=
  lookup_insertEntry

theorem insertEntry_of_not_mem (absent : name ∉ entries.map Prod.fst) :
    insertEntry name key entries = entries ++ [(name, key)] := by
  induction entries with
  | nil => rfl
  | cons entry rest ih =>
    obtain ⟨different, later⟩ : name ≠ entry.1 ∧ name ∉ rest.map Prod.fst := by simpa using absent
    rw [insertEntry, if_neg different.symm, ih later, List.cons_append]

theorem names_insertEntry_of_mem (present : name ∈ entries.map Prod.fst) :
    (insertEntry name key entries).map Prod.fst = entries.map Prod.fst := by
  induction entries with
  | nil => cases present
  | cons entry rest ih =>
    by_cases here : entry.1 = name
    · simp [insertEntry, here]
    · have later : name ∈ rest.map Prod.fst := by simpa [Ne.symm here] using present
      simp [insertEntry, here, ih later]

theorem mem_insertEntry {entry : Text × Int} (member : entry ∈ insertEntry name key entries) :
    entry = (name, key) ∨ entry ∈ entries := by
  induction entries with
  | nil => exact .inl (List.mem_singleton.mp member)
  | cons first rest ih =>
    unfold insertEntry at member
    split at member
    · exact (List.mem_cons.mp member).imp_right (List.mem_cons_of_mem first)
    · obtain rfl | later := List.mem_cons.mp member
      · exact .inr List.mem_cons_self
      · exact (ih later).imp_right (List.mem_cons_of_mem first)

namespace Normal

theorem empty : Normal {} :=
  ⟨.nil, by simp, by simp⟩

theorem insert (normal : m.Normal) (upper : Text.upper name = name) (inside : IsKey key) :
    (m.insert name key).Normal where
  names := by
    show ((insertEntry name key m.entries).map Prod.fst).Nodup
    by_cases present : name ∈ m.entries.map Prod.fst
    · rw [names_insertEntry_of_mem present]
      exact normal.names
    · rw [insertEntry_of_not_mem present, List.map_append, List.nodup_append]
      refine ⟨normal.names, by simp, ?_⟩
      rintro other member _ single rfl
      obtain rfl : other = name := by simpa using single
      exact present member
  upper entry member := by
    obtain rfl | there := mem_insertEntry member
    · exact upper
    · exact normal.upper entry there
  keys entry member := by
    obtain rfl | there := mem_insertEntry member
    · exact inside
    · exact normal.keys entry there

theorem of_perm (normal : m.Normal) (order : entries.Perm m.entries) : Normal ⟨entries⟩ where
  names := (order.map Prod.fst).nodup_iff.mpr normal.names
  upper entry member := normal.upper entry (order.mem_iff.mp member)
  keys entry member := normal.keys entry (order.mem_iff.mp member)

theorem tail {entry : Text × Int} (normal : Normal ⟨entry :: entries⟩) : Normal ⟨entries⟩ where
  names := (List.nodup_cons.mp normal.names).2
  upper other member := normal.upper other (List.mem_cons_of_mem entry member)
  keys other member := normal.keys other (List.mem_cons_of_mem entry member)

theorem lookup_tail {entry : Text × Int} (normal : Normal ⟨entry :: entries⟩) :
    entries.lookup entry.1 = none := by
  have absent := (List.nodup_cons.mp normal.names).1
  rw [List.lookup_eq_none_iff]
  intro other member
  simp only [bne_iff_ne, ne_eq]
  intro same
  exact absent (same ▸ List.mem_map_of_mem member)

end Normal

/-- What the overrides have no key for stands for what it stood for before. -/
theorem override_of_normal (normal : Normal ⟨entries⟩) (m : Keymap) :
    ∃ overlaid, m.override entries = .ok overlaid ∧
      ∀ name, overlaid.get? name = (entries.lookup name).or (m.get? name) := by
  induction entries generalizing m with
  | nil => exact ⟨m, rfl, fun name => by simp⟩
  | cons entry rest ih =>
    obtain ⟨overlaid, overridden, found⟩ := ih normal.tail (m.insert entry.1 entry.2)
    refine ⟨overlaid, ?_, ?_⟩
    · rw [override, if_pos (normal.keys entry List.mem_cons_self),
        normal.upper entry List.mem_cons_self, overridden]
    · intro name
      rw [found, get?_insert, lookup_cons]
      by_cases same : name = entry.1
      · rw [if_pos same, if_pos same, same, normal.lookup_tail]
        rfl
      · rw [if_neg same, if_neg same]

/-- Overrides are refused exactly if one of them is for no key. -/
theorem override_error_iff (m : Keymap) :
    (∃ e, m.override entries = .error e) ↔ ∃ entry ∈ entries, ¬ IsKey entry.2 := by
  induction entries generalizing m with
  | nil => simp [override]
  | cons entry rest ih =>
    by_cases inside : IsKey entry.2
    · rw [override, if_pos inside, ih]
      simp [inside]
    · simp [override, inside]

end Chip8.Keymap
