import RecordCheck.Proofs.Record

/-!
# Values by their structure

What holds of a value and of all values in it, and what a value is but for the spelling of its texts.  A
text that is a member of an enumeration equals the plain one, so that values which differ in the spelling
of their texts only are equal to the same values.
-/

set_option autoImplicit false

namespace RecordCheck

namespace Value

/-! ## Values within values -/

mutual

/-- Whether something holds of a value, of the items of the lists and tuples in it and of the values of the
mappings in it. -/
def Everywhere (P : Value → Prop) : Value → Prop
  | .list items => P (.list items) ∧ EverywhereInItems P items
  | .tuple items => P (.tuple items) ∧ EverywhereInItems P items
  | .dict entries => P (.dict entries) ∧ EverywhereInEntries P entries
  | v => P v

/-- Whether something holds of some values and of all values in them. -/
def EverywhereInItems (P : Value → Prop) : List Value → Prop
  | [] => True
  | v :: rest => Everywhere P v ∧ EverywhereInItems P rest

/-- Whether something holds of the values of entries and of all values in them. -/
def EverywhereInEntries (P : Value → Prop) : List (Value × Value) → Prop
  | [] => True
  | (_, v) :: rest => Everywhere P v ∧ EverywhereInEntries P rest

end

section

variable {P : Value → Prop}

theorem everywhereInItems_iff {items : List Value} :
    EverywhereInItems P items ↔ ∀ v ∈ items, v.Everywhere P := by
  induction items with
  | nil => simp [EverywhereInItems]
  | cons v rest ih => rw [EverywhereInItems, ih, List.forall_mem_cons]

theorem everywhereInEntries_iff {entries : Entries} :
    EverywhereInEntries P entries ↔ ∀ e ∈ entries, e.2.Everywhere P := by
  induction entries with
  | nil => simp [EverywhereInEntries]
  | cons e rest ih => rw [EverywhereInEntries, ih, List.forall_mem_cons]

theorem Everywhere.self {v : Value} (h : v.Everywhere P) : P v := by
  cases v with
  | list items => exact h.1
  | tuple items => exact h.1
  | dict entries => exact h.1
  | _ => exact h

theorem Everywhere.of_list {items : List Value} (h : (list items).Everywhere P) :
    ∀ v ∈ items, v.Everywhere P := everywhereInItems_iff.mp h.2

theorem Everywhere.of_tuple {items : List Value} (h : (tuple items).Everywhere P) :
    ∀ v ∈ items, v.Everywhere P := everywhereInItems_iff.mp h.2

end

/-! ## Values within records -/

/-- What holds everywhere in the values of a record and in one that is put into it holds everywhere in those
of the record with it. -/
theorem EverywhereInEntries.put {P : Value → Prop} {entries : Entries} {key v : Value}
    (h : EverywhereInEntries P entries) (hv : v.Everywhere P) :
    EverywhereInEntries P (Entries.put entries key v) := by
  induction entries with
  | nil => exact ⟨hv, trivial⟩
  | cons e rest ih =>
    obtain ⟨hfirst, hrest⟩ := h
    rw [Entries.put]
    split
    · exact ⟨hv, hrest⟩
    · exact ⟨hfirst, ih hrest⟩

/-- What holds everywhere in the values of a record and in the defaults holds everywhere in those of the
record with the defaults. -/
theorem EverywhereInEntries.withDefaults {P : Value → Prop} {entries defaults : Entries}
    (h : EverywhereInEntries P entries) (hdefaults : EverywhereInEntries P defaults) :
    EverywhereInEntries P (Entries.withDefaults entries defaults) := by
  have step {merged : Entries} (hmerged : EverywhereInEntries P merged) :
      EverywhereInEntries P (Entries.addDefaults entries defaults merged) := by
    unfold Entries.addDefaults
    induction defaults generalizing merged with
    | nil => exact hmerged
    | cons d rest ih =>
      rw [List.foldl_cons]
      refine ih hdefaults.2 ?_
      split
      · exact hmerged.put hdefaults.1
      · exact hmerged
  exact step h

/-- A field is found with one of the values of the record. -/
theorem EverywhereInEntries.of_resolve {P : Value → Prop} {entries : Entries} {name key v : Value}
    (h : EverywhereInEntries P entries) (hfound : entries.resolve name = some (key, v)) :
    v.Everywhere P := by
  rw [everywhereInEntries_iff] at h
  rcases Entries.lookup_eq_some_iff.mp (Entries.resolve_eq_some_iff.mp hfound).1 with
    ⟨-, hget⟩ | ⟨-, hfind⟩
  · obtain ⟨e, he, rfl⟩ := Option.map_eq_some_iff.mp hget
    exact h e (List.mem_of_find?_eq_some he)
  · exact h (key, v) (List.mem_of_find?_eq_some hfind)

/-! ## Spelling -/

mutual

/-- A value with all texts in it spelled plainly, the keys of mappings left as they are. -/
def respelled : Value → Value
  | .textMember s => .text s
  | .list items => .list (respelledItems items)
  | .dict entries => .dict (respelledEntries entries)
  | v => v

/-- Values with all texts in them spelled plainly. -/
def respelledItems : List Value → List Value
  | [] => []
  | v :: rest => respelled v :: respelledItems rest

/-- Entries with all texts in their values spelled plainly. -/
def respelledEntries : List (Value × Value) → List (Value × Value)
  | [] => []
  | (key, v) :: rest => (key, respelled v) :: respelledEntries rest

end

theorem respelledItems_eq_map (items : List Value) : respelledItems items = items.map respelled := by
  induction items with
  | nil => rfl
  | cons v rest ih => rw [respelledItems, ih, List.map_cons]

theorem respelledEntries_eq_map (entries : Entries) :
    respelledEntries entries = entries.map fun e => (e.1, e.2.respelled) := by
  induction entries with
  | nil => rfl
  | cons e rest ih => rw [respelledEntries, ih, List.map_cons]

@[simp] theorem text?_respelled (v : Value) : v.respelled.text? = v.text? := by
  cases v <;> rfl

@[simp] theorem numeric?_respelled (v : Value) : v.respelled.numeric? = v.numeric? := by
  cases v <;> rfl

/-- Entries are respelled alike before and after something is put among them. -/
theorem respelledEntries_put (entries : Entries) (key v : Value) :
    respelledEntries (Entries.put entries key v) = Entries.put (respelledEntries entries) key v.respelled := by
  induction entries with
  | nil => rfl
  | cons e rest ih =>
    rw [Entries.put, respelledEntries, Entries.put]
    split
    · rfl
    · rw [respelledEntries, ih]

/-- What is sought by its key is found among respelled entries as among the others. -/
theorem findM?_respelledEntries (sought : Value → Attempt Bool) (entries : Entries) :
    (respelledEntries entries).findM? (fun e => sought e.1) = do
      return (← entries.findM? fun e => sought e.1).map fun e => (e.1, e.2.respelled) := by
  induction entries with
  | nil => rfl
  | cons e rest ih =>
    rw [respelledEntries, List.findM?, List.findM?, ih]
    simp only [bind_assoc]
    congr 1
    funext found
    cases found <;> rfl

mutual

/-- A value is equal to another one however the texts in that are spelled. -/
theorem same_respelled : ∀ v w : Value, v.same w.respelled = v.same w
  | .null, w => by cases w <;> rfl
  | .bool b, w => by rw [same, same, numeric?_respelled]
  | .number n, w => by rw [same, same, numeric?_respelled]
  | .text s, w => by rw [same, same, text?_respelled]
  | .textMember s, w => by rw [same, same, text?_respelled]
  | .bytes b, w => by cases w <;> rfl
  | .list items, w => by
    cases w with
    | list others =>
      have hlength : (respelledItems others).length = others.length := by
        rw [respelledItems_eq_map, List.length_map]
      rw [respelled, same, same, hlength, sameList_respelledItems items others]
    | _ => rfl
  | .tuple items, w => by cases w <;> rfl
  | .set items, w => by cases w <;> rfl
  | .dict entries, w => by
    cases w with
    | dict others =>
      have hlength : (respelledEntries others).length = others.length := by
        rw [respelledEntries_eq_map, List.length_map]
      rw [respelled, same, same, hlength, entriesWithin_respelledEntries entries others]
    | _ => rfl
  | .range start stop step, w => by cases w <;> rfl
  | .date d, w => by cases w <;> rfl
  | .dateTime t, w => by cases w <;> rfl
  | .pattern p, w => by cases w <;> rfl
  | .member body, w => by cases w <;> rfl
  | .entry code message details, w => by cases w <;> rfl
  | .result valid value errors, w => by cases w <;> rfl

/-- Values are equal to others in the same places however the texts in those are spelled. -/
theorem sameList_respelledItems :
    ∀ vs ws : List Value, sameList vs (respelledItems ws) = sameList vs ws
  | [], ws => by cases ws <;> rfl
  | v :: vs, [] => rfl
  | v :: vs, w :: ws => by
    rw [respelledItems, sameList, sameList, same_respelled v w, sameList_respelledItems vs ws]

/-- Entries are among others however the texts in those are spelled. -/
theorem entriesWithin_respelledEntries :
    ∀ vs ws : List (Value × Value), entriesWithin vs (respelledEntries ws) = entriesWithin vs ws
  | [], ws => by cases ws <;> rfl
  | (key, v) :: vs, ws => by
    rw [entriesWithin, entriesWithin, findM?_respelledEntries fun k => key.same k, bind_assoc]
    congr 1
    funext found
    cases found with
    | none => rfl
    | some e =>
      rw [pure_bind]
      simp only [Option.map_some]
      rw [same_respelled v e.2, entriesWithin_respelledEntries vs ws]

end

/-- A value is equal to values that differ in the spelling of their texts only alike. -/
theorem same_congr {a b : Value} (h : a.respelled = b.respelled) (v : Value) : v.same a = v.same b := by
  rw [← same_respelled v a, h, same_respelled]

end Value

end RecordCheck
