import Mathlib.Data.List.Nodup
import RecordCheck.Outcome
import RecordCheck.Proofs.Record

/-!
# Outcomes of records and arrays

A record is accepted just when all its fields are, and an array when all its elements are.  Neither keeps
the notes that custom validators leave on a field or an element.  In a record that is accepted every field
is found under the key that it was found under before, with its new value.
-/

set_option autoImplicit false

namespace RecordCheck

/-! ## Acceptance -/

theorem Outcome.isAccepted_iff {o : Outcome} :
    o.isAccepted = true ↔ ∃ value notes, o = .accepted value notes := by
  cases o <;> simp [isAccepted]

/-- The value of an outcome that is accepted. -/
def Outcome.accepted? : Outcome → Option Value
  | .accepted value _ => some value
  | .rejected .. => none

/-- The value that an attempt accepts. -/
def acceptedBy : Attempt Outcome → Option Value
  | .ok o => o.accepted?
  | .error _ => none

/-- A record is rejected for no field just when all fields are accepted. -/
theorem errorsOfFields_eq_nil_iff {fields : List (Value × Outcome)} :
    errorsOfFields fields = [] ↔ ∀ f ∈ fields, f.2.isAccepted = true := by
  induction fields with
  | nil => simp [errorsOfFields]
  | cons f rest ih =>
    obtain ⟨name, o⟩ := f
    cases o <;> simp [errorsOfFields, Outcome.errors?, Outcome.isAccepted, ih]

/-- An array is rejected for no element just when all elements are accepted. -/
theorem errorsOfElements_eq_nil_iff {first : Nat} {elements : List Outcome} :
    errorsOfElements first elements = [] ↔ ∀ e ∈ elements, e.isAccepted = true := by
  induction elements generalizing first with
  | nil => simp [errorsOfElements]
  | cons o rest ih => cases o <;> simp [errorsOfElements, Outcome.errors?, Outcome.isAccepted, ih]

/-- A record is accepted just when all its fields are, and then with their values put into it. -/
theorem mergeFields_eq_accepted_iff {data : Entries} {fields : List (Value × Outcome)}
    {value notes : Value} :
    mergeFields data fields = .accepted value notes ↔
      (∀ f ∈ fields, f.2.isAccepted = true) ∧ value = .dict (recordOfFields data fields) ∧
        notes = .list [] := by
  rw [← errorsOfFields_eq_nil_iff]
  unfold mergeFields
  cases errorsOfFields fields with
  | nil => simp [Outcome.accept, eq_comm]
  | cons error errors => simp

/-- An array is accepted just when all its elements are, and then with their values. -/
theorem mergeElements_eq_accepted_iff {items : List Value} {elements : List Outcome}
    {value notes : Value} :
    mergeElements items elements = .accepted value notes ↔
      (∀ e ∈ elements, e.isAccepted = true) ∧ value = .list (elements.map Outcome.value) ∧
        notes = .list [] := by
  have herrors : (∀ e ∈ elements, e.isAccepted = true) ↔ errorsOfElements 0 elements = [] :=
    errorsOfElements_eq_nil_iff.symm
  rw [herrors]
  unfold mergeElements
  cases errorsOfElements 0 elements with
  | nil => simp only [Outcome.accept, Outcome.accepted.injEq, true_and, eq_comm]
  | cons error errors => simp

/-! ## Fields of an accepted record -/

/-- Whether fields have plain texts as names, no two of them the same. -/
def HasPlainNames {α : Type} (fields : List (Value × α)) : Prop :=
  ∃ names : List String, names.Nodup ∧ fields.map (·.1) = names.map .text

/-- Whether fields have texts of any kind as names, no two of them the same. -/
def HasTextNames {α : Type} (fields : List (Value × α)) : Prop :=
  ∃ names : List String, names.Nodup ∧ fields.map (·.1.text?) = names.map some

/-- What is found for a field once it was validated. -/
def fieldAfter (data : Entries) (name : Value) (outcome : Outcome) : Option (Value × Value) :=
  match data.resolve name, outcome with
  | some (key, _), .accepted value _ => some (key, value)
  | _, _ => data.lookup name

section

variable {data record : Entries} {name : Value} {s : String}

theorem fieldAfter_of_resolve_eq_none (h : data.resolve name = none) (o : Outcome) :
    fieldAfter data name o = data.lookup name := by
  simp [fieldAfter, h]

theorem fieldAfter_of_resolve {key old : Value} (h : data.resolve name = some (key, old))
    (value notes : Value) : fieldAfter data name (.accepted value notes) = some (key, value) := by
  simp [fieldAfter, h]

/-- Plain texts are texts. -/
theorem HasPlainNames.hasTextNames {α : Type} {fields : List (Value × α)} (h : HasPlainNames fields) :
    HasTextNames fields := by
  obtain ⟨names, hnodup, hnames⟩ := h
  refine ⟨names, hnodup, ?_⟩
  have htexts := congrArg (List.map Value.text?) hnames
  simpa [Function.comp_def, Value.text?] using htexts

theorem HasTextNames.of_cons {α : Type} {f : Value × α} {rest : List (Value × α)}
    (h : HasTextNames (f :: rest)) :
    ∃ s, f.1.text? = some s ∧ (∀ g ∈ rest, ∃ other, g.1.text? = some other ∧ s ≠ other) ∧
      HasTextNames rest := by
  obtain ⟨names, hnodup, hnames⟩ := h
  cases names with
  | nil => cases hnames
  | cons s names =>
    rw [List.map_cons, List.map_cons, List.cons.injEq] at hnames
    obtain ⟨hs, hnames⟩ := hnames
    obtain ⟨hnot, hnodup⟩ := List.nodup_cons.mp hnodup
    refine ⟨s, hs, ?_, names, hnodup, hnames⟩
    intro g hg
    have hmem : g.1.text? ∈ names.map some :=
      hnames ▸ List.mem_map_of_mem (f := fun f : Value × α => f.1.text?) hg
    obtain ⟨other, hother, hname⟩ := List.mem_map.mp hmem
    refine ⟨other, hname.symm, ?_⟩
    rintro rfl
    exact hnot hother

/-- Whether names are texts says nothing about what stands beside them. -/
theorem HasTextNames.of_names {α β : Type} {fields : List (Value × α)} {others : List (Value × β)}
    (h : HasTextNames fields) (hnames : fields.map (·.1) = others.map (·.1)) :
    HasTextNames others := by
  obtain ⟨names, hnodup, hfields⟩ := h
  refine ⟨names, hnodup, ?_⟩
  have htexts := congrArg (List.map Value.text?) hnames
  rw [List.map_map, List.map_map] at htexts
  exact htexts.symm.trans hfields

theorem HasTextNames.exists_text {α : Type} {fields : List (Value × α)} (h : HasTextNames fields)
    {f : Value × α} (hf : f ∈ fields) : ∃ s, f.1.text? = some s := by
  obtain ⟨names, -, hnames⟩ := h
  have hmem : f.1.text? ∈ names.map some :=
    hnames ▸ List.mem_map_of_mem (f := fun f : Value × α => f.1.text?) hf
  obtain ⟨s, -, hs⟩ := List.mem_map.mp hmem
  exact ⟨s, hs.symm⟩

theorem HasTextNames.ne_null {α : Type} {fields : List (Value × α)} (h : HasTextNames fields) :
    ∀ f ∈ fields, f.1 ≠ .null := by
  intro f hf
  obtain ⟨s, hs⟩ := h.exists_text hf
  exact Value.ne_null_of_text? hs

/-- Fields have texts as names just when every name is a text and none occurs twice. -/
theorem hasTextNames_iff {α : Type} {fields : List (Value × α)} :
    HasTextNames fields ↔
      (∀ f ∈ fields, ∃ s, f.1.text? = some s) ∧ (fields.map (·.1.text?)).Nodup := by
  constructor
  · intro h
    refine ⟨fun f hf => h.exists_text hf, ?_⟩
    obtain ⟨names, hnodup, hnames⟩ := h
    rw [hnames]
    exact hnodup.map fun _ _ => Option.some.inj
  · rintro ⟨htexts, hnodup⟩
    have hnames : fields.map (·.1.text?) = (fields.filterMap (·.1.text?)).map some := by
      clear hnodup
      induction fields with
      | nil => rfl
      | cons f rest ih =>
        obtain ⟨⟨s, hs⟩, hrest⟩ := List.forall_mem_cons.mp htexts
        simp [hs, ih hrest]
    rw [hnames] at hnodup
    exact ⟨_, hnodup.of_map some, hnames⟩

/-- The order of fields says nothing about their names. -/
theorem HasTextNames.perm {α : Type} {fields others : List (Value × α)} (h : HasTextNames fields)
    (hperm : fields.Perm others) : HasTextNames others := by
  rw [hasTextNames_iff] at h ⊢
  obtain ⟨htexts, hnodup⟩ := h
  exact ⟨fun f hf => htexts f (hperm.mem_iff.mpr hf), (hperm.map _).nodup_iff.mp hnodup⟩

/-- There is one field of a name. -/
theorem HasTextNames.eq_of_name {α : Type} {fields : List (Value × α)} (h : HasTextNames fields)
    {f g : Value × α} (hf : f ∈ fields) (hg : g ∈ fields) (hname : f.1 = g.1) : f = g :=
  List.inj_on_of_nodup_map (hasTextNames_iff.mp h).2 hf hg (congrArg Value.text? hname)

theorem lookup_recordWithField_of_ne {field : Value} {other : String} (hname : name.text? = some s)
    (hfield : field.text? = some other) (hne : s ≠ other) (o : Outcome) :
    (recordWithField data record field o).lookup name = record.lookup name := by
  unfold recordWithField
  split
  · rename_i key value accepted notes hresolve
    have hkey := Entries.spelling?_of_lookup hfield (Entries.resolve_eq_some_iff.mp hresolve).1
    exact Entries.lookup_put_of_ne hname hkey hne
  · rfl

theorem lookup_recordWithField (hname : name.text? = some s) (h : record.lookup name = data.lookup name)
    (o : Outcome) : (recordWithField data record name o).lookup name = fieldAfter data name o := by
  unfold recordWithField fieldAfter
  cases hresolve : data.resolve name with
  | none => exact h
  | some found =>
    obtain ⟨key, old⟩ := found
    cases o with
    | rejected value errors => exact h
    | accepted value notes =>
      have hlookup := h.trans (Entries.resolve_eq_some_iff.mp hresolve).1
      exact Entries.lookup_put hname hlookup

/-- A value that is put into a record for a field gets no key of its own. -/
theorem keys_recordWithField (hname : name ≠ .null) (h : record.keys = data.keys) (o : Outcome) :
    (recordWithField data record name o).keys = data.keys := by
  unfold recordWithField
  split
  · rename_i key value accepted notes hresolve
    have hkey := Entries.exists_sameKey_of_lookup hname (Entries.resolve_eq_some_iff.mp hresolve).1
    rw [← h] at hkey
    rw [Entries.keys_put hkey, h]
  · exact h

/-- The fields of a record that have other names are found as before. -/
theorem lookup_foldl_recordWithField_of_ne {fields : List (Value × Outcome)}
    (hname : name.text? = some s) (h : ∀ f ∈ fields, ∃ other, f.1.text? = some other ∧ s ≠ other) :
    (fields.foldl (fun record f => recordWithField data record f.1 f.2) record).lookup name =
      record.lookup name := by
  induction fields generalizing record with
  | nil => rfl
  | cons f rest ih =>
    obtain ⟨⟨other, hother, hne⟩, hrest⟩ := List.forall_mem_cons.mp h
    rw [List.foldl_cons, ih hrest, lookup_recordWithField_of_ne hname hother hne]

/-- Every field of a record with new values is found with its own, under the key it had before. -/
theorem lookup_recordOfFields {fields : List (Value × Outcome)} {o : Outcome}
    (hnames : HasTextNames fields) (h : (name, o) ∈ fields) :
    (recordOfFields data fields).lookup name = fieldAfter data name o := by
  have step {record : Entries} (hrecord : record.lookup name = data.lookup name) :
      (fields.foldl (fun record f => recordWithField data record f.1 f.2) record).lookup name =
        fieldAfter data name o := by
    induction fields generalizing record with
    | nil => cases h
    | cons f rest ih =>
      obtain ⟨s, hs, hothers, hrest⟩ := hnames.of_cons
      rw [List.foldl_cons]
      rcases List.mem_cons.mp h with rfl | hmem
      · rw [lookup_foldl_recordWithField_of_ne hs hothers]
        exact lookup_recordWithField hs hrecord o
      · obtain ⟨other, hother, hne⟩ := hothers _ hmem
        refine ih hrest hmem ?_
        rw [lookup_recordWithField_of_ne hother hs hne.symm, hrecord]
  exact step rfl

/-- A record with new values has the same keys in the same order. -/
theorem keys_recordOfFields {fields : List (Value × Outcome)} (hnames : ∀ f ∈ fields, f.1 ≠ .null) :
    (recordOfFields data fields).keys = data.keys := by
  have step {record : Entries} (hrecord : record.keys = data.keys) :
      (fields.foldl (fun record f => recordWithField data record f.1 f.2) record).keys =
        data.keys := by
    induction fields generalizing record with
    | nil => exact hrecord
    | cons f rest ih =>
      obtain ⟨hfirst, hrest⟩ := List.forall_mem_cons.mp hnames
      rw [List.foldl_cons]
      exact ih hrest (keys_recordWithField hfirst hrecord f.2)
  exact step rfl

/-- A record is left as it is if each of its fields leaves it so. -/
theorem recordOfFields_eq_self {fields : List (Value × Outcome)}
    (h : ∀ f ∈ fields, recordWithField record record f.1 f.2 = record) :
    recordOfFields record fields = record := by
  unfold recordOfFields
  induction fields with
  | nil => rfl
  | cons f rest ih =>
    obtain ⟨hfirst, hrest⟩ := List.forall_mem_cons.mp h
    rw [List.foldl_cons, hfirst, ih hrest]

end

/-! ## Errors by field and by index -/

/-- The errors of a record are those of its fields, under their names. -/
theorem errorsOfFields_eq_filterMap (fields : List (Value × Outcome)) :
    errorsOfFields fields = fields.filterMap fun f => f.2.errors?.map (f.1, ·) := by
  induction fields with
  | nil => rfl
  | cons f rest ih =>
    rw [errorsOfFields, ih]
    cases herrors : f.2.errors? <;> simp [herrors]

theorem mem_errorsOfFields_iff {fields : List (Value × Outcome)} {name : Value} {errors : ErrorTree} :
    (name, errors) ∈ errorsOfFields fields ↔
      ∃ o, (name, o) ∈ fields ∧ o.errors? = some errors := by
  simp [errorsOfFields_eq_filterMap]

/-- The errors of an array are those of its elements, under their indices. -/
theorem mem_errorsOfElements_iff {first : Nat} {elements : List Outcome} {key : Value}
    {errors : ErrorTree} :
    (key, errors) ∈ errorsOfElements first elements ↔
      ∃ i o, elements[i]? = some o ∧ o.errors? = some errors ∧ key = .int (first + i : Nat) := by
  induction elements generalizing first with
  | nil => simp [errorsOfElements]
  | cons o rest ih =>
    have hsplit : (key, errors) ∈ errorsOfElements first (o :: rest) ↔
        (o.errors? = some errors ∧ key = .int first) ∨
          (key, errors) ∈ errorsOfElements (first + 1) rest := by
      rw [errorsOfElements]
      cases o.errors? with
      | none => simp
      | some found => simp [eq_comm, and_comm]
    rw [hsplit, ih]
    constructor
    · rintro (⟨herrors, rfl⟩ | ⟨i, p, hi, herrors, rfl⟩)
      · exact ⟨0, o, rfl, herrors, rfl⟩
      · exact ⟨i + 1, p, hi, herrors, by rw [Nat.add_right_comm, Nat.add_assoc]⟩
    · rintro ⟨i, p, hi, herrors, rfl⟩
      cases i with
      | zero =>
        cases hi
        exact .inl ⟨herrors, rfl⟩
      | succ i => exact .inr ⟨i, p, hi, herrors, by rw [Nat.add_right_comm, Nat.add_assoc]⟩

/-! ## Notes -/

/-- An outcome without the notes on an accepted value. -/
def Outcome.withoutNotes : Outcome → Outcome
  | .accepted value _ => .accept value
  | .rejected value errors => .rejected value errors

namespace Outcome

@[simp] theorem errors?_withoutNotes (o : Outcome) : o.withoutNotes.errors? = o.errors? := by
  cases o <;> rfl

@[simp] theorem value_withoutNotes (o : Outcome) : o.withoutNotes.value = o.value := by
  cases o <;> rfl

end Outcome

/-- Fields with outcomes, the notes left out. -/
def fieldsWithoutNotes (fields : List (Value × Outcome)) : List (Value × Outcome) :=
  fields.map fun f => (f.1, f.2.withoutNotes)

theorem recordWithField_withoutNotes (data record : Entries) (name : Value) (o : Outcome) :
    recordWithField data record name o.withoutNotes = recordWithField data record name o := by
  unfold recordWithField
  cases o <;> cases data.resolve name <;> rfl

theorem errorsOfFields_withoutNotes (fields : List (Value × Outcome)) :
    errorsOfFields (fieldsWithoutNotes fields) = errorsOfFields fields := by
  induction fields with
  | nil => rfl
  | cons f rest ih =>
    unfold fieldsWithoutNotes at ih
    simp [fieldsWithoutNotes, errorsOfFields, ih]

theorem errorsOfElements_withoutNotes (first : Nat) (elements : List Outcome) :
    errorsOfElements first (elements.map Outcome.withoutNotes) = errorsOfElements first elements := by
  induction elements generalizing first with
  | nil => rfl
  | cons o rest ih => simp [errorsOfElements, ih]

theorem recordOfFields_withoutNotes (data : Entries) (fields : List (Value × Outcome)) :
    recordOfFields data (fieldsWithoutNotes fields) = recordOfFields data fields := by
  simp only [recordOfFields, fieldsWithoutNotes, List.foldl_map, recordWithField_withoutNotes]

/-- A record does not keep the notes on its fields. -/
theorem mergeFields_withoutNotes (data : Entries) (fields : List (Value × Outcome)) :
    mergeFields data (fieldsWithoutNotes fields) = mergeFields data fields := by
  rw [mergeFields, mergeFields, errorsOfFields_withoutNotes, recordOfFields_withoutNotes]

/-- An array does not keep the notes on its elements. -/
theorem mergeElements_withoutNotes (items : List Value) (elements : List Outcome) :
    mergeElements items (elements.map Outcome.withoutNotes) = mergeElements items elements := by
  have hvalues : (elements.map Outcome.withoutNotes).map Outcome.value = elements.map Outcome.value := by
    simp
  rw [mergeElements, mergeElements, errorsOfElements_withoutNotes, hvalues]

/-- Outcomes of the same fields that differ in notes make the same record. -/
theorem mergeFields_zip {data : Entries} {fields : List (Value × Outcome)} {found : List Outcome}
    (h : List.Forall₂ (fun f o => o.withoutNotes = f.2.withoutNotes) fields found) :
    mergeFields data ((fields.map (·.1)).zip found) = mergeFields data fields := by
  have hsame : fieldsWithoutNotes ((fields.map (·.1)).zip found) = fieldsWithoutNotes fields := by
    induction h with
    | nil => rfl
    | cons hfirst _ ih =>
      unfold fieldsWithoutNotes at ih
      simp [fieldsWithoutNotes, hfirst, ih]
  rw [← mergeFields_withoutNotes, hsame, mergeFields_withoutNotes]

/-- Outcomes of the same elements that differ in notes make the same array. -/
theorem mergeElements_of_forall₂ {items : List Value} {elements found : List Outcome}
    (h : List.Forall₂ (fun e o => o.withoutNotes = e.withoutNotes) elements found) :
    mergeElements items found = mergeElements items elements := by
  have hsame : found.map Outcome.withoutNotes = elements.map Outcome.withoutNotes := by
    induction h with
    | nil => rfl
    | cons hfirst _ ih => rw [List.map_cons, List.map_cons, hfirst, ih]
  rw [← mergeElements_withoutNotes, hsame, mergeElements_withoutNotes]

/-! ## Accepted values -/

/-- Fields that are accepted, without notes, none if one of them is not. -/
def acceptedFields : List (Value × Outcome) → Option (List (Value × Outcome))
  | [] => some []
  | (name, o) :: rest =>
    o.accepted?.bind fun value => (acceptedFields rest).map ((name, .accept value) :: ·)

theorem acceptedFields_eq_ite (fields : List (Value × Outcome)) :
    acceptedFields fields =
      if errorsOfFields fields = [] then some (fieldsWithoutNotes fields) else none := by
  induction fields with
  | nil => rfl
  | cons f rest ih =>
    obtain ⟨name, o⟩ := f
    cases o with
    | rejected value errors => rfl
    | accepted value notes =>
      have herrors : errorsOfFields ((name, .accepted value notes) :: rest) = errorsOfFields rest := rfl
      rw [herrors, acceptedFields, ih]
      by_cases hrest : errorsOfFields rest = []
      · rw [if_pos hrest, if_pos hrest]
        rfl
      · rw [if_neg hrest, if_neg hrest]
        rfl

/-- The value that a record is accepted with. -/
theorem accepted?_mergeFields (data : Entries) (fields : List (Value × Outcome)) :
    (mergeFields data fields).accepted? =
      (acceptedFields fields).map fun found => .dict (recordOfFields data found) := by
  rw [acceptedFields_eq_ite, mergeFields]
  cases errorsOfFields fields with
  | nil =>
    rw [if_pos rfl, Option.map_some, recordOfFields_withoutNotes]
    rfl
  | cons error errors => rfl

theorem mapM_accepted?_eq_ite (first : Nat) (elements : List Outcome) :
    elements.mapM Outcome.accepted? =
      if errorsOfElements first elements = [] then some (elements.map Outcome.value) else none := by
  induction elements generalizing first with
  | nil => rfl
  | cons o rest ih =>
    rw [List.mapM_cons, ih (first + 1)]
    cases o with
    | rejected value errors => rfl
    | accepted value notes =>
      have herrors : errorsOfElements first (.accepted value notes :: rest) =
          errorsOfElements (first + 1) rest := rfl
      rw [herrors]
      by_cases hrest : errorsOfElements (first + 1) rest = []
      · rw [if_pos hrest, if_pos hrest]
        rfl
      · rw [if_neg hrest, if_neg hrest]
        rfl

/-- The value that an array is accepted with. -/
theorem accepted?_mergeElements (items : List Value) (elements : List Outcome) :
    (mergeElements items elements).accepted? = (elements.mapM Outcome.accepted?).map .list := by
  rw [mapM_accepted?_eq_ite 0, mergeElements]
  cases errorsOfElements 0 elements with
  | nil => rfl
  | cons error errors => rfl

end RecordCheck
