import RecordCheck.Proofs.Validation

/-!
# The shape of error trees

The errors of a rejected value form a tree that follows the active rules.  A leaf holds at least one entry.
Only records and arrays have nodes, and a node has at least one child: that of a record has children under
names of its fields, in the order of the schema, that of an array under indices of its items, in increasing
order.  The errors come from many places, conversion, constraints, custom validators and hooks among them,
but all of these report errors of the value itself, as a leaf that is not empty; nodes are made only where
outcomes of fields or elements are put together.
-/

set_option autoImplicit false

namespace RecordCheck

open Attempt Coercion

/-! ## Errors of a value itself -/

namespace Outcome

/-- Whether the errors of an outcome, if it is rejected, satisfy a condition. -/
def RejectsOnly (P : ErrorTree → Prop) (o : Outcome) : Prop := ∀ errors, o.errors? = some errors → P errors

theorem RejectsOnly.imp {P Q : ErrorTree → Prop} {o : Outcome} (h : o.RejectsOnly P)
    (hPQ : ∀ errors, P errors → Q errors) : o.RejectsOnly Q := fun errors herrors =>
  hPQ errors (h errors herrors)

theorem rejectsOnly_accepted {P : ErrorTree → Prop} (value notes : Value) :
    (accepted value notes).RejectsOnly P := nofun

theorem rejectsOnly_rejected {P : ErrorTree → Prop} {value : Value} {errors : ErrorTree} (h : P errors) :
    (rejected value errors).RejectsOnly P := by
  rintro _ ⟨⟩
  exact h

end Outcome

/-- Whether a tree is a leaf with at least one entry. -/
def Tree.IsFilledLeaf (errors : ErrorTree) : Prop := ∃ entries, entries ≠ [] ∧ errors = .leaf entries

/-- Whether an outcome, if it is rejected, is so for errors of the value itself. -/
abbrev Outcome.IsLocal : Outcome → Prop := RejectsOnly Tree.IsFilledLeaf

theorem isLocal_reject {value : Value} {entries : List Entry} (h : entries ≠ []) :
    (Outcome.reject value entries).IsLocal := Outcome.rejectsOnly_rejected ⟨entries, h, rfl⟩

theorem isLocal_rejectFor (value : Value) (code : Code) (details : Entries) :
    YieldsOnly Outcome.IsLocal (Outcome.rejectFor value code details) :=
  yieldsOnly_bind fun _ _ => yieldsOnly_pure (isLocal_reject (by simp))

theorem isLocal_accept (value : Value) : YieldsOnly Outcome.IsLocal (pure (Outcome.accept value)) :=
  yieldsOnly_pure (Outcome.rejectsOnly_accepted value _)

theorem isLocal_unchecked (value : Value) (required : Bool) :
    YieldsOnly Outcome.IsLocal (unchecked value required) := by
  unfold unchecked
  split
  · exact isLocal_rejectFor value _ _
  · exact isLocal_accept value

theorem isLocal_absent (required : Bool) : YieldsOnly Outcome.IsLocal (Outcome.absent required) := by
  unfold Outcome.absent
  split
  · exact isLocal_rejectFor _ _ _
  · exact isLocal_accept _

namespace Coercion

theorem isLocal_constrain {confirmed : Outcome} (h : confirmed.IsLocal)
    (check : Value → Attempt (List Entry)) : YieldsOnly Outcome.IsLocal (constrain confirmed check) := by
  cases confirmed with
  | rejected value errors => exact yieldsOnly_pure h
  | accepted value notes =>
    refine yieldsOnly_bind fun entries _ => ?_
    cases entries with
    | nil => exact yieldsOnly_pure (Outcome.rejectsOnly_accepted value notes)
    | cons entry rest => exact yieldsOnly_pure (isLocal_reject (by simp))

theorem isLocal_ensureText (required convert : Bool) (value : Value) :
    YieldsOnly Outcome.IsLocal (ensureText required convert value) := by
  unfold ensureText
  split
  · exact isLocal_rejectFor value _ _
  · split
    · exact isLocal_accept _
    · dsimp only
      split
      · exact isLocal_rejectFor _ _ _
      · exact isLocal_accept _

theorem isLocal_ensureNumber (convert : Bool) (value : Value) :
    YieldsOnly Outcome.IsLocal (ensureNumber convert value) := by
  unfold ensureNumber
  split
  · exact isLocal_rejectFor value _ _
  · split
    · exact isLocal_accept _
    · exact isLocal_rejectFor _ _ _

theorem isLocal_ensureBoolean (words : TruthWords) (convert : Bool) (value : Value) :
    YieldsOnly Outcome.IsLocal (ensureBoolean words convert value) := by
  unfold ensureBoolean
  split
  · exact isLocal_accept value
  · split
    · exact isLocal_rejectFor value _ _
    · refine yieldsOnly_bind fun isTrue _ => ?_
      split
      · exact isLocal_accept _
      · refine yieldsOnly_bind fun isFalse _ => ?_
        split
        · exact isLocal_accept _
        · exact isLocal_rejectFor value _ _

theorem isLocal_ensureDate (convert : Bool) (value : Value) :
    YieldsOnly Outcome.IsLocal (ensureDate convert value) := by
  unfold ensureDate
  split
  · exact isLocal_accept _
  · exact isLocal_accept _
  · dsimp only
    split
    · split
      · refine yieldsOnly_bind fun found _ => ?_
        split
        · exact isLocal_accept _
        · exact isLocal_rejectFor value _ _
      · exact isLocal_rejectFor value _ _
    · exact isLocal_rejectFor value _ _

theorem isLocal_ensureArray (delimiter : Value) (convert : Bool) (value : Value) :
    YieldsOnly Outcome.IsLocal (ensureArray delimiter convert value) := by
  unfold ensureArray
  split
  · exact isLocal_accept _
  · exact isLocal_accept _
  · split
    · split
      · exact isLocal_accept _
      · exact yieldsOnly_error _
    · exact isLocal_rejectFor value _ _

theorem isLocal_coerceArray (checks : ArrayChecks) (convert : Bool) (value : Value) :
    YieldsOnly Outcome.IsLocal (coerceArray checks convert value) :=
  yieldsOnly_bind fun _ h => isLocal_constrain (isLocal_ensureArray _ _ _ _ h) _

/-- A value under a rule without parts is rejected for errors of its own. -/
theorem isLocal_coerce (rule : Rule) (value : Value) (context : Context) :
    YieldsOnly Outcome.IsLocal (coerce rule value context) := by
  cases rule with
  | text common checks =>
    exact yieldsOnly_bind fun _ h => isLocal_constrain (isLocal_ensureText _ _ _ _ h) _
  | number common checks =>
    exact yieldsOnly_bind fun _ h => isLocal_constrain (isLocal_ensureNumber _ _ _ h) _
  | boolean common words => exact isLocal_ensureBoolean words _ value
  | date common => exact isLocal_ensureDate _ value
  | array common element checks => exact isLocal_coerceArray checks _ value
  | object common fields defaults => exact yieldsOnly_error _
  | conditional common field conditions consequent otherwise base => exact yieldsOnly_error _
  | custom common typeName options => exact yieldsOnly_error _

end Coercion

namespace Custom

/-- An answer rejects a value for errors of its own, whatever the answer holds. -/
theorem isLocal_normalize (answer value code : Value) :
    YieldsOnly Outcome.IsLocal (normalize answer value code) := by
  unfold normalize
  split
  · exact isLocal_accept value
  · exact isLocal_accept value
  · exact yieldsOnly_pure (Outcome.rejectsOnly_accepted _ _)
  · refine yieldsOnly_bind fun items _ => yieldsOnly_bind fun entries _ => ?_
    cases entries with
    | nil => exact yieldsOnly_bind fun message _ => yieldsOnly_pure (isLocal_reject (by simp))
    | cons entry rest => exact yieldsOnly_pure (isLocal_reject (by simp))
  · exact yieldsOnly_bind fun shown _ => yieldsOnly_error _

/-- A value under a custom type is rejected for errors of its own. -/
theorem isLocal_dispatch (registry : Registry) (request : Request) (value : Value) (context : Context) :
    YieldsOnly Outcome.IsLocal (dispatch registry request value context) := by
  refine yieldsOnly_bind fun found _ => ?_
  cases found with
  | none => exact isLocal_rejectFor value _ _
  | some validator =>
    dsimp only
    split
    · exact yieldsOnly_bind fun typeName _ => yieldsOnly_pure (isLocal_reject (by simp))
    · exact isLocal_normalize _ _ _

end Custom

/-! ## Trees that follow rules -/

mutual

/-- What the errors of a value under a rule look like, in a record that holds some data. -/
inductive TreeFits (convert : Bool) : Entries → Rule → Value → ErrorTree → Prop
  /-- errors of the value itself, at least one -/
  | leaf {data : Entries} {rule : Rule} {value : Value} {entries : List Entry} (filled : entries ≠ []) :
      TreeFits convert data rule value (.leaf entries)
  /-- errors of fields, where the active rule is one for records -/
  | object {data : Entries} {rule : Rule} {common : Common} {fields : List (Value × Rule)}
      {defaults entries : Entries} {required : Value} {children : List (Value × ErrorTree)}
      (selected : rule.activate data = .ok (some (.object common fields defaults), required))
      (fits : ChildrenFit convert (Entries.withDefaults entries defaults) fields children) :
      TreeFits convert data rule (.dict entries) (.node children)
  /-- errors of items, where the active rule is one for arrays that has a rule for the items -/
  | array {data : Entries} {rule element : Rule} {common : Common} {checks : ArrayChecks}
      {required value notes : Value} {items : List Value} {indices : List Nat}
      {children : List (Value × ErrorTree)}
      (selected : rule.activate data = .ok (some (.array common (some element) checks), required))
      (given : coerceArray checks convert value = .ok (.accepted (.list items) notes))
      (filled : children ≠ []) (increasing : indices.Pairwise (· < ·))
      (keys : children.map (·.1) = indices.map fun i : Nat => .int i)
      (each : ∀ c ∈ children, ItemFits convert data element items c.1 c.2) :
      TreeFits convert data rule value (.node children)

/-- What the errors of an item under the rule for the items of an array look like. -/
inductive ItemFits (convert : Bool) : Entries → Rule → List Value → Value → ErrorTree → Prop
  | intro {data : Entries} {element : Rule} {items : List Value} {i : Nat} {item : Value}
      {errors : ErrorTree} (isItem : items[i]? = some item)
      (fits : TreeFits convert data element item errors) :
      ItemFits convert data element items (.int i) errors

/-- What the errors of one of the fields of a record look like. -/
inductive FieldFits (convert : Bool) : Entries → List (Value × Rule) → Value → ErrorTree → Prop
  /-- the field is missing or blank -/
  | missing {data : Entries} {fields : List (Value × Rule)} {name : Value} {rule : Rule}
      {entries : List Entry} (isField : (name, rule) ∈ fields) (absent : data.resolve name = none)
      (filled : entries ≠ []) : FieldFits convert data fields name (.leaf entries)
  /-- the value of the field is rejected -/
  | present {data : Entries} {fields : List (Value × Rule)} {name key value : Value} {rule : Rule}
      {errors : ErrorTree} (isField : (name, rule) ∈ fields)
      (found : data.resolve name = some (key, value)) (fits : TreeFits convert data rule value errors) :
      FieldFits convert data fields name errors

/-- What the errors of a record with some fields look like: there are errors under names of fields, in the
order of the fields. -/
inductive ChildrenFit (convert : Bool) :
    Entries → List (Value × Rule) → List (Value × ErrorTree) → Prop
  | intro {data : Entries} {fields : List (Value × Rule)} {children : List (Value × ErrorTree)}
      (filled : children ≠ []) (order : (children.map (·.1)).Sublist (fields.map (·.1)))
      (each : ∀ c ∈ children, FieldFits convert data fields c.1 c.2) :
      ChildrenFit convert data fields children

end

section

variable {convert : Bool} {data : Entries} {rule branch : Rule} {value : Value} {errors : ErrorTree}

theorem TreeFits.of_isFilledLeaf (h : errors.IsFilledLeaf) : TreeFits convert data rule value errors := by
  obtain ⟨entries, hfilled, rfl⟩ := h
  exact .leaf hfilled

/-- Errors of a nested record are those of its fields. -/
theorem TreeFits.of_childrenFit {common : Common} {fields : List (Value × Rule)} {defaults entries : Entries}
    (h : ∃ children, errors = .node children ∧
      ChildrenFit convert (Entries.withDefaults entries defaults) fields children) :
    TreeFits convert data (.object common fields defaults) (.dict entries) errors := by
  obtain ⟨children, rfl, hchildren⟩ := h
  exact .object (Rule.activate_of_not_isConditional rfl) hchildren

/-- Errors under the branch that a conditional rule takes are errors under the rule. -/
theorem TreeFits.of_branch (h : TreeFits convert data branch value errors)
    (hbranch : rule.activate data = branch.activate data) : TreeFits convert data rule value errors := by
  cases h with
  | leaf filled => exact .leaf filled
  | object selected fits => exact .object (hbranch.trans selected) fits
  | array selected given filled increasing keys each =>
    exact .array (hbranch.trans selected) given filled increasing keys each

end

/-! ## Merged outcomes -/

/-- The errors of fields stand in the order of the fields. -/
theorem keys_errorsOfFields_sublist (fields : List (Value × Outcome)) :
    ((errorsOfFields fields).map (·.1)).Sublist (fields.map (·.1)) := by
  induction fields with
  | nil => exact .slnil
  | cons f rest ih =>
    rw [errorsOfFields]
    cases f.2.errors? with
    | none => exact ih.cons f.1
    | some errors => exact ih.cons_cons f.1

/-- The errors of elements stand in increasing order. -/
theorem exists_indices_of_errorsOfElements (first : Nat) (elements : List Outcome) :
    ∃ indices : List Nat, indices.Pairwise (· < ·) ∧ (∀ i ∈ indices, first ≤ i) ∧
      (errorsOfElements first elements).map (·.1) = indices.map fun i : Nat => .int i := by
  induction elements generalizing first with
  | nil => exact ⟨[], .nil, by simp, rfl⟩
  | cons o rest ih =>
    obtain ⟨indices, hincreasing, hbound, hkeys⟩ := ih (first + 1)
    rw [errorsOfElements]
    cases o.errors? with
    | none => exact ⟨indices, hincreasing, fun i hi => Nat.le_of_succ_le (hbound i hi), hkeys⟩
    | some errors =>
      refine ⟨first :: indices, .cons hbound hincreasing, ?_, ?_⟩
      · rintro i (_ | ⟨_, hi⟩)
        · exact Nat.le_refl first
        · exact Nat.le_of_succ_le (hbound i hi)
      · rw [List.map_cons, List.map_cons, hkeys]

section

variable {convert : Bool} {data : Entries}

/-- A record is rejected for errors of its fields. -/
theorem childrenFit_mergeFields {fields : List (Value × Rule)} {outcomes : List (Value × Outcome)}
    (hnames : fields.map (·.1) = outcomes.map (·.1))
    (hfits : ∀ f ∈ outcomes, f.2.RejectsOnly (FieldFits convert data fields f.1)) :
    (mergeFields data outcomes).RejectsOnly fun errors =>
      ∃ children, errors = .node children ∧ ChildrenFit convert data fields children := by
  have horder := keys_errorsOfFields_sublist outcomes
  rw [← hnames] at horder
  have heach : ∀ c ∈ errorsOfFields outcomes, FieldFits convert data fields c.1 c.2 := by
    rintro ⟨name, errors⟩ hc
    obtain ⟨o, ho, herrors⟩ := mem_errorsOfFields_iff.mp hc
    exact hfits (name, o) ho errors herrors
  unfold mergeFields
  cases hchildren : errorsOfFields outcomes with
  | nil => exact Outcome.rejectsOnly_accepted _ _
  | cons child rest =>
    rw [hchildren] at horder heach
    exact Outcome.rejectsOnly_rejected ⟨_, rfl, .intro (by simp) horder heach⟩

/-- An array is rejected for errors of its items. -/
theorem treeFits_mergeElements {rule element : Rule} {common : Common} {checks : ArrayChecks}
    {required value notes : Value} {items : List Value} {elements : List Outcome}
    (hselected : rule.activate data = .ok (some (.array common (some element) checks), required))
    (hgiven : coerceArray checks convert value = .ok (.accepted (.list items) notes))
    (hfits : List.Forall₂ (fun item o => o.RejectsOnly (TreeFits convert data element item)) items
      elements) :
    (mergeElements items elements).RejectsOnly (TreeFits convert data rule value) := by
  obtain ⟨indices, hincreasing, -, hkeys⟩ := exists_indices_of_errorsOfElements 0 elements
  have heach : ∀ c ∈ errorsOfElements 0 elements, ItemFits convert data element items c.1 c.2 := by
    rintro ⟨key, errors⟩ hc
    obtain ⟨i, o, ho, herrors, rfl⟩ := mem_errorsOfElements_iff.mp hc
    obtain ⟨item, hitem, hrejects⟩ := getElem?_of_forall₂' hfits ho
    rw [Nat.zero_add]
    exact .intro hitem (hrejects errors herrors)
  unfold mergeElements
  cases hchildren : errorsOfElements 0 elements with
  | nil => exact Outcome.rejectsOnly_accepted _ _
  | cons child rest =>
    rw [hchildren] at hkeys heach
    exact Outcome.rejectsOnly_rejected (.array hselected hgiven (by simp) hincreasing hkeys heach)

end

/-! ## Rules -/

variable {registry : Custom.Registry} {context : Context} {data : Entries}

/-- Whether the errors of a value under a rule, if it comes to any, are as they should be. -/
abbrev Fits (convert : Bool) (data : Entries) (rule : Rule) (value : Value) : Attempt Outcome → Prop :=
  YieldsOnly (Outcome.RejectsOnly (TreeFits convert data rule value))

/-- What the induction over rules shows: the errors of values under a rule are as they should be. -/
def FollowsRule (registry : Custom.Registry) (rule : Rule) : Prop :=
  ∀ (context : Context) (mayBeBlank : Bool) (value : Value),
    Fits context.convert context.data rule value (rule.validate registry context mayBeBlank value)

/-- Errors of a value itself are as they should be under every rule. -/
theorem fits_of_isLocal {convert : Bool} {rule : Rule} {value : Value} {x : Attempt Outcome}
    (h : YieldsOnly Outcome.IsLocal x) : Fits convert data rule value x :=
  h.imp fun _ ho => ho.imp fun _ => .of_isFilledLeaf

/-- The errors of fields are as they should be if they are so under the rules of the fields. -/
theorem rejectsOnly_of_validateFields {fields : List (Value × Rule)} {outcomes : List (Value × Outcome)}
    (hrules : ∀ f ∈ fields, FollowsRule registry f.2)
    (h : Rule.validateFields registry (context.forData data) data fields = .ok outcomes) :
    ∀ f ∈ outcomes, f.2.RejectsOnly (FieldFits context.convert data fields f.1) := by
  rintro ⟨name, o⟩ ho
  obtain ⟨f, hf, rfl, hvalidate⟩ :=
    exists_mem_of_forall₂' (Rule.validateFields_eq_ok_iff.mp h) ho
  obtain ⟨active, required, -, hfield⟩ := validateField_eq_ok_iff.mp hvalidate
  rcases hfield with ⟨habsent, hmissing⟩ | ⟨key, value, hfound, hvalue⟩
  · refine (isLocal_absent _ _ hmissing).imp fun errors herrors => ?_
    obtain ⟨entries, hfilled, rfl⟩ := herrors
    exact .missing hf habsent hfilled
  · exact (hrules f hf _ _ _ _ hvalue).imp fun errors herrors => .present hf hfound herrors

/-- The errors of a record are as they should be if they are so under the rules of the fields. -/
theorem childrenFit_of_validateFields {fields : List (Value × Rule)}
    {outcomes : List (Value × Outcome)} (hrules : ∀ f ∈ fields, FollowsRule registry f.2)
    (h : Rule.validateFields registry (context.forData data) data fields = .ok outcomes) :
    (mergeFields data outcomes).RejectsOnly fun errors =>
      ∃ children, errors = .node children ∧ ChildrenFit context.convert data fields children :=
  childrenFit_mergeFields (Rule.names_of_validateFields h) (rejectsOnly_of_validateFields hrules h)

/-- The errors of an item that is validated are as they should be. -/
theorem forall₂_rejectsOnly {element : Rule} {items : List Value} {outcomes : List Outcome}
    (helement : FollowsRule registry element)
    (h : items.mapM (element.validate registry context true) = .ok outcomes) :
    List.Forall₂ (fun item o => o.RejectsOnly (TreeFits context.convert context.data element item)) items
      outcomes :=
  (mapM_eq_ok_iff.mp h).imp fun item o ho => helement context true item o ho

/-- Under every rule, errors are as they should be. -/
theorem followsRule (registry : Custom.Registry) (rule : Rule) : FollowsRule registry rule := by
  induction rule using Rule.induction with
  | object common fields defaults ih =>
    intro context mayBeBlank value
    unfold Rule.validate
    split
    · exact fits_of_isLocal (isLocal_unchecked value _)
    · split
      · rename_i entries
        refine yieldsOnly_bind fun outcomes houtcomes => yieldsOnly_pure ?_
        exact (childrenFit_of_validateFields ih houtcomes).imp fun errors => .of_childrenFit
      · exact fits_of_isLocal (isLocal_rejectFor value _ _)
  | array common element checks ih =>
    intro context mayBeBlank value
    cases element with
    | none =>
      unfold Rule.validate
      split
      · exact fits_of_isLocal (isLocal_unchecked value _)
      · exact fits_of_isLocal (isLocal_coerce _ value context)
    | some r =>
      unfold Rule.validate
      split
      · exact fits_of_isLocal (isLocal_unchecked value _)
      · refine yieldsOnly_bind fun confirmed hconfirmed => ?_
        split
        · refine yieldsOnly_bind fun selected _ => yieldsOnly_bind fun outcomes houtcomes => ?_
          exact yieldsOnly_pure (treeFits_mergeElements (Rule.activate_of_not_isConditional rfl)
            hconfirmed (forall₂_rejectsOnly (ih r rfl) houtcomes))
        · exact fits_of_isLocal (yieldsOnly_pure (isLocal_coerceArray _ _ _ _ hconfirmed))
  | conditional common field conditions consequent otherwise base ihc iho ihb =>
    intro context mayBeBlank value
    rw [Rule.validate_conditional]
    refine yieldsOnly_bind fun holds hholds => ?_
    cases hbranch : Rule.branch holds consequent otherwise base with
    | none => exact fits_of_isLocal (isLocal_unchecked value _)
    | some r =>
      have hrule : FollowsRule registry r := Rule.forall_branch ihc iho ihb holds r hbranch
      exact (hrule context true value).imp fun o ho => ho.imp fun errors herrors =>
        herrors.of_branch (Rule.activate_conditional_of_branch hholds hbranch)
  | custom common typeName options =>
    intro context mayBeBlank value
    unfold Rule.validate
    split
    · exact fits_of_isLocal (isLocal_unchecked value _)
    · exact fits_of_isLocal (Custom.isLocal_dispatch registry _ value context)
  | _ =>
    intro context mayBeBlank value
    unfold Rule.validate
    split
    · exact fits_of_isLocal (isLocal_unchecked value _)
    · exact fits_of_isLocal (isLocal_coerce _ value context)

/-! ## Schemas -/

/-- The error of something that should be a record and is no mapping. -/
def Entry.invalidData : Entry := ⟨.text "invalid_data", .text "data must be a mapping", []⟩

/-- What an outcome under a schema looks like.  What is accepted is a record, without notes.  A mapping is
rejected for errors of its fields, and anything else for a single error under a key of its own. -/
structure Outcome.IsShaped (convert : Bool) (schema : Schema) (value : Value) (o : Outcome) : Prop where
  accepted : ∀ accepted notes, o = .accepted accepted notes →
    (∃ record, accepted = .dict record) ∧ notes = .list []
  rejected : ∀ entries, value = .dict entries → o.RejectsOnly fun errors =>
    ∃ children, errors = .node children ∧
      ChildrenFit convert (Entries.withDefaults entries schema.defaults) schema.fields children
  notAMapping : value.entries? = none →
    o = .rejected value (.node [(.text "_schema", .leaf [Entry.invalidData])])

/-- What is rejected is no mapping, or has errors of its fields. -/
theorem Outcome.IsShaped.of_rejected {convert : Bool} {schema : Schema} {value rejected : Value}
    {errors : ErrorTree} (h : (Outcome.rejected rejected errors).IsShaped convert schema value) :
    errors = .node [(.text "_schema", .leaf [Entry.invalidData])] ∨
      ∃ entries children, errors = .node children ∧
        ChildrenFit convert (Entries.withDefaults entries schema.defaults) schema.fields children := by
  cases value with
  | dict entries =>
    obtain ⟨children, herrors, hfits⟩ := h.rejected entries rfl errors rfl
    exact .inr ⟨entries, children, herrors, hfits⟩
  | _ =>
    cases h.notAMapping rfl
    exact .inl rfl

/-- The outcome of a record is shaped if its errors are as they should be. -/
theorem isShaped_mergeFields {convert : Bool} {schema : Schema} {entries : Entries}
    {outcomes : List (Value × Outcome)}
    (h : (mergeFields (Entries.withDefaults entries schema.defaults) outcomes).RejectsOnly fun errors =>
      ∃ children, errors = .node children ∧
        ChildrenFit convert (Entries.withDefaults entries schema.defaults) schema.fields children) :
    (mergeFields (Entries.withDefaults entries schema.defaults) outcomes).IsShaped convert schema
      (.dict entries) := by
  refine ⟨fun accepted notes haccepted => ?_, ?_, nofun⟩
  · obtain ⟨-, hvalue, hnotes⟩ := mergeFields_eq_accepted_iff.mp haccepted
    exact ⟨⟨_, hvalue⟩, hnotes⟩
  · rintro _ ⟨⟩
    exact h

/-- What is no mapping is rejected for a single error. -/
theorem isShaped_notARecord {convert : Bool} {schema : Schema} {value : Value}
    (hvalue : value.entries? = none) :
    YieldsOnly (Outcome.IsShaped convert schema value) (notARecord value) := by
  rintro _ ⟨⟩
  refine ⟨nofun, ?_, fun _ => rfl⟩
  rintro entries rfl
  cases hvalue

/-- Whatever the validation of a record in order yields is shaped. -/
theorem isShaped_of_validate (registry : Custom.Registry) (context : Context) (schema : Schema)
    (value : Value) :
    YieldsOnly (Outcome.IsShaped context.convert schema value)
      (schema.validate registry context value) := by
  cases value with
  | dict entries =>
    refine yieldsOnly_bind fun outcomes houtcomes => yieldsOnly_pure (isShaped_mergeFields ?_)
    exact childrenFit_of_validateFields (fun f _ => followsRule registry f.2) houtcomes
  | _ => exact isShaped_notARecord rfl

end RecordCheck
