import Mathlib.Data.List.Perm.Basic
import RecordCheck.Proofs.Delimited
import RecordCheck.Proofs.Soundness

/-!
# Fields and elements stand alone

What a validation says of a field does not depend on the other fields of the schema, nor on their order.
The rule of a field sees the record as it was given, with defaults, whatever the other fields became; and
the values of different fields are put under different keys, since a key spells one name at most.  So every
field that is rejected has its node in the error tree, the same as if the schema had no other field, and
none hides another.  The elements of an array are on their own in the same way.
-/

set_option autoImplicit false

namespace RecordCheck

open Coercion

/-! ## Keys of different fields -/

namespace Entries

/-- Values can be put under two keys of a record in either order, if no key is the same as both. -/
theorem put_comm {record : Entries} {key other value otherValue : Value}
    (hkey : ∃ k ∈ record.keys, k.sameKey key = true) (hother : ∃ k ∈ record.keys, k.sameKey other = true)
    (hne : ∀ k : Value, k.sameKey key = true → k.sameKey other = false) :
    (record.put key value).put other otherValue = (record.put other otherValue).put key value := by
  induction record with
  | nil =>
    obtain ⟨k, hk, -⟩ := hkey
    cases hk
  | cons e rest ih =>
    by_cases hsame : e.1.sameKey key = true
    · have hnot := hne e.1 hsame
      simp [put, hsame, hnot]
    · by_cases hsame' : e.1.sameKey other = true
      · simp [put, hsame, hsame']
      · have hrest {sought : Value} (hfirst : ¬ e.1.sameKey sought = true)
            (h : ∃ k ∈ keys (e :: rest), k.sameKey sought = true) :
            ∃ k ∈ keys rest, k.sameKey sought = true := by
          obtain ⟨k, hk, hfound⟩ := h
          rcases List.mem_cons.mp hk with rfl | hk
          · exact absurd hfound hfirst
          · exact ⟨k, hk, hfound⟩
        simp [put, hsame, hsame', ih (hrest hsame hkey) (hrest hsame' hother)]

end Entries

variable {data record : Entries}

/-- The values of fields of different names are put into a record in either order. -/
theorem recordWithField_comm {name other : Value} {s t : String} (hname : name.text? = some s)
    (hother : other.text? = some t) (hne : s ≠ t) (h : record.keys = data.keys) (o p : Outcome) :
    recordWithField data (recordWithField data record name o) other p =
      recordWithField data (recordWithField data record other p) name o := by
  cases hresolve : data.resolve name with
  | none => simp [recordWithField, hresolve]
  | some found =>
    cases hresolve' : data.resolve other with
    | none => simp [recordWithField, hresolve']
    | some found' =>
      cases o with
      | rejected value errors => simp [recordWithField, hresolve, hresolve']
      | accepted value notes =>
        cases p with
        | rejected value errors => simp [recordWithField, hresolve, hresolve']
        | accepted value' notes' =>
          have hlookup := (Entries.resolve_eq_some_iff.mp hresolve).1
          have hlookup' := (Entries.resolve_eq_some_iff.mp hresolve').1
          have hkey := Entries.exists_sameKey_of_lookup (Value.ne_null_of_text? hname) hlookup
          have hkey' := Entries.exists_sameKey_of_lookup (Value.ne_null_of_text? hother) hlookup'
          rw [← h] at hkey hkey'
          simp only [recordWithField, hresolve, hresolve']
          refine Entries.put_comm hkey hkey' fun k hk => ?_
          -- A key that is the same as both would spell both names.
          rw [Bool.eq_false_iff]
          intro hk'
          have hs := Value.spelling?_of_sameKey hk (Entries.spelling?_of_lookup hname hlookup)
          have ht := Value.spelling?_of_sameKey hk' (Entries.spelling?_of_lookup hother hlookup')
          rw [hs, Option.some.injEq] at ht
          exact hne ht

/-- The record with the values of fields does not depend on the order of the fields. -/
theorem recordOfFields_perm {fields others : List (Value × Outcome)} (hnames : HasTextNames fields)
    (h : fields.Perm others) : recordOfFields data fields = recordOfFields data others := by
  have step {record : Entries} (hrecord : record.keys = data.keys) :
      fields.foldl (fun record f => recordWithField data record f.1 f.2) record =
        others.foldl (fun record f => recordWithField data record f.1 f.2) record := by
    induction h generalizing record with
    | nil => rfl
    | cons f _ ih =>
      obtain ⟨s, hs, -, hrest⟩ := hnames.of_cons
      exact ih hrest (keys_recordWithField (Value.ne_null_of_text? hs) hrecord f.2)
    | swap f g rest =>
      obtain ⟨s, hs, hothers, -⟩ := hnames.of_cons
      obtain ⟨t, ht, hne⟩ := hothers f List.mem_cons_self
      simp only [List.foldl_cons]
      rw [recordWithField_comm hs ht hne hrecord]
    | trans hfirst _ ih ih' =>
      exact (ih hnames hrecord).trans (ih' (hnames.perm hfirst) hrecord)
  exact step rfl

/-! ## Nodes of error trees -/

namespace Outcome

/-- Whether a value is rejected with some errors under a key. -/
def HasError (o : Outcome) (key : Value) (errors : ErrorTree) : Prop :=
  ∃ value children, o = .rejected value (.node children) ∧ (key, errors) ∈ children

/-- What the outcome of a record and that of the same record under another schema have in common for a
field that both schemas have: the same errors, by which the second record is rejected if at all, and, if
the first one is accepted, the same entry. -/
structure AgreesAt (whole alone : Outcome) (name : Value) : Prop where
  errors : ∀ errors, whole.HasError name errors ↔ alone.HasError name errors
  rejected : alone.isAccepted = false ↔ ∃ errors, alone.HasError name errors
  entry : ∀ record, whole.accepted? = some (.dict record) → ∃ other,
    alone.accepted? = some (.dict other) ∧ Entries.lookup other name = Entries.lookup record name

/-- Whether two outcomes are the same but for the order in which errors stand side by side. -/
def EqInAnyOrder : Outcome → Outcome → Prop
  | .accepted value notes, .accepted value' notes' => value = value' ∧ notes = notes'
  | .rejected value (.node children), .rejected value' (.node children') =>
    value = value' ∧ children.Perm children'
  | _, _ => False

end Outcome

theorem hasError_mergeFields_iff {fields : List (Value × Outcome)} {key : Value} {errors : ErrorTree} :
    (mergeFields data fields).HasError key errors ↔ (key, errors) ∈ errorsOfFields fields := by
  unfold mergeFields Outcome.HasError
  cases errorsOfFields fields with
  | nil => simp [Outcome.accept]
  | cons first rest =>
    constructor
    · rintro ⟨_, _, ⟨⟩, hmem⟩
      exact hmem
    · exact fun hmem => ⟨_, _, rfl, hmem⟩

theorem hasError_mergeElements_iff {items : List Value} {elements : List Outcome} {key : Value}
    {errors : ErrorTree} :
    (mergeElements items elements).HasError key errors ↔ (key, errors) ∈ errorsOfElements 0 elements := by
  unfold mergeElements Outcome.HasError
  cases errorsOfElements 0 elements with
  | nil => simp [Outcome.accept]
  | cons first rest =>
    constructor
    · rintro ⟨_, _, ⟨⟩, hmem⟩
      exact hmem
    · exact fun hmem => ⟨_, _, rfl, hmem⟩

/-- A record with one field is rejected just when the field is, and with its errors. -/
theorem hasError_mergeFields_singleton_iff {name : Value} {o : Outcome} {errors : ErrorTree} :
    (mergeFields data [(name, o)]).HasError name errors ↔ o.errors? = some errors := by
  simp [hasError_mergeFields_iff, mem_errorsOfFields_iff]

/-- The outcome of a record agrees at every field with that of the record with the field alone. -/
theorem agreesAt_mergeFields {fields : List (Value × Outcome)} {f : Value × Outcome}
    (hnames : HasTextNames fields) (hf : f ∈ fields) :
    (mergeFields data fields).AgreesAt (mergeFields data [f]) f.1 := by
  obtain ⟨name, o⟩ := f
  have hsingle : HasTextNames [(name, o)] := by
    obtain ⟨s, hs⟩ := hnames.exists_text hf
    exact ⟨[s], by simp, by simp [hs]⟩
  refine ⟨fun errors => ?_, ?_, fun record hrecord => ?_⟩
  · rw [hasError_mergeFields_singleton_iff, hasError_mergeFields_iff, mem_errorsOfFields_iff]
    constructor
    · rintro ⟨p, hp, herrors⟩
      cases hnames.eq_of_name hp hf rfl
      exact herrors
    · exact fun herrors => ⟨o, hf, herrors⟩
  · simp only [hasError_mergeFields_singleton_iff]
    cases o <;> simp [mergeFields, errorsOfFields, Outcome.errors?, Outcome.isAccepted, Outcome.accept]
  · obtain ⟨hall, rfl⟩ : (∀ g ∈ fields, g.2.isAccepted = true) ∧
        record = recordOfFields data fields := by
      cases hmerge : mergeFields data fields with
      | rejected value errors =>
        rw [hmerge] at hrecord
        cases hrecord
      | accepted value notes =>
        rw [hmerge] at hrecord
        cases hrecord
        obtain ⟨hall, hvalue, -⟩ := mergeFields_eq_accepted_iff.mp hmerge
        cases hvalue
        exact ⟨hall, rfl⟩
    have halone : mergeFields data [(name, o)] = .accept (.dict (recordOfFields data [(name, o)])) :=
      mergeFields_eq_accepted_iff.mpr ⟨by simpa using hall _ hf, rfl, rfl⟩
    refine ⟨_, by rw [halone]; rfl, ?_⟩
    rw [lookup_recordOfFields hsingle List.mem_cons_self, lookup_recordOfFields hnames hf]

/-- The outcome of a record depends on the order of its fields only in the order of their errors. -/
theorem mergeFields_perm {fields others : List (Value × Outcome)} (hnames : HasTextNames fields)
    (h : fields.Perm others) : (mergeFields data fields).EqInAnyOrder (mergeFields data others) := by
  have herrors : (errorsOfFields fields).Perm (errorsOfFields others) := by
    rw [errorsOfFields_eq_filterMap, errorsOfFields_eq_filterMap]
    exact h.filterMap _
  unfold mergeFields
  rw [recordOfFields_perm hnames h]
  cases hfields : errorsOfFields fields with
  | nil =>
    rw [hfields] at herrors
    rw [← herrors.nil_eq]
    exact ⟨rfl, rfl⟩
  | cons first rest =>
    cases hothers : errorsOfFields others with
    | nil =>
      rw [hfields, hothers] at herrors
      cases herrors.eq_nil
    | cons first' rest' =>
      rw [hfields, hothers] at herrors
      exact ⟨rfl, herrors⟩

/-! ## Fields -/

variable {registry : Custom.Registry} {context : Context}

/-- The fields of a record are validated one by one, in any order. -/
theorem validateFields_perm {fields others : List (Value × Rule)} {outcomes : List (Value × Outcome)}
    (h : Rule.validateFields registry context data fields = .ok outcomes) (hperm : fields.Perm others) :
    ∃ found, Rule.validateFields registry context data others = .ok found ∧ outcomes.Perm found := by
  obtain ⟨found, hfound, hsame⟩ :=
    List.perm_comp_forall₂ hperm.symm (Rule.validateFields_eq_ok_iff.mp h)
  exact ⟨found, Rule.validateFields_eq_ok_iff.mpr hfound, hsame.symm⟩

/-- What it is for the fields of a schema to stand alone in a record: its outcome agrees at every field with
the outcome under the schema that has only this field, there are errors under the names of fields only, and
the order of the fields does not matter. -/
structure Schema.FieldsStandAlone (registry : Custom.Registry) (context : Context) (schema : Schema)
    (entries : Entries) (whole : Outcome) : Prop where
  alone : ∀ f ∈ schema.fields, ∃ alone,
    (Schema.mk [f] schema.defaults).validate registry context (.dict entries) = .ok alone ∧
      whole.AgreesAt alone f.1
  only : ∀ key errors, whole.HasError key errors → ∃ f ∈ schema.fields, f.1 = key
  anyOrder : ∀ fields, schema.fields.Perm fields → ∃ other,
    (Schema.mk fields schema.defaults).validate registry context (.dict entries) = .ok other ∧
      whole.EqInAnyOrder other

/-- The fields of a schema stand alone in every record that is validated without a fault. -/
theorem fieldsStandAlone_of_validate {schema : Schema} (hnames : HasTextNames schema.fields)
    {entries : Entries} {whole : Outcome}
    (h : schema.validate registry context (.dict entries) = .ok whole) :
    schema.FieldsStandAlone registry context entries whole := by
  obtain ⟨outcomes, houtcomes, hmerge⟩ := Attempt.bind_eq_ok_iff.mp h
  cases Attempt.pure_eq_ok_iff.mp hmerge
  have hothers := hnames.of_names (Rule.names_of_validateFields houtcomes)
  refine ⟨fun f hf => ?_, fun key errors herrors => ?_, fun fields hperm => ?_⟩
  · obtain ⟨o, ho, hvalidate⟩ := Rule.exists_outcome_of_validateFields houtcomes hf
    have hsingle : Rule.validateFields registry
        (context.forData (Entries.withDefaults entries schema.defaults))
        (Entries.withDefaults entries schema.defaults) [f] = .ok [(f.1, o)] :=
      Rule.validateFields_eq_ok_iff.mpr (.cons ⟨rfl, hvalidate⟩ .nil)
    refine ⟨mergeFields (Entries.withDefaults entries schema.defaults) [(f.1, o)], ?_,
      agreesAt_mergeFields hothers ho⟩
    rw [Schema.validate, hsingle]
    rfl
  · rw [hasError_mergeFields_iff, mem_errorsOfFields_iff] at herrors
    obtain ⟨o, ho, -⟩ := herrors
    obtain ⟨f, hf, hname, -⟩ :=
      Attempt.exists_mem_of_forall₂' (Rule.validateFields_eq_ok_iff.mp houtcomes) ho
    exact ⟨f, hf, hname⟩
  · obtain ⟨found, hfound, hsame⟩ := validateFields_perm houtcomes hperm
    refine ⟨mergeFields (Entries.withDefaults entries schema.defaults) found, ?_,
      mergeFields_perm hothers hsame⟩
    rw [Schema.validate, hfound]
    rfl

/-! ## Elements -/

/-- The outcome of a value under the rule that is active for another one. -/
def Rule.validateActive (registry : Custom.Registry) (context : Context) (rule : Rule) (value : Value) :
    Attempt Outcome := do
  let (active, required) ← rule.activate context.data
  match active with
  | none => unchecked value required.isTruthy
  | some r => r.validate registry context true value

theorem Rule.validateActive_eq (rule : Rule) (value : Value) :
    rule.validateActive registry context value = rule.validate registry context true value :=
  validate_eq_activate_bind.symm

/-- What it is for the items of an array to stand alone: there are errors just under the indices of those
that are rejected alone under the active rule, and they are the same. -/
structure Rule.ElementsStandAlone (registry : Custom.Registry) (context : Context) (element : Rule)
    (items : List Value) (whole : Outcome) : Prop where
  alone : ∀ item ∈ items, ∃ alone, element.validateActive registry context item = .ok alone
  errors : ∀ key errors, whole.HasError key errors ↔ ∃ (i : Nat) (item value : Value), key = .int i ∧
    items[i]? = some item ∧ element.validateActive registry context item = .ok (.rejected value errors)

/-- A value that no rule looks at has no error under a key. -/
theorem not_hasError_of_unchecked {value : Value} {required : Bool} {o : Outcome}
    (h : unchecked value required = .ok o) (key : Value) (errors : ErrorTree) :
    ¬ o.HasError key errors := by
  rintro ⟨_, children, rfl, -⟩
  unfold unchecked at h
  split at h
  · simp [Outcome.rejectFor, Outcome.reject] at h
  · simp [Outcome.accept] at h

/-- A blank value has no items. -/
theorem eq_nil_of_ensureArray {delimiter value : Value} {convert : Bool} {items : List Value}
    (hblank : value.isBlank = true)
    (h : ensureArray delimiter convert value = .ok (.accept (.list items))) : items = [] := by
  have htext {s : String} (hs : value.text? = some s) : s = "" := by
    cases value <;> simp_all [Value.isBlank, Value.isNull, Value.text?]
  unfold ensureArray at h
  split at h
  · cases hblank
  · cases hblank
  · split at h
    · rename_i s hs
      obtain rfl := htext hs
      split at h
      · cases Attempt.pure_eq_ok_iff.mp h
        exact splitParts_nil _
      · exact absurd h Attempt.refuse_ne_ok
    · exact absurd h rejectFor_ne_accepted

/-- The items of an array stand alone if the array passes its own checks. -/
theorem elementsStandAlone_of_validate {mayBeBlank : Bool} {common : Common} {element : Rule}
    {checks : ArrayChecks} {value notes : Value} {items : List Value} {whole : Outcome}
    (hitems : coerceArray checks context.convert value = .ok (.accepted (.list items) notes))
    (h : (Rule.array common (some element) checks).validate registry context mayBeBlank value =
      .ok whole) : element.ElementsStandAlone registry context items whole := by
  by_cases hblank : (mayBeBlank && value.isBlank) = true
  · obtain ⟨_, ⟨⟩, hgiven, -⟩ := coerceArray_spec hitems
    obtain rfl := eq_nil_of_ensureArray (Bool.and_eq_true_iff.mp hblank).2 hgiven
    rw [Rule.validate, if_pos hblank] at h
    refine ⟨by simp, fun key errors => iff_of_false (not_hasError_of_unchecked h key errors) ?_⟩
    rintro ⟨i, item, value, -, hitem, -⟩
    cases hitem
  · rw [Rule.validate, if_neg hblank, hitems, Attempt.ok_bind] at h
    obtain ⟨selected, hselected, hvalidate⟩ := Attempt.bind_eq_ok_iff.mp h
    obtain ⟨outcomes, houtcomes, hmerge⟩ := Attempt.bind_eq_ok_iff.mp hvalidate
    cases Attempt.pure_eq_ok_iff.mp hmerge
    rw [Attempt.mapM_eq_ok_iff] at houtcomes
    simp only [← element.validateActive_eq] at houtcomes
    refine ⟨fun item hitem => ?_, fun key errors => ?_⟩
    · obtain ⟨o, -, ho⟩ := Attempt.exists_mem_of_forall₂ houtcomes hitem
      exact ⟨o, ho⟩
    · rw [hasError_mergeElements_iff, mem_errorsOfElements_iff]
      constructor
      · rintro ⟨i, o, ho, herrors, rfl⟩
        obtain ⟨item, hitem, hvalidate⟩ := Attempt.getElem?_of_forall₂' houtcomes ho
        cases o with
        | accepted value notes => cases herrors
        | rejected value errors =>
          cases herrors
          exact ⟨i, item, value, by rw [Nat.zero_add], hitem, hvalidate⟩
      · rintro ⟨i, item, value, rfl, hitem, hvalidate⟩
        obtain ⟨o, ho, hvalidate'⟩ := Attempt.getElem?_of_forall₂ houtcomes hitem
        rw [hvalidate] at hvalidate'
        cases hvalidate'
        exact ⟨i, _, ho, rfl, by rw [Nat.zero_add]⟩

/-! ## Records and arrays -/

/-- In whatever a record and an array are validated without a fault, the fields of the one and the items of
the other stand alone.  An array that fails its own checks has no items to look at. -/
theorem validate_standAlone (registry : Custom.Registry) (context : Context) :
    (∀ (schema : Schema) (entries : Entries) (whole : Outcome), HasPlainNames schema.fields →
      schema.validate registry context (.dict entries) = .ok whole →
        schema.FieldsStandAlone registry context entries whole) ∧
    (∀ (mayBeBlank : Bool) (common : Common) (element : Rule) (checks : ArrayChecks)
      (value notes : Value) (items : List Value) (whole : Outcome),
      coerceArray checks context.convert value = .ok (.accepted (.list items) notes) →
      (Rule.array common (some element) checks).validate registry context mayBeBlank value = .ok whole →
        element.ElementsStandAlone registry context items whole) :=
  ⟨fun _ _ _ hnames h => fieldsStandAlone_of_validate hnames.hasTextNames h,
    fun _ _ _ _ _ _ _ _ hitems h => elementsStandAlone_of_validate hitems h⟩

namespace Sample

/-- Three tags of which the second is no text. -/
def spoiledTags : List Value := [.text "red", .int 3, .null]

/-- A parcel without a kind whose size is no number and which has a tag that is no text. -/
def spoiled : Entries := [(.text "size", .text "large"), (.text "tags", .list spoiledTags)]

/-- A rule for arrays of texts. -/
def tags : Rule := .array (unhooked false) (some (anyText false)) ⟨.int 1, .null, .null, .text ","⟩

end Sample

open Sample in
/-- The size and the second tag are rejected, each with an error of its own, and each of the fields and the
tags stands alone. -/
theorem validate_standAlone_sample :
    (∃ whole, parcelSchema.validate (.empty "none") ⟨[], false, []⟩ (.dict spoiled) = .ok whole ∧
        (∃ errors, whole.HasError (.text "size") errors) ∧
        (∃ errors, whole.HasError (.text "tags") errors) ∧
        parcelSchema.FieldsStandAlone (.empty "none") ⟨[], false, []⟩ spoiled whole) ∧
      ∃ whole, tags.validate (.empty "none") ⟨[], false, []⟩ true (.list spoiledTags) = .ok whole ∧
        (∃ errors, whole.HasError (.int 1) errors) ∧
        (anyText false).ElementsStandAlone (.empty "none") ⟨[], false, []⟩ spoiledTags whole := by
  have hboth := validate_standAlone (.empty "none") ⟨[], false, []⟩
  refine ⟨⟨_, rfl, ⟨_, _, _, rfl, List.mem_cons_self⟩,
    ⟨_, _, _, rfl, List.mem_cons_of_mem _ List.mem_cons_self⟩, ?_⟩,
    ⟨_, rfl, ⟨_, _, _, rfl, List.mem_cons_self⟩, ?_⟩⟩
  · exact hboth.1 parcelSchema spoiled _ ⟨["kind", "size", "tags"], by decide, rfl⟩ rfl
  · exact hboth.2 true (unhooked false) (anyText false) ⟨.int 1, .null, .null, .text ","⟩
      (.list spoiledTags) (.list []) spoiledTags _ rfl rfl

end RecordCheck
