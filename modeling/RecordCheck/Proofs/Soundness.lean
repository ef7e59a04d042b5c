import RecordCheck.Proofs.Validation

/-!
# What is accepted satisfies the schema

What a schema asks of a record is said by relations between the record as it was given and the record that
came of it.  A field is looked at in the record with its defaults, where the conditions of conditional
rules are evaluated too.  Validation keeps to these relations: whatever it accepts stands in them.
-/

set_option autoImplicit false

namespace RecordCheck

open Coercion

/-! ## What rules ask -/

mutual

/-- What a rule that is not conditional asks of a value in a record that holds some data, and of what the
value became. -/
inductive ValueSatisfies (convert : Bool) : Entries → Rule → Value → Value → Prop
  /-- a text that violates no constraint -/
  | text {data : Entries} {common : Common} {checks : TextChecks} {input output : Value} {s : String}
      (isText : output.text? = some s) (hold : checks.Hold s) :
      ValueSatisfies convert data (.text common checks) input output
  /-- a finite number that violates no constraint -/
  | number {data : Entries} {common : Common} {checks : NumberChecks} {input : Value} {n : Number}
      (finite : n.isFinite = true) (hold : checks.Hold n) :
      ValueSatisfies convert data (.number common checks) input (.number n)
  /-- a truth value -/
  | boolean {data : Entries} {common : Common} {words : TruthWords} {input : Value} {b : Bool} :
      ValueSatisfies convert data (.boolean common words) input (.bool b)
  /-- a date, with or without a time of day -/
  | date {data : Entries} {common : Common} {input output : Value} (isDate : output.isDate = true) :
      ValueSatisfies convert data (.date common) input output
  /-- a record that satisfies the fields -/
  | object {data : Entries} {common : Common} {fields : List (Value × Rule)}
      {defaults entries record : Entries}
      (satisfied : RecordSatisfies convert fields (Entries.withDefaults entries defaults) record) :
      ValueSatisfies convert data (.object common fields defaults) (.dict entries) (.dict record)
  /-- a list whose size is within the bounds, of any items -/
  | array {data : Entries} {common : Common} {checks : ArrayChecks} {input : Value} {items : List Value}
      (given : ensureArray checks.delimiter convert input = .ok (.accept (.list items)))
      (fit : checks.Fit items.length) :
      ValueSatisfies convert data (.array common none checks) input (.list items)
  /-- a list whose size is within the bounds, of items that satisfy a rule in their places -/
  | arrayOf {data : Entries} {common : Common} {element : Rule} {checks : ArrayChecks} {input : Value}
      {items elements : List Value}
      (given : ensureArray checks.delimiter convert input = .ok (.accept (.list items)))
      (fit : checks.Fit elements.length) (size : elements.length = items.length)
      (places : ∀ item ∈ items.zip elements, PlaceSatisfies convert data element item.1 item.2) :
      ValueSatisfies convert data (.array common (some element) checks) input (.list elements)

/-- What a rule asks of a value in a place that may be left blank, such as the place of an item, and of what
the value became. -/
inductive PlaceSatisfies (convert : Bool) : Entries → Rule → Value → Value → Prop
  /-- a blank value is left alone, and none is required -/
  | blank {data : Entries} {rule : Rule} {active : Option Rule} {required value : Value}
      (selected : rule.activate data = .ok (active, required)) (isBlank : value.isBlank = true)
      (optional : required.isTruthy = false) : PlaceSatisfies convert data rule value value
  /-- any value is left alone where no rule is active -/
  | inactive {data : Entries} {rule : Rule} {required value : Value}
      (selected : rule.activate data = .ok (none, required)) (present : value.isBlank = false) :
      PlaceSatisfies convert data rule value value
  /-- another value satisfies the active rule, and does not become blank where one is required -/
  | checked {data : Entries} {rule active : Rule} {required input output : Value}
      (selected : rule.activate data = .ok (some active, required)) (present : input.isBlank = false)
      (satisfied : ValueSatisfies convert data active input output)
      (filled : required.isTruthy = true → output.isBlank = false) :
      PlaceSatisfies convert data rule input output

/-- What the rule of a field asks of a record that holds some data, and of what the record became. -/
inductive FieldSatisfies (convert : Bool) : Entries → Entries → Value → Rule → Prop
  /-- a field that is missing or blank is left alone, and none is required -/
  | missing {data record : Entries} {name : Value} {rule : Rule} {active : Option Rule}
      {required : Value} (selected : rule.activate data = .ok (active, required))
      (absent : data.resolve name = none) (optional : required.isTruthy = false)
      (untouched : record.lookup name = data.lookup name) : FieldSatisfies convert data record name rule
  /-- the value of another field satisfies the rule, under the key under which it was found -/
  | present {data record : Entries} {name key input output : Value} {rule : Rule}
      (found : data.resolve name = some (key, input)) (kept : record.get? key = some output)
      (satisfied : PlaceSatisfies convert data rule input output) :
      FieldSatisfies convert data record name rule

/-- What fields ask of a record that holds some data, and of what the record became: it has the same keys,
and every field is as its rule asks. -/
inductive RecordSatisfies (convert : Bool) : List (Value × Rule) → Entries → Entries → Prop
  | intro {fields : List (Value × Rule)} {data record : Entries} (keys : record.keys = data.keys)
      (each : ∀ f ∈ fields, FieldSatisfies convert data record f.1 f.2) :
      RecordSatisfies convert fields data record

end

/-- Whether a rule is of one of the library's own types and its fields have plain names, no two of them the
same. -/
def Rule.IsStandard : Rule → Prop
  | .object _ fields _ => HasPlainNames fields
  | .custom .. => False
  | _ => True

/-- Whether the fields of a schema have plain names, and all rules in it are of the library's own types. -/
structure Schema.IsStandard (schema : Schema) : Prop where
  names : HasPlainNames schema.fields
  rules : ∀ f ∈ schema.fields, f.2.Everywhere Rule.IsStandard

variable {registry : Custom.Registry} {context : Context}

/-- What the induction over rules shows: what is accepted under a rule in a place satisfies it there. -/
def Sound (registry : Custom.Registry) (rule : Rule) : Prop :=
  ∀ {context : Context} {value accepted notes : Value},
    rule.validate registry context true value = .ok (.accepted accepted notes) →
      PlaceSatisfies context.convert context.data rule value accepted

/-! ## Places -/

section

variable {convert : Bool} {data : Entries} {rule branch : Rule} {input output : Value}

/-- A rule asks what the branch asks that it takes. -/
theorem PlaceSatisfies.of_branch (h : PlaceSatisfies convert data branch input output)
    (hbranch : rule.activate data = branch.activate data) :
    PlaceSatisfies convert data rule input output := by
  cases h with
  | blank selected isBlank optional => exact .blank (hbranch.trans selected) isBlank optional
  | inactive selected present => exact .inactive (hbranch.trans selected) present
  | checked selected present satisfied filled =>
    exact .checked (hbranch.trans selected) present satisfied filled

/-- Where no rule is active a value is accepted only if it may be as it is. -/
theorem PlaceSatisfies.of_unchecked {required accepted notes : Value}
    (hselected : rule.activate data = .ok (none, required))
    (h : unchecked input required.isTruthy = .ok (.accepted accepted notes)) :
    PlaceSatisfies convert data rule input accepted := by
  obtain ⟨rfl, hblank, -⟩ := unchecked_eq_accepted_iff.mp h
  cases hinput : accepted.isBlank with
  | true => exact .blank hselected hinput (hblank hinput)
  | false => exact .inactive hselected hinput

/-- Where a value is required there is none that is blank. -/
theorem PlaceSatisfies.not_isBlank (h : PlaceSatisfies convert data rule input output)
    {active : Option Rule} {required : Value} (hselected : rule.activate data = .ok (active, required))
    (hrequired : required.isTruthy = true) : output.isBlank = false := by
  cases h with
  | blank selected isBlank optional =>
    rw [hselected] at selected
    cases selected
    rw [hrequired] at optional
    cases optional
  | inactive selected present => exact present
  | checked selected present satisfied filled =>
    rw [hselected] at selected
    cases selected
    exact filled hrequired

/-- A required field is in the record under the key under which it was given, and not blank. -/
theorem FieldSatisfies.exists_of_required {record : Entries} {name : Value}
    (h : FieldSatisfies convert data record name rule) {active : Option Rule} {required : Value}
    (hselected : rule.activate data = .ok (active, required)) (hrequired : required.isTruthy = true) :
    ∃ key input output, data.resolve name = some (key, input) ∧ record.get? key = some output ∧
      output.isBlank = false := by
  cases h with
  | missing selected absent optional untouched =>
    rw [hselected] at selected
    cases selected
    rw [hrequired] at optional
    cases optional
  | present found kept satisfied =>
    exact ⟨_, _, _, found, kept, satisfied.not_isBlank hselected hrequired⟩

end

/-- A rule that is not conditional is sound if it is for values that are not blank. -/
theorem sound_of_step {rule : Rule} (hconditional : rule.isConditional = false)
    (hcustom : rule.isCustom = false)
    (step : ∀ {context : Context} {value accepted notes : Value}, value.isBlank = false →
      rule.validate registry context true value = .ok (.accepted accepted notes) →
        ValueSatisfies context.convert context.data rule value accepted) : Sound registry rule := by
  intro context value accepted notes h
  have hselected : rule.activate context.data = .ok (some rule, rule.common.required) :=
    Rule.activate_of_not_isConditional hconditional
  cases hvalue : value.isBlank with
  | true =>
    rw [Rule.validate_of_isBlank hvalue hconditional] at h
    obtain ⟨rfl, hrequired, -⟩ := unchecked_eq_accepted_iff.mp h
    exact .blank hselected hvalue (hrequired hvalue)
  | false =>
    refine .checked hselected hvalue (step hvalue h) fun hrequired => ?_
    exact Rule.not_isBlank_of_validate hconditional hcustom hrequired h

/-- A conditional rule is sound if its branches are: it is validated as the one that it takes. -/
theorem sound_of_branches {common : Common} {field : Value} {conditions : Conditions}
    {consequent : Rule} {otherwise base : Option Rule} (hconsequent : Sound registry consequent)
    (hotherwise : ∀ r ∈ otherwise, Sound registry r) (hbase : ∀ r ∈ base, Sound registry r) :
    Sound registry (.conditional common field conditions consequent otherwise base) := by
  intro context value accepted notes h
  rw [Rule.validate] at h
  obtain ⟨holds, hholds, h⟩ := Attempt.bind_eq_ok_iff.mp h
  have hselected : (Rule.conditional common field conditions consequent otherwise base).activate
      context.data = if holds then consequent.activate context.data else
        Rule.activateOr context.data
          (Rule.activateOr context.data (pure (none, common.required)) base) otherwise := by
    rw [Rule.activate, hholds]
    rfl
  cases holds with
  | true => exact (hconsequent h).of_branch hselected
  | false =>
    cases otherwise with
    | some r => exact (hotherwise r rfl h).of_branch hselected
    | none =>
      cases base with
      | some r => exact (hbase r rfl h).of_branch hselected
      | none => exact .of_unchecked hselected h

/-! ## Records -/

/-- A field of a record that was accepted satisfies its rule. -/
theorem field_sound {data record : Entries} {name : Value} {s : String} {rule : Rule} {o : Outcome}
    (hname : name.text? = some s) (hrule : Sound registry rule)
    (hlookup : record.lookup name = fieldAfter data name o) (ho : o.isAccepted = true)
    (h : validateField registry (context.forData data) data name rule = .ok o) :
    FieldSatisfies context.convert data record name rule := by
  obtain ⟨value, notes, rfl⟩ := Outcome.isAccepted_iff.mp ho
  obtain ⟨active, required, hselected, hfield⟩ := validateField_eq_ok_iff.mp h
  rcases hfield with ⟨hresolve, habsent⟩ | ⟨key, old, hresolve, hvalue⟩
  · rw [fieldAfter_of_resolve_eq_none hresolve] at hlookup
    exact .missing hselected hresolve (absent_eq_accepted_iff.mp habsent).1 hlookup
  · rw [fieldAfter_of_resolve hresolve] at hlookup
    exact .present hresolve (Entries.get?_of_lookup hname hlookup) (hrule hvalue)

/-- A record whose fields were accepted satisfies them. -/
theorem record_sound {fields : List (Value × Rule)} {data : Entries}
    {outcomes : List (Value × Outcome)} (hnames : HasPlainNames fields)
    (hrules : ∀ f ∈ fields, Sound registry f.2)
    (h : Rule.validateFields registry (context.forData data) data fields = .ok outcomes)
    (hall : ∀ f ∈ outcomes, f.2.isAccepted = true) :
    RecordSatisfies context.convert fields data (recordOfFields data outcomes) := by
  have htexts := hnames.hasTextNames
  have hothers := htexts.of_names (Rule.names_of_validateFields h)
  refine .intro (keys_recordOfFields hothers.ne_null) fun f hf => ?_
  obtain ⟨s, hs⟩ := htexts.exists_text hf
  obtain ⟨o, ho, hvalidate⟩ := Rule.exists_outcome_of_validateFields h hf
  exact field_sound hs (hrules f hf) (lookup_recordOfFields hothers ho) (hall _ ho) hvalidate

/-! ## Rules -/

/-- Every rule of the library's own types is sound. -/
theorem sound_of_isStandard {rule : Rule} (hstandard : rule.Everywhere Rule.IsStandard) :
    Sound registry rule := by
  induction rule using Rule.induction with
  | text common checks =>
    apply sound_of_step rfl rfl
    intro context value accepted notes hvalue h
    simp only [Rule.validate, hvalue, Bool.and_false] at h
    obtain ⟨s, hs, hhold, -⟩ := coerceText_spec h
    exact .text hs hhold
  | number common checks =>
    apply sound_of_step rfl rfl
    intro context value accepted notes hvalue h
    simp only [Rule.validate, hvalue, Bool.and_false] at h
    obtain ⟨n, rfl, hfinite, hhold⟩ := coerceNumber_spec h
    exact .number hfinite hhold
  | boolean common words =>
    apply sound_of_step rfl rfl
    intro context value accepted notes hvalue h
    simp only [Rule.validate, hvalue, Bool.and_false] at h
    obtain ⟨b, rfl⟩ := exists_bool_of_ensureBoolean h
    exact .boolean
  | date common =>
    apply sound_of_step rfl rfl
    intro context value accepted notes hvalue h
    simp only [Rule.validate, hvalue, Bool.and_false] at h
    exact .date (isDate_of_ensureDate h)
  | object common fields defaults ih =>
    have hrules := Rule.everywhereInFields_iff.mp hstandard.2
    apply sound_of_step rfl rfl
    intro context value accepted notes hvalue h
    obtain ⟨entries, outcomes, rfl, houtcomes, hall, rfl⟩ :=
      Rule.exists_outcomes_of_validate_object hvalue h
    exact .object (record_sound hstandard.1 (fun f hf => ih f hf (hrules f hf)) houtcomes hall)
  | array common element checks ih =>
    apply sound_of_step rfl rfl
    intro context value accepted notes hvalue h
    cases element with
    | none =>
      rw [Rule.validate_array_none_iff hvalue] at h
      obtain ⟨items, rfl, hgiven, hfit, -⟩ := coerceArray_spec h
      exact .array hgiven hfit
    | some r =>
      obtain ⟨items, elements, hgiven, hfit, -, helements, rfl⟩ :=
        Rule.exists_elements_of_validate_array hvalue h
      have hsize := helements.length_eq
      rw [hsize] at hfit
      refine .arrayOf hgiven hfit hsize.symm fun item hitem => ?_
      obtain ⟨notes, hvalidate⟩ := (List.forall₂_iff_zip.mp helements).2 hitem
      exact ih r rfl hstandard.2 hvalidate
  | conditional common field conditions consequent otherwise base ihc iho ihb =>
    obtain ⟨-, hconsequent, hotherwise, hbase⟩ := hstandard
    rw [Rule.everywhereInBranch_iff] at hotherwise hbase
    exact sound_of_branches (ihc hconsequent) (fun r hr => iho r hr (hotherwise r hr))
      (fun r hr => ihb r hr (hbase r hr))
  | custom common typeName options => exact hstandard.elim

/-! ## Schemas -/

/-- A record that is accepted under a schema satisfies it. -/
theorem Schema.validate_sound {schema : Schema} (hstandard : schema.IsStandard)
    {value accepted notes : Value}
    (h : schema.validate registry context value = .ok (.accepted accepted notes)) :
    ∃ entries record, value = .dict entries ∧ accepted = .dict record ∧
      RecordSatisfies context.convert schema.fields (Entries.withDefaults entries schema.defaults)
        record := by
  obtain ⟨entries, outcomes, rfl, houtcomes, hall, rfl⟩ := exists_outcomes_of_validate h
  refine ⟨entries, _, rfl, rfl, record_sound hstandard.names (fun f hf => ?_) houtcomes hall⟩
  exact sound_of_isStandard (hstandard.rules f hf)

namespace Sample

/-- What is said of a rule without a hook. -/
def unhooked (required : Bool) : Common := ⟨.bool required, none, .null⟩

/-- A rule for any text. -/
def anyText (required : Bool) : Rule := .text (unhooked required) ⟨.null, .null, .null, .null⟩

/-- A schema of parcels: a box has a size, which nothing else has. -/
def parcelSchema : Schema :=
  ⟨[(.text "kind", anyText true),
    (.text "size", .conditional (unhooked false) (.text "kind")
      ⟨some (.text "box"), none, .null, .null, .null⟩
      (.number (unhooked true) ⟨.int 1, .null, .bool true⟩) none none),
    (.text "tags", .array (unhooked false) (some (anyText false)) ⟨.int 1, .null, .null, .text ","⟩)],
    [(.text "kind", .text "box")]⟩

/-- A parcel that does not say that it is a box. -/
def parcel : Value :=
  .dict [(.text "size", .int 3), (.text "tags", .tuple [.text " for  you", .text ""])]

/-- The parcel with its kind. -/
def boxed : Value :=
  .dict [(.text "size", .int 3), (.text "tags", .list [.text "for you", .text ""]),
    (.text "kind", .text "box")]

end Sample

open Sample in
/-- A parcel that is accepted satisfies the schema of parcels. -/
theorem Schema.validate_sound_sample :
    parcelSchema.validate (.empty "none") ⟨[], true, []⟩ parcel = .ok (.accept boxed) ∧
      ∃ entries record, parcel = .dict entries ∧ boxed = .dict record ∧
        RecordSatisfies true parcelSchema.fields (Entries.withDefaults entries parcelSchema.defaults)
          record := by
  have hstandard : parcelSchema.IsStandard := by
    refine ⟨⟨["kind", "size", "tags"], by decide, rfl⟩, ?_⟩
    rw [← Rule.everywhereInFields_iff]
    exact ⟨trivial, ⟨trivial, trivial, trivial, trivial⟩, ⟨trivial, trivial⟩, trivial⟩
  have h : parcelSchema.validate (.empty "none") ⟨[], true, []⟩ parcel = .ok (.accept boxed) := rfl
  exact ⟨h, Schema.validate_sound hstandard h⟩

end RecordCheck
