import RecordCheck.Proofs.Soundness
import RecordCheck.Proofs.Value.Structure

/-!
# Validation with conversion

Conversion leaves alone what is accepted without it.  A value that has the type of its rule is not touched,
and collapsing the blanks of a text in which they are collapsed already changes nothing but its spelling:
the text becomes a plain one.  Conditional rules look at the record as it was given, so that with conversion
they take the same branches as without.
-/

set_option autoImplicit false

namespace RecordCheck

open Coercion

/-- Whether a value is no text, or a text in which all blanks are collapsed. -/
def Value.IsTidy (v : Value) : Prop := ∀ s, v.text? = some s → Text.collapse s.toList = s.toList

/-- Whether a rule refers to no custom type, and its defaults are tidy. -/
def Rule.IsTidy : Rule → Prop
  | .object _ _ defaults => Value.EverywhereInEntries Value.IsTidy defaults
  | .custom .. => False
  | _ => True

/-- Whether no rule of a schema refers to a custom type, and all defaults are tidy. -/
structure Schema.IsTidy (schema : Schema) : Prop where
  defaults : Value.EverywhereInEntries Value.IsTidy schema.defaults
  rules : ∀ f ∈ schema.fields, f.2.Everywhere Rule.IsTidy

variable {registry : Custom.Registry} {strict converting : Context} {data : Entries}

/-! ## Records -/

/-- Whether two outcomes are accepted with values that differ in the spelling of their texts only. -/
def Outcome.AcceptedAlike (o other : Outcome) : Prop :=
  ∃ v w notes notes', o = .accepted v notes ∧ other = .accepted w notes' ∧ w.respelled = v.respelled

/-- Records that differ in the spelling of texts only still do so when a field is put into both. -/
theorem respelledEntries_recordWithField {record respelled : Entries} (name : Value) {o other : Outcome}
    (halike : o.AcceptedAlike other)
    (hrecord : Value.respelledEntries respelled = Value.respelledEntries record) :
    Value.respelledEntries (recordWithField data respelled name other) =
      Value.respelledEntries (recordWithField data record name o) := by
  obtain ⟨v, w, notes, notes', rfl, rfl, hspelling⟩ := halike
  unfold recordWithField
  cases data.resolve name with
  | none => exact hrecord
  | some found =>
    dsimp only
    rw [Value.respelledEntries_put, Value.respelledEntries_put, hrecord, hspelling]

/-- Fields that are accepted alike make records that differ in the spelling of texts only. -/
theorem respelledEntries_recordOfFields {fields others : List (Value × Outcome)}
    (h : List.Forall₂ (fun f g => f.1 = g.1 ∧ f.2.AcceptedAlike g.2) fields others) :
    Value.respelledEntries (recordOfFields data others) =
      Value.respelledEntries (recordOfFields data fields) := by
  have step {record respelled : Entries}
      (hrecord : Value.respelledEntries respelled = Value.respelledEntries record) :
      Value.respelledEntries (others.foldl (fun record f => recordWithField data record f.1 f.2) respelled) =
        Value.respelledEntries (fields.foldl (fun record f => recordWithField data record f.1 f.2) record) := by
    induction h generalizing record respelled with
    | nil => exact hrecord
    | cons hfirst _ ih =>
      obtain ⟨hname, halike⟩ := hfirst
      rw [List.foldl_cons, List.foldl_cons, ← hname]
      exact ih (respelledEntries_recordWithField _ halike hrecord)
  exact step rfl

/-! ## Rules -/

/-- What the induction over rules shows: a tidy value that is accepted without conversion is accepted with
it in the same record, but for the spelling of its texts. -/
def Conservative (registry : Custom.Registry) (rule : Rule) : Prop :=
  ∀ (strict converting : Context) {value accepted notes : Value}, strict.convert = false →
    converting.convert = true → converting.data = strict.data → value.Everywhere Value.IsTidy →
      rule.validate registry strict true value = .ok (.accepted accepted notes) →
        ∃ converted notes', rule.validate registry converting true value = .ok (.accepted converted notes') ∧
          converted.respelled = accepted.respelled

/-- Blank values are accepted as they are, so that it is left to show it for others. -/
theorem conservative_of_step {rule : Rule} (hconditional : rule.isConditional = false)
    (step : ∀ (strict converting : Context) {value accepted notes : Value}, strict.convert = false →
      converting.convert = true → converting.data = strict.data → value.Everywhere Value.IsTidy →
        value.isBlank = false →
          rule.validate registry strict true value = .ok (.accepted accepted notes) →
            ∃ converted notes',
              rule.validate registry converting true value = .ok (.accepted converted notes') ∧
                converted.respelled = accepted.respelled) : Conservative registry rule := by
  intro strict converting value accepted notes hstrict hconverting hdata htidy h
  cases hvalue : value.isBlank with
  | true =>
    rw [Rule.validate_of_isBlank hvalue hconditional] at h
    exact ⟨accepted, notes, (Rule.validate_of_isBlank hvalue hconditional).trans h, rfl⟩
  | false => exact step strict converting hstrict hconverting hdata htidy hvalue h

/-- A conditional rule takes the same branch with conversion as without it. -/
theorem conservative_of_branches {common : Common} {field : Value} {conditions : Conditions}
    {consequent : Rule} {otherwise base : Option Rule} (hconsequent : Conservative registry consequent)
    (hotherwise : ∀ r ∈ otherwise, Conservative registry r) (hbase : ∀ r ∈ base, Conservative registry r) :
    Conservative registry (.conditional common field conditions consequent otherwise base) := by
  intro strict converting value accepted notes hstrict hconverting hdata htidy h
  rw [Rule.validate_conditional] at h ⊢
  obtain ⟨holds, hholds, h⟩ := Attempt.bind_eq_ok_iff.mp h
  rw [hdata, hholds, Attempt.ok_bind]
  cases hbranch : Rule.branch holds consequent otherwise base with
  | none =>
    rw [hbranch] at h
    exact ⟨accepted, notes, h, rfl⟩
  | some r =>
    rw [hbranch] at h
    exact Rule.forall_branch (motive := Conservative registry) hconsequent hotherwise hbase holds r hbranch
      strict converting hstrict hconverting hdata htidy h

/-- A field is missing with conversion as without it, or found with the same value. -/
theorem exists_outcome_of_conservative {name : Value} {rule : Rule} {o : Outcome}
    (hstrict : strict.convert = false) (hconverting : converting.convert = true)
    (hrule : Conservative registry rule) (htidy : Value.EverywhereInEntries Value.IsTidy data)
    (haccepted : o.isAccepted = true)
    (h : validateField registry (strict.forData data) data name rule = .ok o) :
    ∃ other, validateField registry (converting.forData data) data name rule = .ok other ∧
      o.AcceptedAlike other := by
  obtain ⟨v, notes, rfl⟩ := Outcome.isAccepted_iff.mp haccepted
  obtain ⟨active, required, hactive, hfound⟩ := validateField_eq_ok_iff.mp h
  rcases hfound with ⟨hmissing, habsent⟩ | ⟨key, value, hresolve, hvalue⟩
  · exact ⟨.accepted v notes,
      validateField_eq_ok_iff.mpr ⟨active, required, hactive, .inl ⟨hmissing, habsent⟩⟩,
      v, v, notes, notes, rfl, rfl, rfl⟩
  · obtain ⟨converted, notes', hconverted, hspelling⟩ := hrule (strict.forData data) (converting.forData data)
      hstrict hconverting rfl (htidy.of_resolve hresolve) hvalue
    exact ⟨.accepted converted notes',
      validateField_eq_ok_iff.mpr ⟨active, required, hactive, .inr ⟨key, value, hresolve, hconverted⟩⟩,
      v, converted, notes, notes', rfl, rfl, hspelling⟩

/-- The fields of a tidy record that is accepted without conversion are accepted with it alike. -/
theorem exists_outcomes_of_conservative {fields : List (Value × Rule)} {outcomes : List (Value × Outcome)}
    (hstrict : strict.convert = false) (hconverting : converting.convert = true)
    (hrules : ∀ f ∈ fields, Conservative registry f.2)
    (htidy : Value.EverywhereInEntries Value.IsTidy data)
    (h : Rule.validateFields registry (strict.forData data) data fields = .ok outcomes)
    (hall : ∀ f ∈ outcomes, f.2.isAccepted = true) :
    ∃ others, Rule.validateFields registry (converting.forData data) data fields = .ok others ∧
      List.Forall₂ (fun f g => f.1 = g.1 ∧ f.2.AcceptedAlike g.2) outcomes others := by
  obtain ⟨others, hothers, halike⟩ := Attempt.exists_forall₂_of_forall₂
    (S := fun f (g : Value × Outcome) =>
      f.1 = g.1 ∧ validateField registry (converting.forData data) data f.1 f.2 = .ok g.2)
    (T := fun o g => o.1 = g.1 ∧ o.2.AcceptedAlike g.2) (Rule.validateFields_eq_ok_iff.mp h)
    fun f hf o ho ⟨hname, hvalidate⟩ => by
      obtain ⟨other, hother, halike⟩ := exists_outcome_of_conservative hstrict hconverting (hrules f hf) htidy
        (hall o ho) hvalidate
      exact ⟨(f.1, other), ⟨rfl, hother⟩, hname.symm, halike⟩
  exact ⟨others, Rule.validateFields_eq_ok_iff.mpr hothers, halike⟩

/-- A tidy record that is accepted without conversion is accepted with it, but for the spelling of its
texts. -/
theorem mergeFields_of_conservative (data : Entries) {outcomes others : List (Value × Outcome)}
    (h : List.Forall₂ (fun f g => f.1 = g.1 ∧ f.2.AcceptedAlike g.2) outcomes others) :
    mergeFields data others = .accept (.dict (recordOfFields data others)) ∧
      (Value.dict (recordOfFields data others)).respelled =
        (Value.dict (recordOfFields data outcomes)).respelled := by
  constructor
  · refine mergeFields_eq_accepted_iff.mpr ⟨fun g hg => ?_, rfl, rfl⟩
    obtain ⟨_, -, -, _, w, _, notes', -, hw, -⟩ := Attempt.exists_mem_of_forall₂' h hg
    rw [hw]
    rfl
  · exact congrArg Value.dict (respelledEntries_recordOfFields h)

/-- Tidy items that are accepted without conversion are accepted with it, but for the spelling of their
texts. -/
theorem exists_elements_of_conservative {rule : Rule} {items elements : List Value}
    (hstrict : strict.convert = false) (hconverting : converting.convert = true)
    (hdata : converting.data = strict.data) (hrule : Conservative registry rule)
    (htidy : ∀ item ∈ items, item.Everywhere Value.IsTidy)
    (h : List.Forall₂ (fun item e => ∃ notes,
      rule.validate registry strict true item = .ok (.accepted e notes)) items elements) :
    ∃ others, List.Forall₂ (fun item e => ∃ notes,
        rule.validate registry converting true item = .ok (.accepted e notes)) items others ∧
      (Value.list others).respelled = (Value.list elements).respelled := by
  obtain ⟨others, hothers, halike⟩ := Attempt.exists_forall₂_of_forall₂ h
    (S := fun item e => ∃ notes, rule.validate registry converting true item = .ok (.accepted e notes))
    (T := fun e e' => e'.respelled = e.respelled) fun item hitem e _ ⟨notes, haccepted⟩ => by
      obtain ⟨e', notes', he', hspelling⟩ :=
        hrule strict converting hstrict hconverting hdata (htidy item hitem) haccepted
      exact ⟨e', ⟨notes', he'⟩, hspelling⟩
  refine ⟨others, hothers, ?_⟩
  rw [Value.respelled, Value.respelled, Value.respelledItems_eq_map, Value.respelledItems_eq_map]
  exact congrArg Value.list (Attempt.map_eq_map_of_forall₂ halike.flip)

/-- Every rule that refers to no custom type accepts with conversion what it accepts without. -/
theorem Rule.conservative_of_isTidy {rule : Rule} (htidy : rule.Everywhere Rule.IsTidy) :
    Conservative registry rule := by
  induction rule using Rule.induction with
  | text common checks =>
    apply conservative_of_step rfl
    intro strict converting value accepted notes hstrict hconverting hdata hvalue hblank h
    simp only [Rule.validate, hblank, Bool.and_false, coerce, hstrict, hconverting] at h ⊢
    obtain ⟨s, hs, hconverted⟩ := coerceText_true_of_false hblank hvalue.self h
    refine ⟨_, _, hconverted, ?_⟩
    cases accepted <;> cases hs <;> rfl
  | number common checks =>
    apply conservative_of_step rfl
    intro strict converting value accepted notes hstrict hconverting hdata hvalue hblank h
    simp only [Rule.validate, hblank, Bool.and_false, coerce, hstrict, hconverting] at h ⊢
    exact ⟨_, _, coerceNumber_true_of_false h, rfl⟩
  | boolean common words =>
    apply conservative_of_step rfl
    intro strict converting value accepted notes hstrict hconverting hdata hvalue hblank h
    simp only [Rule.validate, hblank, Bool.and_false, coerce, hstrict, hconverting] at h ⊢
    exact ⟨_, _, ensureBoolean_true_of_false h, rfl⟩
  | date common =>
    apply conservative_of_step rfl
    intro strict converting value accepted notes hstrict hconverting hdata hvalue hblank h
    simp only [Rule.validate, hblank, Bool.and_false, coerce, hstrict, hconverting] at h ⊢
    exact ⟨_, _, ensureDate_true_of_false h, rfl⟩
  | object common fields defaults ih =>
    obtain ⟨hdefaults, hfields⟩ := htidy
    rw [Rule.everywhereInFields_iff] at hfields
    apply conservative_of_step rfl
    intro strict converting value accepted notes hstrict hconverting hdata hvalue hblank h
    obtain ⟨entries, outcomes, rfl, houtcomes, hall, rfl⟩ := Rule.exists_outcomes_of_validate_object hblank h
    have hentries : Value.EverywhereInEntries Value.IsTidy entries := hvalue.2
    obtain ⟨others, hothers, halike⟩ := exists_outcomes_of_conservative hstrict hconverting
      (fun f hf => ih f hf (hfields f hf)) (hentries.withDefaults hdefaults) houtcomes hall
    obtain ⟨hmerge, hspelling⟩ := mergeFields_of_conservative _ halike
    obtain ⟨hothersAccepted, -, -⟩ := mergeFields_eq_accepted_iff.mp hmerge
    exact ⟨_, _, (Rule.validate_object_eq_accepted_iff hblank).mpr
      ⟨entries, others, rfl, hothers, hothersAccepted, rfl, rfl⟩, hspelling⟩
  | array common element checks ih =>
    apply conservative_of_step rfl
    intro strict converting value accepted notes hstrict hconverting hdata hvalue hblank h
    cases element with
    | none =>
      rw [Rule.validate_array_none_iff hblank, hstrict] at h
      obtain ⟨items, -, rfl, hconverted⟩ := coerceArray_true_of_false h
      refine ⟨.list items, .list [], ?_, rfl⟩
      rw [Rule.validate_array_none_iff hblank, hconverting]
      exact hconverted
    | some r =>
      obtain ⟨given, itemNotes, elements, hcoerce, hselected, helements, rfl, -⟩ :=
        (Rule.validate_array_eq_accepted_iff hblank).mp h
      rw [hstrict] at hcoerce
      obtain ⟨items, hlist, hgiven, hconverted⟩ := coerceArray_true_of_false hcoerce
      cases hgiven
      have hitems : ∀ item ∈ given, item.Everywhere Value.IsTidy := by
        rcases hlist with rfl | rfl
        · exact hvalue.of_list
        · exact hvalue.of_tuple
      obtain ⟨others, hothers, hspelling⟩ := exists_elements_of_conservative hstrict hconverting hdata
        (ih r rfl htidy.2) hitems helements
      refine ⟨.list others, .list [], (Rule.validate_array_eq_accepted_iff hblank).mpr
        ⟨given, .list [], others, ?_, ?_, hothers, rfl, rfl⟩, hspelling⟩
      · rw [hconverting]
        exact hconverted
      · rw [hdata]
        exact hselected
  | conditional common field conditions consequent otherwise base ihc iho ihb =>
    obtain ⟨-, hconsequent, hotherwise, hbase⟩ := htidy
    rw [Rule.everywhereInBranch_iff] at hotherwise hbase
    exact conservative_of_branches (ihc hconsequent) (fun r hr => iho r hr (hotherwise r hr))
      (fun r hr => ihb r hr (hbase r hr))
  | custom common typeName options => exact htidy.elim

/-! ## Schemas -/

/-- A tidy record that is accepted without conversion is accepted with conversion too, under a tidy schema.
The value is the same but for the spelling of texts, so that it is equal to the other one, just as that is
to itself. -/
theorem Schema.validate_conservative {schema : Schema} (hschema : schema.IsTidy)
    (hstrict : strict.convert = false) (hconverting : converting.convert = true) {value accepted notes : Value}
    (hvalue : value.Everywhere Value.IsTidy)
    (h : schema.validate registry strict value = .ok (.accepted accepted notes)) :
    ∃ converted, schema.validate registry converting value = .ok (.accept converted) ∧
      converted.respelled = accepted.respelled ∧ accepted.same converted = accepted.same accepted := by
  obtain ⟨entries, outcomes, rfl, houtcomes, hall, rfl⟩ := exists_outcomes_of_validate h
  have hentries : Value.EverywhereInEntries Value.IsTidy entries := hvalue.2
  obtain ⟨others, hothers, halike⟩ := exists_outcomes_of_conservative hstrict hconverting
    (fun f hf => Rule.conservative_of_isTidy (hschema.rules f hf)) (hentries.withDefaults hschema.defaults)
    houtcomes hall
  obtain ⟨hmerge, hspelling⟩ := mergeFields_of_conservative (Entries.withDefaults entries schema.defaults) halike
  refine ⟨_, ?_, hspelling, Value.same_congr hspelling _⟩
  rw [validate, hothers, Attempt.ok_bind, hmerge]
  rfl

namespace Sample

/-- A rule for arrays of texts, or of anything where the kind is not a box. -/
def boxTags : Rule :=
  .conditional (unhooked false) (.text "kind") ⟨some (.text "box"), none, .null, .null, .null⟩
    (.array (unhooked false) (some (anyText false)) ⟨.null, .null, .bool true, .text ","⟩)
    (some (.array (unhooked false) none ⟨.null, .null, .null, .text ","⟩)) none

/-- A schema with a name, tags and a home, whose kind and size have defaults. -/
def taggedSchema : Schema :=
  ⟨[(.text "name", anyText true), (.text "tags", boxTags),
    (.text "home", .object (unhooked false)
      [(.text "town", anyText false), (.text "size", .number (unhooked true) ⟨.null, .null, .bool true⟩)]
      [(.text "size", .int 3)])],
    [(.text "kind", .textMember "box")]⟩

/-- A record with members of an enumeration for a name and a tag. -/
def taggedRecord : Value :=
  .dict [(.bytes [110, 97, 109, 101], .textMember "ada l"), (.text "tags", .tuple [.text "b c", .textMember "d"]),
    (.text "home", .dict [(.text "town", .text "ur")])]

theorem isTidy_taggedSchema : taggedSchema.IsTidy := by
  refine ⟨⟨?_, trivial⟩, ?_⟩
  · rintro s ⟨⟩
    rfl
  · rw [← Rule.everywhereInFields_iff]
    refine ⟨trivial, ⟨trivial, ⟨trivial, trivial⟩, ⟨trivial, trivial⟩, trivial⟩,
      ⟨⟨?_, trivial⟩, trivial, trivial, trivial⟩, trivial⟩
    rintro s ⟨⟩

theorem isTidy_taggedRecord : taggedRecord.Everywhere Value.IsTidy := by
  refine ⟨nofun, ?_, ⟨nofun, ?_, ?_, trivial⟩, ⟨nofun, ?_, trivial⟩, trivial⟩ <;>
    · rintro s ⟨⟩
      rfl

end Sample

open Sample in
/-- A record with members of an enumeration is accepted with conversion as without it. -/
theorem Schema.validate_conservative_sample :
    ∃ accepted converted,
      taggedSchema.validate (.empty "none") ⟨[], false, []⟩ taggedRecord = .ok (.accept accepted) ∧
        taggedSchema.validate (.empty "none") ⟨[], true, []⟩ taggedRecord = .ok (.accept converted) ∧
          accepted.same converted = .ok true := by
  have h : taggedSchema.validate (.empty "none") ⟨[], false, []⟩ taggedRecord = .ok (.accept (.dict
      [(.bytes [110, 97, 109, 101], .textMember "ada l"),
        (.text "tags", .list [.text "b c", .textMember "d"]),
        (.text "home", .dict [(.text "town", .text "ur"), (.text "size", .int 3)]),
        (.text "kind", .textMember "box")])) := rfl
  have hconverting : (⟨[], true, []⟩ : Context).convert = true := rfl
  obtain ⟨converted, hconverted, -, hsame⟩ :=
    Schema.validate_conservative isTidy_taggedSchema rfl hconverting isTidy_taggedRecord h
  exact ⟨_, converted, h, hconverted, hsame⟩

end RecordCheck
