import RecordCheck.Proofs.Idempotence
import RecordCheck.Proofs.Strict

/-!
# Conditional rules in an accepted record

The conditions of a conditional rule look at the value of a sibling field as it was given, with defaults,
and not at what becomes of it.  Where values are converted the conditions may come out otherwise for the
record that was accepted.  They come out alike if the siblings that they look at were given in the form that
validation leaves them in: then every conditional rule chooses the same branch for the accepted record, and
the record is accepted again as it is.  Where nothing is converted this is always so.
-/

set_option autoImplicit false

namespace RecordCheck

/-! ## Values that conditions do not tell apart -/

/-- Whether two values are the same but for the spelling of a text. -/
def Value.SpelledAlike (v w : Value) : Prop := v = w ∨ ∃ s, v.text? = some s ∧ w.text? = some s

namespace Conditions

variable {c : Conditions} {v w : Value}

/-- What a container holds does not depend on how a text is spelled. -/
theorem oneOfHolds_textMember (s : String) : c.oneOfHolds (.textMember s) = c.oneOfHolds (.text s) := by
  have hsame (other : Value) : (Value.textMember s).same other = (Value.text s).same other := by
    rw [Value.same, Value.same]
  have hkey (k : Value) : k.sameKey (.textMember s) = k.sameKey (.text s) := by
    rw [Bool.eq_iff_iff, Value.sameKey_text_iff rfl, Value.sameKey_text_iff rfl]
  unfold oneOfHolds
  cases c.oneOf with
  | none => rfl
  | some container =>
    cases container with
    | list items | tuple items => simp only [Value.contains, Value.memberOf, hsame]
    | set items | dict entries => simp only [Value.contains, Value.isKeyOf, Value.checkKey, hkey]
    | _ => rfl

/-- Conditions come out alike for a text however it is spelled. -/
theorem holdFor_textMember (s : String) : c.holdFor (.textMember s) = c.holdFor (.text s) := by
  have hequals : c.equalsHolds (.textMember s) = c.equalsHolds (.text s) := by
    unfold equalsHolds
    cases c.equals with
    | none => rfl
    | some other =>
      dsimp only
      rw [Value.same, Value.same]
  have hpattern : c.patternHolds (.textMember s) = c.patternHolds (.text s) := rfl
  have hbounds : c.boundsHold (.textMember s) = c.boundsHold (.text s) := rfl
  rw [holdFor, holdFor, hequals, oneOfHolds_textMember, hpattern, hbounds]

/-- Conditions do not tell values apart that differ in the spelling of a text only. -/
theorem holdFor_of_spelledAlike (h : v.SpelledAlike w) : c.holdFor v = c.holdFor w := by
  rcases h with rfl | ⟨s, hv, hw⟩
  · rfl
  · cases v <;> cases hv <;> cases w <;> cases hw <;> simp only [holdFor_textMember]

end Conditions

/-! ## Flat rules -/

namespace Rule

/-- Whether a rule looks into no value: it is one for texts, numbers, truth values or dates, or chooses
another rule. -/
def IsFlat : Rule → Prop
  | .object .. | .array .. | .custom .. => False
  | _ => True

/-- Whether a conditional rule decides alike in two records; others have nothing to decide. -/
def DecidesAlike (data record : Entries) : Rule → Prop
  | .conditional _ field conditions _ _ _ => conditions.holdIn field record = conditions.holdIn field data
  | _ => True

variable {registry : Custom.Registry} {context again : Context} {data record : Entries} {rule : Rule}

/-- Where all conditions come out alike, every rule is replaced by the same one. -/
theorem activate_eq_of_decidesAlike (h : rule.Everywhere (DecidesAlike data record)) :
    rule.Everywhere fun r => r.activate record = r.activate data := by
  induction rule using Rule.induction with
  | conditional common field conditions consequent otherwise base hconsequent hotherwise hbase =>
    obtain ⟨hself, hthen, helse, hdefault⟩ := h
    rw [everywhereInBranch_iff] at helse hdefault
    have hthen := hconsequent hthen
    have helse := fun r hr => hotherwise r hr (helse r hr)
    have hdefault := fun r hr => hbase r hr (hdefault r hr)
    refine ⟨?_, hthen, everywhereInBranch_iff.mpr helse, everywhereInBranch_iff.mpr hdefault⟩
    dsimp only
    rw [DecidesAlike] at hself
    rw [activate_conditional, activate_conditional, hself]
    congr 1
    funext holds
    cases hbranch : branch holds consequent otherwise base with
    | none => rfl
    | some r => exact (forall_branch hthen helse hdefault holds r hbranch).self
  | object common fields defaults ih =>
    refine ⟨rfl, everywhereInFields_iff.mpr fun f hf => ih f hf ?_⟩
    exact everywhereInFields_iff.mp h.2 f hf
  | array common element checks ih =>
    refine ⟨rfl, everywhereInBranch_iff.mpr fun r hr => ih r hr ?_⟩
    exact everywhereInBranch_iff.mp h.2 r hr
  | _ => rfl

/-- A flat rule that is not conditional is plain. -/
theorem isPlain_of_isFlat (h : rule.IsFlat) (hrule : rule.isConditional = false) :
    rule.Everywhere IsPlain := by
  cases rule with
  | object common fields defaults => exact h.elim
  | array common element checks => exact h.elim
  | custom common typeName options => exact h.elim
  | conditional common field conditions consequent otherwise base => cases hrule
  | _ => trivial

/-- A flat rule under which the same rule is active repeats what it has accepted. -/
theorem repeats_of_isFlat (hflat : rule.Everywhere IsFlat) (hdata : context.data = data)
    (hrecord : again.data = record) (hconvert : again.convert = context.convert)
    (hselected : rule.activate record = rule.activate data) :
    rule.Repeats registry context again data record := by
  subst hdata hrecord
  have hplain {active : Rule} {required : Value}
      (hactive : rule.activate context.data = .ok (some active, required)) : active.Everywhere IsPlain :=
    isPlain_of_isFlat (hflat.of_activate hactive).self (isConditional_of_activate hactive)
  refine ⟨hselected, ?_, ?_⟩
  · intro value accepted notes h
    rw [validate_eq_activate_bind] at h ⊢
    obtain ⟨⟨active, required⟩, hactive, h⟩ := Attempt.bind_eq_ok_iff.mp h
    rw [hselected, hactive, Attempt.ok_bind]
    cases active with
    | none =>
      obtain ⟨rfl, hnot, -⟩ := unchecked_eq_accepted_iff.mp h
      exact unchecked_eq_accepted_iff.mpr ⟨rfl, hnot, rfl⟩
    | some r => exact idempotent_of_isPlain (hplain hactive) (.inl hconvert) h
  · intro active required value accepted notes hactive hvalue h hblank
    rw [validate_eq_activate_bind, hactive, Attempt.ok_bind] at h
    cases active with
    | none =>
      obtain ⟨rfl, -⟩ := unchecked_eq_accepted_iff.mp h
      rw [hvalue] at hblank
      cases hblank
    | some r =>
      rw [required_of_activate hactive]
      exact (hplain hactive).self.isRequired_eq_false hblank h

/-- A flat rule meets no tuple. -/
theorem not_meetsTuple_of_isFlat {value : Value} (hflat : rule.Everywhere IsFlat) :
    ¬ rule.MeetsTuple data value := by
  intro hmet
  cases hmet with
  | here selected => exact (hflat.of_activate selected).self
  | item selected mem met => exact (hflat.of_activate selected).self
  | field selected mem found met => exact (hflat.of_activate selected).self

/-- Without conversion a flat rule leaves every value that it accepts as it is. -/
theorem eq_of_validate_isFlat {value accepted notes : Value} (hflat : rule.Everywhere IsFlat)
    (hconvert : context.convert = false)
    (h : rule.validate registry context true value = .ok (.accepted accepted notes)) :
    accepted = value := by
  have hbare : rule.Everywhere IsBare := by
    refine hflat.imp fun r hr => ?_
    cases r <;> first | exact hr.elim | trivial
  exact strict_of_isBare hbare hconvert (not_meetsTuple_of_isFlat hflat) h

/-! ### Values in the form of a rule -/

/-- Whether a value has the form in which a rule leaves the values that it accepts: a text without blanks to
collapse, a number, a truth value, or a date.  Rules of other kinds ask for no form. -/
def HasForm (value : Value) : Rule → Prop
  | .text .. => ∃ s, value.text? = some s ∧ Text.collapse s.toList = s.toList
  | .number .. => value.isNumber = true
  | .boolean .. => value.isBool = true
  | .date .. => value.isDate = true
  | _ => True

/-- A value that has the form of a flat rule is left by it as it is, but for the spelling of a text. -/
theorem spelledAlike_of_hasForm {value accepted notes : Value} (hplain : rule.IsFlat)
    (hconditional : rule.isConditional = false) (hpresent : value.isBlank = false)
    (hform : rule.HasForm value)
    (h : rule.validate registry context true value = .ok (.accepted accepted notes)) :
    value.SpelledAlike accepted := by
  cases rule with
  | text common checks =>
    simp only [validate, hpresent, Bool.and_false] at h
    obtain ⟨s, hs, hcollapsed⟩ := hform
    exact .inr ⟨s, hs, Coercion.text?_of_coerceText hs hcollapsed h⟩
  | number common checks =>
    simp only [validate, hpresent, Bool.and_false] at h
    exact .inl (Coercion.eq_of_coerceNumber_of_isNumber hform h).symm
  | boolean common words =>
    simp only [validate, hpresent, Bool.and_false] at h
    cases value <;> cases hform
    cases h
    exact .inl rfl
  | date common =>
    simp only [validate, hpresent, Bool.and_false] at h
    have hdate := (Coercion.ensureDate_of_isDate hform).symm.trans h
    cases hdate
    exact .inl rfl
  | object common fields defaults => exact hplain.elim
  | array common element checks => exact hplain.elim
  | custom common typeName options => exact hplain.elim
  | conditional common field conditions consequent otherwise base => cases hconditional

/-- Whether a value has the form of the rule that is active in a record, if there is one. -/
def HasFormIn (data : Entries) (value : Value) (rule : Rule) : Prop :=
  ∀ active required, rule.activate data = .ok (some active, required) → active.HasForm value

/-- A value that has the form of the active rule is left as it is, but for the spelling of a text. -/
theorem spelledAlike_of_hasFormIn {value accepted notes : Value} (hflat : rule.Everywhere IsFlat)
    (hpresent : value.isBlank = false) (hform : rule.HasFormIn context.data value)
    (h : rule.validate registry context true value = .ok (.accepted accepted notes)) :
    value.SpelledAlike accepted := by
  rw [validate_eq_activate_bind] at h
  obtain ⟨⟨active, required⟩, hactive, h⟩ := Attempt.bind_eq_ok_iff.mp h
  cases active with
  | none =>
    obtain ⟨rfl, -⟩ := unchecked_eq_accepted_iff.mp h
    exact .inl rfl
  | some r =>
    exact spelledAlike_of_hasForm (hflat.of_activate hactive).self (isConditional_of_activate hactive)
      hpresent (hform r required hactive) h

/-- Whether something holds of the field that a conditional rule looks at. -/
def LooksAt (P : Value → Prop) : Rule → Prop
  | .conditional _ field _ _ _ _ => P field
  | _ => True

end Rule

/-! ## Records -/

variable {registry : Custom.Registry} {context : Context} {data : Entries}

/-- Without conversion a record with flat rules is left as it is. -/
theorem recordOfFields_of_isFlat {fields : List (Value × Rule)} {outcomes : List (Value × Outcome)}
    (hnames : HasTextNames fields) (hflat : ∀ f ∈ fields, f.2.Everywhere Rule.IsFlat)
    (hconvert : context.convert = false)
    (h : Rule.validateFields registry context data fields = .ok outcomes) :
    recordOfFields data outcomes = data :=
  recordOfFields_of_forall_resolve hnames
    (fun f hf _ _ _ _ _ haccepted => Rule.eq_of_validate_isFlat (hflat f hf) hconvert haccepted) h

/-- The value of a field of an accepted record is the one that was found for it before, but for the spelling
of a text, if that has the form of the rule that is active for the field. -/
theorem peek_recordOfFields_of_hasFormIn {fields : List (Value × Rule)} {outcomes : List (Value × Outcome)}
    (hnames : HasTextNames fields) (hflat : ∀ f ∈ fields, f.2.Everywhere Rule.IsFlat) {name : Value}
    {s : String} (hname : name.text? = some s)
    (hform : ∀ f ∈ fields, f.1.text? = some s → ∀ key value, data.resolve f.1 = some (key, value) →
      f.2.HasFormIn data value)
    (h : Rule.validateFields registry (context.forData data) data fields = .ok outcomes)
    (hall : ∀ f ∈ outcomes, f.2.isAccepted = true) :
    (data.peek name).SpelledAlike ((recordOfFields data outcomes).peek name) := by
  have hothers := hnames.of_names (Rule.names_of_validateFields h)
  by_cases hfield : ∃ f ∈ fields, f.1.text? = some s
  · obtain ⟨f, hf, hs⟩ := hfield
    obtain ⟨o, ho, hvalidate⟩ := Rule.exists_outcome_of_validateFields h hf
    rw [Entries.peek_congr hname hs, Entries.peek_congr hname hs]
    obtain ⟨accepted, notes, rfl⟩ := Outcome.isAccepted_iff.mp (hall _ ho)
    obtain ⟨_, _, -, hfound⟩ := validateField_eq_ok_iff.mp hvalidate
    rcases hfound with ⟨hmissing, -⟩ | ⟨key, value, hresolve, hvalue⟩
    · refine .inl ?_
      rw [Entries.peek, Entries.peek, lookup_recordOfFields hothers ho,
        fieldAfter_of_resolve_eq_none hmissing]
    · have hpresent := (Entries.resolve_eq_some_iff.mp hresolve).2
      rw [Entries.peek_of_resolve hresolve, Entries.peek, lookup_recordOfFields hothers ho,
        fieldAfter_of_resolve hresolve]
      exact Rule.spelledAlike_of_hasFormIn (hflat f hf) hpresent (hform f hf hs key value hresolve) hvalue
  · -- No field has this name, so that validation does not touch what the record holds under it.
    refine .inl ?_
    have hne : ∀ o ∈ outcomes, ∃ other, o.1.text? = some other ∧ s ≠ other := by
      intro o ho
      obtain ⟨f, hf, hsame, -⟩ := Attempt.exists_mem_of_forall₂' (Rule.validateFields_eq_ok_iff.mp h) ho
      obtain ⟨other, hother⟩ := hnames.exists_text hf
      refine ⟨other, hsame ▸ hother, ?_⟩
      rintro rfl
      exact hfield ⟨f, hf, hother⟩
    rw [Entries.peek, Entries.peek, recordOfFields, lookup_foldl_recordWithField_of_ne hname hne]

/-- Whether a name is a text, and what a record holds for the field of that name, if a schema has one, has the
form of the rule that is active for the field. -/
def Schema.HasFieldInForm (schema : Schema) (data : Entries) (name : Value) : Prop :=
  ∃ s, name.text? = some s ∧ ∀ f ∈ schema.fields, f.1.text? = some s →
    ∀ key value, data.resolve f.1 = some (key, value) → f.2.HasFormIn data value

/-- Conditions that look at fields given in the form of their rules come out for an accepted record as for the
one that it came of. -/
theorem Schema.decidesAlike_of_hasFieldInForm {schema : Schema} (hnames : HasTextNames schema.fields)
    (hflat : ∀ f ∈ schema.fields, f.2.Everywhere Rule.IsFlat) {outcomes : List (Value × Outcome)}
    (h : Rule.validateFields registry (context.forData data) data schema.fields = .ok outcomes)
    (hall : ∀ f ∈ outcomes, f.2.isAccepted = true) (rule : Rule)
    (hform : rule.LooksAt (schema.HasFieldInForm data)) :
    rule.DecidesAlike data (recordOfFields data outcomes) := by
  cases rule with
  | conditional common field conditions consequent otherwise base =>
    obtain ⟨s, hs, hfields⟩ := hform
    have halike := peek_recordOfFields_of_hasFormIn hnames hflat hs hfields h hall
    rw [Rule.DecidesAlike, Conditions.holdIn, Conditions.holdIn, Conditions.holdFor_of_spelledAlike halike]
  | _ => trivial

/-- Under a schema of flat rules an accepted record has the same active rules as the one with defaults that it
came of, and is accepted again as it is.  Where values are converted, the fields that conditions look at must
have been given in the form of their own rules. -/
theorem Schema.validate_stable {schema : Schema} (hnames : HasTextNames schema.fields)
    (hself : ∀ d ∈ schema.defaults, d.1.sameKey d.1 = true)
    (hflat : ∀ f ∈ schema.fields, f.2.Everywhere Rule.IsFlat) {entries : Entries}
    (hform : context.convert = true → ∀ f ∈ schema.fields, f.2.Everywhere
      (Rule.LooksAt (schema.HasFieldInForm (Entries.withDefaults entries schema.defaults))))
    {accepted notes : Value}
    (h : schema.validate registry context (.dict entries) = .ok (.accepted accepted notes)) :
    ∃ record, accepted = .dict record ∧
      (∀ f ∈ schema.fields, f.2.Everywhere fun r =>
        r.activate record = r.activate (Entries.withDefaults entries schema.defaults)) ∧
      schema.validate registry context accepted = .ok (.accept accepted) := by
  obtain ⟨_, outcomes, hentries, houtcomes, hall, rfl⟩ := exists_outcomes_of_validate h
  cases hentries
  have hselected : ∀ f ∈ schema.fields, f.2.Everywhere fun r =>
      r.activate (recordOfFields (Entries.withDefaults entries schema.defaults) outcomes) =
        r.activate (Entries.withDefaults entries schema.defaults) := by
    intro f hf
    cases hconvert : context.convert with
    | true =>
      refine Rule.activate_eq_of_decidesAlike ((hform hconvert f hf).imp ?_)
      exact decidesAlike_of_hasFieldInForm hnames hflat houtcomes hall
    | false =>
      have hsame := recordOfFields_of_isFlat hnames hflat (by exact hconvert) houtcomes
      rw [hsame]
      exact Rule.everywhere_of_forall (fun _ => rfl) f.2
  have hrepeats : ∀ f ∈ schema.fields, f.2.Repeats registry
      (context.forData (Entries.withDefaults entries schema.defaults))
      (context.forData (recordOfFields (Entries.withDefaults entries schema.defaults) outcomes))
      (Entries.withDefaults entries schema.defaults)
      (recordOfFields (Entries.withDefaults entries schema.defaults) outcomes) :=
    fun f hf => Rule.repeats_of_isFlat (hflat f hf) rfl rfl rfl (hselected f hf).self
  obtain ⟨hdefaults, found, hfound, hmerge⟩ :=
    record_repeats hnames hself hrepeats houtcomes hall rfl
  refine ⟨_, rfl, hselected, ?_⟩
  rw [validate, hdefaults, hfound]
  exact congrArg Except.ok hmerge

namespace Sample

/-- A rule for texts. -/
def freeText : Rule := .text plain ⟨.null, .null, .null, .null⟩

/-- A level, which administrators must give as a number and others may give as a text. -/
def level : Rule :=
  .conditional plain (.text "role") ⟨some (.text "admin"), none, .null, .null, .null⟩
    (.number ⟨.bool true, none, .null⟩ ⟨.null, .null, .null⟩) (some freeText) none

/-- A role and a level. -/
def rankSchema : Schema := ⟨[(.text "role", freeText), (.text "level", level)], []⟩

/-- A record of a role and a level. -/
def rank (role level : String) : Entries := [(.text "role", .text role), (.text "level", .text level)]

theorem isFlat_rankSchema : ∀ f ∈ rankSchema.fields, f.2.Everywhere Rule.IsFlat := by
  rw [← Rule.everywhereInFields_iff]
  exact ⟨trivial, ⟨trivial, trivial, trivial, trivial⟩, trivial⟩

end Sample

open Sample in
/-- The level is changed by validation, and the role, which the condition looks at, is not. -/
theorem Schema.validate_stable_sample :
    rankSchema.validate (.empty "none") ⟨[], true, []⟩ (.dict (rank "guest" " high")) =
        .ok (.accept (.dict (rank "guest" "high"))) ∧
      level.activate (rank "guest" "high") = level.activate (rank "guest" " high") ∧
      rankSchema.validate (.empty "none") ⟨[], true, []⟩ (.dict (rank "guest" "high")) =
        .ok (.accept (.dict (rank "guest" "high"))) := by
  have hrole : rankSchema.HasFieldInForm (rank "guest" " high") (.text "role") := by
    refine ⟨"role", rfl, fun f hf hname key value hresolve active required hactive => ?_⟩
    rcases List.mem_pair.mp hf with rfl | rfl
    · cases hactive
      cases hresolve
      exact ⟨"guest", rfl, rfl⟩
    · exact absurd hname (by decide)
  have hform : ∀ f ∈ rankSchema.fields,
      f.2.Everywhere (Rule.LooksAt (rankSchema.HasFieldInForm (rank "guest" " high"))) := by
    rw [← Rule.everywhereInFields_iff]
    exact ⟨trivial, ⟨hrole, trivial, trivial, trivial⟩, trivial⟩
  have h : rankSchema.validate (.empty "none") ⟨[], true, []⟩ (.dict (rank "guest" " high")) =
      .ok (.accept (.dict (rank "guest" "high"))) := rfl
  obtain ⟨_, hrecord, hselected, hagain⟩ := Schema.validate_stable
    ⟨["role", "level"], by decide, rfl⟩ (by simp [rankSchema]) isFlat_rankSchema (fun _ => hform) h
  cases hrecord
  exact ⟨h, (hselected (.text "level", level) (by simp [rankSchema])).self, hagain⟩

open Sample in
/-- Where a condition comes out otherwise for the accepted record, it may not be accepted again: with the
blank before it the role is not that of an administrator. -/
theorem Schema.not_validate_stable :
    ¬ ∀ (registry : Custom.Registry) (context : Context) (schema : Schema) (entries record : Entries)
      (notes : Value), HasTextNames schema.fields → (∀ d ∈ schema.defaults, d.1.sameKey d.1 = true) →
      (∀ f ∈ schema.fields, f.2.Everywhere Rule.IsFlat) → schema.hasHook = false →
      schema.validate registry context (.dict entries) = .ok (.accepted (.dict record) notes) →
      (∀ f ∈ schema.fields, f.2.Everywhere fun r =>
        r.activate record = r.activate (Entries.withDefaults entries schema.defaults)) ∧
      schema.validate registry context (.dict record) = .ok (.accept (.dict record)) := by
  intro hall
  have hagain := (hall (.empty "none") ⟨[], true, []⟩ rankSchema (rank " admin" "high")
    (rank "admin" "high") (.list []) ⟨["role", "level"], by decide, rfl⟩ (by simp [rankSchema])
    isFlat_rankSchema rfl rfl).2
  have hrejected : (rankSchema.validate (.empty "none") ⟨[], true, []⟩
      (.dict (rank "admin" "high"))).toOption.any Outcome.isAccepted = false := by decide +kernel
  rw [hagain] at hrejected
  cases hrejected

end RecordCheck
