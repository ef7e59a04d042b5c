import RecordCheck.Proofs.Validation

/-!
# Records validated again

What it takes for a record that was accepted to be accepted again as it is: every field has the same
active rule as before, which accepts again what it has accepted and asks for nothing that became blank.
The defaults are there by then, and every field is found under the key under which it was found before.
-/

set_option autoImplicit false

namespace RecordCheck

variable {registry : Custom.Registry} {context again : Context} {data record : Entries}

/-- Whether a rule accepts again, in a record that came of another, what it has accepted in that one. -/
structure Rule.Repeats (registry : Custom.Registry) (context again : Context) (data record : Entries)
    (rule : Rule) : Prop where
  selected : rule.activate record = rule.activate data
  repeated : ∀ {value accepted notes : Value},
    rule.validate registry context true value = .ok (.accepted accepted notes) →
      rule.validate registry again true accepted = .ok (.accept accepted)
  filled : ∀ {active : Option Rule} {required value accepted notes : Value},
    rule.activate data = .ok (active, required) → value.isBlank = false →
      rule.validate registry context true value = .ok (.accepted accepted notes) →
        accepted.isBlank = true → required.isTruthy = false

/-- A field of an accepted record is accepted again and leaves the record as it is. -/
theorem validateField_repeats {name : Value} {s : String} {rule : Rule} {o : Outcome}
    (hname : name.text? = some s) (hrule : rule.Repeats registry context again data record)
    (hlookup : record.lookup name = fieldAfter data name o) (ho : o.isAccepted = true)
    (h : validateField registry context data name rule = .ok o) :
    ∃ o', validateField registry again record name rule = .ok o' ∧ o'.isAccepted = true ∧
      recordWithField record record name o' = record := by
  obtain ⟨value, notes, rfl⟩ := Outcome.isAccepted_iff.mp ho
  obtain ⟨active, required, hselected, hfield⟩ := validateField_eq_ok_iff.mp h
  have hactive := hrule.selected.trans hselected
  -- A field that is missing or blank in the record is passed over, if it need not be there.
  have missing (hresolve : record.resolve name = none) (hrequired : required.isTruthy = false) :
      ∃ o', validateField registry again record name rule = .ok o' ∧ o'.isAccepted = true ∧
        recordWithField record record name o' = record := by
    refine ⟨.accept .null, validateField_eq_ok_iff.mpr ⟨_, _, hactive, .inl ⟨hresolve, ?_⟩⟩, rfl, ?_⟩
    · exact absent_eq_accepted_iff.mpr ⟨hrequired, rfl, rfl⟩
    · simp [recordWithField, hresolve]
  rcases hfield with ⟨hresolve, habsent⟩ | ⟨key, old, hresolve, hvalue⟩
  · refine missing ?_ (absent_eq_accepted_iff.mp habsent).1
    rw [fieldAfter_of_resolve_eq_none hresolve] at hlookup
    rw [Entries.resolve, hlookup, ← hresolve]
    rfl
  · rw [fieldAfter_of_resolve hresolve] at hlookup
    cases hblank : value.isBlank with
    | true =>
      have hold := (Entries.resolve_eq_some_iff.mp hresolve).2
      refine missing ?_ (hrule.filled hselected hold hvalue hblank)
      simp [Entries.resolve, hlookup, hblank]
    | false =>
      have hfound := Entries.resolve_eq_some_iff.mpr ⟨hlookup, hblank⟩
      refine ⟨.accept value, validateField_eq_ok_iff.mpr ⟨_, _, hactive, .inr ?_⟩, rfl, ?_⟩
      · exact ⟨key, value, hfound, hrule.repeated hvalue⟩
      · simp only [recordWithField, hfound, Outcome.accept]
        exact Entries.put_eq_self (Entries.get?_of_lookup hname hlookup)

/-- A record that was made from one with its defaults has them already. -/
theorem withDefaults_recordOfFields {defaults entries : Entries} {outcomes : List (Value × Outcome)}
    (hnames : HasTextNames outcomes) (hself : ∀ d ∈ defaults, d.1.sameKey d.1 = true) :
    Entries.withDefaults (recordOfFields (Entries.withDefaults entries defaults) outcomes) defaults =
      recordOfFields (Entries.withDefaults entries defaults) outcomes := by
  refine Entries.withDefaults_eq_self fun d hd => ?_
  have hfound := Entries.lookup_withDefaults_isSome entries hd (hself d hd)
  rw [Entries.lookup_isSome_iff] at hfound ⊢
  rw [keys_recordOfFields hnames.ne_null]
  exact hfound

/-- A record whose fields were accepted is accepted again, field by field, and left as it is. -/
theorem validateFields_repeats {fields : List (Value × Rule)} {outcomes : List (Value × Outcome)}
    (hnames : HasTextNames fields)
    (hrules : ∀ f ∈ fields, f.2.Repeats registry context again data record)
    (h : Rule.validateFields registry context data fields = .ok outcomes)
    (hall : ∀ f ∈ outcomes, f.2.isAccepted = true) (hrecord : record = recordOfFields data outcomes) :
    ∃ found, Rule.validateFields registry again record fields = .ok found ∧
      mergeFields record found = .accept (.dict record) := by
  have hothers := hnames.of_names (Rule.names_of_validateFields h)
  have step : ∀ f ∈ fields, ∃ found : Value × Outcome, f.1 = found.1 ∧
      validateField registry again record f.1 f.2 = .ok found.2 ∧ found.2.isAccepted = true ∧
      recordWithField record record found.1 found.2 = record := by
    intro f hf
    obtain ⟨s, hs⟩ := hnames.exists_text hf
    obtain ⟨o, ho, hvalidate⟩ := Rule.exists_outcome_of_validateFields h hf
    have hlookup : record.lookup f.1 = fieldAfter data f.1 o := by
      rw [hrecord, lookup_recordOfFields hothers ho]
    obtain ⟨o', hvalidate', haccepted, hsame⟩ :=
      validateField_repeats hs (hrules f hf) hlookup (hall _ ho) hvalidate
    exact ⟨(f.1, o'), rfl, hvalidate', haccepted, hsame⟩
  obtain ⟨found, hfound⟩ := Attempt.exists_forall₂ step
  refine ⟨found, ?_, mergeFields_eq_accepted_iff.mpr ⟨?_, ?_, rfl⟩⟩
  · exact Rule.validateFields_eq_ok_iff.mpr (hfound.imp fun f o ho => ⟨ho.1, ho.2.1⟩)
  · intro o ho
    obtain ⟨f, -, -, -, haccepted, -⟩ := Attempt.exists_mem_of_forall₂' hfound ho
    exact haccepted
  · rw [recordOfFields_eq_self]
    intro o ho
    obtain ⟨f, -, -, -, -, hsame⟩ := Attempt.exists_mem_of_forall₂' hfound ho
    exact hsame

/-- A record that was accepted has all defaults already, and all its fields are accepted again. -/
theorem record_repeats {fields : List (Value × Rule)} {defaults entries : Entries}
    {outcomes : List (Value × Outcome)} (hnames : HasTextNames fields)
    (hself : ∀ d ∈ defaults, d.1.sameKey d.1 = true)
    (hrules : ∀ f ∈ fields,
      f.2.Repeats registry context again (Entries.withDefaults entries defaults) record)
    (h : Rule.validateFields registry context (Entries.withDefaults entries defaults) fields =
      .ok outcomes)
    (hall : ∀ f ∈ outcomes, f.2.isAccepted = true)
    (hrecord : record = recordOfFields (Entries.withDefaults entries defaults) outcomes) :
    Entries.withDefaults record defaults = record ∧
      ∃ found, Rule.validateFields registry again record fields = .ok found ∧
        mergeFields record found = .accept (.dict record) := by
  refine ⟨?_, validateFields_repeats hnames hrules h hall hrecord⟩
  rw [hrecord]
  exact withDefaults_recordOfFields (hnames.of_names (Rule.names_of_validateFields h)) hself

end RecordCheck
