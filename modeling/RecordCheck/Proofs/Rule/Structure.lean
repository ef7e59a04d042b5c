import RecordCheck.Proofs.Attempt
import RecordCheck.Validation

/-!
# The structure of rules

Induction on rules, what holds of all rules under a rule, and what it comes to that the fields of a record
are validated without a fault.
-/

set_option autoImplicit false

namespace RecordCheck

/-- What holds of a rule when it holds of the rules under it holds of every rule. -/
theorem Rule.induction {motive : Rule → Prop} (text : ∀ common checks, motive (.text common checks))
    (number : ∀ common checks, motive (.number common checks))
    (boolean : ∀ common words, motive (.boolean common words)) (date : ∀ common, motive (.date common))
    (object : ∀ common fields defaults, (∀ f ∈ fields, motive f.2) →
      motive (.object common fields defaults))
    (array : ∀ common element checks, (∀ r ∈ element, motive r) → motive (.array common element checks))
    (conditional : ∀ common field conditions consequent otherwise base, motive consequent →
      (∀ r ∈ otherwise, motive r) → (∀ r ∈ base, motive r) →
      motive (.conditional common field conditions consequent otherwise base))
    (custom : ∀ common typeName options, motive (.custom common typeName options)) (rule : Rule) :
    motive rule :=
  @Rule.rec motive (fun fields => ∀ f ∈ fields, motive f.2) (fun branch => ∀ r ∈ branch, motive r)
    (fun f => motive f.2) text number boolean date object array conditional custom (by simp)
    (fun _ _ hfirst hrest => List.forall_mem_cons.mpr ⟨hfirst, hrest⟩) (by simp)
    (fun _ h => by simpa using h) (fun _ _ h => h) rule

namespace Rule

/-- What holds of all branches of a conditional rule holds of the one that it takes. -/
theorem forall_branch {motive : Rule → Prop} {consequent : Rule} {otherwise base : Option Rule}
    (hconsequent : motive consequent) (hotherwise : ∀ r ∈ otherwise, motive r)
    (hbase : ∀ r ∈ base, motive r) (holds : Bool) :
    ∀ r ∈ branch holds consequent otherwise base, motive r := by
  cases holds with
  | true => simpa [branch] using hconsequent
  | false =>
    cases otherwise with
    | some r => simpa [branch] using hotherwise
    | none => simpa [branch] using hbase

/-- Whether a rule is replaced by one of its branches. -/
def isConditional : Rule → Bool
  | conditional .. => true
  | _ => false

/-- Whether a rule refers to a custom type. -/
def isCustom : Rule → Bool
  | custom .. => true
  | _ => false

mutual

/-- Whether something holds of a rule and of all rules under it. -/
def Everywhere (P : Rule → Prop) : Rule → Prop
  | object common fields defaults => P (object common fields defaults) ∧ EverywhereInFields P fields
  | array common element checks => P (array common element checks) ∧ EverywhereInBranch P element
  | conditional common field conditions consequent otherwise base =>
    P (conditional common field conditions consequent otherwise base) ∧ Everywhere P consequent ∧
      EverywhereInBranch P otherwise ∧ EverywhereInBranch P base
  | r => P r

/-- Whether something holds of a rule that may be absent and of all rules under it. -/
def EverywhereInBranch (P : Rule → Prop) : Option Rule → Prop
  | none => True
  | some r => Everywhere P r

/-- Whether something holds of the rules of fields and of all rules under them. -/
def EverywhereInFields (P : Rule → Prop) : List (Value × Rule) → Prop
  | [] => True
  | (_, r) :: rest => Everywhere P r ∧ EverywhereInFields P rest

end

section

variable {P : Rule → Prop}

theorem everywhereInBranch_iff {branch : Option Rule} :
    EverywhereInBranch P branch ↔ ∀ r ∈ branch, r.Everywhere P := by
  cases branch <;> simp [EverywhereInBranch]

theorem everywhereInFields_iff {fields : List (Value × Rule)} :
    EverywhereInFields P fields ↔ ∀ f ∈ fields, f.2.Everywhere P := by
  induction fields with
  | nil => simp [EverywhereInFields]
  | cons f rest ih =>
    rw [EverywhereInFields, ih, List.forall_mem_cons]

/-- What holds of all rules holds of all rules under a rule. -/
theorem everywhere_of_forall (h : ∀ r, P r) (rule : Rule) : rule.Everywhere P := by
  induction rule using Rule.induction with
  | object common fields defaults ih => exact ⟨h _, everywhereInFields_iff.mpr ih⟩
  | array common element checks ih => exact ⟨h _, everywhereInBranch_iff.mpr ih⟩
  | conditional common field conditions consequent otherwise base hconsequent hotherwise hbase =>
    exact ⟨h _, hconsequent, everywhereInBranch_iff.mpr hotherwise, everywhereInBranch_iff.mpr hbase⟩
  | _ => exact h _

/-- What follows from what holds of all rules under a rule holds of them, too. -/
theorem Everywhere.imp {Q : Rule → Prop} (h : ∀ r, P r → Q r) {rule : Rule} (hrule : rule.Everywhere P) :
    rule.Everywhere Q := by
  induction rule using Rule.induction with
  | object common fields defaults ih =>
    obtain ⟨hself, hfields⟩ := hrule
    rw [everywhereInFields_iff] at hfields
    exact ⟨h _ hself, everywhereInFields_iff.mpr fun f hf => ih f hf (hfields f hf)⟩
  | array common element checks ih =>
    obtain ⟨hself, helement⟩ := hrule
    rw [everywhereInBranch_iff] at helement
    exact ⟨h _ hself, everywhereInBranch_iff.mpr fun r hr => ih r hr (helement r hr)⟩
  | conditional common field conditions consequent otherwise base hconsequent hotherwise hbase =>
    obtain ⟨hself, hthen, helse, hdefault⟩ := hrule
    rw [everywhereInBranch_iff] at helse hdefault
    exact ⟨h _ hself, hconsequent hthen,
      everywhereInBranch_iff.mpr fun r hr => hotherwise r hr (helse r hr),
      everywhereInBranch_iff.mpr fun r hr => hbase r hr (hdefault r hr)⟩
  | _ => exact h _ hrule

theorem Everywhere.self {r : Rule} (h : r.Everywhere P) : P r := by
  cases r with
  | object common fields defaults => exact h.1
  | array common element checks => exact h.1
  | conditional common field conditions consequent otherwise base => exact h.1
  | _ => exact h

end

/-! ### Branches -/

section

variable {common : Common} {field : Value} {conditions : Conditions} {consequent : Rule}
  {otherwise base : Option Rule}

/-- The rule that is active for a conditional one is that of the branch that it takes. -/
theorem activate_conditional (data : Entries) :
    (conditional common field conditions consequent otherwise base).activate data =
      conditions.holdIn field data >>= fun holds =>
        match branch holds consequent otherwise base with
        | none => pure (none, common.required)
        | some r => r.activate data := by
  rw [activate]
  congr 1
  funext holds
  cases holds with
  | true => rfl
  | false => cases otherwise <;> cases base <;> rfl

/-- Where a conditional rule takes a branch, the rule that is active for it is that of the branch. -/
theorem activate_conditional_of_branch {data : Entries} {holds : Bool} {r : Rule}
    (hholds : conditions.holdIn field data = .ok holds)
    (hbranch : branch holds consequent otherwise base = some r) :
    (conditional common field conditions consequent otherwise base).activate data = r.activate data := by
  rw [activate_conditional, hholds, Attempt.ok_bind, hbranch]

/-- The rule that is active for another one is not conditional and says what is required, and whatever
passes from conditional rules to their branches holds of it. -/
theorem of_activate {P : Rule → Prop} {data : Entries} {rule active : Rule} {required : Value}
    (hbranches : ∀ {common field conditions consequent otherwise base},
      P (.conditional common field conditions consequent otherwise base) →
        ∀ holds, ∀ r ∈ branch holds consequent otherwise base, P r)
    (hrule : P rule) (h : rule.activate data = .ok (some active, required)) :
    P active ∧ active.isConditional = false ∧ required = active.common.required := by
  induction rule using Rule.induction with
  | conditional common field conditions consequent otherwise base hconsequent hotherwise hbase =>
    rw [activate_conditional] at h
    obtain ⟨holds, -, h⟩ := Attempt.bind_eq_ok_iff.mp h
    cases hbranch : branch holds consequent otherwise base with
    | none =>
      rw [hbranch] at h
      cases h
    | some r =>
      rw [hbranch] at h
      exact forall_branch hconsequent hotherwise hbase holds r hbranch
        (hbranches hrule holds r hbranch) h
  | _ =>
    cases h
    exact ⟨hrule, rfl, rfl⟩

theorem isConditional_of_activate {data : Entries} {rule active : Rule} {required : Value}
    (h : rule.activate data = .ok (some active, required)) : active.isConditional = false :=
  (of_activate (P := fun _ => True) (fun _ _ _ _ => trivial) trivial h).2.1

theorem required_of_activate {data : Entries} {rule active : Rule} {required : Value}
    (h : rule.activate data = .ok (some active, required)) : required = active.common.required :=
  (of_activate (P := fun _ => True) (fun _ _ _ _ => trivial) trivial h).2.2

/-- A value is validated against the branch that a conditional rule takes. -/
theorem validate_conditional (registry : Custom.Registry) (context : Context) (mayBeBlank : Bool)
    (value : Value) :
    (conditional common field conditions consequent otherwise base).validate registry context mayBeBlank
        value =
      conditions.holdIn field context.data >>= fun holds =>
        match branch holds consequent otherwise base with
        | none => unchecked value common.required.isTruthy
        | some r => r.validate registry context true value := by
  rw [validate]
  congr 1
  funext holds
  cases holds with
  | true => rfl
  | false => cases otherwise <;> cases base <;> rfl

end

/-! ### Hooks -/

theorem fieldsHaveHook_eq_false_iff {fields : List (Value × Rule)} :
    fieldsHaveHook fields = false ↔ ∀ f ∈ fields, f.2.hasHook = false := by
  induction fields with
  | nil => simp [fieldsHaveHook]
  | cons f rest ih => rw [fieldsHaveHook, Bool.or_eq_false_iff, ih, List.forall_mem_cons]

theorem branchHasHook_eq_false_iff {branch : Option Rule} :
    branchHasHook branch = false ↔ ∀ r ∈ branch, r.hasHook = false := by
  cases branch <;> simp [branchHasHook]

/-- A rule under which there is no hook has none itself. -/
theorem hook_of_hasHook {rule : Rule} (h : rule.hasHook = false) : rule.common.hook = none := by
  rw [← Option.isSome_eq_false_iff.trans Option.isNone_iff_eq_none]
  cases rule <;> simp_all [hasHook, common]

/-- If there is no hook under a rule, then there is none under the rule that is active for it. -/
theorem hasHook_of_activate {data : Entries} {rule active : Rule} {required : Value}
    (hrule : rule.hasHook = false) (h : rule.activate data = .ok (some active, required)) :
    active.hasHook = false := by
  refine (of_activate (P := fun r => r.hasHook = false) ?_ hrule h).1
  intro common field conditions consequent otherwise base hnone holds
  simp only [hasHook, Bool.or_eq_false_iff, branchHasHook_eq_false_iff] at hnone
  obtain ⟨⟨⟨-, hthen⟩, helse⟩, hdefault⟩ := hnone
  exact forall_branch hthen helse hdefault holds

variable {registry : Custom.Registry} {context : Context} {data : Entries}

/-! ### Validation -/

/-- A rule that is not conditional is active itself. -/
theorem activate_of_not_isConditional {data : Entries} {rule : Rule} (h : rule.isConditional = false) :
    rule.activate data = .ok (some rule, rule.common.required) := by
  cases rule with
  | conditional common field conditions consequent otherwise base => cases h
  | _ => rfl

/-- The first field of a record is validated before the others. -/
theorem validateFields_cons (name : Value) (r : Rule) (rest : List (Value × Rule)) :
    validateFields registry context data ((name, r) :: rest) = do
      let outcome ← validateField registry context data name r
      return (name, outcome) :: (← validateFields registry context data rest) := by
  simp only [validateFields, validateField, bind_assoc]
  congr 1
  funext selected
  cases data.resolve name <;> rfl

/-- The fields of a record are validated one by one, in the order of the schema. -/
theorem validateFields_eq_ok_iff {fields : List (Value × Rule)} {outcomes : List (Value × Outcome)} :
    validateFields registry context data fields = .ok outcomes ↔
      List.Forall₂ (fun f o => f.1 = o.1 ∧ validateField registry context data f.1 f.2 = .ok o.2)
        fields outcomes := by
  induction fields generalizing outcomes with
  | nil => cases outcomes <;> simp [validateFields]
  | cons f rest ih =>
    obtain ⟨name, r⟩ := f
    rw [validateFields_cons]
    cases outcomes with
    | nil => simp
    | cons o os =>
      obtain ⟨name', o⟩ := o
      simp [ih, and_assoc, and_left_comm, and_comm]

/-- The outcomes of fields bear their names, in the order of the schema. -/
theorem names_of_validateFields {fields : List (Value × Rule)} {outcomes : List (Value × Outcome)}
    (h : validateFields registry context data fields = .ok outcomes) :
    fields.map (·.1) = outcomes.map (·.1) := by
  rw [validateFields_eq_ok_iff] at h
  induction h with
  | nil => rfl
  | cons hfirst _ ih => rw [List.map_cons, List.map_cons, hfirst.1, ih]

/-- A value that is not blank is validated alike in every place. -/
theorem validate_of_not_isBlank {value : Value} (h : value.isBlank = false) (rule : Rule) :
    rule.validate registry context true value = rule.validate registry context false value := by
  cases rule with
  | array common element checks => cases element <;> simp [validate, h]
  | _ => simp [validate, h]

/-- A blank value is not looked at by any rule but a conditional one. -/
theorem validate_of_isBlank {value : Value} (h : value.isBlank = true) {rule : Rule}
    (hrule : rule.isConditional = false) :
    rule.validate registry context true value = unchecked value rule.isRequired := by
  cases rule with
  | conditional common field conditions consequent otherwise base => cases hrule
  | array common element checks => cases element <;> simp [validate, h, isRequired, Rule.common]
  | _ => simp [validate, h, isRequired, Rule.common]

/-- A value is validated against the rule that is active, if there is one. -/
theorem validate_eq_activate_bind {rule : Rule} {value : Value} :
    rule.validate registry context true value =
      rule.activate context.data >>= fun selected =>
        match selected.1 with
        | none => unchecked value selected.2.isTruthy
        | some r => r.validate registry context true value := by
  induction rule using Rule.induction with
  | conditional common field conditions consequent otherwise base hconsequent hotherwise hbase =>
    rw [validate_conditional, activate_conditional, bind_assoc]
    congr 1
    funext holds
    cases hbranch : branch holds consequent otherwise base with
    | none => rfl
    | some r => exact forall_branch hconsequent hotherwise hbase holds r hbranch
  | _ => rfl

/-- What holds of all rules under a rule holds of all rules under the one that is active. -/
theorem Everywhere.of_activate {P : Rule → Prop} {rule active : Rule} {required : Value}
    (hrule : rule.Everywhere P) (h : rule.activate data = .ok (some active, required)) :
    active.Everywhere P := by
  refine (Rule.of_activate (P := Everywhere P) ?_ hrule h).1
  rintro common field conditions consequent otherwise base ⟨-, hthen, helse, hdefault⟩ holds
  rw [everywhereInBranch_iff] at helse hdefault
  exact forall_branch hthen helse hdefault holds

end Rule

end RecordCheck
