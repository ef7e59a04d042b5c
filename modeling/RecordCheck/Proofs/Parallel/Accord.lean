import RecordCheck.Proofs.Parallel.Agreement
import RecordCheck.Proofs.Parallel.Conduct
import RecordCheck.Proofs.Parallel.Positions

/-!
# Plans accord with positions

The plan of a record decides by the hooks under a rule whether to fork or to validate a value in one stay.
The conduct of the plan does not show how that was decided: a unit at a position calls the hook of the
rule that is active there just when the value has passed all checks and all hooks of its parts have
accepted theirs, and there are no calls but these.  This is proved by induction on the rule.
-/

set_option autoImplicit false

namespace RecordCheck.Parallel

/-! ## Accepted results -/

/-- The report of an error accepts nothing. -/
theorem acceptedBy_rejectFor (value : Value) (code : Code) (details : Entries) :
    acceptedBy (Outcome.rejectFor value code details) = none := by
  unfold Outcome.rejectFor
  cases Entry.ofCode code details <;> rfl

/-- What a unit reports in the place of a fault is not accepted either. -/
theorem acceptedBy_guarded (value : Value) (result : Attempt Outcome) :
    acceptedBy (guarded value result) = acceptedBy result := by
  cases result with
  | ok o => rfl
  | error fault =>
    unfold guarded
    dsimp only
    split
    · rfl
    · exact acceptedBy_rejectFor _ _ _

variable {registry : Custom.Registry} {standard : Value} {context : Context}

/-- The calls of work without parts depend on what was accepted before only. -/
theorem calls_finish (common : Common) (typeName : String) (value : Value) (checked : Attempt Outcome) :
    (finish common typeName standard context value checked).calls =
      callsAfter common standard context (acceptedBy checked) := by
  unfold finish afterChecks callsAfter
  rcases checked with fault | accepted | rejected
  · rfl
  · cases common.hook with
    | none => rfl
    | some hook =>
      cases hlimit : Duration.ofValue (timeoutOf common standard) <;>
        simp [callHook, hlimit, acceptedBy, Outcome.accepted?, Work.calls, Stay.brief]
  · rfl

/-- The hook has the last word on a value that was accepted before. -/
theorem acceptedBy_finish (common : Common) (typeName : String) (value : Value)
    (checked : Attempt Outcome) :
    acceptedBy (finish common typeName standard context value checked).result =
      (acceptedBy checked).bind (afterHook common typeName standard context) := by
  unfold finish
  rw [acceptedBy_guarded]
  unfold afterChecks afterHook
  rcases checked with fault | accepted | rejected
  · rfl
  · cases common.hook <;> rfl
  · rfl

/-! ## Calls at positions -/

/-- Whether the calls of a unit and its parts are those at the positions, each in its place. -/
structure Conduct.Matches (registry : Custom.Registry) (standard : Value)
    (positions : Path → Visit → Prop) (c : Conduct) : Prop where
  called : ∀ path visit, positions path visit → c.calls path = visit.calls registry standard
  uncalled : ∀ path, (∀ visit, ¬ positions path visit) → c.calls path = []

namespace Conduct

variable {positions : Path → Visit → Prop}

theorem Matches.congr {others : Path → Visit → Prop} {c : Conduct}
    (h : c.Matches registry standard positions)
    (hsame : ∀ path visit, others path visit ↔ positions path visit) :
    c.Matches registry standard others :=
  ⟨fun path visit hvisit => h.called path visit ((hsame path visit).mp hvisit),
    fun path hnone => h.uncalled path fun visit hvisit => hnone visit ((hsame path visit).mpr hvisit)⟩

/-- No calls are made where none are to be made. -/
theorem matches_silent (accepted : Option Value)
    (h : ∀ path visit, positions path visit → visit.calls registry standard = []) :
    (Conduct.silent accepted).Matches registry standard positions :=
  ⟨fun path visit hvisit => (h path visit hvisit).symm, fun _ _ => rfl⟩

/-- The calls of a fork are those of its parts and its own. -/
theorem matches_forking {α : Type} {members : List α} {inside : α → Path → Visit → Prop}
    {parts : List Conduct} {calls : List HookCall} {accepted : Option Value}
    (hparts : List.Forall₂ (fun a c => c.Matches registry standard (inside a)) members parts)
    (hcalled : ∀ visit, positions [] visit → calls = visit.calls registry standard)
    (huncalled : (∀ visit, ¬ positions [] visit) → calls = [])
    (hinside : ∀ i path visit,
      positions (i :: path) visit ↔ ∃ a, members[i]? = some a ∧ inside a path visit) :
    (Conduct.forking parts calls accepted).Matches registry standard positions := by
  have hpart (i : Nat) : (∃ a c, members[i]? = some a ∧ parts[i]? = some c ∧
      c.Matches registry standard (inside a)) ∨ members[i]? = none ∧ parts[i]? = none := by
    by_cases hi : i < members.length
    · have hi' := hparts.length_eq ▸ hi
      exact .inl ⟨members[i], parts[i], List.getElem?_eq_getElem hi, List.getElem?_eq_getElem hi',
        hparts.get hi hi'⟩
    · have hi' := hparts.length_eq ▸ hi
      exact .inr ⟨List.getElem?_eq_none (by omega), List.getElem?_eq_none (by omega)⟩
  refine ⟨?_, ?_⟩
  · intro path visit hvisit
    cases path with
    | nil => exact hcalled visit hvisit
    | cons i path =>
      obtain ⟨a, ha, hvisit⟩ := (hinside i path visit).mp hvisit
      rcases hpart i with ⟨b, c, hb, hc, hmatches⟩ | ⟨hnone, -⟩
      · rw [ha] at hb
        cases hb
        simpa [Conduct.forking, hc] using hmatches.called path visit hvisit
      · rw [ha] at hnone
        cases hnone
  · intro path hpath
    cases path with
    | nil => exact huncalled hpath
    | cons i path =>
      rcases hpart i with ⟨a, c, ha, hc, hmatches⟩ | ⟨-, hnone⟩
      · have hnot (visit : Visit) (hvisit : inside a path visit) : False :=
          hpath visit ((hinside i path visit).mpr ⟨a, ha, hvisit⟩)
        simpa [Conduct.forking, hc] using hmatches.uncalled path hnot
      · simp [Conduct.forking, hnone]

end Conduct

/-! ## The plan for a value -/

/-- Whether a plan accepts what a value becomes, and calls the hooks at positions. -/
def Plan.Accords (registry : Custom.Registry) (standard : Value) (plan : Plan)
    (accepted : Option Value) (positions : Path → Visit → Prop) : Prop :=
  ∃ c, plan.Conducts c ∧ c.accepted = accepted ∧ c.Matches registry standard positions

/-- What the induction over rules shows: the plan for a value accepts what the value becomes, and calls
the hooks at its positions. -/
def Accords (registry : Custom.Registry) (standard : Value) (rule : Rule) : Prop :=
  ∀ (context : Context) (value : Value),
    (planValue registry standard context rule value).Accords registry standard
      (settle registry standard context rule value) (Reaches context rule value)

section

variable {rule : Rule} {value : Value} {positions : Path → Visit → Prop}

/-- A plan that ends at once calls no hooks. -/
theorem accords_ends {result : Attempt Outcome} {accepted : Option Value}
    (haccepted : acceptedBy result = accepted)
    (h : ∀ path visit, positions path visit → visit.calls registry standard = []) :
    (Plan.ends result).Accords registry standard accepted positions :=
  ⟨.silent (acceptedBy result), rfl, haccepted, Conduct.matches_silent _ h⟩

/-- A stay without a call changes nothing. -/
theorem accords_brief {next : Plan} {accepted : Option Value}
    (h : next.Accords registry standard accepted positions) :
    (Plan.stay .brief next).Accords registry standard accepted positions := by
  obtain ⟨c, hconducts, haccepted, hmatches⟩ := h
  exact ⟨c, ⟨c, hconducts, (Conduct.calling_nil c).symm⟩, haccepted, hmatches⟩

/-- No position is in a blank value. -/
theorem Reaches.isBlank {path : Path} {visit : Visit} (h : Reaches context rule value path visit) :
    value.isBlank = false := by
  cases h with
  | here _ present => exact present
  | field _ _ _ _ => rfl
  | item _ present _ _ _ => exact present

/-- A blank value is not looked at. -/
theorem accords_of_isBlank (hvalue : value.isBlank = true) (hrule : rule.isConditional = false)
    (hplan : planValue registry standard context rule value = planUnchecked value rule.isRequired) :
    (planValue registry standard context rule value).Accords registry standard
      (settle registry standard context rule value) (Reaches context rule value) := by
  rw [hplan, settle_of_isBlank hvalue hrule]
  refine accords_ends rfl fun path visit hvisit => ?_
  rw [hvisit.isBlank] at hvalue
  cases hvalue

/-- A value that fails its checks is rejected, and no hook is called. -/
theorem calls_of_checked {visit : Visit} (h : visit.checked registry standard = none) :
    visit.calls registry standard = [] := by
  rw [Visit.calls, h]
  rfl

/-- A value that fails its checks as a whole, so that none of its parts is looked at. -/
theorem accords_rejected (hvalue : value.isBlank = false) (hrule : rule.isConditional = false)
    (hchecked : (Visit.mk context rule value).checked registry standard = none)
    (hinside : ∀ i path visit, ¬ Reaches context rule value (i :: path) visit)
    {result : Attempt Outcome} (hresult : acceptedBy result = none) :
    (Plan.ends result).Accords registry standard (settle registry standard context rule value)
      (Reaches context rule value) := by
  rw [settle_of_not_isBlank hvalue hrule, hchecked]
  refine accords_ends hresult fun path visit hvisit => ?_
  cases path with
  | nil =>
    obtain ⟨-, rfl⟩ := (reaches_nil_iff hrule).mp hvisit
    exact calls_of_checked hchecked
  | cons i path => exact absurd hvisit (hinside i path visit)

/-- A value that is validated in one stay, there being no hooks at the positions in it. -/
theorem accords_planWhole (hvalue : value.isBlank = false) (hrule : rule.isConditional = false)
    (hchecked : (Visit.mk context rule value).checked registry standard =
      acceptedBy (rule.validate registry context false value))
    (hinside : ∀ i path visit, Reaches context rule value (i :: path) visit →
      visit.calls registry standard = []) :
    (planWhole registry standard context rule value).Accords registry standard
      (settle registry standard context rule value) (Reaches context rule value) := by
  rw [settle_of_not_isBlank hvalue hrule, hchecked]
  refine accords_brief ⟨_, Plan.conducts_work _, acceptedBy_finish _ _ _ _, ?_, ?_⟩
  · intro path visit hvisit
    cases path with
    | nil =>
      obtain ⟨-, rfl⟩ := (reaches_nil_iff hrule).mp hvisit
      simp [Conduct.calling, Conduct.silent, calls_finish, Visit.calls, hchecked]
    | cons i path => simp [Conduct.calling, Conduct.silent, hinside i path visit hvisit]
  · intro path hpath
    cases path with
    | nil => exact absurd ((reaches_nil_iff hrule).mpr ⟨hvalue, rfl⟩) (hpath _)
    | cons i path => simp [Conduct.calling, Conduct.silent]

/-! ### Forks -/

/-- A join that goes on to call a hook, given what it makes of what the parts accept. -/
theorem joins_finish {common : Common} {typeName : String} {merge : List Outcome → Outcome}
    {parts : List (Option Value)} {checked : Option Value}
    (hmerged : ∀ outcomes : List Outcome, outcomes.map Outcome.accepted? = parts →
      (merge outcomes).accepted? = checked)
    (hfailed : none ∈ parts → checked = none) :
    Joins (fun outcomes => finish common typeName standard context value (pure (merge outcomes)))
      (fun fault => guarded value (.error fault)) parts (callsAfter common standard context checked)
      (checked.bind (afterHook common typeName standard context)) where
  merged outcomes houtcomes := by
    rw [calls_finish, acceptedBy_finish, ← hmerged outcomes houtcomes]
    exact ⟨rfl, rfl⟩
  failed hnone := by
    rw [hfailed hnone]
    exact ⟨rfl, rfl⟩
  aborted cause := acceptedBy_guarded value (.error cause)

/-- The parts of a fork, of which each accords with what it is the plan for. -/
theorem exists_parts {α : Type} {members : List α} {plan : α → Plan} {become : α → Option Value}
    {inside : α → Path → Visit → Prop}
    (h : ∀ a ∈ members, (plan a).Accords registry standard (become a) (inside a)) :
    ∃ parts, Plan.ConductsAll (members.map plan) parts ∧
      parts.map (·.accepted) = members.map become ∧
      List.Forall₂ (fun a c => c.Matches registry standard (inside a)) members parts := by
  obtain ⟨parts, hparts⟩ := Attempt.exists_forall₂ h
  refine ⟨parts, ?_, ?_, hparts.imp fun a c h => h.2.2⟩
  · rw [Plan.conductsAll_iff, List.forall₂_map_left_iff]
    exact hparts.imp fun a c h => h.1
  · rw [← List.forall₂_eq_eq_eq, List.forall₂_map_left_iff, List.forall₂_map_right_iff]
    exact hparts.flip.imp fun c a h => h.2.1

/-- A fork at a position: the parts are those of the value, and then the hook is called. -/
theorem accords_fork {α : Type} {members : List α} {plan : α → Plan} {become : α → Option Value}
    {inside : α → Path → Visit → Prop} {merge : List Outcome → Outcome} (rule : Rule)
    (hvalue : value.isBlank = false) (hrule : rule.isConditional = false)
    (hmembers : ∀ a ∈ members, (plan a).Accords registry standard (become a) (inside a))
    (hmerged : ∀ outcomes : List Outcome, outcomes.map Outcome.accepted? = members.map become →
      (merge outcomes).accepted? = (Visit.mk context rule value).checked registry standard)
    (hfailed : none ∈ members.map become →
      (Visit.mk context rule value).checked registry standard = none)
    (hinside : ∀ i path visit, Reaches context rule value (i :: path) visit ↔
      ∃ a, members[i]? = some a ∧ inside a path visit) :
    (Plan.fork (members.map plan)
      (fun outcomes =>
        finish rule.common rule.typeName standard context value (pure (merge outcomes)))
      (fun fault => guarded value (.error fault))).Accords registry standard
      (settle registry standard context rule value) (Reaches context rule value) := by
  obtain ⟨parts, hconducts, haccepted, hmatches⟩ := exists_parts hmembers
  rw [settle_of_not_isBlank hvalue hrule]
  refine ⟨.forking parts _ _, ⟨parts, _, _, hconducts, haccepted ▸ joins_finish hmerged hfailed, rfl⟩,
    rfl, Conduct.matches_forking hmatches ?_ ?_ hinside⟩
  · intro visit hvisit
    obtain ⟨-, rfl⟩ := (reaches_nil_iff hrule).mp hvisit
    rfl
  · intro hnone
    exact absurd ((reaches_nil_iff hrule).mpr ⟨hvalue, rfl⟩) (hnone _)

/-- Where the positions are those in a field of a record. -/
def InField (context : Context) (data : Entries) (f : Value × Rule) (path : Path) (visit : Visit) :
    Prop :=
  ∃ key value, data.resolve f.1 = some (key, value) ∧ Reaches context f.2 value path visit

/-- The plan for a field accords with its rule if the plans for its values do. -/
theorem accords_planField {data : Entries} {f : Value × Rule} (hrule : Accords registry standard f.2)
    (hdata : context.data = data) :
    (planField data f.1 f.2 (planValue registry standard context f.2)).Accords registry standard
      (settleField data f.1 f.2 (settle registry standard context f.2)) (InField context data f) := by
  subst hdata
  unfold planField settleField
  cases hactive : f.2.activate context.data with
  | error fault =>
    refine accords_ends rfl ?_
    rintro path visit ⟨key, value, -, hvisit⟩
    exact absurd hvisit (not_reaches_of_activate hactive)
  | ok selected =>
    dsimp only
    cases hresolve : context.data.resolve f.1 with
    | none =>
      refine accords_ends rfl ?_
      rintro path visit ⟨key, value, hfound, -⟩
      rw [hresolve] at hfound
      cases hfound
    | some found =>
      obtain ⟨c, hconducts, haccepted, hmatches⟩ := hrule context found.2
      refine ⟨c, hconducts, haccepted, hmatches.congr fun path visit => ?_⟩
      simp [InField, hresolve, Prod.ext_iff]

/-- What becomes of fields is what becomes of the record that they are merged to. -/
theorem acceptedFields_zip {data : Entries} {fields : List (Value × Rule)} {outcomes : List Outcome}
    (h : outcomes.map Outcome.accepted? =
      fields.map fun f => settleField data f.1 f.2 (settle registry standard context f.2)) :
    acceptedFields ((namesOf fields).zip outcomes) =
      settleFields registry standard context data fields := by
  induction fields generalizing outcomes with
  | nil => rfl
  | cons f rest ih =>
    cases outcomes with
    | nil => cases h
    | cons o os =>
      obtain ⟨hfirst, hrest⟩ := List.cons.inj h
      dsimp only at hfirst
      rw [settleFields, ← hfirst, ← ih hrest]
      rfl

theorem settleFields_eq_none {data : Entries} {fields : List (Value × Rule)}
    (h : none ∈ fields.map fun f =>
      settleField data f.1 f.2 (settle registry standard context f.2)) :
    settleFields registry standard context data fields = none := by
  induction fields with
  | nil => cases h
  | cons f rest ih =>
    rw [settleFields]
    rcases List.mem_cons.mp h with hfirst | hrest
    · dsimp only at hfirst
      rw [← hfirst]
      rfl
    · rw [ih hrest]
      cases settleField data f.1 f.2 (settle registry standard context f.2) <;> rfl

/-- What becomes of the fields of a record, one by one. -/
abbrev becomeFields (registry : Custom.Registry) (standard : Value) (context : Context)
    (fields : List (Value × Rule)) : List (Option Value) :=
  fields.map fun f => settleField context.data f.1 f.2 (settle registry standard context f.2)

/-- A record becomes what its fields are merged to. -/
theorem accepted?_mergeFields_zip {fields : List (Value × Rule)} {defaults entries : Entries}
    {outcomes : List Outcome}
    (h : outcomes.map Outcome.accepted? = becomeFields registry standard
      (context.forData (Entries.withDefaults entries defaults)) fields) :
    (mergeFields (Entries.withDefaults entries defaults) ((namesOf fields).zip outcomes)).accepted? =
      settleRecord defaults
        (fun data => settleFields registry standard (context.forData data) data fields)
        (.dict entries) := by
  rw [accepted?_mergeFields, acceptedFields_zip h]
  rfl

theorem settleRecord_eq_none {fields : List (Value × Rule)} {defaults entries : Entries}
    (h : none ∈ becomeFields registry standard
      (context.forData (Entries.withDefaults entries defaults)) fields) :
    settleRecord defaults
      (fun data => settleFields registry standard (context.forData data) data fields)
      (.dict entries) = none := by
  have hfields : settleFields registry standard
      (context.forData (Entries.withDefaults entries defaults)) (Entries.withDefaults entries defaults)
      fields = none := settleFields_eq_none h
  simp [settleRecord, hfields]

/-- The fork of a record into its fields, if the plans for their values accord with the rules. -/
theorem accords_fields {common : Common} {fields : List (Value × Rule)} {defaults entries : Entries}
    (h : ∀ f ∈ fields, Accords registry standard f.2) :
    let data := Entries.withDefaults entries defaults
    (Plan.fork (planFields registry standard (context.forData data) data fields)
      (fun outcomes => finish common "object" standard context (.dict entries)
        (pure (mergeFields data ((namesOf fields).zip outcomes))))
      (fun fault => guarded (.dict entries) (.error fault))).Accords registry standard
      (settle registry standard context (.object common fields defaults) (.dict entries))
      (Reaches context (.object common fields defaults) (.dict entries)) := by
  intro data
  rw [planFields_eq_map]
  refine accords_fork (.object common fields defaults) rfl rfl
    (fun f hf => accords_planField (h f hf) rfl) (fun outcomes => accepted?_mergeFields_zip)
    settleRecord_eq_none fun i path visit => ?_
  rw [reaches_object_iff]
  constructor
  · rintro ⟨entries, f, key, v, hentries, hf, hfound, hvisit⟩
    cases hentries
    exact ⟨f, hf, key, v, hfound, hvisit⟩
  · rintro ⟨f, hf, key, v, hfound, hvisit⟩
    exact ⟨entries, f, key, v, rfl, hf, hfound, hvisit⟩

/-- What becomes of items is what becomes of the array that they are merged to. -/
theorem mapM_accepted?_of_map {items : List Value} {become : Value → Option Value}
    {outcomes : List Outcome} (h : outcomes.map Outcome.accepted? = items.map become) :
    outcomes.mapM Outcome.accepted? = items.mapM become := by
  induction items generalizing outcomes with
  | nil =>
    obtain rfl := List.map_eq_nil_iff.mp h
    rfl
  | cons item rest ih =>
    cases outcomes with
    | nil => cases h
    | cons o os =>
      obtain ⟨hfirst, hrest⟩ := List.cons.inj h
      rw [List.mapM_cons, List.mapM_cons, hfirst, ih hrest]

theorem mapM_eq_none {items : List Value} {become : Value → Option Value}
    (h : none ∈ items.map become) : items.mapM become = none := by
  induction items with
  | nil => cases h
  | cons item rest ih =>
    rw [List.mapM_cons]
    rcases List.mem_cons.mp h with hfirst | hrest
    · rw [← hfirst]
      rfl
    · rw [ih hrest]
      cases become item <;> rfl

/-- The plan for an array accords with its rule if the plans for its items do. -/
theorem accords_planItems {common : Common} {element : Rule} {checks : ArrayChecks}
    (hvalue : value.isBlank = false) (h : Accords registry standard element) :
    (planItems common standard context value element (planValue registry standard context element)
      (Coercion.coerceArray checks context.convert value)).Accords registry standard
      (settle registry standard context (.array common (some element) checks) value)
      (Reaches context (.array common (some element) checks) value) := by
  refine accords_brief ?_
  rcases hcoerce : Coercion.coerceArray checks context.convert value with fault | accepted | rejected
  · refine accords_rejected hvalue rfl ?_ (not_reaches_array ?_) (acceptedBy_guarded _ _)
    · simp [Visit.checked, settleItems, hcoerce]
    · rw [hcoerce]
      intro items notes hgiven
      cases hgiven
  · obtain ⟨items, rfl, -⟩ := Coercion.coerceArray_spec hcoerce
    dsimp only
    rcases hactive : element.activate context.data with fault | selected
    · refine accords_rejected hvalue rfl ?_ ?_ (acceptedBy_guarded _ _)
      · simp [Visit.checked, settleItems, hcoerce, hactive]
      · intro i path visit hvisit
        obtain ⟨-, -, -, item, -, -, hitem⟩ := reaches_array_iff.mp hvisit
        exact not_reaches_of_activate hactive hitem
    · have hchecked : (Visit.mk context (.array common (some element) checks) value).checked registry
          standard = (items.mapM (settle registry standard context element)).map .list := by
        simp [Visit.checked, settleItems, hcoerce, hactive]
      refine accords_fork (.array common (some element) checks) hvalue rfl
        (fun item _ => h context item) ?_ ?_ ?_
      · intro outcomes houtcomes
        rw [accepted?_mergeElements, mapM_accepted?_of_map houtcomes, hchecked]
      · intro hnone
        rw [hchecked, mapM_eq_none hnone]
        rfl
      · intro i path visit
        rw [reaches_array_iff]
        constructor
        · rintro ⟨-, items', notes', item, hgiven, hitem, hvisit⟩
          rw [hcoerce] at hgiven
          cases hgiven
          exact ⟨item, hitem, hvisit⟩
        · rintro ⟨item, hitem, hvisit⟩
          exact ⟨hvalue, items, _, item, hcoerce, hitem, hvisit⟩
  · refine accords_rejected hvalue rfl ?_ (not_reaches_array ?_) (acceptedBy_guarded _ _)
    · simp [Visit.checked, settleItems, hcoerce]
    · rw [hcoerce]
      intro items notes hgiven
      cases hgiven

/-- The plan of a conditional rule is that of the branch that it takes. -/
theorem planValue_conditional {common : Common} {field : Value} {conditions : Conditions}
    {consequent : Rule} {otherwise base : Option Rule} :
    planValue registry standard context
        (.conditional common field conditions consequent otherwise base) value =
      match conditions.holdIn field context.data with
      | .error fault => .ends (.error fault)
      | .ok holds =>
        match Rule.branch holds consequent otherwise base with
        | none => planUnchecked value common.required.isTruthy
        | some r => planValue registry standard context r value := by
  rw [planValue]
  rcases conditions.holdIn field context.data with fault | _ | _
  · rfl
  · cases otherwise <;> cases base <;> rfl
  · rfl

/-- A conditional rule accords if all its branches do. -/
theorem accords_conditional {common : Common} {field : Value} {conditions : Conditions}
    {consequent : Rule} {otherwise base : Option Rule}
    (h : ∀ holds, ∀ r ∈ Rule.branch holds consequent otherwise base, Accords registry standard r) :
    Accords registry standard (.conditional common field conditions consequent otherwise base) := by
  intro context value
  have hactivate := @Rule.activate_conditional common field conditions consequent otherwise base
    context.data
  -- Where no rule is active, there is no position at all.
  have hinactive {path : Path} {visit : Visit}
      (hnone : ∀ active required, (Rule.conditional common field conditions consequent otherwise
        base).activate context.data ≠ .ok (some active, required))
      (hvisit : Reaches context (.conditional common field conditions consequent otherwise base) value
        path visit) : visit.calls registry standard = [] := by
    obtain ⟨active, required, hselected⟩ := hvisit.exists_active
    exact absurd hselected (hnone active required)
  rw [planValue_conditional, settle_conditional]
  rcases hholds : conditions.holdIn field context.data with fault | holds
  · rw [hholds] at hactivate
    exact accords_ends rfl fun path visit => hinactive (by rw [hactivate]; exact nofun)
  · rw [hholds, Attempt.ok_bind] at hactivate
    dsimp only
    cases hbranch : Rule.branch holds consequent otherwise base with
    | none =>
      rw [hbranch] at hactivate
      exact accords_ends rfl fun path visit => hinactive (by rw [hactivate]; exact nofun)
    | some r =>
      rw [hbranch] at hactivate
      obtain ⟨c, hconducts, haccepted, hmatches⟩ := h holds r hbranch context value
      exact ⟨c, hconducts, haccepted,
        hmatches.congr fun path visit => reaches_iff_of_activate hactivate⟩

/-- A rule for nested records accords if the rules of its fields do. -/
theorem accords_object {common : Common} {fields : List (Value × Rule)} {defaults : Entries}
    (h : ∀ f ∈ fields, Accords registry standard f.2) :
    Accords registry standard (.object common fields defaults) := by
  intro context value
  cases hvalue : value.isBlank with
  | true => exact accords_of_isBlank hvalue rfl (by simp [planValue, hvalue, Rule.isRequired, Rule.common])
  | false =>
    cases hhooks : Rule.fieldsHaveHook fields with
    | false =>
      have hrules := Rule.fieldsHaveHook_eq_false_iff.mp hhooks
      simp only [planValue, hvalue, hhooks, Bool.false_eq_true, if_false]
      refine accords_planWhole hvalue rfl ?_ ?_
      · exact settleRecord_of_settle fun f hf context v => settle_of_hasHook (hrules f hf)
      · intro i path visit hvisit
        obtain ⟨entries, f, key, v, -, hf, -, hinside⟩ := reaches_object_iff.mp hvisit
        have hhook := hinside.hasHook (hrules f (List.mem_of_getElem? hf))
        exact Visit.calls_of_hook (Rule.hook_of_hasHook hhook)
    | true =>
      cases value with
      | dict entries =>
        simp only [planValue, hvalue, hhooks, if_true]
        exact accords_fields h
      | _ =>
        simp only [planValue, hvalue, hhooks, if_true]
        refine accords_rejected hvalue rfl rfl ?_ (acceptedBy_rejectFor _ _ _)
        intro i path visit hvisit
        obtain ⟨entries, f, key, v, hentries, -⟩ := reaches_object_iff.mp hvisit
        cases hentries

/-- A rule for arrays accords if the rule for their elements does. -/
theorem accords_array {common : Common} {element : Rule} {checks : ArrayChecks}
    (h : Accords registry standard element) :
    Accords registry standard (.array common (some element) checks) := by
  intro context value
  cases hvalue : value.isBlank with
  | true => exact accords_of_isBlank hvalue rfl (by simp [planValue, hvalue, Rule.isRequired, Rule.common])
  | false =>
    cases hhooks : element.hasHook with
    | false =>
      simp only [planValue, hvalue, hhooks, Bool.false_eq_true, if_false]
      refine accords_planWhole hvalue rfl ?_ ?_
      · exact settleItems_of_settle fun v => settle_of_hasHook hhooks
      · intro i path visit hvisit
        obtain ⟨-, items, notes, item, -, -, hinside⟩ := reaches_array_iff.mp hvisit
        exact Visit.calls_of_hook (Rule.hook_of_hasHook (hinside.hasHook hhooks))
    | true =>
      simp only [planValue, hvalue, hhooks, if_true]
      exact accords_planItems hvalue h

/-- There are positions in records and arrays only. -/
theorem not_reaches_cons {rule : Rule} (hrule : rule.isConditional = false)
    (hobject : ∀ common fields defaults, rule ≠ .object common fields defaults)
    (harray : ∀ common element checks, rule ≠ .array common (some element) checks)
    {context : Context} {value : Value} {i : Nat} {path : Path} {visit : Visit} :
    ¬ Reaches context rule value (i :: path) visit := by
  intro hvisit
  have hself : rule.activate context.data = .ok (some rule, rule.common.required) :=
    Rule.activate_of_not_isConditional hrule
  cases hvisit with
  | field selected _ _ _ =>
    rw [hself] at selected
    cases selected
    exact hobject _ _ _ rfl
  | item selected _ _ _ _ =>
    rw [hself] at selected
    cases selected
    exact harray _ _ _ rfl

/-- A rule accords if its plan does not look into values that it validates. -/
theorem accords_undivided {rule : Rule} (hrule : rule.isConditional = false)
    (hplan : ∀ context value, planValue registry standard context rule value =
      if value.isBlank then planUnchecked value rule.isRequired
      else planWhole registry standard context rule value)
    (hchecked : ∀ context value, (Visit.mk context rule value).checked registry standard =
      acceptedBy (rule.validate registry context false value))
    (hinside : ∀ {context value i path visit}, ¬ Reaches context rule value (i :: path) visit) :
    Accords registry standard rule := by
  intro context value
  cases hvalue : value.isBlank with
  | true => exact accords_of_isBlank hvalue hrule (by rw [hplan, hvalue, if_pos rfl])
  | false =>
    rw [hplan, hvalue, if_neg Bool.false_ne_true]
    exact accords_planWhole hvalue hrule (hchecked context value) fun i path visit hvisit =>
      absurd hvisit hinside

/-- The plan for a value accepts what the value becomes, and calls the hooks at its positions. -/
theorem planValue_accords (rule : Rule) : Accords registry standard rule := by
  induction rule using Rule.induction with
  | conditional common field conditions consequent otherwise base hconsequent hotherwise hbase =>
    exact accords_conditional (Rule.forall_branch hconsequent hotherwise hbase)
  | object common fields defaults ih => exact accords_object ih
  | array common element checks ih =>
    cases element with
    | some r => exact accords_array (ih r rfl)
    | none =>
      exact accords_undivided rfl (fun _ _ => rfl) (fun _ _ => rfl) (not_reaches_cons rfl (by simp) (by simp))
  | _ => exact accords_undivided rfl (fun _ _ => rfl) (fun _ _ => rfl) (not_reaches_cons rfl (by simp) (by simp))

/-! ## The plan for a record -/

/-- The plan for a record calls the hooks at its positions. -/
theorem planRecord_conducts (registry : Custom.Registry) (standard : Value) (context : Context)
    (schema : Schema) (value : Value) :
    ∃ c, (planRecord registry standard context schema value).Conducts c ∧
      c.Matches registry standard (SchemaReaches context schema value) := by
  cases value with
  | dict entries =>
    obtain ⟨parts, hconducts, haccepted, hmatches⟩ := exists_parts fun f (_ : f ∈ schema.fields) =>
      accords_planField (@planValue_accords registry standard f.2)
        (rfl : (context.forData (Entries.withDefaults entries schema.defaults)).data = _)
    rw [← planFields_eq_map] at hconducts
    have hjoins : Joins (fun outcomes => .only (pure (mergeFields
        (Entries.withDefaults entries schema.defaults) ((namesOf schema.fields).zip outcomes))))
        .error (parts.map (·.accepted)) [] (settleRecord schema.defaults (fun data =>
          settleFields registry standard (context.forData data) data schema.fields) (.dict entries)) := by
      rw [haccepted]
      exact ⟨fun outcomes h => ⟨rfl, accepted?_mergeFields_zip h⟩,
        fun hnone => ⟨rfl, settleRecord_eq_none hnone⟩, fun _ => rfl⟩
    refine ⟨.forking parts [] _, ⟨parts, [], _, hconducts, hjoins, rfl⟩,
      Conduct.matches_forking hmatches nofun (fun _ => rfl) fun i path visit => ?_⟩
    constructor
    · rintro ⟨hf, hfound, hvisit⟩
      exact ⟨_, hf, _, _, hfound, hvisit⟩
    · rintro ⟨f, hf, key, v, hfound, hvisit⟩
      exact .field hf hfound hvisit
  | _ => exact ⟨_, rfl, Conduct.matches_silent _ nofun⟩

end

end RecordCheck.Parallel
