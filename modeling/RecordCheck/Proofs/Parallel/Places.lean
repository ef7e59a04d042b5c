import RecordCheck.Proofs.Parallel.Accord
import RecordCheck.Proofs.Parallel.Alone

/-!
# Plans at positions

The plan of the unit at a position is the plan for the value there, under the rule that is active there.
If the value passes its checks and the hooks of its parts accept theirs, then the call of the rule's own
hook decides what the plan comes to, be there parts or not.
-/

set_option autoImplicit false

namespace RecordCheck.Parallel

variable {registry : Custom.Registry} {standard : Value} {context : Context} {rule : Rule}
  {value : Value}

/-! ## Kinds of plans -/

/-- Whether parts of a value under a rule are units of their own. -/
def isDivided : Rule → Bool
  | .object _ fields _ => Rule.fieldsHaveHook fields
  | .array _ (some element) _ => element.hasHook
  | _ => false

/-- `Shape registry standard context rule value p`: what the plan for a value that is not blank, under a rule
that is active, can be. -/
inductive Shape (registry : Custom.Registry) (standard : Value) (context : Context) :
    Rule → Value → Plan → Prop
  /-- the value is validated in one stay -/
  | whole {rule : Rule} {value : Value} (undivided : isDivided rule = false) :
      Shape registry standard context rule value (planWhole registry standard context rule value)
  /-- the value is a record, and its fields are validated side by side -/
  | fields {common : Common} {fields : List (Value × Rule)} {defaults entries : Entries}
      (divided : Rule.fieldsHaveHook fields = true) :
      Shape registry standard context (.object common fields defaults) (.dict entries)
        (.fork (planFields registry standard (context.forData (Entries.withDefaults entries defaults))
            (Entries.withDefaults entries defaults) fields)
          (fun outcomes => finish common "object" standard context (.dict entries)
            (pure (mergeFields (Entries.withDefaults entries defaults) ((namesOf fields).zip outcomes))))
          (fun fault => guarded (.dict entries) (.error fault)))
  /-- the value is no record where one is wanted -/
  | rejected {common : Common} {fields : List (Value × Rule)} {defaults : Entries} {value : Value}
      (divided : Rule.fieldsHaveHook fields = true) (noRecord : ∀ entries, value ≠ .dict entries) :
      Shape registry standard context (.object common fields defaults) value
        (.ends (Outcome.rejectFor value .object []))
  /-- the value is checked as an array, and its items are validated side by side -/
  | items {common : Common} {element : Rule} {checks : ArrayChecks} {value : Value}
      (divided : element.hasHook = true) :
      Shape registry standard context (.array common (some element) checks) value
        (planItems common standard context value element (planValue registry standard context element)
          (Coercion.coerceArray checks context.convert value))

/-- The plan for a value that is not blank, under a rule that is active, is of one of these kinds. -/
theorem planValue_shape (hvalue : value.isBlank = false) (hrule : rule.isConditional = false) :
    Shape registry standard context rule value (planValue registry standard context rule value) := by
  cases rule with
  | conditional common field conditions consequent otherwise base => cases hrule
  | object common fields defaults =>
    cases hhooks : Rule.fieldsHaveHook fields with
    | false =>
      simp only [planValue, hvalue, hhooks, Bool.false_eq_true, if_false]
      exact .whole hhooks
    | true =>
      simp only [planValue, hvalue, hhooks, Bool.false_eq_true, if_false, if_true]
      cases value with
      | dict entries => exact .fields hhooks
      | _ => exact .rejected hhooks fun entries hrecord => by cases hrecord
  | array common element checks =>
    cases element with
    | none =>
      simp only [planValue, hvalue]
      exact .whole rfl
    | some element =>
      cases hhooks : element.hasHook with
      | false =>
        simp only [planValue, hvalue, hhooks, Bool.false_eq_true, if_false]
        exact .whole hhooks
      | true =>
        simp only [planValue, hvalue, hhooks, Bool.false_eq_true, if_false, if_true]
        exact .items hhooks
  | _ =>
    simp only [planValue, hvalue]
    exact .whole rfl

/-! ## Where plans are -/

/-- The plan for a value under a rule is that under the rule that is active. -/
theorem planValue_of_activate {active : Rule} {required : Value}
    (h : rule.activate context.data = .ok (some active, required)) :
    planValue registry standard context rule value = planValue registry standard context active value := by
  induction rule using Rule.induction with
  | conditional common field conditions consequent otherwise base hconsequent hotherwise hbase =>
    rw [Rule.activate_conditional] at h
    obtain ⟨holds, hholds, hbranch⟩ := Attempt.bind_eq_ok_iff.mp h
    rw [planValue_conditional, hholds]
    dsimp only
    cases htaken : Rule.branch holds consequent otherwise base with
    | none =>
      rw [htaken] at hbranch
      cases hbranch
    | some r =>
      rw [htaken] at hbranch
      exact Rule.forall_branch @hconsequent @hotherwise @hbase holds r htaken hbranch
  | _ =>
    rw [Rule.activate_of_not_isConditional rfl] at h
    cases h
    rfl

/-- A plan without forks has no plans inside it. -/
theorem Plan.at?_cons_of_children {p : Plan} (h : p.children = []) (i : Nat) (path : Path) :
    p.at? (i :: path) = none := by
  rw [Plan.at?, h]
  rfl

theorem children_planWhole : (planWhole registry standard context rule value).children = [] :=
  Plan.children_work _

/-- The plan of a field that is there, under a rule that has an active one, is that for its value. -/
theorem getElem?_planFields {data : Entries} {fields : List (Value × Rule)} {i : Nat} {r : Rule}
    {name key required : Value} {branch : Rule} (hfield : fields[i]? = some (name, r))
    (hfound : data.resolve name = some (key, value))
    (hactive : r.activate data = .ok (some branch, required)) :
    (planFields registry standard context data fields)[i]? =
      some (planValue registry standard context r value) := by
  rw [planFields_eq_map, List.getElem?_map, hfield, Option.map_some, planField, hactive]
  dsimp only
  rw [hfound]

/-- The plan of the unit at a position in a value is that for the value there. -/
theorem Reaches.plan_eq {path : Path} {visit : Visit} {p : Plan}
    (h : Reaches context rule value path visit)
    (hp : (planValue registry standard context rule value).at? path = some p) :
    p = planValue registry standard visit.context visit.rule visit.value := by
  induction h with
  | here selected present =>
    rw [planValue_of_activate selected] at hp
    cases hp
    rfl
  | @field context rule r common fields defaults entries _ _ _ v i path _ selected isField found inside
      ih =>
    obtain ⟨branch, _, hactive⟩ := inside.exists_active
    have hshape : Shape registry standard context (.object common fields defaults) (.dict entries) _ :=
      planValue_shape rfl rfl
    rw [planValue_of_activate selected] at hp
    generalize planValue registry standard context (.object common fields defaults) (.dict entries) = q
      at hp hshape
    cases hshape with
    | whole hundivided =>
      rw [Plan.at?_cons_of_children children_planWhole] at hp
      cases hp
    | fields _ =>
      rw [Plan.at?, Plan.children, getElem?_planFields isField found hactive] at hp
      exact ih hp
    | rejected _ hnone => exact absurd rfl (hnone entries)
  | @item context rule element common checks _ value _ item items i path _ selected present given isItem
      inside ih =>
    obtain ⟨branch, _, hactive⟩ := inside.exists_active
    have hshape : Shape registry standard context (.array common (some element) checks) value _ :=
      planValue_shape present rfl
    rw [planValue_of_activate selected] at hp
    generalize planValue registry standard context (.array common (some element) checks) value = q
      at hp hshape
    cases hshape with
    | whole hundivided =>
      rw [Plan.at?_cons_of_children children_planWhole] at hp
      cases hp
    | items _ =>
      unfold planItems at hp
      rw [given] at hp
      dsimp only at hp
      rw [hactive, Plan.at?, Plan.children, Plan.children, List.getElem?_map, isItem] at hp
      exact ih hp

/-- The plan of the unit at a position in a record is that for the value there. -/
theorem SchemaReaches.plan_eq {schema : Schema} {path : Path} {visit : Visit} {p : Plan}
    (h : SchemaReaches context schema value path visit)
    (hp : (planRecord registry standard context schema value).at? path = some p) :
    p = planValue registry standard visit.context visit.rule visit.value := by
  cases h with
  | field isField found inside =>
    obtain ⟨branch, _, hactive⟩ := inside.exists_active
    rw [planRecord, Plan.at?, Plan.children, getElem?_planFields isField found hactive] at hp
    exact inside.plan_eq hp

/-! ## What the hook decides -/

/-- What a fork ensures, given what its parts accept: one of them fails only if it accepts nothing. -/
theorem Plan.ensures_fork_of_accepted {children : List Plan} {join : List Outcome → Work}
    {recover : Fault → Attempt Outcome} {accepted : List (Option Value)} {post : Condition}
    (hparts : List.Forall₂ (fun (p : Plan) a => p.Ensures unrestricted fun r => acceptedBy r = a)
      children accepted)
    (hjoin : ∀ outcomes : List Outcome, outcomes.map Outcome.accepted? = accepted →
      post (join outcomes).result)
    (hrecover : none ∈ accepted → ∀ cause, post (recover cause)) :
    (fork children join recover).Ensures unrestricted post := by
  refine ⟨accepted.map fun a result => acceptedBy result = a, ?_, ?_, ?_⟩
  · rw [ensuresAll_iff, List.forall₂_map_right_iff]
    exact hparts
  · intro outcomes houtcomes _
    refine hjoin outcomes ?_
    rw [List.forall₂_map_left_iff] at houtcomes
    rw [← List.forall₂_eq_eq_eq, List.forall₂_map_left_iff]
    exact houtcomes.flip
  · rintro - cause ⟨post, hpost, hcause⟩
    obtain ⟨a, ha, rfl⟩ := List.mem_map.mp hpost
    have hnone : a = none := hcause.symm
    exact hrecover (hnone ▸ ha) cause

/-- A plan comes only to results that accept what its conduct says. -/
theorem Plan.Conducts.ensures {p : Plan} {c : Conduct} (h : p.Conducts c) :
    p.Ensures unrestricted fun result => acceptedBy result = c.accepted := by
  induction p using Plan.induction generalizing c with
  | ends result =>
    obtain rfl : c = .silent (acceptedBy result) := h
    rfl
  | stay s next ih =>
    obtain ⟨rest, hrest, rfl⟩ := h
    have hnext := ih hrest
    exact fun _ => hnext
  | fork children join recover ih =>
    obtain ⟨parts, calls, accepted, hparts, hjoins, rfl⟩ := h
    rw [conductsAll_iff] at hparts
    refine ensures_fork_of_accepted ?_ (fun outcomes h => (hjoins.merged outcomes h).2) ?_
    · rw [List.forall₂_map_right_iff]
      exact ((List.forall₂_and_left _ _).mpr ⟨ih, hparts⟩).imp fun p c hp => hp.1 hp.2
    · intro hnone cause
      rw [hjoins.aborted cause]
      exact (hjoins.failed hnone).2.symm

/-- What comes of the call of a hook on a value that was accepted without it. -/
def resultOfHook (hook : Hook) (common : Common) (typeName : String) (standard : Value) (context : Context)
    (value found : Value) : Attempt Outcome :=
  guarded value (callHook hook typeName (timeoutOf common standard) found context).result

/-- The call of the hook decides what comes of a value that was accepted without it. -/
theorem result_finish {common : Common} {typeName : String} {checked : Attempt Outcome} {hook : Hook}
    {found : Value} (hhook : common.hook = some hook) (hchecked : acceptedBy checked = some found) :
    (finish common typeName standard context value checked).result =
      resultOfHook hook common typeName standard context value found := by
  unfold finish afterChecks
  rcases checked with fault | accepted | rejected
  · cases hchecked
  · cases hchecked
    rw [hhook]
    rfl
  · cases hchecked

/-- The call of the hook decides what a plan without parts comes to. -/
theorem planWhole_ensures_of_checked {hook : Hook} {found : Value} (hhook : rule.common.hook = some hook)
    (hchecked : acceptedBy (rule.validate registry context false value) = some found) :
    (planWhole registry standard context rule value).Ensures unrestricted
      fun result => result = resultOfHook hook rule.common rule.typeName standard context value found := by
  intro _
  refine Plan.ensures_work.mpr fun _ => ?_
  exact result_finish hhook hchecked

/-- The call of the hook decides what a fork comes to of which all parts are accepted. -/
theorem fork_ensures_of_checked {α : Type} {members : List α} {plan : α → Plan}
    {become : α → Option Value} {inside : α → Path → Visit → Prop} {merge : List Outcome → Outcome}
    {common : Common} {typeName : String} {recover : Fault → Attempt Outcome} {hook : Hook}
    {checked : Option Value} {found : Value} (hhook : common.hook = some hook)
    (hmembers : ∀ a ∈ members, (plan a).Accords registry standard (become a) (inside a))
    (hmerged : ∀ outcomes : List Outcome, outcomes.map Outcome.accepted? = members.map become →
      (merge outcomes).accepted? = checked)
    (hfailed : none ∈ members.map become → checked = none) (hchecked : checked = some found) :
    (Plan.fork (members.map plan)
      (fun outcomes => finish common typeName standard context value (pure (merge outcomes)))
      recover).Ensures unrestricted
      fun result => result = resultOfHook hook common typeName standard context value found := by
  have hparts : List.Forall₂ (fun (p : Plan) a => p.Ensures unrestricted fun r => acceptedBy r = a)
      (members.map plan) (members.map become) := by
    rw [List.forall₂_map_left_iff, List.forall₂_map_right_iff, List.forall₂_same]
    intro a ha
    obtain ⟨c, hconducts, haccepted, -⟩ := hmembers a ha
    rw [← haccepted]
    exact hconducts.ensures
  refine Plan.ensures_fork_of_accepted hparts (fun outcomes houtcomes => ?_) fun hnone => ?_
  · exact result_finish hhook ((hmerged outcomes houtcomes).trans hchecked)
  · rw [hfailed hnone] at hchecked
    cases hchecked

/-- A value that is validated in one stay passes its checks if its validation accepts it. -/
theorem checked_of_isDivided (h : isDivided rule = false) :
    (Visit.mk context rule value).checked registry standard =
      acceptedBy (rule.validate registry context false value) := by
  cases rule with
  | object common fields defaults =>
    have hrules := Rule.fieldsHaveHook_eq_false_iff.mp h
    exact settleRecord_of_settle fun f hf context v => settle_of_hasHook (hrules f hf)
  | array common element checks =>
    cases element with
    | none => rfl
    | some element => exact settleItems_of_settle fun v => settle_of_hasHook h
  | _ => rfl

/-- The call of the hook decides what comes of a value that has passed its checks and all hooks of its
parts. -/
theorem planValue_ensures_of_checked {hook : Hook} {found : Value} (hvalue : value.isBlank = false)
    (hrule : rule.isConditional = false) (hhook : rule.common.hook = some hook)
    (hchecked : (Visit.mk context rule value).checked registry standard = some found) :
    (planValue registry standard context rule value).Ensures unrestricted
      fun result => result = resultOfHook hook rule.common rule.typeName standard context value found := by
  have hshape : Shape registry standard context rule value _ := planValue_shape hvalue hrule
  generalize planValue registry standard context rule value = p at hshape
  cases hshape with
  | whole hundivided =>
    rw [checked_of_isDivided hundivided] at hchecked
    exact planWhole_ensures_of_checked hhook hchecked
  | @fields common fields defaults entries _ =>
    rw [planFields_eq_map]
    exact fork_ensures_of_checked hhook (fun f _ => accords_planField (planValue_accords f.2) rfl)
      (fun outcomes => accepted?_mergeFields_zip) settleRecord_eq_none hchecked
  | rejected _ hnone =>
    cases value with
    | dict entries => exact absurd rfl (hnone entries)
    | _ => cases hchecked
  | @items common element checks _ _ =>
    have hsettled : settleItems checks context element (settle registry standard context element)
      value = some found := hchecked
    unfold settleItems at hsettled
    split at hsettled
    · rename_i items notes selected hcoerce hactive
      unfold planItems
      rw [hcoerce]
      dsimp only
      rw [hactive]
      intro _
      refine fork_ensures_of_checked hhook (fun item _ => planValue_accords element context item)
        (fun outcomes houtcomes => ?_) (fun hnone => ?_) hsettled
      · rw [accepted?_mergeElements, mapM_accepted?_of_map houtcomes]
      · rw [mapM_eq_none hnone]
        rfl
    · cases hsettled

end RecordCheck.Parallel
