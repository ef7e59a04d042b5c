import RecordCheck.Proofs.ErrorTree
import RecordCheck.Proofs.Parallel.Accord
import RecordCheck.Proofs.Parallel.Alone
import RecordCheck.Proofs.Parallel.Timeline
import RecordCheck.Validator

/-!
# The shape of error trees in parallel

Error trees have the same shape if a record is validated in parallel, whatever its units come to and in
whatever order.  A hook, a call that is cut off and a fault that becomes an error all report errors of the
value itself, so that nodes come from the joins of records and arrays only.  This is what the plans ensure.
-/

set_option autoImplicit false

namespace RecordCheck.Parallel

open Attempt

variable {registry : Custom.Registry} {standard value : Value} {context : Context} {rule : Rule}
  {convert : Bool} {data : Entries}

/-! ## Guards and hooks -/

/-- A fault that becomes an error becomes one of the value itself. -/
theorem guarded_fits {result : Attempt Outcome} (h : Fits convert data rule value result) :
    Fits convert data rule value (guarded value result) := by
  cases result with
  | ok o => exact yieldsOnly_pure (h o rfl)
  | error fault =>
    unfold guarded
    dsimp only
    split
    · exact yieldsOnly_error fault
    · exact fits_of_isLocal (isLocal_rejectFor value _ _)

/-- A hook reports errors of the value itself, whether it answers or is cut off. -/
theorem isLocal_resultOfCall (typeName : String) (timeout value : Value)
    (ending : Option (Attempt Value)) :
    YieldsOnly Outcome.IsLocal (resultOfCall typeName timeout value ending) := by
  cases ending with
  | none => exact isLocal_rejectFor value _ _
  | some ending => exact yieldsOnly_bind fun answer _ => Custom.isLocal_normalize answer value _

theorem isLocal_callHook (hook : Hook) (typeName : String) (timeout value : Value) (context : Context) :
    YieldsOnly Outcome.IsLocal (callHook hook typeName timeout value context).result := by
  unfold callHook
  split
  · exact yieldsOnly_error _
  · exact isLocal_resultOfCall typeName timeout value _

/-- The rest of a unit's work leaves errors as they should be. -/
theorem finish_fits {common : Common} {typeName : String} {checked : Attempt Outcome}
    (h : Fits convert data rule value checked) :
    Fits convert data rule value (finish common typeName standard context value checked).result := by
  refine guarded_fits ?_
  unfold afterChecks
  split
  · exact fits_of_isLocal (isLocal_callHook _ typeName _ _ context)
  · exact h

/-! ## Plans -/

/-- A value that is validated in one stay has errors as they should be. -/
theorem planWhole_fits :
    (planWhole registry standard context rule value).Ensures unrestricted
      (Fits context.convert context.data rule value) :=
  fun _ => Plan.ensures_work.mpr fun _ => finish_fits (followsRule registry rule context false value)

/-- What the induction over rules shows: the plan for a value ensures that errors are as they should be. -/
def PlansFit (registry : Custom.Registry) (standard : Value) (rule : Rule) : Prop :=
  ∀ (context : Context) (value : Value), (planValue registry standard context rule value).Ensures
    unrestricted (Fits context.convert context.data rule value)

/-- The plan for a field ensures that its errors are as they should be. -/
theorem planField_fits {fields : List (Value × Rule)} {f : Value × Rule} (hf : f ∈ fields)
    (hrule : PlansFit registry standard f.2) :
    (planField data f.1 f.2 (planValue registry standard (context.forData data) f.2)).Ensures unrestricted
      (YieldsOnly (Outcome.RejectsOnly (FieldFits context.convert data fields f.1))) := by
  unfold planField
  cases f.2.activate data with
  | error fault => exact yieldsOnly_error fault
  | ok selected =>
    dsimp only
    cases hresolve : data.resolve f.1 with
    | none =>
      refine (isLocal_absent _).imp fun o ho => ho.imp fun errors herrors => ?_
      obtain ⟨entries, hfilled, rfl⟩ := herrors
      exact .missing hf hresolve hfilled
    | some found =>
      refine (hrule (context.forData data) found.2).imp fun result hresult => ?_
      exact hresult.imp fun o ho => ho.imp fun errors herrors => .present hf hresolve herrors

/-- The plans for the fields of a record ensure that the record has errors as they should be. -/
theorem joinEnsures_childrenFit {fields : List (Value × Rule)} {post : Condition}
    (join : Outcome → Work)
    (hjoin : ∀ found : List (Value × Outcome),
      ((mergeFields data found).RejectsOnly fun errors =>
        ∃ children, errors = .node children ∧ ChildrenFit convert data fields children) →
      post (join (mergeFields data found)).result) :
    JoinEnsures unrestricted
      (fun outcomes => join (mergeFields data ((namesOf fields).zip outcomes)))
      (fields.map fun f => YieldsOnly (Outcome.RejectsOnly (FieldFits convert data fields f.1))) post := by
  intro outcomes houtcomes _
  rw [List.forall₂_map_left_iff] at houtcomes
  have hlength := houtcomes.length_eq
  refine hjoin _ (childrenFit_mergeFields ?_ ?_)
  · rw [namesOf, List.map_fst_zip (by simp [hlength])]
  · intro found hfound
    rw [namesOf, List.zip_map_left, List.mem_map] at hfound
    obtain ⟨⟨f, o⟩, ho, rfl⟩ := hfound
    exact (List.forall₂_iff_zip.mp houtcomes).2 ho o rfl

theorem planFields_fits {fields : List (Value × Rule)}
    (hrules : ∀ f ∈ fields, PlansFit registry standard f.2) :
    Plan.EnsuresAll unrestricted (planFields registry standard (context.forData data) data fields)
      (fields.map fun f =>
        YieldsOnly (Outcome.RejectsOnly (FieldFits context.convert data fields f.1))) := by
  rw [planFields_eq_map, Plan.ensuresAll_iff, List.forall₂_map_left_iff, List.forall₂_map_right_iff,
    List.forall₂_same]
  exact fun f hf => planField_fits hf (hrules f hf)

/-- The plan for an array that forks into its items ensures that errors are as they should be. -/
theorem planItems_fits {common : Common} {element : Rule} {checks : ArrayChecks}
    (helement : PlansFit registry standard element) :
    (planItems common standard context value element (planValue registry standard context element)
      (Coercion.coerceArray checks context.convert value)).Ensures unrestricted
        (Fits context.convert context.data (.array common (some element) checks) value) := by
  intro _
  have hlocal := Coercion.isLocal_coerceArray checks context.convert value
  split
  · rename_i items notes hgiven
    split
    · refine ⟨items.map (Fits context.convert context.data element), ?_, ?_, ?_⟩
      · rw [Plan.ensuresAll_iff, List.forall₂_map_left_iff, List.forall₂_map_right_iff,
          List.forall₂_same]
        exact fun item _ => helement context item
      · intro outcomes houtcomes _
        rw [List.forall₂_map_left_iff] at houtcomes
        refine finish_fits (yieldsOnly_pure ?_)
        exact treeFits_mergeElements (Rule.activate_of_not_isConditional rfl) hgiven
          (houtcomes.imp fun item o ho => ho o rfl)
      · exact fun _ cause _ => guarded_fits (yieldsOnly_error cause)
    · exact guarded_fits (yieldsOnly_error _)
  · exact guarded_fits (fits_of_isLocal hlocal)

/-- Plans leave errors as they should be. -/
theorem plansFit (registry : Custom.Registry) (standard : Value) (rule : Rule) :
    PlansFit registry standard rule := by
  induction rule using Rule.induction with
  | object common fields defaults ih =>
    intro context value
    unfold planValue
    split
    · exact fits_of_isLocal (isLocal_unchecked value _)
    · split
      · split
        · rename_i entries _
          refine ⟨_, planFields_fits ih, joinEnsures_childrenFit
            (fun o => finish common "object" standard context (.dict entries) (pure o))
            fun found hfound => finish_fits ?_, ?_⟩
          · exact yieldsOnly_pure (hfound.imp fun errors => .of_childrenFit)
          · exact fun _ cause _ => guarded_fits (yieldsOnly_error cause)
        · exact fits_of_isLocal (isLocal_rejectFor value _ _)
      · exact planWhole_fits
  | array common element checks ih =>
    intro context value
    cases element with
    | none =>
      unfold planValue
      split
      · exact fits_of_isLocal (isLocal_unchecked value _)
      · exact planWhole_fits
    | some r =>
      unfold planValue
      split
      · exact fits_of_isLocal (isLocal_unchecked value _)
      · split
        · exact planItems_fits (ih r rfl)
        · exact planWhole_fits
  | conditional common field conditions consequent otherwise base ihc iho ihb =>
    intro context value
    rw [planValue_conditional]
    cases hholds : conditions.holdIn field context.data with
    | error fault => exact yieldsOnly_error fault
    | ok holds =>
      dsimp only
      cases hbranch : Rule.branch holds consequent otherwise base with
      | none => exact fits_of_isLocal (isLocal_unchecked value _)
      | some r =>
        have hrule : PlansFit registry standard r := Rule.forall_branch ihc iho ihb holds r hbranch
        exact (hrule context value).imp fun result hresult => hresult.imp fun o ho =>
          ho.imp fun errors herrors =>
            herrors.of_branch (Rule.activate_conditional_of_branch hholds hbranch)
  | _ =>
    intro context value
    unfold planValue
    split
    · exact fits_of_isLocal (isLocal_unchecked value _)
    · exact planWhole_fits

/-- The plan for a record ensures that what it comes to is shaped. -/
theorem planRecord_isShaped (registry : Custom.Registry) (standard : Value) (context : Context)
    (schema : Schema) (value : Value) :
    (planRecord registry standard context schema value).Ensures unrestricted
      (YieldsOnly (Outcome.IsShaped context.convert schema value)) := by
  unfold planRecord
  split
  · refine ⟨_, planFields_fits fun f _ => plansFit registry standard f.2,
      joinEnsures_childrenFit (fun o => .only (pure o)) fun found hfound => ?_, ?_⟩
    · exact yieldsOnly_pure (isShaped_mergeFields hfound)
    · exact fun _ cause _ => yieldsOnly_error cause
  · rename_i hvalue
    refine isShaped_notARecord ?_
    cases value <;> first | rfl | exact absurd rfl (hvalue _)

/-! ## Runs and verdicts -/

/-- Whatever the validation of a record in parallel comes to is shaped. -/
theorem isShaped_of_follow {slots : Nat} {schema : Schema} {schedule : List (Path × Move)} {s : State}
    (h : (State.start slots (planRecord registry standard context schema value)).follow schedule = some s)
    {result : Attempt Outcome} (hresult : s.result? = some result) :
    YieldsOnly (Outcome.IsShaped context.convert schema value) result :=
  (planRecord_isShaped registry standard context schema value).of_canComeTo ⟨schedule, s, h, hresult⟩

/-- Whether a result is what is handed out for an outcome: the record that is accepted with its notes, or no
value and a payload. -/
def HandsOut (result : Value) : Outcome → Prop
  | .accepted record notes => result = .result true record notes
  | .rejected _ _ => ∃ payload, result = .result false .null payload

theorem handsOut_of_verdictOf {c : Configuration} {schema : Schema} {o : Outcome} {verdict : Verdict}
    (hshaped : o.IsShaped convert schema value) (h : c.verdictOf o = .ok verdict) :
    HandsOut verdict.toResult o := by
  cases o with
  | accepted record notes =>
    obtain ⟨-, rfl⟩ := hshaped.accepted record notes rfl
    cases h
    rfl
  | rejected rejected errors =>
    obtain ⟨payload, -, rfl⟩ := map_eq_ok_iff.mp h
    exact ⟨payload, rfl⟩

/-- Every verdict is the one for an outcome that is shaped. -/
theorem exists_verdictOf_of_validate {c : Configuration} {caller : Caller} {arguments : CallArguments}
    {schema : Schema} {verdict : Verdict}
    (h : (c.validate caller arguments schema value).verdict = some (.ok verdict)) :
    ∃ settings context o, c.prepare arguments = .ok (settings, context) ∧
      o.IsShaped context.convert schema value ∧ c.verdictOf o = .ok verdict := by
  unfold Configuration.validate at h
  split at h
  · cases h
  · rename_i settings context hprepare
    have hverdict {x : Attempt Outcome}
        (hshaped : YieldsOnly (Outcome.IsShaped context.convert schema value) x)
        (hx : (do c.verdictOf (← x)) = .ok verdict) :
        ∃ settings context o, c.prepare arguments = .ok (settings, context) ∧
          o.IsShaped context.convert schema value ∧ c.verdictOf o = .ok verdict := by
      obtain ⟨o, ho, hof⟩ := bind_eq_ok_iff.mp hx
      exact ⟨settings, context, o, hprepare, hshaped o ho, hof⟩
    split at h
    · exact hverdict (isShaped_of_validate c.registry context schema value) (Option.some.inj h)
    · split at h
      · cases h
      · unfold Configuration.validateInParallel at h
        split at h
        · cases h
        · obtain ⟨result, hresult, hof⟩ := Option.map_eq_some_iff.mp h
          obtain ⟨schedule, s, hfollow, -, hs⟩ := exists_follow_of_validate hresult
          exact hverdict (isShaped_of_follow hfollow hs) hof

/-- Every verdict is on an outcome that is shaped. -/
theorem exists_outcome_of_verdict {c : Configuration} {caller : Caller} {arguments : CallArguments}
    {schema : Schema} {verdict : Verdict}
    (h : (c.validate caller arguments schema value).verdict = some (.ok verdict)) :
    ∃ settings context o, c.prepare arguments = .ok (settings, context) ∧
      o.IsShaped context.convert schema value ∧ HandsOut verdict.toResult o := by
  obtain ⟨settings, context, o, hprepare, hshaped, hof⟩ := exists_verdictOf_of_validate h
  exact ⟨settings, context, o, hprepare, hshaped, handsOut_of_verdictOf hshaped hof⟩

/-- Whatever the validation of a value under a schema comes to is shaped, in order and in every run in
parallel; and what a validation with a configuration hands out is the record that is accepted, or no
value. -/
theorem isShaped_of_validations (schema : Schema) (value : Value) :
    (∀ registry context o, schema.validate registry context value = .ok o →
      o.IsShaped context.convert schema value) ∧
    (∀ registry standard context slots schedule s o,
      (State.start slots (planRecord registry standard context schema value)).follow schedule = some s →
      s.result? = some (.ok o) → o.IsShaped context.convert schema value) ∧
    (∀ (c : Configuration) caller arguments verdict,
      (c.validate caller arguments schema value).verdict = some (.ok verdict) →
      ∃ settings context o, c.prepare arguments = .ok (settings, context) ∧
        o.IsShaped context.convert schema value ∧ HandsOut verdict.toResult o) :=
  ⟨fun registry context o h => isShaped_of_validate registry context schema value o h,
    fun _ _ _ _ _ _ _ h hresult => isShaped_of_follow h hresult _ rfl,
    fun _ _ _ _ h => exists_outcome_of_verdict h⟩

open Parallel.Sample in
/-- In order, where the hook plays no part, the record is accepted; in parallel, and by a call of the
library, it is rejected for its second field. -/
theorem isShaped_of_validations_sample :
    (∃ o, (schema rejection).validate (.empty "none") Sample.context record = .ok o ∧ o.isAccepted = true ∧
      o.IsShaped Sample.context.convert (schema rejection) record) ∧
    (∃ s o, (State.start 1 (plan rejection)).follow inTurn = some s ∧ s.result? = some (.ok o) ∧
      o.isAccepted = false ∧ o.IsShaped Sample.context.convert (schema rejection) record) ∧
    ∃ verdict, (Configuration.standard.validate .blocking ⟨[], .null⟩ (schema rejection) record).verdict =
        some (.ok verdict) ∧ verdict.isPassed = false ∧
      ∃ settings context o,
        Configuration.standard.prepare ⟨[], .null⟩ = .ok (settings, context) ∧
          o.IsShaped context.convert (schema rejection) record ∧ HandsOut verdict.toResult o := by
  obtain ⟨hordered, hparallel, hverdict⟩ := isShaped_of_validations (schema rejection) record
  have haccepted : (schema rejection).validate (.empty "none") Sample.context record =
      .ok (.accept record) := rfl
  refine ⟨⟨_, haccepted, rfl, hordered _ _ _ haccepted⟩, ?_, ?_⟩
  · have hrejected : ((State.start 1 (plan rejection)).follow inTurn).any
        (fun s => s.result?.any fun result => result.toOption.any fun o => !o.isAccepted) = true := by
      decide +kernel
    obtain ⟨s, hs, hresult⟩ := (Option.any_eq_true _ _).mp hrejected
    obtain ⟨result, hresult, ho⟩ := (Option.any_eq_true _ _).mp hresult
    obtain ⟨o, ho, hnot⟩ := (Option.any_eq_true _ _).mp ho
    obtain rfl := toOption_eq_some_iff.mp ho
    exact ⟨s, o, hs, hresult, by simpa using hnot, hparallel _ _ _ _ _ _ _ hs hresult⟩
  · have hfailed : (Configuration.standard.validate .blocking ⟨[], .null⟩ (schema rejection)
        record).verdict.any (fun verdict => verdict.toOption.any fun v => !v.isPassed) = true := by
      decide +kernel
    obtain ⟨attempt, hattempt, hverdicts⟩ := (Option.any_eq_true _ _).mp hfailed
    obtain ⟨verdict, hof, hnot⟩ := (Option.any_eq_true _ _).mp hverdicts
    cases attempt with
    | error fault => cases hof
    | ok found =>
      cases hof
      exact ⟨verdict, hattempt, by simpa using hnot, hverdict _ _ _ _ hattempt⟩

end RecordCheck.Parallel
