import RecordCheck.Parallel.Planning
import RecordCheck.Proofs.Parallel.Determinacy
import RecordCheck.Proofs.Validation

/-!
# Validation in parallel agrees with validation in order

Two recursions over rules decide about a record: `Rule.validate` in order, and `planValue`, which is run
with slots.  Where all hooks that are called accept, and every hook has a timeout by which it can be
called, the plan for a value comes to the outcome of its validation, up to notes of custom validators,
which no record keeps.  This is proved by induction on the rule; that other units take turns with it, and
that siblings could be aborted, is dealt with by what plans ensure.
-/

set_option autoImplicit false

namespace RecordCheck

namespace Parallel

/-! ## Timeouts -/

/-- Whether a hook, if there is one, has a timeout by which it can be called. -/
def HasDeadline (standard : Value) (common : Common) : Prop :=
  common.hook.isSome → (Duration.ofValue (timeoutOf common standard)).isOk

/-- Whether every hook under which a value may be validated has a timeout by which it can be called.  A
conditional rule is replaced by one of its branches, so that a hook of its own is never called. -/
def HasDeadlines (standard : Value) (rule : Rule) : Prop :=
  rule.Everywhere fun r => r.isConditional = false → HasDeadline standard r.common

/-- Whether every hook of fields has a timeout by which it can be called. -/
def FieldsHaveDeadlines (standard : Value) (fields : List (Value × Rule)) : Prop :=
  ∀ f ∈ fields, HasDeadlines standard f.2

/-! ## Accepting hooks -/

/-- Whether a call of a hook ends before its deadline and accepts the value. -/
def HookCall.accepts (c : HookCall) : Bool :=
  match c.ending with
  | some (.ok .null) | some (.ok (.bool true)) => true
  | _ => false

theorem HookCall.accepts_iff {c : HookCall} :
    c.accepts = true ↔ c.ending = some (.ok .null) ∨ c.ending = some (.ok (.bool true)) := by
  unfold accepts
  split <;> simp_all

/-- A run in which every hook that is called accepts, and units may be aborted. -/
def accepting : Assumption := ⟨fun c => c.accepts = true, True⟩

/-- Whether a result is an outcome, up to notes. -/
def ComesTo (o : Outcome) : Condition :=
  fun result => ∃ found, result = .ok found ∧ found.withoutNotes = o.withoutNotes

theorem comesTo_self (o : Outcome) : ComesTo o (.ok o) := ⟨o, rfl, rfl⟩

@[simp] theorem comesTo_ok_iff {o found : Outcome} :
    ComesTo o (.ok found) ↔ found.withoutNotes = o.withoutNotes := by
  simp [ComesTo]

/-- Parts of which each comes to an outcome do not fail. -/
theorem recoverEnsures_comesTo {recover : Fault → Attempt Outcome} {outcomes : List Outcome}
    {post : Condition} : RecoverEnsures accepting recover (outcomes.map ComesTo) post := by
  rintro - cause ⟨p, hp, hcause⟩
  obtain ⟨o, -, rfl⟩ := List.mem_map.mp hp
  obtain ⟨_, hfound, -⟩ := hcause
  cases hfound

/-- A hook that accepts leaves the value as it is. -/
theorem callHook_ensures (hook : Hook) (typeName : String) {timeout : Value} (value : Value)
    (context : Context) {limit : Duration} (h : Duration.ofValue timeout = .ok limit) :
    (callHook hook typeName timeout value context).Ensures accepting
      fun result => result = .ok (.accept value) := by
  intro hcalls
  simp only [callHook, h] at hcalls ⊢
  have haccepts := hcalls _ (List.mem_singleton_self _) _ rfl
  rcases HookCall.accepts_iff.mp haccepts with hending | hending
  · dsimp only at hending
    rw [hending]
    rfl
  · dsimp only at hending
    rw [hending]
    rfl

variable {registry : Custom.Registry} {standard : Value} {context : Context}

/-- A unit whose checks came to an outcome comes to it, whether its rule has a hook or not. -/
theorem finish_ensures {common : Common} {typeName : String} {value : Value} {checked o : Outcome}
    (hdeadline : HasDeadline standard common) (h : checked.withoutNotes = o.withoutNotes) :
    (finish common typeName standard context value (.ok checked)).Ensures accepting (ComesTo o) := by
  unfold finish afterChecks
  split
  · rename_i accepted notes hook hchecked hhook
    cases hchecked
    have hdeadline := hdeadline (by rw [hhook]; rfl)
    cases hlimit : Duration.ofValue (timeoutOf common standard) with
    | error fault =>
      rw [hlimit] at hdeadline
      cases hdeadline
    | ok limit =>
      intro hcalls
      have hresult := callHook_ensures hook typeName accepted context hlimit hcalls
      change ComesTo o (guarded value _)
      rw [hresult]
      exact comesTo_ok_iff.mpr h
  · intro _
    exact comesTo_ok_iff.mpr h

/-- A value that is validated in one stay comes to the outcome of its validation. -/
theorem planWhole_ensures {rule : Rule} {value : Value} {o : Outcome}
    (hdeadline : HasDeadline standard rule.common)
    (h : rule.validate registry context false value = .ok o) :
    (planWhole registry standard context rule value).Ensures accepting (ComesTo o) := by
  intro _
  rw [h]
  exact Plan.ensures_work.mpr (finish_ensures hdeadline rfl)

/-- A join of the fields of a record, of which each comes to an outcome. -/
theorem joinEnsures_fields {fields : List (Value × Rule)} {outcomes : List (Value × Outcome)}
    {data : Entries} {post : Condition} (join : Outcome → Work)
    (hnames : namesOf fields = outcomes.map (·.1))
    (h : (join (mergeFields data outcomes)).Ensures accepting post) :
    JoinEnsures accepting (fun found => join (mergeFields data ((namesOf fields).zip found)))
      ((outcomes.map (·.2)).map ComesTo) post := by
  intro found hfound
  rw [List.forall₂_map_left_iff, List.forall₂_map_left_iff] at hfound
  have hmerge : mergeFields data ((namesOf fields).zip found) = mergeFields data outcomes := by
    rw [hnames]
    exact mergeFields_zip (hfound.imp fun f o ho => comesTo_ok_iff.mp ho)
  dsimp only
  rw [hmerge]
  exact h

/-- A join of the elements of an array, of which each comes to an outcome. -/
theorem joinEnsures_elements {items : List Value} {elements : List Outcome} {post : Condition}
    (join : Outcome → Work) (h : (join (mergeElements items elements)).Ensures accepting post) :
    JoinEnsures accepting (fun found => join (mergeElements items found)) (elements.map ComesTo)
      post := by
  intro found hfound
  rw [List.forall₂_map_left_iff] at hfound
  dsimp only
  rw [mergeElements_of_forall₂ (hfound.imp fun e o ho => comesTo_ok_iff.mp ho)]
  exact h

theorem planFields_eq_map (data : Entries) (fields : List (Value × Rule)) :
    planFields registry standard context data fields =
      fields.map fun f => planField data f.1 f.2 (planValue registry standard context f.2) := by
  induction fields with
  | nil => rfl
  | cons f rest ih =>
    obtain ⟨name, r⟩ := f
    rw [planFields, ih, List.map_cons]

/-- What the induction over rules shows: the plan for a value comes to the outcome of its validation. -/
def Agrees (registry : Custom.Registry) (standard : Value) (rule : Rule) : Prop :=
  HasDeadlines standard rule → ∀ {context : Context} {value : Value} {o : Outcome},
    rule.validate registry context true value = .ok o →
      (planValue registry standard context rule value).Ensures accepting (ComesTo o)

/-- The plan for a field comes to the outcome of its validation if the plans for its values do. -/
theorem planField_ensures {data : Entries} {name : Value} {rule : Rule} {o : Outcome}
    (hrule : Agrees registry standard rule) (hdeadlines : HasDeadlines standard rule)
    (h : validateField registry context data name rule = .ok o) :
    (planField data name rule (planValue registry standard context rule)).Ensures accepting
      (ComesTo o) := by
  obtain ⟨active, required, hactive, hfield⟩ := validateField_eq_ok_iff.mp h
  rw [planField, hactive]
  dsimp only
  rcases hfield with ⟨hresolve, habsent⟩ | ⟨key, value, hresolve, hvalue⟩
  · rw [hresolve]
    dsimp only
    rw [Plan.Ensures, habsent]
    exact comesTo_self o
  · rw [hresolve]
    exact hrule hdeadlines hvalue

/-- The plans for the fields of a record come to the outcomes of their validations. -/
theorem planFields_ensuresAll {data : Entries} {fields : List (Value × Rule)}
    {outcomes : List (Value × Outcome)} (hrules : ∀ f ∈ fields, Agrees registry standard f.2)
    (hdeadlines : FieldsHaveDeadlines standard fields)
    (h : Rule.validateFields registry context data fields = .ok outcomes) :
    Plan.EnsuresAll accepting (planFields registry standard context data fields)
      ((outcomes.map (·.2)).map ComesTo) := by
  rw [Rule.validateFields_eq_ok_iff] at h
  rw [planFields_eq_map, Plan.ensuresAll_iff, List.forall₂_map_left_iff, List.forall₂_map_right_iff,
    List.forall₂_map_right_iff]
  have hall := (List.forall₂_and_left fields outcomes).mpr ⟨fun f hf => hf, h⟩
  exact hall.imp fun f o ⟨hf, _, ho⟩ => planField_ensures (hrules f hf) (hdeadlines f hf) ho

theorem planUnchecked_ensures {value : Value} {required : Bool} {o : Outcome}
    (h : unchecked value required = .ok o) :
    (planUnchecked value required).Ensures accepting (ComesTo o) := by
  rw [planUnchecked, Plan.Ensures, h]
  exact comesTo_self o

/-- The plan for an array comes to the outcome of its validation if the plans for its items do. -/
theorem planItems_ensures {common : Common} {value : Value} {element : Rule} {checked : Attempt Outcome}
    {o : Outcome} (helement : Agrees registry standard element)
    (hdeadlines : HasDeadlines standard element) (hdeadline : HasDeadline standard common)
    (h : (do
      match ← checked with
      | .accepted (.list items) _ => do
        let _ ← element.activate context.data
        validateItems (element.validate registry context true) items
      | outcome => return outcome) = .ok o) :
    (planItems common standard context value element (planValue registry standard context element)
      checked).Ensures accepting (ComesTo o) := by
  intro _
  obtain ⟨confirmed, hconfirmed, hrest⟩ := Attempt.bind_eq_ok_iff.mp h
  subst hconfirmed
  split at hrest
  · rename_i items notes
    obtain ⟨active, hactive, hitems⟩ := Attempt.bind_eq_ok_iff.mp hrest
    obtain ⟨elements, helements, hmerge⟩ := Attempt.bind_eq_ok_iff.mp hitems
    obtain rfl := Attempt.pure_eq_ok_iff.mp hmerge
    rw [Attempt.mapM_eq_ok_iff] at helements
    dsimp only
    rw [hactive]
    refine ⟨elements.map ComesTo, ?_, ?_, recoverEnsures_comesTo⟩
    · rw [Plan.ensuresAll_iff, List.forall₂_map_left_iff, List.forall₂_map_right_iff]
      exact helements.imp fun item o ho => helement hdeadlines ho
    · exact joinEnsures_elements (fun merged => finish common "array" standard context value (pure merged))
        (finish_ensures hdeadline rfl)
  · rename_i hnot
    obtain rfl := Attempt.pure_eq_ok_iff.mp hrest
    split
    · rename_i items notes hsame
      cases hsame
      exact absurd rfl (hnot items notes)
    · exact comesTo_self confirmed

/-- The plan for a value comes to the outcome of its validation. -/
theorem planValue_agrees (rule : Rule) : Agrees registry standard rule := by
  induction rule using Rule.induction with
  | conditional common field conditions consequent otherwise base hconsequent hotherwise hbase =>
    intro hdeadlines context value o h
    obtain ⟨-, hthen, helse, hdefault⟩ := hdeadlines
    rw [Rule.validate] at h
    obtain ⟨holds, hholds, h⟩ := Attempt.bind_eq_ok_iff.mp h
    rw [planValue, hholds]
    cases holds with
    | true => exact hconsequent hthen h
    | false =>
      cases otherwise with
      | some r => exact hotherwise r rfl helse h
      | none =>
        cases base with
        | some r => exact hbase r rfl hdefault h
        | none => exact planUnchecked_ensures h
  | object common fields defaults ih =>
    intro hdeadlines context value o h
    have hdeadline := hdeadlines.self rfl
    by_cases hblank : value.isBlank = true
    · rw [Rule.validate_of_isBlank hblank rfl] at h
      simp only [planValue, hblank, if_true]
      exact planUnchecked_ensures h
    · by_cases hhooks : Rule.fieldsHaveHook fields = true
      · simp only [planValue, hblank, hhooks, if_true]
        simp only [Rule.validate, hblank, Bool.and_false] at h
        cases value with
        | dict entries =>
          obtain ⟨outcomes, houtcomes, hmerge⟩ := Attempt.bind_eq_ok_iff.mp h
          obtain rfl := Attempt.pure_eq_ok_iff.mp hmerge
          have hfields := Rule.everywhereInFields_iff.mp hdeadlines.2
          refine ⟨_, planFields_ensuresAll ih hfields houtcomes, ?_, recoverEnsures_comesTo⟩
          exact joinEnsures_fields
            (fun merged => finish common "object" standard context (.dict entries) (pure merged))
            (Rule.names_of_validateFields houtcomes) (finish_ensures hdeadline rfl)
        | _ => exact ⟨o, h, rfl⟩
      · rw [Bool.not_eq_true] at hblank
        rw [Rule.validate_of_not_isBlank hblank] at h
        simp only [planValue, hblank, hhooks]
        exact planWhole_ensures hdeadline h
  | array common element checks ih =>
    intro hdeadlines context value o h
    have hdeadline := hdeadlines.self rfl
    by_cases hblank : value.isBlank = true
    · rw [Rule.validate_of_isBlank hblank rfl] at h
      cases element <;> simp only [planValue, hblank, if_true] <;> exact planUnchecked_ensures h
    · rw [Bool.not_eq_true] at hblank
      cases element with
      | none =>
        rw [Rule.validate_of_not_isBlank hblank] at h
        simp only [planValue, hblank]
        exact planWhole_ensures hdeadline h
      | some r =>
        by_cases hhooks : r.hasHook = true
        · simp only [planValue, hblank, hhooks, if_true]
          simp only [Rule.validate, hblank, Bool.and_false] at h
          exact planItems_ensures (ih r rfl) hdeadlines.2 hdeadline h
        · rw [Rule.validate_of_not_isBlank hblank] at h
          simp only [planValue, hblank, hhooks]
          exact planWhole_ensures hdeadline h
  | _ =>
    intro hdeadlines context value o h
    by_cases hblank : value.isBlank = true
    · rw [Rule.validate_of_isBlank hblank rfl] at h
      simp only [planValue, hblank, if_true]
      exact planUnchecked_ensures h
    · rw [Bool.not_eq_true] at hblank
      rw [Rule.validate_of_not_isBlank hblank] at h
      simp only [planValue, hblank]
      exact planWhole_ensures (hdeadlines rfl) h

/-! ## Whole records -/

/-- The plan for a record comes to the outcome of its validation. -/
theorem planRecord_ensures {schema : Schema} {value : Value} {outcome : Outcome}
    (hdeadlines : FieldsHaveDeadlines standard schema.fields)
    (h : schema.validate registry context value = .ok outcome) :
    (planRecord registry standard context schema value).Ensures accepting
      fun result => result = .ok outcome := by
  cases value with
  | dict entries =>
    obtain ⟨outcomes, houtcomes, hmerge⟩ := Attempt.bind_eq_ok_iff.mp h
    obtain rfl := Attempt.pure_eq_ok_iff.mp hmerge
    refine ⟨_, planFields_ensuresAll (fun f _ => planValue_agrees f.2) hdeadlines houtcomes, ?_,
      recoverEnsures_comesTo⟩
    exact joinEnsures_fields (fun merged => .only (pure merged)) (Rule.names_of_validateFields houtcomes)
      fun _ => rfl
  | _ => exact h

/-- No validation goes on for ever, and where every hook that is called accepts, a record is validated in
parallel with the same outcome as in order, the same to the order of its keys, however many slots there
are and whoever goes first. -/
theorem result_eq_of_accepting {schema : Schema} {value : Value} {outcome : Outcome} {slots : Nat}
    {s : State} {schedule : List (Path × Move)} (hslots : 1 ≤ slots)
    (hdeadlines : FieldsHaveDeadlines standard schema.fields)
    (horder : schema.validate registry context value = .ok outcome)
    (h : (State.start slots (planRecord registry standard context schema value)).follow schedule =
      some s)
    (haccepts : ∀ c ∈ (State.start slots (planRecord registry standard context schema value)).callsAlong
      schedule, c.accepts = true)
    (hfinal : s.IsFinal) :
    (State.start slots (planRecord registry standard context schema value)).Terminates ∧
      s.result? = some (.ok outcome) := by
  refine ⟨State.terminates _, ?_⟩
  obtain ⟨_, hresult, rfl⟩ :=
    State.exists_result_of_ensures hslots (planRecord_ensures hdeadlines horder) h
      ⟨haccepts, .inl trivial⟩ hfinal
  exact hresult

/-- Both hooks of a record accept it, side by side. -/
theorem result_eq_of_accepting_sample :
    ∃ s, (State.start 2 (Sample.plan fun _ => .bool true)).follow Sample.sideBySide = some s ∧
      s.result? = some (.ok (.accept Sample.record)) := by
  have hended : ((State.start 2 (Sample.plan fun _ => .bool true)).follow Sample.sideBySide).any
      (·.root.isEnded) = true := by decide +kernel
  have hdeadlines : FieldsHaveDeadlines (.int 100) (Sample.schema fun _ => .bool true).fields := by
    intro f hf
    rcases List.mem_cons.mp hf with rfl | hf
    · exact fun _ _ => by decide +kernel
    · obtain rfl := List.mem_singleton.mp hf
      exact fun _ _ => by decide +kernel
  obtain ⟨s, h, hend⟩ := (Option.any_eq_true _ _).mp hended
  have hresult := result_eq_of_accepting (Nat.le_succ 1) hdeadlines rfl h (by decide +kernel)
    (State.isFinal_of_isEnded hend)
  exact ⟨s, h, hresult.2⟩

namespace Sample

/-- A text with a hook whose timeout is too large for the clock. -/
def unhurriedText : Rule :=
  .text ⟨.bool true, some (hook fun _ => .null), .int (.ofNat (Nat.pow 10 400))⟩
    ⟨.null, .null, .null, .null⟩

/-- A record of one such text. -/
def unhurried : Schema := ⟨[(.text "name", unhurriedText)], []⟩

/-- The moves of the record: the hook fails in its slot without having been called. -/
def uncalled : List (Path × Move) :=
  ([], .begin) :: [Move.begin, .grant, .enter, .release, .begin, .grant, .enter, .release, .begin].map
    ([0], ·) ++ [([], .merge), ([], .begin)]

end Sample

/-- Without a timeout by which hooks can be called validation in parallel need not agree: the hook is never
called, and so none that is called fails to accept, but the value is rejected. -/
theorem not_result_eq_without_deadlines :
    ¬ ∀ (registry : Custom.Registry) (standard : Value) (context : Context) (schema : Schema)
      (value : Value) (outcome : Outcome) (slots : Nat) (s : State) (schedule : List (Path × Move)),
      1 ≤ slots → schema.validate registry context value = .ok outcome →
      (State.start slots (planRecord registry standard context schema value)).follow schedule = some s →
      (∀ c ∈ (State.start slots (planRecord registry standard context schema value)).callsAlong schedule,
        c.accepts = true) →
      s.IsFinal → s.result? = some (.ok outcome) := by
  intro hall
  have hended : ((State.start 1 (planRecord (.empty "none") (.int 100) Sample.context Sample.unhurried
      Sample.record)).follow Sample.uncalled).any (fun s => s.root.isEnded &&
        !s.result?.any fun result => result.toOption.any Outcome.isAccepted) = true := by
    decide +kernel
  obtain ⟨s, h, hend⟩ := (Option.any_eq_true _ _).mp hended
  rw [Bool.and_eq_true] at hend
  have hresult := hall _ _ _ _ _ (.accept Sample.record) 1 s Sample.uncalled (Nat.le_refl 1) rfl h
    (by decide +kernel) (State.isFinal_of_isEnded hend.1)
  rw [hresult] at hend
  exact absurd hend.2 (by decide)

end Parallel

end RecordCheck
