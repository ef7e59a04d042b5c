import RecordCheck.Parallel.Planning
import RecordCheck.Proofs.Parallel.Guarantee

/-!
# The order of moves does not matter

What a plan comes to when none of its units fails can be read off the plan, without slots and without an
order of moves.  A run in which no unit is aborted comes to this outcome.  Conversely a plan that has such
an outcome leaves no unit that could fail, so that no run of it can be aborted.  Hence a single run that
was not aborted settles what all others come to, however many slots they have and whoever goes first.
-/

set_option autoImplicit false

namespace RecordCheck.Parallel

namespace Plan

mutual

/-- The outcome of a plan of which no unit fails. -/
def outcome? : Plan → Option Outcome
  | ends result => result.toOption
  | stay _ next => next.outcome?
  | fork children join _ => (outcomesOf children).bind fun outcomes => (join outcomes).result.toOption

/-- The outcomes of plans of which no unit fails. -/
def outcomesOf : List Plan → Option (List Outcome)
  | [] => some []
  | p :: rest => p.outcome?.bind fun o => (outcomesOf rest).map (o :: ·)

end

theorem outcomesOf_eq_some_iff {plans : List Plan} {outcomes : List Outcome} :
    outcomesOf plans = some outcomes ↔
      List.Forall₂ (fun (p : Plan) o => p.outcome? = some o) plans outcomes := by
  induction plans generalizing outcomes with
  | nil => cases outcomes <;> simp [outcomesOf]
  | cons p rest ih =>
    cases outcomes with
    | nil => simp [outcomesOf, Option.bind_eq_some_iff]
    | cons o os => simp [outcomesOf, Option.bind_eq_some_iff, ih]

end Plan

/-- A run in which no unit is aborted, whatever hooks are called. -/
def unaborted : Assumption := ⟨fun _ => True, False⟩

/-- A run of which nothing is assumed. -/
def unrestricted : Assumption := ⟨fun _ => True, True⟩

/-- A result comes from an outcome just when it has it. -/
theorem toOption_eq_some_iff {result : Attempt Outcome} {o : Outcome} :
    result.toOption = some o ↔ result = .ok o := by
  cases result <;> simp [Except.toOption]

/-- A run whose outcome passes a check has an outcome that does. -/
theorem State.exists_outcome_of_any {run : Option State} {check : Outcome → Bool}
    (h : run.any (fun s => s.result?.any fun result => result.toOption.any check) = true) :
    ∃ s o, run = some s ∧ s.result? = some (.ok o) ∧ check o = true := by
  obtain ⟨s, hs, hany⟩ := (Option.any_eq_true _ _).mp h
  obtain ⟨result, hresult, hany⟩ := (Option.any_eq_true _ _).mp hany
  obtain ⟨o, ho, hcheck⟩ := (Option.any_eq_true _ _).mp hany
  rw [toOption_eq_some_iff.mp ho] at hresult
  exact ⟨s, o, hs, hresult, hcheck⟩

namespace Plan

/-- Without aborts a plan comes to nothing but its outcome. -/
theorem ensures_outcome? (plan : Plan) :
    plan.Ensures unaborted fun result => result.toOption = plan.outcome? := by
  induction plan using Plan.induction with
  | ends result => rfl
  | stay s next ih => exact fun _ => ih
  | fork children join recover ih =>
    refine ⟨children.map fun p result => result.toOption = p.outcome?, ?_, ?_, nofun⟩
    · rw [ensuresAll_iff, List.forall₂_map_right_iff, List.forall₂_same]
      exact ih
    · intro outcomes houtcomes _
      have hall : outcomesOf children = some outcomes := by
        rw [List.forall₂_map_left_iff] at houtcomes
        rw [outcomesOf_eq_some_iff]
        exact houtcomes.imp fun p o h => h.symm
      simp [outcome?, hall]

/-- A plan with an outcome comes to nothing else, aborts or not: none of its units fails. -/
theorem ensures_of_outcome? {assumed : Assumption} {plan : Plan} {o : Outcome}
    (h : plan.outcome? = some o) : plan.Ensures assumed fun result => result = .ok o := by
  induction plan using Plan.induction generalizing o with
  | ends result => exact toOption_eq_some_iff.mp h
  | stay s next ih => exact fun _ => ih h
  | fork children join recover ih =>
    obtain ⟨outcomes, hall, hjoin⟩ := Option.bind_eq_some_iff.mp h
    rw [outcomesOf_eq_some_iff] at hall
    refine ⟨outcomes.map fun o result => result = .ok o, ?_, ?_, ?_⟩
    · rw [ensuresAll_iff, List.forall₂_map_right_iff]
      exact ((List.forall₂_and_left _ _).mpr ⟨ih, hall⟩).imp fun p o hp => hp.1 hp.2
    · intro found hfound _
      have heq : outcomes = found := by
        rw [List.forall₂_map_left_iff] at hfound
        exact List.forall₂_eq_eq_eq ▸ hfound.imp fun a b hab => by cases hab; rfl
      subst heq
      exact toOption_eq_some_iff.mp hjoin
    · rintro _ cause ⟨post, hpost, hcause⟩
      obtain ⟨o, -, rfl⟩ := List.mem_map.mp hpost
      cases hcause

/-- A fork whose join always comes to an outcome has one if it is not aborted. -/
theorem ensures_exists_of_join {children : List Plan} {join : List Outcome → Work}
    {recover : Fault → Attempt Outcome}
    (hjoin : ∀ outcomes, ∃ o, (join outcomes).result = .ok o) :
    (fork children join recover).Ensures unaborted fun result =>
      ∃ o, result = .ok o ∧ (fork children join recover).outcome? = some o := by
  obtain ⟨posts, hall, hposts, -⟩ := ensures_outcome? (fork children join recover)
  refine ⟨posts, hall, ?_, nofun⟩
  intro outcomes houtcomes hcalls
  obtain ⟨o, ho⟩ := hjoin outcomes
  have hsame := hposts outcomes houtcomes hcalls
  rw [ho] at hsame
  exact ⟨o, ho, hsame.symm⟩

end Plan

/-- The validation of a record comes to an outcome if it is not aborted. -/
theorem ensures_exists_planRecord (registry : Custom.Registry) (standard : Value) (context : Context)
    (schema : Schema) (value : Value) :
    (planRecord registry standard context schema value).Ensures unaborted fun result =>
      ∃ o, result = .ok o ∧
        (planRecord registry standard context schema value).outcome? = some o := by
  unfold planRecord
  split
  · exact Plan.ensures_exists_of_join fun outcomes => ⟨_, rfl⟩
  · exact ⟨_, rfl, rfl⟩

/-! ## Two runs -/

section

variable {registry : Custom.Registry} {standard value : Value} {context : Context} {schema : Schema}

/-- No validation goes on for ever, and if one of a record was not aborted, then every other of the same
record comes to the same outcome, whatever the number of slots and the order of moves. -/
theorem result_eq_of_unaborted {slots₁ slots₂ : Nat} {s₁ s₂ : State}
    {schedule₁ schedule₂ : List (Path × Move)} (hslots₁ : 1 ≤ slots₁) (hslots₂ : 1 ≤ slots₂)
    (h₁ : (State.start slots₁ (planRecord registry standard context schema value)).follow schedule₁ =
      some s₁)
    (h₂ : (State.start slots₂ (planRecord registry standard context schema value)).follow schedule₂ =
      some s₂)
    (hfinal₁ : s₁.IsFinal) (hfinal₂ : s₂.IsFinal) (hunaborted : Unaborted schedule₁) :
    (∀ slots, (State.start slots (planRecord registry standard context schema value)).Terminates) ∧
      ∃ outcome, s₁.result? = some (.ok outcome) ∧ s₂.result? = some (.ok outcome) := by
  refine ⟨fun slots => State.terminates _, ?_⟩
  obtain ⟨_, hresult₁, outcome, rfl, houtcome⟩ :=
    State.exists_result_of_ensures hslots₁
      (ensures_exists_planRecord registry standard context schema value) h₁
      ⟨fun _ _ => trivial, .inr hunaborted⟩ hfinal₁
  have hplan : (planRecord registry standard context schema value).Ensures unrestricted
      fun result => result = .ok outcome := Plan.ensures_of_outcome? houtcome
  obtain ⟨_, hresult₂, rfl⟩ :=
    State.exists_result_of_ensures hslots₂ hplan h₂ ⟨fun _ _ => trivial, .inl trivial⟩ hfinal₂
  exact ⟨outcome, hresult₁, hresult₂⟩

end

/-! ### Two runs of one validation -/

namespace Sample

/-- A hook that lets others proceed and then answers. -/
def hook (answer : Value → Value) : Hook := fun value _ => .interruptible [.yield] (.ok (answer value))

/-- A text that must be there and is then checked by a hook. -/
def checkedText (answer : Value → Value) : Rule :=
  .text ⟨.bool true, some (hook answer), .null⟩ ⟨.null, .null, .null, .null⟩

/-- A record of two texts, the second of which is given an answer by its hook. -/
def schema (answer : Value → Value) : Schema :=
  ⟨[(.text "name", checkedText fun _ => .null), (.text "mail", checkedText answer)], []⟩

/-- A record of two texts. -/
def record : Value := .dict [(.text "name", .text "ann"), (.text "mail", .text "a@b.c")]

/-- The context of a validation that converts nothing. -/
def context : Context := ⟨[], false, []⟩

/-- The plan for the record. -/
def plan (answer : Value → Value) : Plan :=
  planRecord (.empty "none") (.int 100) context (schema answer) record

/-- An answer that rejects a value. -/
def rejection (value : Value) : Value := .result false value (.text "taken")

/-- The moves of a field with a hook. -/
def fieldMoves (i : Nat) : List (Path × Move) :=
  [.begin, .grant, .enter, .release, .begin, .grant, .enter, .pass, .release, .begin].map ([i], ·)

/-- One field after the other. -/
def inTurn : List (Path × Move) :=
  ([], .begin) :: fieldMoves 0 ++ fieldMoves 1 ++ [([], .merge), ([], .begin)]

/-- Both fields side by side, the second one first. -/
def sideBySide : List (Path × Move) :=
  ([], .begin) :: ((fieldMoves 1).zip (fieldMoves 0)).flatMap (fun m => [m.1, m.2]) ++
    [([], .merge), ([], .begin)]

end Sample

theorem result_eq_of_unaborted_sample :
    ∃ s₁ s₂ outcome, (State.start 1 (Sample.plan Sample.rejection)).follow Sample.inTurn = some s₁ ∧
      (State.start 2 (Sample.plan Sample.rejection)).follow Sample.sideBySide = some s₂ ∧
      s₁.result? = some (.ok outcome) ∧ s₂.result? = some (.ok outcome) := by
  have hended₁ : ((State.start 1 (Sample.plan Sample.rejection)).follow Sample.inTurn).any
      (·.root.isEnded) = true := by decide +kernel
  have hended₂ : ((State.start 2 (Sample.plan Sample.rejection)).follow Sample.sideBySide).any
      (·.root.isEnded) = true := by decide +kernel
  obtain ⟨s₁, h₁, hend₁⟩ := (Option.any_eq_true _ _).mp hended₁
  obtain ⟨s₂, h₂, hend₂⟩ := (Option.any_eq_true _ _).mp hended₂
  obtain ⟨-, outcome, hresult₁, hresult₂⟩ :=
    result_eq_of_unaborted (Nat.le_refl 1) (Nat.le_succ 1) h₁ h₂ (State.isFinal_of_isEnded hend₁)
      (State.isFinal_of_isEnded hend₂) (by decide)
  exact ⟨s₁, s₂, outcome, h₁, h₂, hresult₁, hresult₂⟩

end RecordCheck.Parallel
