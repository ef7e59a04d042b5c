import Mathlib.Logic.Relation
import RecordCheck.Parallel.Run
import RecordCheck.Proofs.Parallel.Termination

/-!
# The timeline follows a schedule

The timeline decides whose turn it is and what time it is.  Whatever it decides, it changes the state of a
validation by moves that units can make and by nothing else, so that every state it comes to is at the end
of a schedule, and what holds of all schedules holds of it.
-/

set_option autoImplicit false

namespace RecordCheck.Parallel

open Relation

/-- One state comes from another by moves just when it is at the end of a schedule. -/
theorem State.reflTransGen_moves_iff {s s' : State} :
    ReflTransGen Moves s s' ↔ ∃ schedule, s.follow schedule = some s' := by
  constructor
  · intro h
    induction h using ReflTransGen.head_induction_on with
    | refl => exact ⟨[], rfl⟩
    | head hmove _ ih =>
      obtain ⟨path, m, hstep⟩ := hmove
      obtain ⟨schedule, hrest⟩ := ih
      exact ⟨(path, m) :: schedule, follow_cons.mpr ⟨_, hstep, hrest⟩⟩
  · rintro ⟨schedule, h⟩
    exact follow_induction (fun hs hstep => hs.tail ⟨_, _, hstep⟩) .refl h

namespace Timeline

/-- Whether the state of one timeline comes from the state of another by moves. -/
def LeadsTo (t t' : Timeline) : Prop := ReflTransGen State.Moves t.state t'.state

theorem LeadsTo.refl (t : Timeline) : t.LeadsTo t := ReflTransGen.refl

theorem LeadsTo.trans {t t' t'' : Timeline} (h : t.LeadsTo t') (h' : t'.LeadsTo t'') : t.LeadsTo t'' :=
  ReflTransGen.trans h h'

/-- What is noted down beside a state does not change where it comes from. -/
theorem LeadsTo.of_state_eq {t t' t'' : Timeline} (h : t.LeadsTo t') (hstate : t''.state = t'.state) :
    t.LeadsTo t'' := by
  rw [LeadsTo, hstate]
  exact h

/-- What is done for each member of a list leads on if it does for each. -/
theorem leadsTo_foldl {α : Type} {f : Timeline → α → Timeline} (hf : ∀ t a, LeadsTo t (f t a))
    (l : List α) (t : Timeline) : t.LeadsTo (l.foldl f t) := by
  induction l generalizing t with
  | nil => exact .refl t
  | cons a rest ih => exact (hf t a).trans (ih _)

theorem leadsTo_foldl_later {α : Type} (f : α → Event) (l : List α) (t : Timeline) :
    t.LeadsTo (l.foldl (fun t a => t.later (f a)) t) :=
  leadsTo_foldl (f := fun t a => t.later (f a)) (fun t _ => .refl t) l t

/-! ## Moves -/

theorem leadsTo_moved (t : Timeline) (unit : Path) (m : Move) : t.LeadsTo (t.moved unit m) := by
  unfold moved
  split
  · rename_i state hstep
    exact ReflTransGen.single ⟨unit, m, hstep⟩
  · exact .refl t

theorem leadsTo_handOver (t : Timeline) : t.LeadsTo t.handOver := by
  unfold handOver
  split
  · exact .refl t
  · split
    · exact leadsTo_moved t _ .grant
    · exact .refl t

theorem leadsTo_giveBack (t : Timeline) (unit : Path) : t.LeadsTo (t.giveBack unit) := by
  have hreleased : t.LeadsTo ((t.stopCalls unit).moved unit .release) :=
    leadsTo_moved (t.stopCalls unit) unit .release
  exact hreleased.trans (leadsTo_handOver _)

theorem leadsTo_continueStay (t : Timeline) (unit : Path) (pauses : List Pause) :
    t.LeadsTo (t.continueStay unit pauses) := by
  cases pauses with
  | nil => exact leadsTo_giveBack t unit
  | cons p rest =>
    rw [continueStay]
    split
    · exact .refl t
    · exact .refl t

theorem leadsTo_enter (t : Timeline) (unit : Path) (stay : Stay) : t.LeadsTo (t.enter unit stay) := by
  have hhanded : t.LeadsTo (t.leaveLine unit).handOver := leadsTo_handOver (t.leaveLine unit)
  have hentered := hhanded.trans (leadsTo_moved _ unit .enter)
  rw [enter]
  refine (hentered.of_state_eq ?_).trans (leadsTo_continueStay _ unit stay.pauses)
  rfl

/-! ## Parts -/

theorem leadsTo_announce (t : Timeline) (unit : Path) : t.LeadsTo (t.announce unit) := by
  unfold announce
  split
  · exact .refl t
  · dsimp only
    split <;> exact .refl t

theorem leadsTo_startParts (t : Timeline) (unit : Path) (count : Nat) :
    t.LeadsTo (t.startParts unit count) := by
  unfold startParts
  split
  · exact leadsTo_moved t unit .merge
  · have hnoted : t.LeadsTo (t.setGathering ⟨unit, false, count, none, false⟩) := .refl t
    exact hnoted.trans (leadsTo_foldl_later _ _ _)

theorem leadsTo_gatherAgain (t : Timeline) (unit : Path) (parts : List Task) :
    t.LeadsTo (t.gatherAgain unit parts) := by
  have hnoted : t.LeadsTo (t.setGathering ⟨unit, true, parts.length, none, false⟩) := .refl t
  exact hnoted.trans (leadsTo_foldl_later _ _ _)

theorem leadsTo_hear (t : Timeline) (g : Gathering) (part : Nat) : t.LeadsTo (t.hear g part) := by
  unfold hear
  dsimp only
  -- It only takes note of the part, and perhaps of going on later.
  repeat' split
  all_goals exact .refl t

theorem leadsTo_interrupt (t : Timeline) (unit : Path) : t.LeadsTo (t.interrupt unit) := by
  unfold interrupt
  split
  · exact .refl t
  · split <;> exact .refl t

theorem leadsTo_abort (t : Timeline) (unit : Path) (parts : List Task) (failed : Nat) :
    t.LeadsTo (t.abort unit parts failed) := by
  have hinterrupted := leadsTo_foldl leadsTo_interrupt (interruptedIn unit 0 parts) t
  have haborted := hinterrupted.trans (leadsTo_moved _ unit (.abort failed))
  exact haborted.trans (leadsTo_gatherAgain _ unit _)

/-! ## Events -/

theorem leadsTo_conclude (t : Timeline) (unit : Path) (m : Move) : t.LeadsTo (t.conclude unit m) :=
  (leadsTo_moved t unit m).trans (leadsTo_announce _ unit)

theorem leadsTo_beginPlan (t : Timeline) (unit : Path) (plan : Plan) :
    t.LeadsTo (t.beginPlan unit plan) := by
  have hbegun := leadsTo_moved t unit .begin
  cases plan with
  | ends result => exact leadsTo_conclude t unit .begin
  | stay s next =>
    unfold beginPlan
    dsimp only
    split
    · exact hbegun.trans (leadsTo_moved _ unit .grant)
    · exact hbegun
  | fork children join recover => exact hbegun.trans (leadsTo_startParts _ unit _)

theorem leadsTo_depart (t : Timeline) (unit : Path) (holds : Bool) :
    t.LeadsTo (t.depart unit holds) := by
  unfold depart
  cases holds with
  | true =>
    have hgiven : t.LeadsTo ((t.leaveLine unit).giveBack unit) := leadsTo_giveBack (t.leaveLine unit) unit
    exact hgiven.trans (leadsTo_conclude _ unit .leave)
  | false => exact leadsTo_conclude (t.leaveLine unit) unit .leave

/-- A unit goes on by moves, whatever it is about to do. -/
theorem leadsTo_goOn (t : Timeline) (unit : Path) : t.LeadsTo (t.goOn unit) := by
  unfold goOn
  split
  · exact leadsTo_beginPlan t unit _
  · exact leadsTo_enter t unit _
  · exact (leadsTo_moved t unit .pass).trans (leadsTo_continueStay _ unit _)
  · exact leadsTo_depart t unit _
  · exact leadsTo_abort t unit _ _
  · exact leadsTo_moved t unit .merge
  · exact leadsTo_conclude t unit .settle
  · exact leadsTo_gatherAgain t unit _
  · exact leadsTo_conclude t unit .halt
  · exact .refl t

/-- Nothing happens but moves. -/
theorem leadsTo_happen (t : Timeline) (e : Event) : t.LeadsTo (t.happen e) := by
  cases e with
  | goOn unit => exact leadsTo_goOn t unit
  | wake unit => exact .refl t
  | ended unit part again =>
    unfold happen
    dsimp only
    split
    · split
      · exact leadsTo_hear t _ part
      · exact .refl t
    · exact .refl t

theorem leadsTo_of_next {t t' : Timeline} (h : t.next = some t') : t.LeadsTo t' := by
  unfold next at h
  split at h
  · rename_i e rest hagenda
    cases h
    exact leadsTo_happen { t with agenda := rest } e
  · unfold advanceClock at h
    split at h
    · cases h
    · cases h
      exact .refl t

/-! ## Runs -/

theorem leadsTo_after (n : Nat) (t : Timeline) : t.LeadsTo (t.after n) := by
  induction n generalizing t with
  | zero => exact .refl t
  | succ n ih =>
    unfold after
    split
    · exact .refl t
    · split
      · rename_i next hnext
        exact (leadsTo_of_next hnext).trans (ih next)
      · exact .refl t

theorem leadsTo_run (joins : Nat) (t : Timeline) : t.LeadsTo (run joins t) := by
  induction joins generalizing t with
  | zero => exact leadsTo_after _ t
  | succ n ih => exact (leadsTo_after _ t).trans (ih _)

/-- The timeline of a plan ends where a schedule does. -/
theorem exists_follow_ofPlan (slots : Nat) (plan : Plan) :
    ∃ schedule, (State.start slots plan).follow schedule = some (ofPlan slots plan).state :=
  State.reflTransGen_moves_iff.mp (leadsTo_run _ (start slots plan))

end Timeline

/-- The result of a validation in parallel, if it has one, is that of a schedule that cannot go on. -/
theorem exists_follow_of_validate {registry : Custom.Registry} {slots : Option Nat} {timeout : Value}
    {context : Context} {schema : Schema} {value : Value} {result : Attempt Outcome}
    (h : (validate registry slots timeout context schema value).result = some result) :
    ∃ schedule s,
      (State.start (slots.getD (planRecord registry timeout context schema value).units)
        (planRecord registry timeout context schema value)).follow schedule = some s ∧
      s.IsFinal ∧ s.result? = some result := by
  obtain ⟨schedule, hfollow⟩ := Timeline.exists_follow_ofPlan
    (slots.getD (planRecord registry timeout context schema value).units)
    (planRecord registry timeout context schema value)
  exact ⟨schedule, _, hfollow, State.isFinal_of_result? h, h⟩

end RecordCheck.Parallel
