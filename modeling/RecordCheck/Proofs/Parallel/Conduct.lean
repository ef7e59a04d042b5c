import Mathlib.Data.List.Forall2
import RecordCheck.Proofs.Outcome
import RecordCheck.Proofs.Parallel.Guarantee

/-!
# The calls of units

The conduct of a unit is what can be told of it beforehand: the calls of hooks that it makes, those that
each of its parts makes, and the value that it accepts in the end.  No order of moves and no number of
slots enters into it.  A step makes a call only if it is the next one in the conduct of the unit that
moves, and takes it off; an abort takes off the calls of all parts of the unit that is aborted.  Hence in
a run to the end every unit makes the calls of its conduct, unless a unit that it is part of is aborted,
and none makes any other call.
-/

set_option autoImplicit false

namespace RecordCheck.Parallel

/-- The calls that work makes, in order. -/
def Work.calls (w : Work) : List HookCall := w.stays.filterMap (·.call)

/-- The calls that a unit and its parts make, each of them named by its path in the unit, and the value
that the unit accepts, none if it accepts none. -/
@[ext] structure Conduct where
  calls : Path → List HookCall
  accepted : Option Value

namespace Conduct

/-- Making no calls. -/
def silent (accepted : Option Value) : Conduct := ⟨fun _ => [], accepted⟩

/-- Making some calls before anything else. -/
def calling (calls : List HookCall) (c : Conduct) : Conduct :=
  ⟨fun unit => if unit = [] then calls ++ c.calls unit else c.calls unit, c.accepted⟩

/-- Having parts, and making some calls after they have ended. -/
def forking (parts : List Conduct) (calls : List HookCall) (accepted : Option Value) : Conduct where
  calls
    | [] => calls
    | i :: unit => (parts[i]?.map (·.calls unit)).getD []
  accepted := accepted

theorem calling_nil (c : Conduct) : c.calling [] = c := by
  ext unit <;> simp [calling]

theorem calling_calling (calls more : List HookCall) (c : Conduct) :
    (c.calling more).calling calls = c.calling (calls ++ more) := by
  ext unit
  · by_cases h : unit = [] <;> simp [calling, h]
  · rfl

end Conduct

/-- Whether a join makes some calls and accepts a value, given the values that the parts accept.  If one
of them accepts none, then it makes no calls and accepts none; none is accepted after an abort. -/
structure Joins (join : List Outcome → Work) (recover : Fault → Attempt Outcome)
    (parts : List (Option Value)) (calls : List HookCall) (accepted : Option Value) : Prop where
  merged : ∀ outcomes : List Outcome, outcomes.map Outcome.accepted? = parts →
    (join outcomes).calls = calls ∧ acceptedBy (join outcomes).result = accepted
  failed : none ∈ parts → calls = [] ∧ accepted = none
  aborted : ∀ cause, acceptedBy (recover cause) = none

/-! ## Plans -/

namespace Plan

mutual

/-- Whether a plan has a conduct. -/
def Conducts : Plan → Conduct → Prop
  | ends result, c => c = .silent (acceptedBy result)
  | stay s next, c => ∃ rest, next.Conducts rest ∧ c = rest.calling s.call.toList
  | fork children join recover, c =>
    ∃ parts calls accepted, ConductsAll children parts ∧
      Joins join recover (parts.map (·.accepted)) calls accepted ∧ c = .forking parts calls accepted

/-- Whether each plan has the conduct in the same place. -/
def ConductsAll : List Plan → List Conduct → Prop
  | [], [] => True
  | p :: rest, c :: cs => p.Conducts c ∧ ConductsAll rest cs
  | _, _ => False

end

theorem conductsAll_iff {plans : List Plan} {conducts : List Conduct} :
    ConductsAll plans conducts ↔ List.Forall₂ Conducts plans conducts := by
  induction plans generalizing conducts with
  | nil => cases conducts <;> simp [ConductsAll]
  | cons p rest ih => cases conducts <;> simp [ConductsAll, ih]

/-- The conduct of work without parts. -/
theorem conducts_work (w : Work) :
    w.plan.Conducts ((Conduct.silent (acceptedBy w.result)).calling w.calls) := by
  unfold Work.plan Work.calls
  induction w.stays with
  | nil => exact Conduct.calling_nil _
  | cons s rest ih =>
    refine ⟨_, ih, ?_⟩
    rw [Conduct.calling_calling, List.filterMap_cons]
    cases s.call <;> rfl

end Plan

/-! ## Units -/

namespace Task

/-- Whether a unit has ended or has been told to end: telling it so changes nothing. -/
def IsQuiet (t : Task) : Prop := t.cancel = t

mutual

/-- Whether a unit that was not cancelled has a conduct from now on. -/
def Conducts : Task → Conduct → Prop
  | ready plan, c => plan.Conducts c
  | queued s next, c | granted s next, c => ∃ rest, next.Conducts rest ∧ c = rest.calling s.call.toList
  | holding _ next, c => next.Conducts c
  | joining ps join recover, c =>
    ∃ parts calls accepted, ConductsAll ps parts ∧
      Joins join recover (parts.map (·.accepted)) calls accepted ∧ c = .forking parts calls accepted
  | unwinding cause ps recover, c =>
    (∀ p ∈ ps, p.IsQuiet) ∧ acceptedBy (recover cause) = none ∧ c = .silent none
  | finished result, c => c = .silent (acceptedBy result)
  | leaving _, _ | halting _, _ | stopped, _ => False

/-- Whether each unit has the conduct in the same place. -/
def ConductsAll : List Task → List Conduct → Prop
  | [], [] => True
  | t :: rest, c :: cs => t.Conducts c ∧ ConductsAll rest cs
  | _, _ => False

end

theorem conductsAll_iff {parts : List Task} {conducts : List Conduct} :
    ConductsAll parts conducts ↔ List.Forall₂ Conducts parts conducts := by
  induction parts generalizing conducts with
  | nil => cases conducts <;> simp [ConductsAll]
  | cons t rest ih => cases conducts <;> simp [ConductsAll, ih]

/-- Units that have not begun conduct themselves as their plans do. -/
theorem conductsAll_map_ready {plans : List Plan} {conducts : List Conduct} :
    ConductsAll (plans.map ready) conducts ↔ Plan.ConductsAll plans conducts := by
  rw [conductsAll_iff, Plan.conductsAll_iff, List.forall₂_map_left_iff]
  rfl

/-- Units that have come to outcomes make no calls any more. -/
theorem conductsAll_finished_iff {outcomes : List Outcome} {conducts : List Conduct} :
    ConductsAll (outcomes.map fun o => finished (.ok o)) conducts ↔
      conducts = outcomes.map fun o => .silent o.accepted? := by
  rw [conductsAll_iff, List.forall₂_map_left_iff, ← List.forall₂_eq_eq_eq, List.forall₂_map_right_iff]
  exact ⟨fun h => h.flip, fun h => h.flip⟩

/-- One of some units can be changed into another with another conduct. -/
theorem exists_of_conductsAll_append {before after : List Task} {p : Task} {conducts : List Conduct}
    (h : ConductsAll (before ++ p :: after) conducts) :
    ∃ first c last, conducts = first ++ c :: last ∧ first.length = before.length ∧ p.Conducts c ∧
      ∀ p' c', p'.Conducts c' → ConductsAll (before ++ p' :: after) (first ++ c' :: last) := by
  induction before generalizing conducts with
  | nil =>
    cases conducts with
    | nil => exact h.elim
    | cons c cs => exact ⟨[], c, cs, rfl, rfl, h.1, fun _ _ hp => ⟨hp, h.2⟩⟩
  | cons t before ih =>
    cases conducts with
    | nil => exact h.elim
    | cons d ds =>
      obtain ⟨first, c, last, rfl, hlength, hc, hchange⟩ := ih h.2
      exact ⟨d :: first, c, last, rfl, by simp [hlength], hc, fun p' c' hp => ⟨h.1, hchange p' c' hp⟩⟩

/-- A part that has failed accepts nothing. -/
theorem none_mem_of_conductsAll {parts : List Task} {conducts : List Conduct} {i : Nat} {cause : Fault}
    (h : ConductsAll parts conducts) (hfault : parts[i]?.bind fault? = some cause) :
    none ∈ conducts.map (·.accepted) := by
  obtain ⟨t, ht, hcause⟩ := Option.bind_eq_some_iff.mp hfault
  obtain rfl := fault?_eq_some_iff.mp hcause
  obtain ⟨c, hc, hconducts⟩ :=
    Attempt.exists_mem_of_forall₂ (conductsAll_iff.mp h) (List.mem_of_getElem? ht)
  refine List.mem_map.mpr ⟨c, hc, ?_⟩
  rw [hconducts]
  rfl

/-! ### Units that were told to end -/

theorem isQuiet_cancel (t : Task) : t.cancel.IsQuiet := by
  have parts {ps : List Task} (ih : ∀ p ∈ ps, p.cancel.cancel = p.cancel) :
      cancelAll (cancelAll ps) = cancelAll ps := by
    simpa [cancelAll_eq_map] using ih
  unfold IsQuiet
  induction t using Task.induction with
  | joining ps join recover ih => exact congrArg halting (parts ih)
  | unwinding cause ps recover ih => exact congrArg halting (parts ih)
  | halting ps ih => exact congrArg halting (parts ih)
  | _ => rfl

theorem isQuiet_halting_iff {parts : List Task} :
    (halting parts).IsQuiet ↔ ∀ p ∈ parts, p.IsQuiet := by
  rw [IsQuiet, cancel, halting.injEq, cancelAll_eq_map]
  constructor
  · intro h
    have hsame : parts.map cancel = parts.map id := by rw [h, List.map_id]
    exact List.map_inj_left.mp hsame
  · intro h
    have hsame : parts.map cancel = parts.map id := List.map_inj_left.mpr h
    rw [hsame, List.map_id]

/-- A call in a part of a unit is a call in the unit. -/
theorem callAt_cons {t p : Task} {before after : List Task} (h : t.parts = before ++ p :: after)
    (path : Path) (m : Move) : t.callAt (before.length :: path) m = p.callAt path m := by
  simp [callAt, at?, h]

/-- A unit that was told to end makes no calls and goes on being so. -/
theorem Steps.isQuiet {m : Move} {path : Path} {t t' : Task} (h : Steps m path t t')
    (ht : t.IsQuiet) : t'.IsQuiet ∧ t.callAt path m = none := by
  induction h with
  | giveUp => exact ⟨rfl, rfl⟩
  | leave => exact ⟨rfl, rfl⟩
  | halt hparts => exact ⟨rfl, rfl⟩
  | inHalting before after hpart ih =>
    rw [isQuiet_halting_iff] at ht ⊢
    obtain ⟨hquiet, hcall⟩ := ih (ht _ (by simp))
    refine ⟨?_, (callAt_cons rfl _ _).trans hcall⟩
    intro q hq
    rcases List.mem_append.mp hq with hbefore | hrest
    · exact ht q (by simp [hbefore])
    · rcases List.mem_cons.mp hrest with rfl | hafter
      · exact hquiet
      · exact ht q (by simp [hafter])
  | _ => cases ht

end Task

/-! ## Steps -/

/-- Whether a unit is a part of another one, directly or through others. -/
def IsPart (unit whole : Path) : Prop := ∃ i rest, unit = whole ++ i :: rest

theorem not_isPart_nil (whole : Path) : ¬ IsPart [] whole := by
  rintro ⟨i, rest, h⟩
  simp at h

/-- A part of a unit is a part of all that this is inside of. -/
theorem IsPart.append {unit whole : Path} (h : IsPart unit whole) (below : Path) :
    IsPart (unit ++ below) whole := by
  obtain ⟨i, rest, rfl⟩ := h
  exact ⟨i, rest ++ below, by simp⟩

theorem IsPart.trans {unit whole outer : Path} (h : IsPart unit whole) (hwhole : IsPart whole outer) :
    IsPart unit outer := by
  obtain ⟨i, rest, rfl⟩ := h
  exact hwhole.append (i :: rest)

theorem isPart_cons_iff {i : Nat} {unit whole : Path} :
    IsPart (i :: unit) (i :: whole) ↔ IsPart unit whole := by
  simp [IsPart]

/-- How a conduct goes on after a move of the unit at a path, which makes some calls: they are taken off,
and if the unit is aborted, then so are the calls of its parts. -/
structure Conduct.Continues (path : Path) (m : Move) (called : List HookCall) (c c' : Conduct) :
    Prop where
  accepted : c'.accepted = c.accepted
  kept : ∀ unit, (m.isAbort = true → ¬ IsPart unit path) →
    (if unit = path then called else []) ++ c'.calls unit = c.calls unit
  dropped : ∀ unit, m.isAbort = true → IsPart unit path → c'.calls unit = []

namespace Conduct

/-- A move without calls that aborts nothing changes no conduct. -/
theorem continues_self {path : Path} {m : Move} (hm : m.isAbort = false) (c : Conduct) :
    c.Continues path m [] c := by
  refine ⟨rfl, fun unit _ => by simp, fun unit habort => ?_⟩
  rw [hm] at habort
  cases habort

/-- A fork goes on as the part in which a move is made. -/
theorem Continues.forking {path : Path} {m : Move} {called calls : List HookCall} {c c' : Conduct}
    {accepted : Option Value} (h : c.Continues path m called c') (first last : List Conduct) :
    (Conduct.forking (first ++ c :: last) calls accepted).Continues (first.length :: path) m called
      (Conduct.forking (first ++ c' :: last) calls accepted) := by
  have others {i : Nat} (hi : i ≠ first.length) :
      (first ++ c' :: last)[i]? = (first ++ c :: last)[i]? := Task.getElem?_of_ne hi
  refine ⟨rfl, ?_, ?_⟩
  · intro unit hunit
    cases unit with
    | nil => rfl
    | cons i unit =>
      by_cases hi : i = first.length
      · subst hi
        rw [isPart_cons_iff] at hunit
        simpa [Conduct.forking] using h.kept unit hunit
      · simp [Conduct.forking, hi, others hi]
  · intro unit habort hpart
    cases unit with
    | nil => exact absurd hpart (not_isPart_nil _)
    | cons i unit =>
      obtain ⟨j, rest, heq⟩ := hpart
      obtain ⟨rfl, rfl⟩ := List.cons.inj heq
      simpa [Conduct.forking] using h.dropped _ habort ⟨j, rest, rfl⟩

end Conduct

namespace Task

/-- A unit makes the call of a step if that is the next one in its conduct. -/
theorem Steps.conducts {m : Move} {path : Path} {t t' : Task} (h : Steps m path t t') {c : Conduct}
    (ht : t.Conducts c) :
    ∃ c', t'.Conducts c' ∧ c.Continues path m (t.callAt path m).toList c' := by
  induction h generalizing c with
  | begin plan =>
    refine ⟨c, ?_, Conduct.continues_self rfl c⟩
    cases plan with
    | ends result => exact ht
    | stay s next => exact ht
    | fork children join recover =>
      obtain ⟨parts, calls, accepted, hparts, hrest⟩ := ht
      exact ⟨parts, calls, accepted, conductsAll_map_ready.mpr hparts, hrest⟩
  | grant s next => exact ⟨c, ht, Conduct.continues_self rfl c⟩
  | enter s next =>
    obtain ⟨rest, hrest, rfl⟩ := ht
    refine ⟨rest, hrest, rfl, ?_, fun _ habort => by cases habort⟩
    intro unit _
    by_cases hunit : unit = [] <;> simp [Conduct.calling, hunit, callAt, at?]
  | pass pause rest next => exact ⟨c, ht, Conduct.continues_self rfl c⟩
  | release next => exact ⟨c, ht, Conduct.continues_self rfl c⟩
  | giveUp => exact ht.elim
  | @merge parts outcomes join recover houtcomes =>
    obtain ⟨conducts, calls, accepted, hparts, hjoins, rfl⟩ := ht
    rw [mapM_outcome?_eq_some_iff.mp houtcomes, conductsAll_finished_iff] at hparts
    subst hparts
    have haccepted : outcomes.map Outcome.accepted? =
        (outcomes.map fun o => Conduct.silent o.accepted?).map (·.accepted) := by
      rw [List.map_map]
      rfl
    obtain ⟨rfl, rfl⟩ := hjoins.merged outcomes haccepted
    refine ⟨_, Plan.conducts_work _, rfl, ?_, fun _ habort => by cases habort⟩
    intro unit _
    cases unit with
    | nil => simp [Conduct.calling, Conduct.silent, Conduct.forking, callAt]
    | cons i unit =>
      cases hi : outcomes[i]? <;> simp [Conduct.calling, Conduct.silent, Conduct.forking, hi]
  | @abort i parts cause join recover hfault =>
    obtain ⟨conducts, calls, accepted, hparts, hjoins, rfl⟩ := ht
    obtain ⟨rfl, rfl⟩ := hjoins.failed (none_mem_of_conductsAll hparts hfault)
    refine ⟨.silent none, ⟨?_, hjoins.aborted cause, rfl⟩, rfl, ?_, fun _ _ _ => rfl⟩
    · rw [cancelAll_eq_map]
      intro p hp
      obtain ⟨q, -, rfl⟩ := List.mem_map.mp hp
      exact isQuiet_cancel q
    · intro unit hunit
      cases unit with
      | nil => rfl
      | cons i unit => exact absurd ⟨i, unit, rfl⟩ (hunit rfl)
  | settle cause recover hparts =>
    obtain ⟨-, hrecover, rfl⟩ := ht
    exact ⟨.silent none, by rw [Conducts, hrecover], Conduct.continues_self rfl _⟩
  | leave => exact ht.elim
  | halt hparts => exact ht.elim
  | @inJoining m path p p' before after join recover hpart ih =>
    obtain ⟨conducts, calls, accepted, hparts, hjoins, rfl⟩ := ht
    obtain ⟨first, c, last, rfl, hlength, hp, hchange⟩ := exists_of_conductsAll_append hparts
    obtain ⟨c', hp', hcontinues⟩ := ih hp
    rw [callAt_cons rfl, ← hlength]
    refine ⟨_, ⟨first ++ c' :: last, calls, accepted, hchange p' c' hp', ?_, rfl⟩,
      hcontinues.forking first last⟩
    simpa [hcontinues.accepted] using hjoins
  | @inUnwinding m path p p' cause before after recover hpart ih =>
    obtain ⟨hquiet, hrecover, rfl⟩ := ht
    have hwithin : (halting (before ++ p :: after)).IsQuiet := isQuiet_halting_iff.mpr hquiet
    obtain ⟨hquiet', hcall⟩ := (Steps.inHalting before after hpart).isQuiet hwithin
    rw [callAt_cons rfl] at hcall ⊢
    rw [hcall]
    refine ⟨.silent none, ⟨isQuiet_halting_iff.mp hquiet', hrecover, rfl⟩, rfl, ?_, fun _ _ _ => rfl⟩
    intro unit _
    simp [Conduct.silent]
  | inHalting before after hpart ih => exact ht.elim

end Task

/-! ## Runs -/

namespace State

/-- The calls that the unit at a path makes along a schedule, in order. -/
def callsOf (unit : Path) : State → List (Path × Move) → List HookCall
  | _, [] => []
  | s, move :: rest =>
    (if unit = move.1 then (s.root.callAt move.1 move.2).toList else []) ++
      match s.step move.1 move.2 with
      | some next => next.callsOf unit rest
      | none => []

/-- The calls along a schedule are those of all units. -/
theorem mem_callsAlong_iff {s : State} {schedule : List (Path × Move)} {call : HookCall} :
    call ∈ s.callsAlong schedule ↔ ∃ unit, call ∈ s.callsOf unit schedule := by
  induction schedule generalizing s with
  | nil => simp [callsAlong, callsOf]
  | cons move rest ih =>
    simp only [callsAlong, callsOf, List.mem_append, exists_or]
    refine or_congr ?_ ?_
    · constructor
      · intro h
        exact ⟨move.1, by simpa using h⟩
      · rintro ⟨unit, h⟩
        split at h
        · exact h
        · cases h
    · cases s.step move.1 move.2 with
      | none => simp
      | some next => exact ih

/-- Whether no unit that the unit at a path is part of is aborted in a schedule. -/
def Undisturbed (unit : Path) (schedule : List (Path × Move)) : Prop :=
  ∀ move ∈ schedule, move.2.isAbort = true → ¬ IsPart unit move.1

/-- Where no unit is aborted, none is disturbed. -/
theorem undisturbed_of_unaborted {schedule : List (Path × Move)} (h : Unaborted schedule)
    (unit : Path) : Undisturbed unit schedule := by
  intro move hmove habort
  rw [h move hmove] at habort
  cases habort

theorem Undisturbed.mono {unit : Path} {schedule rest : List (Path × Move)}
    (h : Undisturbed unit schedule) (hrest : rest ⊆ schedule) : Undisturbed unit rest :=
  fun move hmove => h move (hrest hmove)

/-- A unit of which a part is not disturbed is not disturbed itself. -/
theorem Undisturbed.of_append {unit below : Path} {schedule : List (Path × Move)}
    (h : Undisturbed (unit ++ below) schedule) : Undisturbed unit schedule :=
  fun move hmove habort hpart => h move hmove habort (hpart.append below)

/-- A unit makes the first calls of its conduct along a schedule, and all but those that are left at its
end if it is not disturbed. -/
theorem conducts_follow {s s' : State} {schedule : List (Path × Move)}
    (h : s.follow schedule = some s') {c : Conduct} (hs : s.root.Conducts c) :
    ∃ c', s'.root.Conducts c' ∧ ∀ unit, s.callsOf unit schedule <+: c.calls unit ∧
      (Undisturbed unit schedule → s.callsOf unit schedule ++ c'.calls unit = c.calls unit) := by
  induction schedule generalizing s c with
  | nil =>
    obtain rfl := follow_nil.mp h
    exact ⟨c, hs, fun unit => ⟨List.nil_prefix, fun _ => rfl⟩⟩
  | cons move rest ih =>
    obtain ⟨next, hnext, hrest⟩ := follow_cons.mp h
    obtain ⟨c', hnext', hcontinues⟩ := (step_eq_some_iff.mp hnext).2.conducts hs
    obtain ⟨c'', hs', hcalls⟩ := ih hrest hnext'
    refine ⟨c'', hs', fun unit => ?_⟩
    obtain ⟨hbegins, hall⟩ := hcalls unit
    simp only [callsOf, hnext]
    by_cases hpart : move.2.isAbort = true ∧ IsPart unit move.1
    · -- The unit is told to end, and no calls of its conduct are left.
      have hother : unit ≠ move.1 := by
        obtain ⟨i, below, rfl⟩ := hpart.2
        simp
      rw [hcontinues.dropped unit hpart.1 hpart.2, List.prefix_nil] at hbegins
      rw [if_neg hother, hbegins]
      refine ⟨List.nil_prefix, fun hundisturbed => ?_⟩
      exact absurd hpart.2 (hundisturbed move (by simp) hpart.1)
    · have hkept := hcontinues.kept unit fun habort hbelow => hpart ⟨habort, hbelow⟩
      rw [← hkept]
      refine ⟨(List.prefix_append_right_inj _).mpr hbegins, fun hundisturbed => ?_⟩
      rw [List.append_assoc, hall (hundisturbed.mono (List.subset_cons_self _ _))]

/-- In a run to the end every unit makes calls of its conduct, none of them twice and none before those
that come first, and it makes all of them unless it is disturbed. -/
theorem callsOf_of_conducts {slots : Nat} {plan : Plan} {s : State} {schedule : List (Path × Move)}
    {c : Conduct} (hslots : 1 ≤ slots) (hplan : plan.Conducts c)
    (h : (start slots plan).follow schedule = some s) (hfinal : s.IsFinal) (unit : Path) :
    (start slots plan).callsOf unit schedule <+: c.calls unit ∧
      (Undisturbed unit schedule → (start slots plan).callsOf unit schedule = c.calls unit) := by
  obtain ⟨c', hs', hcalls⟩ := conducts_follow h hplan
  obtain ⟨result, hresult⟩ := ((sound_start slots plan).follow h).exists_result hslots hfinal
  rw [hresult] at hs'
  obtain rfl : c' = .silent (acceptedBy result) := hs'
  obtain ⟨hbegins, hall⟩ := hcalls unit
  refine ⟨hbegins, fun hundisturbed => ?_⟩
  rw [← hall hundisturbed]
  exact (List.append_nil _).symm

end State

end RecordCheck.Parallel
