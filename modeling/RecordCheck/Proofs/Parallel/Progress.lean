import RecordCheck.Proofs.Parallel.Step

/-!
# Slots and progress

Slots are never lost: those that are free and those that units hold are as many as at the beginning.
From this and from the shape that cancellation leaves behind it follows that a validation with at least
one slot can always go on until its outermost unit has come to a result: whoever waits, waits for parts
of its own or for somebody who holds a slot, and who holds a slot can go on without another.
-/

set_option autoImplicit false

namespace RecordCheck.Parallel

namespace Task

/-! ## Ended and cancelled units -/

/-- Whether a unit was cancelled. -/
def isCancelled : Task → Bool
  | leaving _ | halting _ | stopped => true
  | _ => false

theorem cancelAll_eq_map (parts : List Task) : cancelAll parts = parts.map cancel := by
  induction parts with
  | nil => rfl
  | cons p rest ih => simp [cancelAll, ih]

/-- Parts have all come to outcomes just when they have all ended with them. -/
theorem mapM_outcome?_eq_some_iff {parts : List Task} {outcomes : List Outcome} :
    parts.mapM outcome? = some outcomes ↔ parts = outcomes.map fun o => finished (.ok o) := by
  induction parts generalizing outcomes with
  | nil => cases outcomes <;> simp
  | cons p rest ih =>
    simp only [List.mapM_cons, Option.pure_def, Option.bind_eq_bind, Option.bind_eq_some_iff,
      Option.some.injEq, ih]
    constructor
    · rintro ⟨o, ho, os, rfl, rfl⟩
      unfold outcome? at ho
      split at ho
      · cases ho; rfl
      · cases ho
    · intro h
      cases outcomes with
      | nil => simp at h
      | cons o os =>
        simp only [List.map_cons, List.cons.injEq] at h
        exact ⟨o, by rw [h.1]; rfl, os, h.2, rfl⟩

/-- A unit with a fault has ended with it. -/
theorem fault?_eq_some_iff {t : Task} {cause : Fault} :
    t.fault? = some cause ↔ t = finished (.error cause) := by
  unfold fault?
  split
  · simp
  · simp_all

/-- A unit with a result has ended with it. -/
theorem result?_eq_some_iff {t : Task} {result : Attempt Outcome} :
    t.result? = some result ↔ t = finished result := by
  cases t <;> simp [result?]

/-- A unit that has ended and was not cancelled came to a result. -/
theorem exists_result_of_isEnded {t : Task} (hend : t.isEnded = true) (hlive : t.isCancelled = false) :
    ∃ result, t = finished result := by
  cases t with
  | finished result => exact ⟨result, rfl⟩
  | stopped => cases hlive
  | _ => cases hend

/-- Parts that have come to results have all come to outcomes, or one of them to a fault. -/
theorem exists_outcomes_or_fault {parts : List Task} (h : ∀ p ∈ parts, ∃ result, p = finished result) :
    (∃ outcomes, parts.mapM outcome? = some outcomes) ∨
      ∃ (i : Nat) (cause : Fault), parts[i]?.bind fault? = some cause := by
  induction parts with
  | nil => exact .inl ⟨[], rfl⟩
  | cons p rest ih =>
    obtain ⟨⟨result, rfl⟩, hrest⟩ := List.forall_mem_cons.mp h
    cases result with
    | error cause => exact .inr ⟨0, cause, rfl⟩
    | ok o =>
      obtain ⟨outcomes, hos⟩ | ⟨i, cause, hcause⟩ := ih hrest
      · refine .inl ⟨o :: outcomes, mapM_outcome?_eq_some_iff.mpr ?_⟩
        rw [mapM_outcome?_eq_some_iff.mp hos]
        rfl
      · exact .inr ⟨i + 1, cause, by simpa using hcause⟩

/-- A unit neither is cancelled by its own steps nor stops being so. -/
theorem Steps.isCancelled_eq {m : Move} {path : Path} {t t' : Task} (h : Steps m path t t') :
    t'.isCancelled = t.isCancelled := by
  cases h with
  | begin plan => cases plan <;> rfl
  | _ => rfl

/-! ## Slots -/

mutual

/-- The number of slots that a unit and its parts hold. -/
def held : Task → Nat
  | granted .. | holding .. => 1
  | leaving holds => holds.toNat
  | joining ps _ _ | unwinding _ ps _ | halting ps => heldIn ps
  | ready _ | queued .. | finished _ | stopped => 0

/-- The number of slots that units and their parts hold. -/
def heldIn : List Task → Nat
  | [] => 0
  | t :: rest => t.held + heldIn rest

end

@[simp] theorem heldIn_append (before after : List Task) :
    heldIn (before ++ after) = heldIn before + heldIn after := by
  induction before with
  | nil => simp [heldIn]
  | cons p rest ih => simp [heldIn, ih]; omega

theorem heldIn_eq_zero {parts : List Task} (h : ∀ p ∈ parts, p.held = 0) : heldIn parts = 0 := by
  induction parts with
  | nil => rfl
  | cons p rest ih =>
    obtain ⟨hp, hrest⟩ := List.forall_mem_cons.mp h
    simp [heldIn, hp, ih hrest]

/-- Units that have ended hold no slots. -/
theorem heldIn_of_all_isEnded {parts : List Task} (h : parts.all isEnded = true) :
    heldIn parts = 0 := by
  apply heldIn_eq_zero
  intro p hp
  have hend := List.all_eq_true.mp h p hp
  cases p <;> first | rfl | cases hend

/-- Cancellation takes no slots away. -/
theorem held_cancel (t : Task) : t.cancel.held = t.held := by
  have parts {ps : List Task} (ih : ∀ p ∈ ps, p.cancel.held = p.held) :
      heldIn (cancelAll ps) = heldIn ps := by
    induction ps with
    | nil => rfl
    | cons p rest hrest =>
      obtain ⟨hp, hothers⟩ := List.forall_mem_cons.mp ih
      simp [cancelAll, heldIn, hp, hrest hothers]
  induction t using Task.induction with
  | joining ps join recover ih => exact parts ih
  | unwinding cause ps recover ih => exact parts ih
  | halting ps ih => exact parts ih
  | _ => rfl

/-- Cancellation takes no slots away from parts. -/
theorem heldIn_cancelAll (parts : List Task) : heldIn (cancelAll parts) = heldIn parts :=
  held_cancel (.halting parts)

/-- A unit takes a slot when one is granted to it and gives one back when it releases it. -/
theorem Steps.free_add_held {m : Move} {path : Path} {t t' : Task} (h : Steps m path t t')
    {free free' : Nat} (hfree : m.slotsAfter free = some free') :
    free' + t'.held = free + t.held := by
  induction h with
  | begin plan =>
    cases hfree
    cases plan with
    | ends result => rfl
    | stay s next => rfl
    | fork children join recover =>
      have hheld : heldIn (children.map ready) = 0 := heldIn_eq_zero (by simp [held])
      simp [Task.begin, held, hheld]
  | grant s next =>
    cases free with
    | zero => cases hfree
    | succ n => cases hfree; simp [held]
  | enter s next => cases hfree; rfl
  | pass pause rest next => cases hfree; rfl
  | release next => cases hfree; simp [held]
  | giveUp => cases hfree; simp [held]
  | @merge parts outcomes join recover hparts =>
    cases hfree
    have hend : parts.all isEnded = true := by
      rw [mapM_outcome?_eq_some_iff.mp hparts]
      simp [isEnded]
    simp [held, heldIn_of_all_isEnded hend]
  | abort join recover hfault => cases hfree; simp [held, heldIn_cancelAll]
  | settle cause recover hparts => cases hfree; simp [held, heldIn_of_all_isEnded hparts]
  | leave => cases hfree; rfl
  | halt hparts => cases hfree; simp [held, heldIn_of_all_isEnded hparts]
  | inJoining before after join recover hpart ih =>
    have hheld := ih hfree
    simp only [held, heldIn_append, heldIn]
    omega
  | inUnwinding cause before after recover hpart ih =>
    have hheld := ih hfree
    simp only [held, heldIn_append, heldIn]
    omega
  | inHalting before after hpart ih =>
    have hheld := ih hfree
    simp only [held, heldIn_append, heldIn]
    omega

/-! ## What cancellation leaves behind -/

mutual

/-- No part of a unit that waits for its parts for the first time has been cancelled. -/
def Coherent : Task → Prop
  | joining ps _ _ => CoherentIn ps ∧ ∀ p ∈ ps, p.isCancelled = false
  | unwinding _ ps _ | halting ps => CoherentIn ps
  | _ => True

/-- Units of which each is coherent. -/
def CoherentIn : List Task → Prop
  | [] => True
  | t :: rest => t.Coherent ∧ CoherentIn rest

end

theorem coherentIn_iff {parts : List Task} : CoherentIn parts ↔ ∀ p ∈ parts, p.Coherent := by
  induction parts with
  | nil => simp [CoherentIn]
  | cons p rest ih => simp [CoherentIn, ih]

/-- Changing one of some coherent units into another leaves them coherent. -/
theorem coherentIn_replace {before after : List Task} {p p' : Task}
    (h : CoherentIn (before ++ p :: after)) (hp : p.Coherent → p'.Coherent) :
    CoherentIn (before ++ p' :: after) := by
  rw [coherentIn_iff] at h ⊢
  intro q hq
  rcases List.mem_append.mp hq with hbefore | hrest
  · exact h q (List.mem_append_left _ hbefore)
  · rcases List.mem_cons.mp hrest with rfl | hafter
    · exact hp (h p (by simp))
    · exact h q (by simp [hafter])

theorem Coherent.cancel {t : Task} (h : t.Coherent) : t.cancel.Coherent := by
  have parts {ps : List Task} (ih : ∀ p ∈ ps, p.Coherent → p.cancel.Coherent)
      (hps : CoherentIn ps) : CoherentIn (cancelAll ps) := by
    rw [coherentIn_iff] at hps
    rw [cancelAll_eq_map, coherentIn_iff]
    intro q hq
    obtain ⟨p, hp, rfl⟩ := List.mem_map.mp hq
    exact ih p hp (hps p hp)
  induction t using Task.induction with
  | joining ps join recover ih => exact parts ih h.1
  | unwinding cause ps recover ih => exact parts ih h
  | halting ps ih => exact parts ih h
  | _ => trivial

/-- Units stay coherent. -/
theorem Steps.coherent {m : Move} {path : Path} {t t' : Task} (h : Steps m path t t')
    (ht : t.Coherent) : t'.Coherent := by
  induction h with
  | begin plan =>
    cases plan with
    | fork children join recover =>
      exact ⟨coherentIn_iff.mpr (by simp [Coherent]), by simp [isCancelled]⟩
    | _ => trivial
  | @abort i parts cause join recover hfault => exact Coherent.cancel (t := .halting parts) ht.1
  | inJoining before after join recover hpart ih =>
    refine ⟨coherentIn_replace ht.1 ih, ?_⟩
    intro q hq
    rcases List.mem_append.mp hq with hbefore | hrest
    · exact ht.2 q (List.mem_append_left _ hbefore)
    · rcases List.mem_cons.mp hrest with rfl | hafter
      · rw [hpart.isCancelled_eq]
        exact ht.2 _ (by simp)
      · exact ht.2 q (by simp [hafter])
  | inUnwinding cause before after recover hpart ih => exact coherentIn_replace ht ih
  | inHalting before after hpart ih => exact coherentIn_replace ht ih
  | _ => trivial

/-! ## Progress -/

/-- A coherent unit that has not ended can make a move, slots left aside. -/
theorem exists_steps {t : Task} (ht : t.Coherent) (hend : t.isEnded = false) :
    ∃ m path t', Steps m path t t' := by
  induction t using Task.induction with
  | ready plan => exact ⟨_, _, _, .begin plan⟩
  | queued s next => exact ⟨_, _, _, .grant s next⟩
  | granted s next => exact ⟨_, _, _, .enter s next⟩
  | holding pauses next =>
    cases pauses with
    | nil => exact ⟨_, _, _, .release next⟩
    | cons pause rest => exact ⟨_, _, _, .pass pause rest next⟩
  | joining ps join recover ih =>
    by_cases hparts : ∃ p ∈ ps, p.isEnded = false
    · obtain ⟨p, hp, hopen⟩ := hparts
      obtain ⟨m, path, p', hstep⟩ := ih p hp (coherentIn_iff.mp ht.1 p hp) hopen
      obtain ⟨before, after, rfl⟩ := List.append_of_mem hp
      exact ⟨m, _, _, .inJoining before after join recover hstep⟩
    · have hresults : ∀ p ∈ ps, ∃ result, p = finished result := by
        intro p hp
        refine exists_result_of_isEnded ?_ (ht.2 p hp)
        cases hopen : p.isEnded with
        | true => rfl
        | false => exact absurd ⟨p, hp, hopen⟩ hparts
      obtain ⟨outcomes, hos⟩ | ⟨i, cause, hcause⟩ := exists_outcomes_or_fault hresults
      · exact ⟨_, _, _, .merge join recover hos⟩
      · exact ⟨_, _, _, .abort join recover hcause⟩
  | unwinding cause ps recover ih =>
    by_cases hparts : ps.all isEnded = true
    · exact ⟨_, _, _, .settle cause recover hparts⟩
    · obtain ⟨p, hp, hopen⟩ := List.all_eq_false.mp (Bool.eq_false_iff.mpr hparts)
      obtain ⟨m, path, p', hstep⟩ := ih p hp (coherentIn_iff.mp ht p hp) (Bool.eq_false_iff.mpr hopen)
      obtain ⟨before, after, rfl⟩ := List.append_of_mem hp
      exact ⟨m, _, _, .inUnwinding cause before after recover hstep⟩
  | leaving holds =>
    cases holds with
    | false => exact ⟨_, _, _, .leave⟩
    | true => exact ⟨_, _, _, .giveUp⟩
  | halting ps ih =>
    by_cases hparts : ps.all isEnded = true
    · exact ⟨_, _, _, .halt hparts⟩
    · obtain ⟨p, hp, hopen⟩ := List.all_eq_false.mp (Bool.eq_false_iff.mpr hparts)
      obtain ⟨m, path, p', hstep⟩ := ih p hp (coherentIn_iff.mp ht p hp) (Bool.eq_false_iff.mpr hopen)
      obtain ⟨before, after, rfl⟩ := List.append_of_mem hp
      exact ⟨m, _, _, .inHalting before after hstep⟩
  | finished result => cases hend
  | stopped => cases hend

theorem exists_of_heldIn_pos {parts : List Task} (h : 0 < heldIn parts) :
    ∃ p ∈ parts, 0 < p.held := by
  induction parts with
  | nil => cases h
  | cons p rest ih =>
    by_cases hp : 0 < p.held
    · exact ⟨p, by simp, hp⟩
    · have hrest : 0 < heldIn rest := by
        simp only [heldIn] at h
        omega
      obtain ⟨q, hq, hpos⟩ := ih hrest
      exact ⟨q, by simp [hq], hpos⟩

/-- Who holds a slot can make a move for which no other slot is needed. -/
theorem exists_steps_of_held {t : Task} (h : 0 < t.held) :
    ∃ m path t', Steps m path t t' ∧ m ≠ .grant := by
  induction t using Task.induction with
  | granted s next => exact ⟨_, _, _, .enter s next, nofun⟩
  | holding pauses next =>
    cases pauses with
    | nil => exact ⟨_, _, _, .release next, nofun⟩
    | cons pause rest => exact ⟨_, _, _, .pass pause rest next, nofun⟩
  | joining ps join recover ih =>
    obtain ⟨p, hp, hpos⟩ := exists_of_heldIn_pos h
    obtain ⟨m, path, p', hstep, hm⟩ := ih p hp hpos
    obtain ⟨before, after, rfl⟩ := List.append_of_mem hp
    exact ⟨m, _, _, .inJoining before after join recover hstep, hm⟩
  | unwinding cause ps recover ih =>
    obtain ⟨p, hp, hpos⟩ := exists_of_heldIn_pos h
    obtain ⟨m, path, p', hstep, hm⟩ := ih p hp hpos
    obtain ⟨before, after, rfl⟩ := List.append_of_mem hp
    exact ⟨m, _, _, .inUnwinding cause before after recover hstep, hm⟩
  | leaving holds =>
    cases holds with
    | false => cases h
    | true => exact ⟨_, _, _, .giveUp, nofun⟩
  | halting ps ih =>
    obtain ⟨p, hp, hpos⟩ := exists_of_heldIn_pos h
    obtain ⟨m, path, p', hstep, hm⟩ := ih p hp hpos
    obtain ⟨before, after, rfl⟩ := List.append_of_mem hp
    exact ⟨m, _, _, .inHalting before after hstep, hm⟩
  | _ => cases h

end Task

/-! ## Validations under way -/

/-- A move for which no slot is needed can be made however many are free. -/
theorem Move.exists_slotsAfter {m : Move} {free : Nat} (h : m ≠ .grant ∨ 0 < free) :
    ∃ free', m.slotsAfter free = some free' := by
  cases m with
  | grant =>
    cases free with
    | zero => rcases h with h | h <;> simp at h
    | succ n => exact ⟨n, rfl⟩
  | _ => exact ⟨_, rfl⟩

namespace State

/-- What holds throughout a validation with a number of slots. -/
structure Sound (slots : Nat) (s : State) : Prop where
  slots_eq : s.free + s.root.held = slots
  coherent : s.root.Coherent
  live : s.root.isCancelled = false

theorem sound_start (slots : Nat) (plan : Plan) : (start slots plan).Sound slots :=
  ⟨rfl, trivial, rfl⟩

theorem Sound.step {slots : Nat} {s s' : State} {path : Path} {m : Move} (hs : s.Sound slots)
    (h : s.step path m = some s') : s'.Sound slots := by
  obtain ⟨hfree, hroot⟩ := step_eq_some_iff.mp h
  refine ⟨?_, hroot.coherent hs.coherent, ?_⟩
  · rw [hroot.free_add_held hfree, hs.slots_eq]
  · rw [hroot.isCancelled_eq, hs.live]

theorem Sound.follow {slots : Nat} {s s' : State} {schedule : List (Path × Move)}
    (hs : s.Sound slots) (h : s.follow schedule = some s') : s'.Sound slots :=
  follow_induction (fun hs h => hs.step h) hs h

/-- A validation with slots can go on until its outermost unit has ended. -/
theorem Sound.exists_step {slots : Nat} {s : State} (hs : s.Sound slots) (hslots : 1 ≤ slots)
    (hend : s.root.isEnded = false) : ∃ path m s', s.step path m = some s' := by
  have enabled {m : Move} {path : Path} {root : Task} (hstep : Task.Steps m path s.root root)
      (hm : m ≠ .grant ∨ 0 < s.free) : ∃ path m s', s.step path m = some s' := by
    obtain ⟨free, hfree⟩ := Move.exists_slotsAfter hm
    exact ⟨path, m, ⟨free, root⟩, step_eq_some_iff.mpr ⟨hfree, hstep⟩⟩
  by_cases hfree : 0 < s.free
  · obtain ⟨m, path, root, hstep⟩ := Task.exists_steps hs.coherent hend
    exact enabled hstep (.inr hfree)
  · -- All slots are taken, so somebody holds one and can go on with it.
    have hheld : 0 < s.root.held := by
      have := hs.slots_eq
      omega
    obtain ⟨m, path, root, hstep, hm⟩ := Task.exists_steps_of_held hheld
    exact enabled hstep (.inl hm)

/-- Whether no unit of a validation can make a move. -/
def IsFinal (s : State) : Prop := ∀ path m, s.step path m = none

/-- A validation of which the outermost unit has ended is over. -/
theorem isFinal_of_isEnded {s : State} (h : s.root.isEnded = true) : s.IsFinal := by
  intro path m
  rw [Option.eq_none_iff_forall_ne_some]
  intro s' hstep
  have hroot := (step_eq_some_iff.mp hstep).2
  generalize s.root = root at h hroot
  generalize s'.root = root' at hroot
  cases hroot <;> cases h

theorem result?_eq_some_iff {s : State} {result : Attempt Outcome} :
    s.result? = some result ↔ s.root = .finished result := Task.result?_eq_some_iff

/-- A validation that has a result is over. -/
theorem isFinal_of_result? {s : State} {result : Attempt Outcome} (h : s.result? = some result) :
    s.IsFinal := by
  refine isFinal_of_isEnded ?_
  rw [result?_eq_some_iff.mp h]
  rfl

/-- A validation in which no unit can make a move has come to a result. -/
theorem Sound.exists_result {slots : Nat} {s : State} (hs : s.Sound slots) (hslots : 1 ≤ slots)
    (hfinal : s.IsFinal) : ∃ result, s.root = .finished result := by
  refine Task.exists_result_of_isEnded ?_ hs.live
  cases hopen : s.root.isEnded with
  | true => rfl
  | false =>
    obtain ⟨path, m, s', hstep⟩ := hs.exists_step hslots hopen
    rw [hfinal path m] at hstep
    cases hstep

end State

end RecordCheck.Parallel
