import Mathlib.Algebra.Order.Ring.Rat
import Mathlib.Data.List.Perm.Subperm
import RecordCheck.Proofs.Parallel.Determinacy
import RecordCheck.Proofs.Parallel.Slots
import RecordCheck.Proofs.Parallel.Timeline

/-!
# Calls on the clock

The timeline notes when each call of a hook begins and ends.  A call that has begun and not ended belongs
to a unit that is in a slot, no unit has two of them, and the clock never goes back.  So at no time more
calls run than there are slots: a call that runs at a time which is over was still under way when the
clock moved on.
-/

set_option autoImplicit false

namespace RecordCheck.Parallel

/-- Whether a call has not come to its end. -/
def CallRecord.isOpen (c : CallRecord) : Bool := c.stop.isNone

namespace Timeline

/-- What holds throughout the timeline of a validation with a number of slots. -/
structure Clocked (slots : Nat) (t : Timeline) : Prop where
  accounted : ∃ tenants, t.state.Accounts slots tenants
  started : ∀ c ∈ t.calls, c.start ≤ t.now
  stopped : ∀ c ∈ t.calls, ∀ stop ∈ c.stop, stop ≤ t.now
  inside : ∀ c ∈ t.calls, c.isOpen = true →
    ∃ p stay, t.state.root.at? c.unit = some p ∧ p.HasSlotFor (some stay)
  distinct : ((t.calls.filter (·.isOpen)).map (·.unit)).Nodup
  past : ∀ time < t.now, t.calls.countP (·.runsAt time) ≤ slots
  ordered : t.sleepers.Pairwise fun s s' => s.1 ≤ s'.1
  ahead : ∀ s ∈ t.sleepers, t.now ≤ s.1

theorem clocked_start (slots : Nat) (plan : Plan) : (start slots plan).Clocked slots where
  accounted := ⟨[], State.accounts_start slots plan⟩
  started := by simp [start]
  stopped := by simp [start]
  inside := by simp [start]
  distinct := by simp [start]
  past := by simp [start]
  ordered := .nil
  ahead := by simp [start]

namespace Clocked

variable {slots : Nat} {t t' : Timeline}

/-- What is noted down otherwise does not matter. -/
theorem of_eq (h : t.Clocked slots) (hstate : t'.state = t.state) (hcalls : t'.calls = t.calls)
    (hsleepers : t'.sleepers = t.sleepers) (hnow : t'.now = t.now) : t'.Clocked slots := by
  cases t
  cases t'
  cases hstate
  cases hcalls
  cases hsleepers
  cases hnow
  exact ⟨h.accounted, h.started, h.stopped, h.inside, h.distinct, h.past, h.ordered, h.ahead⟩

/-- What is done for each member of a list does no harm if it does none for each. -/
theorem foldl {α : Type} {f : Timeline → α → Timeline}
    (hf : ∀ t a, Clocked slots t → Clocked slots (f t a)) (l : List α) (h : t.Clocked slots) :
    (l.foldl f t).Clocked slots := by
  induction l generalizing t with
  | nil => exact h
  | cons a rest ih => exact ih (hf t a h)

theorem later (h : t.Clocked slots) (e : Event) : (t.later e).Clocked slots := h.of_eq rfl rfl rfl rfl

theorem atOnce (h : t.Clocked slots) (unit : Path) : (t.atOnce unit).Clocked slots :=
  h.of_eq rfl rfl rfl rfl

theorem leaveLine (h : t.Clocked slots) (unit : Path) : (t.leaveLine unit).Clocked slots :=
  h.of_eq rfl rfl rfl rfl

theorem setGathering (h : t.Clocked slots) (g : Gathering) : (t.setGathering g).Clocked slots :=
  h.of_eq rfl rfl rfl rfl

/-! ## Open calls -/

/-- There are no more open calls than slots. -/
theorem countP_isOpen_le (h : t.Clocked slots) : t.calls.countP (·.isOpen) ≤ slots := by
  obtain ⟨tenants, haccounts⟩ := h.accounted
  have hsubset : (t.calls.filter (·.isOpen)).map (·.unit) ⊆ tenants.units := by
    intro unit hunit
    obtain ⟨c, hc, rfl⟩ := List.mem_map.mp hunit
    obtain ⟨hmem, hopen⟩ := List.mem_filter.mp hc
    obtain ⟨p, stay, hp, hslot⟩ := h.inside c hmem hopen
    exact haccounts.complete c.unit p hp hslot.hasSlot
  have hlength := (h.distinct.subperm hsubset).length_le
  rw [List.length_map, ← List.countP_eq_length_filter, Tenants.units, List.length_map] at hlength
  have htotal := haccounts.total
  omega

/-- A call that runs now or later has not come to its end. -/
theorem isOpen_of_runsAt (h : t.Clocked slots) {c : CallRecord} (hc : c ∈ t.calls) {time : Rat}
    (htime : t.now ≤ time) (hruns : c.runsAt time = true) : c.isOpen = true := by
  unfold CallRecord.isOpen
  cases hstop : c.stop with
  | none => rfl
  | some stop =>
    have hstopped : stop ≤ t.now := h.stopped c hc stop hstop
    simp only [CallRecord.runsAt, hstop, Option.all_some, Bool.and_eq_true, decide_eq_true_eq] at hruns
    exact absurd (lt_of_lt_of_le hruns.2 (hstopped.trans htime)) (lt_irrefl time)

/-- No more calls than slots run now or later. -/
theorem countP_runsAt_le (h : t.Clocked slots) (time : Rat) : t.calls.countP (·.runsAt time) ≤ slots := by
  by_cases htime : time < t.now
  · exact h.past time htime
  · have hopen : t.calls.countP (·.runsAt time) ≤ t.calls.countP (·.isOpen) :=
      List.countP_mono_left fun c hc => h.isOpen_of_runsAt hc (not_lt.mp htime)
    exact hopen.trans h.countP_isOpen_le

/-! ## Moves -/

theorem calls_moved (t : Timeline) (unit : Path) (m : Move) : (t.moved unit m).calls = t.calls := by
  unfold Timeline.moved
  split <;> rfl

theorem moved (h : t.Clocked slots) {unit : Path} {m : Move}
    (hkept : m ≠ .release ∨ ∀ c ∈ t.calls, c.isOpen = true → c.unit ≠ unit) :
    (t.moved unit m).Clocked slots := by
  unfold Timeline.moved
  split
  · rename_i state hstep
    obtain ⟨tenants, haccounts⟩ := h.accounted
    refine ⟨⟨_, haccounts.step hstep⟩, h.started, h.stopped, ?_, h.distinct, h.past, h.ordered, h.ahead⟩
    intro c hc hopen
    obtain ⟨p, stay, hp, hslot⟩ := h.inside c hc hopen
    have hroot := (State.step_eq_some_iff.mp hstep).2
    obtain ⟨p', hp', hslot'⟩ :=
      hroot.hasSlotFor_some_after (hkept.imp_right fun hother => hother c hc hopen) hp hslot
    exact ⟨p', stay, hp', hslot'⟩
  · exact h

/-- No unit leaves its slot by another move than that of giving it back. -/
theorem makes (h : t.Clocked slots) (unit : Path) (m : Move) (hm : m ≠ .release) :
    (t.moved unit m).Clocked slots := h.moved (.inl hm)

theorem handOver (h : t.Clocked slots) : t.handOver.Clocked slots := by
  unfold Timeline.handOver
  split
  · exact h
  · split
    · exact (h.makes _ .grant nofun).later _
    · exact h

/-- The calls that are open after those of a unit have come to their end are those of other units. -/
theorem openCalls_stopCalls (t : Timeline) (unit : Path) :
    (t.stopCalls unit).calls.filter (·.isOpen) = t.calls.filter fun c => c.unit != unit && c.isOpen := by
  unfold Timeline.stopCalls
  induction t.calls with
  | nil => rfl
  | cons c rest ih =>
    simp only [List.map_cons, List.filter_cons, ih]
    by_cases hunit : c.unit = unit
    · cases hstop : c.stop <;> simp [CallRecord.isOpen, hunit, hstop]
    · simp [hunit]

/-- A call after those of a unit have come to their end: one that was open has been stopped now. -/
theorem mem_stopCalls {unit : Path} {c : CallRecord} (hc : c ∈ (t.stopCalls unit).calls) :
    (c ∈ t.calls ∧ (c.isOpen = true → c.unit ≠ unit)) ∨ ∃ d ∈ t.calls, c = { d with stop := some t.now } := by
  obtain ⟨d, hd, rfl⟩ := List.mem_map.mp hc
  split
  · exact .inr ⟨d, hd, rfl⟩
  · rename_i hother
    exact .inl ⟨hd, fun hopen hunit => hother ⟨hunit, hopen⟩⟩

theorem stopCalls (h : t.Clocked slots) (unit : Path) : (t.stopCalls unit).Clocked slots where
  accounted := h.accounted
  started c hc := by
    rcases mem_stopCalls hc with ⟨hmem, -⟩ | ⟨d, hd, rfl⟩
    · exact h.started c hmem
    · exact h.started d hd
  stopped c hc stop hstop := by
    rcases mem_stopCalls hc with ⟨hmem, -⟩ | ⟨d, hd, rfl⟩
    · exact h.stopped c hmem stop hstop
    · cases hstop
      exact le_refl _
  inside c hc hopen := by
    rcases mem_stopCalls hc with ⟨hmem, -⟩ | ⟨d, hd, rfl⟩
    · exact h.inside c hmem hopen
    · cases hopen
  distinct := by
    refine List.Nodup.sublist ?_ h.distinct
    rw [openCalls_stopCalls, ← List.filter_filter]
    exact List.filter_sublist.map _
  past time htime := by
    refine le_trans (le_of_eq ?_) (h.past time htime)
    rw [Timeline.stopCalls, List.countP_map]
    refine List.countP_congr fun c hc => ?_
    dsimp only [Function.comp_apply]
    split
    · rename_i hc
      have hlater : time < t.now := htime
      simp [CallRecord.runsAt, hlater, Option.isNone_iff_eq_none.mp hc.2]
    · rfl
  ordered := h.ordered
  ahead := h.ahead

theorem giveBack (h : t.Clocked slots) (unit : Path) : (t.giveBack unit).Clocked slots := by
  have hothers : ∀ c ∈ (t.stopCalls unit).calls, c.isOpen = true → c.unit ≠ unit := by
    intro c hc hopen
    rcases mem_stopCalls hc with ⟨-, hother⟩ | ⟨d, hd, rfl⟩
    · exact hother hopen
    · cases hopen
  exact ((h.stopCalls unit).moved (.inr hothers)).handOver

/-! ## Sleepers -/

/-- A sleeper gets in line at the place of its time. -/
theorem mem_insertSleeper_iff {time : Rat} {unit : Path} {sleepers : List (Rat × Path)}
    {s : Rat × Path} : s ∈ insertSleeper time unit sleepers ↔ s = (time, unit) ∨ s ∈ sleepers := by
  induction sleepers with
  | nil => simp [insertSleeper]
  | cons first rest ih =>
    rw [insertSleeper]
    split
    · simp
    · rw [List.mem_cons, ih, List.mem_cons]
      tauto

theorem ordered_insertSleeper {time : Rat} {unit : Path} {sleepers : List (Rat × Path)}
    (h : sleepers.Pairwise fun s s' => s.1 ≤ s'.1) :
    (insertSleeper time unit sleepers).Pairwise fun s s' => s.1 ≤ s'.1 := by
  induction sleepers with
  | nil => simp [insertSleeper]
  | cons first rest ih =>
    obtain ⟨hfirst, hrest⟩ := List.pairwise_cons.mp h
    rw [insertSleeper]
    split
    · rename_i hbefore
      refine List.pairwise_cons.mpr ⟨fun s hs => ?_, h⟩
      rcases List.mem_cons.mp hs with rfl | hs
      · exact hbefore.le
      · exact hbefore.le.trans (hfirst s hs)
    · rename_i hafter
      refine List.pairwise_cons.mpr ⟨fun s hs => ?_, ih hrest⟩
      rcases mem_insertSleeper_iff.mp hs with rfl | hs
      · exact not_lt.mp hafter
      · exact hfirst s hs

/-- A unit falls asleep until some later time. -/
theorem fallAsleep (h : t.Clocked slots) {time : Rat} (htime : t.now ≤ time) (unit : Path) :
    { t with sleepers := insertSleeper time unit t.sleepers }.Clocked slots where
  accounted := h.accounted
  started := h.started
  stopped := h.stopped
  inside := h.inside
  distinct := h.distinct
  past := h.past
  ordered := ordered_insertSleeper h.ordered
  ahead s hs := by
    rcases mem_insertSleeper_iff.mp hs with rfl | hs
    · exact htime
    · exact h.ahead s hs

/-- Some that sleep are woken up. -/
theorem wake (h : t.Clocked slots) {agenda : List Event} {sleepers : List (Rat × Path)}
    (hsleepers : sleepers.Sublist t.sleepers) : { t with sleepers, agenda }.Clocked slots where
  accounted := h.accounted
  started := h.started
  stopped := h.stopped
  inside := h.inside
  distinct := h.distinct
  past := h.past
  ordered := h.ordered.sublist hsleepers
  ahead s hs := h.ahead s (hsleepers.subset hs)

theorem continueStay (h : t.Clocked slots) (unit : Path) (pauses : List Pause) :
    (t.continueStay unit pauses).Clocked slots := by
  cases pauses with
  | nil => exact (h.giveBack unit).atOnce unit
  | cons p rest =>
    rw [Timeline.continueStay]
    split
    · exact h.later _
    · rename_i hpause
      refine h.fallAsleep ?_ unit
      have hlong : 0 ≤ p.duration := (not_le.mp hpause).le
      exact le_add_of_nonneg_right hlong

/-! ## Entering a slot -/

/-- A unit to which a slot was handed has no open call. -/
theorem ne_of_granted (h : t.Clocked slots) {unit : Path} {stay : Stay} {next : Plan}
    (hunit : t.unitAt unit = some (.granted stay next)) :
    ∀ c ∈ t.calls, c.isOpen = true → c.unit ≠ unit := by
  rintro c hc hopen rfl
  obtain ⟨p, entered, hp, hslot⟩ := h.inside c hc hopen
  rw [Timeline.unitAt, hp] at hunit
  cases hunit
  exact hslot

/-- The call of a unit that is in a slot and has no open call is noted down. -/
theorem noteCall (h : t.Clocked slots) {unit : Path} (call : HookCall) {p : Task} {stay : Stay}
    (hunit : t.state.root.at? unit = some p) (hslot : p.HasSlotFor (some stay))
    (hother : ∀ c ∈ t.calls, c.isOpen = true → c.unit ≠ unit) :
    { t with calls := t.calls ++ [CallRecord.mk unit call t.now none] }.Clocked slots where
  accounted := h.accounted
  started c hc := by
    rcases List.mem_append.mp hc with hc | hc
    · exact h.started c hc
    · obtain rfl := List.mem_singleton.mp hc
      exact le_refl _
  stopped c hc stop hstop := by
    rcases List.mem_append.mp hc with hc | hc
    · exact h.stopped c hc stop hstop
    · obtain rfl := List.mem_singleton.mp hc
      cases hstop
  inside c hc hopen := by
    rcases List.mem_append.mp hc with hc | hc
    · exact h.inside c hc hopen
    · obtain rfl := List.mem_singleton.mp hc
      exact ⟨p, stay, hunit, hslot⟩
  distinct := by
    rw [List.filter_append, List.map_append, List.nodup_append]
    refine ⟨h.distinct, by simp [CallRecord.isOpen], ?_⟩
    intro other hmem found hfound
    obtain ⟨c, hc, rfl⟩ := List.mem_map.mp hmem
    obtain ⟨hcall, hopen⟩ := List.mem_filter.mp hc
    obtain rfl : found = unit := by simpa [CallRecord.isOpen] using hfound
    exact hother c hcall hopen
  past time htime := by
    have hlater : ¬ t.now ≤ time := not_le.mpr htime
    simpa [CallRecord.runsAt, hlater] using h.past time htime
  ordered := h.ordered
  ahead := h.ahead

/-- Handing over a slot to somebody leaves a unit alone to which one was handed before. -/
theorem unitAt_handOver {unit : Path} {stay : Stay} {next : Plan}
    (hunit : t.unitAt unit = some (.granted stay next)) :
    t.handOver.unitAt unit = some (.granted stay next) := by
  unfold Timeline.handOver
  split
  · exact hunit
  · split
    · rename_i other hfound
      have hqueued : t.isQueued other = true := List.find?_some hfound
      have hother : unit ≠ other := by
        rintro rfl
        rw [isQueued, hunit] at hqueued
        cases hqueued
      rw [Timeline.unitAt, Timeline.later, Timeline.moved]
      split
      · rename_i state hstep
        have hroot := (State.step_eq_some_iff.mp hstep).2
        have hbeside := hroot.not_prefix_of_hasSlot hother (.inl hunit) rfl
        rcases hroot.at?_after hbeside hunit with hsame | ⟨habort, -⟩ | hend
        · exact hsame
        · cases habort
        · cases hend
      · exact hunit
    · exact hunit

/-- A unit enters the slot that was handed to it. -/
theorem unitAt_moved_enter {unit : Path} {stay : Stay} {next : Plan}
    (hunit : t.unitAt unit = some (.granted stay next)) :
    (t.moved unit .enter).unitAt unit = some (.holding stay.pauses next) := by
  obtain ⟨root, hroot⟩ := Task.Steps.exists_around hunit (.enter stay next)
  rw [List.append_nil] at hroot
  have hfree : Move.enter.slotsAfter t.state.free = some t.state.free :=
    Move.slotsAfter_of_ne (m := .enter) nofun nofun _
  have hstep : t.state.step unit .enter = some ⟨t.state.free, root⟩ :=
    State.step_eq_some_iff.mpr ⟨hfree, hroot⟩
  rw [Timeline.unitAt, Timeline.moved, hstep]
  obtain ⟨p, p', hp, hp', hmove⟩ := hroot.itself
  rw [Timeline.unitAt, hp] at hunit
  cases hunit
  cases hmove with
  | enter stay next => exact hp'

theorem enter (h : t.Clocked slots) {unit : Path} {stay : Stay} {next : Plan}
    (hunit : t.unitAt unit = some (.granted stay next)) : (t.enter unit stay).Clocked slots := by
  have hhanded : (t.leaveLine unit).handOver.Clocked slots := (h.leaveLine unit).handOver
  have hgranted := unitAt_handOver (t := t.leaveLine unit) hunit
  have hentered := hhanded.makes unit .enter nofun
  have hinside := unitAt_moved_enter hgranted
  rw [Timeline.enter]
  refine continueStay ?_ unit stay.pauses
  cases stay.call with
  | none => exact hentered
  | some call =>
    have hslot : (Task.holding stay.pauses next).HasSlotFor (some stay) := trivial
    refine hentered.noteCall call hinside hslot ?_
    rw [calls_moved]
    exact hhanded.ne_of_granted hgranted

/-! ## Parts -/

theorem announce (h : t.Clocked slots) (unit : Path) : (t.announce unit).Clocked slots := by
  unfold Timeline.announce
  split
  · exact h
  · dsimp only
    split
    · exact h.later _
    · exact h

theorem startParts (h : t.Clocked slots) (unit : Path) (count : Nat) :
    (t.startParts unit count).Clocked slots := by
  unfold Timeline.startParts
  split
  · exact (h.makes unit .merge nofun).atOnce unit
  · exact foldl (fun t i ht => ht.later _) _ (h.setGathering _)

theorem gatherAgain (h : t.Clocked slots) (unit : Path) (parts : List Task) :
    (t.gatherAgain unit parts).Clocked slots := by
  unfold Timeline.gatherAgain
  exact foldl (fun t i ht => ht.later _) _ (h.setGathering _)

theorem gathered (h : t.Clocked slots) (g : Gathering) : (t.gathered g).Clocked slots :=
  (h.setGathering _).later _

theorem hear (h : t.Clocked slots) (g : Gathering) (part : Nat) : (t.hear g part).Clocked slots := by
  unfold Timeline.hear
  dsimp only
  -- It only takes note of the part, and perhaps of going on later.
  repeat' split
  all_goals first | exact h.gathered _ | exact h.setGathering _

theorem interrupt (h : t.Clocked slots) (unit : Path) : (t.interrupt unit).Clocked slots := by
  unfold Timeline.interrupt
  split
  · exact (h.leaveLine unit).later _
  · split
    · exact h.wake List.filter_sublist
    · exact h

theorem abort (h : t.Clocked slots) (unit : Path) (parts : List Task) (failed : Nat) :
    (t.abort unit parts failed).Clocked slots := by
  have hinterrupted := foldl (fun _ unit ht => ht.interrupt unit) (interruptedIn unit 0 parts) h
  exact (hinterrupted.makes unit (.abort failed) nofun).gatherAgain unit _

/-! ## Events -/

theorem conclude (h : t.Clocked slots) (unit : Path) (m : Move) (hm : m ≠ .release) :
    (t.conclude unit m).Clocked slots := (h.makes unit m hm).announce unit

theorem beginPlan (h : t.Clocked slots) (unit : Path) (plan : Plan) :
    (t.beginPlan unit plan).Clocked slots := by
  have hbegun : (t.moved unit .begin).Clocked slots := h.makes unit .begin nofun
  cases plan with
  | ends result => exact hbegun.announce unit
  | stay s next =>
    unfold Timeline.beginPlan
    dsimp only
    split
    · exact (hbegun.makes unit .grant nofun).atOnce unit
    · exact hbegun.of_eq rfl rfl rfl rfl
  | fork children join recover => exact hbegun.startParts unit _

theorem depart (h : t.Clocked slots) (unit : Path) (holds : Bool) :
    (t.depart unit holds).Clocked slots := by
  unfold Timeline.depart
  cases holds with
  | true => exact ((h.leaveLine unit).giveBack unit).conclude unit .leave nofun
  | false => exact (h.leaveLine unit).conclude unit .leave nofun

/-- A unit goes on. -/
theorem goOn (h : t.Clocked slots) (unit : Path) : (t.goOn unit).Clocked slots := by
  unfold Timeline.goOn
  split
  · exact h.beginPlan unit _
  · rename_i hunit
    exact h.enter hunit
  · exact (h.makes unit .pass nofun).continueStay unit _
  · exact h.depart unit _
  · exact h.abort unit _ _
  · exact (h.makes unit .merge nofun).atOnce unit
  · exact h.conclude unit .settle nofun
  · exact h.gatherAgain unit _
  · exact h.conclude unit .halt nofun
  · exact h

theorem happen (h : t.Clocked slots) (e : Event) : (t.happen e).Clocked slots := by
  cases e with
  | goOn unit => exact h.goOn unit
  | wake unit => exact h.later _
  | ended unit part again =>
    unfold Timeline.happen
    dsimp only
    split
    · split
      · exact h.hear _ part
      · exact h
    · exact h

/-- The clock moves on to the time of the first sleeper.  What runs until then are open calls. -/
theorem advanceClock (h : t.Clocked slots) (hclock : t.advanceClock = some t') : t'.Clocked slots := by
  unfold Timeline.advanceClock at hclock
  split at hclock
  · cases hclock
  · rename_i time unit rest hsleepers
    cases hclock
    have hlater : t.now ≤ time := h.ahead (time, unit) (by simp [hsleepers])
    refine ⟨h.accounted, ?_, ?_, h.inside, h.distinct, ?_, ?_, ?_⟩
    · intro c hc
      exact (h.started c hc).trans hlater
    · intro c hc stop hstop
      exact (h.stopped c hc stop hstop).trans hlater
    · intro earlier _
      exact h.countP_runsAt_le earlier
    · exact h.ordered.sublist (List.drop_sublist _ _)
    · intro s hs
      have hmem : s ∈ (time, unit) :: rest := by
        rw [← hsleepers]
        exact List.mem_of_mem_drop hs
      have hordered := h.ordered
      rw [hsleepers, List.pairwise_cons] at hordered
      rcases List.mem_cons.mp hmem with rfl | hmem
      · exact le_refl _
      · exact hordered.1 s hmem

theorem next (h : t.Clocked slots) (hnext : t.next = some t') : t'.Clocked slots := by
  unfold Timeline.next at hnext
  split at hnext
  · rename_i e rest hagenda
    cases hnext
    have hrest : { t with agenda := rest }.Clocked slots := h.of_eq rfl rfl rfl rfl
    exact hrest.happen e
  · exact h.advanceClock hnext

/-! ## Runs -/

theorem after (h : t.Clocked slots) (n : Nat) : (t.after n).Clocked slots := by
  induction n generalizing t with
  | zero => exact h
  | succ n ih =>
    unfold Timeline.after
    split
    · exact h
    · split
      · rename_i next hnext
        exact ih (h.next hnext)
      · exact h

theorem run (h : t.Clocked slots) (joins : Nat) : (run joins t).Clocked slots := by
  induction joins generalizing t with
  | zero => exact h.after _
  | succ n ih => exact ih (h.after _)

end Clocked

/-- Throughout the timeline of a plan the slots and the clock are kept. -/
theorem clocked_ofPlan (slots : Nat) (plan : Plan) : (ofPlan slots plan).Clocked slots :=
  (clocked_start slots plan).run _

end Timeline

/-- The peak is no greater than what bounds the number of calls at every time. -/
theorem peakOf_le {calls : List CallRecord} {slots : Nat}
    (h : ∀ time, calls.countP (·.runsAt time) ≤ slots) : peakOf calls ≤ slots := by
  unfold peakOf
  refine List.foldlRecOn (motive := (· ≤ slots)) _ _ (Nat.zero_le slots) fun peak hpeak count hcount => ?_
  obtain ⟨c, -, rfl⟩ := List.mem_map.mp hcount
  rw [← List.countP_eq_length_filter]
  exact max_le hpeak (h c.start)

/-- At every moment of a validation, in whatever order moves are made, a slot that is not free is that of
one unit: it was handed to the unit, which has not entered it yet, or the unit validates something in it or
waits for its hook.  No unit has two, every unit that is in a slot is accounted for, and none that stands in
line or waits for its parts is.  On the clock no more calls of hooks run at a time than there are slots.

The slots that are held are those of the units that validate or wait for their hooks.  Those of arriving units
are set aside for waiters whose request has been granted but has not returned yet; they are neither free nor
held. -/
theorem slots_planRecord (registry : Custom.Registry) (standard : Value) (context : Context)
    (schema : Schema) (value : Value) (slots : Nat) :
    (∀ schedule s,
      (State.start slots (planRecord registry standard context schema value)).follow schedule = some s →
      let tenants := (State.start slots (planRecord registry standard context schema value)).tenantsAlong
        [] schedule
      s.free + tenants.arriving + tenants.validating + tenants.calling = slots ∧
        tenants.validating + tenants.calling ≤ slots ∧ tenants.units.Nodup ∧
        (∀ x ∈ tenants, ∃ t, s.root.at? x.1 = some t ∧ t.HasSlotFor x.2) ∧
        ∀ unit t, s.root.at? unit = some t →
          (t.hasSlot = true → unit ∈ tenants.units) ∧ (t.isWaiting = true → unit ∉ tenants.units)) ∧
    (validate registry (some slots) standard context schema value).trace.peak ≤ slots := by
  constructor
  · intro schedule s h tenants
    have haccounts : s.Accounts slots tenants := (State.accounts_start slots _).follow h
    have hkinds := tenants.arriving_add_validating_add_calling
    have htotal := haccounts.total
    refine ⟨by omega, by omega, haccounts.distinct, haccounts.fits, fun unit t ht => ⟨?_, ?_⟩⟩
    · exact haccounts.complete unit t ht
    · intro hwaiting
      exact haccounts.not_mem_units ht (Task.hasSlot_of_isWaiting hwaiting)
  · exact peakOf_le (Timeline.clocked_ofPlan slots _).countP_runsAt_le

namespace Sample

/-- The moves by which the first text comes to wait for its hook, and the second one to stand in line. -/
def oneInside : List (Path × Move) :=
  [([], .begin), ([0], .begin), ([1], .begin), ([0], .grant), ([0], .enter), ([0], .release),
    ([0], .begin), ([0], .grant), ([0], .enter)]

end Sample

/-- While the first of two texts waits for its hook, it has the only slot. -/
theorem slots_planRecord_sample :
    ∃ s, (State.start 1 (Sample.plan Sample.rejection)).follow Sample.oneInside = some s ∧ s.free = 0 ∧
      ((State.start 1 (Sample.plan Sample.rejection)).tenantsAlong [] Sample.oneInside).calling = 1 ∧
      [1] ∉ ((State.start 1 (Sample.plan Sample.rejection)).tenantsAlong [] Sample.oneInside).units := by
  have hwaits : ((State.start 1 (Sample.plan Sample.rejection)).follow Sample.oneInside).any
      (fun s => (s.root.at? [1]).any (·.isWaiting)) = true := by decide +kernel
  have hcalling : ((State.start 1 (Sample.plan Sample.rejection)).tenantsAlong []
      Sample.oneInside).calling = 1 := by decide +kernel
  obtain ⟨s, h, hwaiting⟩ := (Option.any_eq_true _ _).mp hwaits
  obtain ⟨t, ht, hwaiting⟩ := (Option.any_eq_true _ _).mp hwaiting
  obtain ⟨htotal, -, -, -, hunits⟩ := (slots_planRecord (.empty "none") (.int 100) Sample.context
    (Sample.schema Sample.rejection) Sample.record 1).1 Sample.oneInside s h
  refine ⟨s, h, ?_, hcalling, (hunits [1] t ht).2 hwaiting⟩
  rw [Sample.plan] at hcalling
  omega

end RecordCheck.Parallel
