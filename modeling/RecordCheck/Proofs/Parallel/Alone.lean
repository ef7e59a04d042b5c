import RecordCheck.Proofs.Parallel.Conduct
import RecordCheck.Proofs.Parallel.Determinacy
import RecordCheck.Proofs.Parallel.Slots

/-!
# Units on their own

Every unit of a validation is the beginning of a run of its own plan: as long as it has not been told to
end, it is where it could be if nobody else were under way.  Others decide when it makes its moves and
whether it is told to end, but not what comes of them.  So the result of a unit is one that its plan comes
to alone, whatever its siblings do.

In a run to the end every unit of a plan comes to such a result, unless a unit around it is aborted, and a
fork joins the outcomes that its parts have come to, or fails with the fault of one of them.
-/

set_option autoImplicit false

namespace RecordCheck.Parallel

/-! ## Plans inside plans -/

namespace Plan

/-- The plans into which a plan forks. -/
def children : Plan → List Plan
  | ends _ => []
  | stay _ next => next.children
  | fork children _ _ => children

/-- The plan of the unit at a path. -/
def at? : Path → Plan → Option Plan
  | [], p => some p
  | i :: path, p => p.children[i]?.bind (at? path)

theorem at?_append (p : Plan) (unit path : Path) :
    p.at? (unit ++ path) = (p.at? unit).bind (at? path) := by
  induction unit generalizing p with
  | nil => rfl
  | cons i unit ih =>
    simp only [List.cons_append, at?, Option.bind_assoc]
    exact congrArg _ (funext fun q => ih q)

/-- Work without parts forks into nothing. -/
@[simp] theorem children_work (w : Work) : w.plan.children = [] := by
  unfold Work.plan
  induction w.stays with
  | nil => rfl
  | cons s rest ih => exact ih

/-- What a plan comes to when one of the parts into which it forks fails. -/
def recovery : Plan → Option (Fault → Attempt Outcome)
  | ends _ => none
  | stay _ next => next.recovery
  | fork _ _ recover => some recover

@[simp] theorem recovery_work (w : Work) : w.plan.recovery = none := by
  unfold Work.plan
  induction w.stays with
  | nil => rfl
  | cons s rest ih => exact ih

/-- Whether a plan can come to a result: some order of its moves alone leads to it. -/
def CanComeTo (p : Plan) (slots : Nat) (result : Attempt Outcome) : Prop :=
  ∃ schedule s, (State.start slots p).follow schedule = some s ∧ s.result? = some result

end Plan

namespace State

theorem follow_append (s : State) (first rest : List (Path × Move)) :
    s.follow (first ++ rest) = (s.follow first).bind (·.follow rest) := by
  unfold follow
  rw [List.foldlM_append]
  rfl

/-- One more move after a schedule. -/
theorem follow_append_singleton {s next s' : State} {schedule : List (Path × Move)} {path : Path}
    {m : Move} (h : s.follow schedule = some next) (hstep : next.step path m = some s') :
    s.follow (schedule ++ [(path, m)]) = some s' := by
  rw [follow_append, h]
  exact follow_cons.mpr ⟨s', hstep, rfl⟩

end State

namespace Task

/-- The plans into which a unit may still fork. -/
def children : Task → List Plan
  | ready plan | queued _ plan | granted _ plan | holding _ plan => plan.children
  | _ => []

/-- A unit forks into the plans that its own plan says, and into no others. -/
theorem Steps.children_eq {m : Move} {path : Path} {t t' : Task} (h : Steps m path t t') :
    t'.children = [] ∨ t'.children = t.children := by
  cases h with
  | begin plan =>
    cases plan with
    | ends result => exact .inl rfl
    | stay s next => exact .inr rfl
    | fork children join recover => exact .inl rfl
  | merge join recover hparts => exact .inl (Plan.children_work _)
  | grant s next => exact .inr rfl
  | enter s next => exact .inr rfl
  | pass pause rest next => exact .inr rfl
  | release next => exact .inr rfl
  | _ => exact .inl rfl

/-- What a unit comes to when a part of it fails, unless it has no parts. -/
def recovery : Task → Option (Fault → Attempt Outcome)
  | ready plan | queued _ plan | granted _ plan | holding _ plan => plan.recovery
  | joining _ _ recover => some recover
  | _ => none

/-- A unit recovers from the faults of its parts as its own plan says. -/
theorem Steps.recovery_eq {m : Move} {path : Path} {t t' : Task} (h : Steps m path t t') :
    t'.recovery = none ∨ t'.recovery = t.recovery := by
  cases h with
  | begin plan =>
    cases plan with
    | ends result => exact .inl rfl
    | stay s next => exact .inr rfl
    | fork children join recover => exact .inr rfl
  | merge join recover hparts => exact .inl (Plan.recovery_work _)
  | grant s next => exact .inr rfl
  | enter s next => exact .inr rfl
  | pass pause rest next => exact .inr rfl
  | release next => exact .inr rfl
  | inJoining before after join recover hpart => exact .inr rfl
  | _ => exact .inl rfl

/-- A unit that is about to fork stays so by a move, or starts the parts into which it forks. -/
theorem Steps.starts {m : Move} {path : Path} {t t' : Task} {i : Nat} {child : Plan}
    (h : Steps m path t t') (hchild : t.children[i]? = some child) :
    t'.children = t.children ∨ t'.at? [i] = some (.ready child) := by
  cases h with
  | begin plan =>
    cases plan with
    | ends result => cases hchild
    | stay s next => exact .inl rfl
    | fork children join recover =>
      right
      have hchild : children[i]? = some child := hchild
      rw [Task.begin, at?, parts, List.getElem?_map, hchild]
      rfl
  | grant s next => exact .inl rfl
  | enter s next => exact .inl rfl
  | pass pause rest next => exact .inl rfl
  | release next => exact .inl rfl
  | _ => cases hchild

/-- A unit that has ended forks no more. -/
theorem children_of_isEnded {t : Task} (h : t.isEnded = true) : t.children = [] := by
  cases t <;> first | rfl | cases h

/-- The slots of a unit are among those of the units around it. -/
theorem held_le_of_at? {t p : Task} {unit : Path} (hp : t.at? unit = some p) : p.held ≤ t.held := by
  induction unit generalizing t with
  | nil =>
    cases hp
    exact Nat.le_refl _
  | cons i unit ih =>
    obtain ⟨q, hq, hbelow⟩ := Option.bind_eq_some_iff.mp hp
    have hpart : q.held ≤ heldIn t.parts := by
      obtain ⟨before, after, hparts, -⟩ := exists_append_of_getElem? hq
      rw [hparts, heldIn_append, heldIn]
      omega
    have hwhole : heldIn t.parts ≤ t.held := by
      cases t <;> simp [parts, held, heldIn]
    exact Nat.le_trans (ih hbelow) (Nat.le_trans hpart hwhole)

/-- Whether a unit is where its plan can come to alone. -/
def IsAlone (slots : Nat) (p : Plan) (t : Task) : Prop :=
  ∃ schedule s, (State.start slots p).follow schedule = some s ∧ s.root = t

theorem isAlone_ready (slots : Nat) (p : Plan) : IsAlone slots p (.ready p) :=
  ⟨[], State.start slots p, rfl, rfl⟩

/-- What a unit has from its plan, and keeps in every step unless it loses it, it still has, or has lost,
wherever its plan comes to. -/
theorem IsAlone.lost_or_eq {α : Type} {slots : Nat} {p : Plan} {t : Task} (h : t.IsAlone slots p)
    (given : Task → α) {lost : α}
    (hstep : ∀ {m path t t'}, Steps m path t t' → given t' = lost ∨ given t' = given t) :
    given t = lost ∨ given t = given (.ready p) := by
  obtain ⟨schedule, s, hfollow, rfl⟩ := h
  refine State.follow_induction (P := fun s => given s.root = lost ∨ given s.root = given (.ready p))
    (fun {s s' path m} hs hnext => ?_) (.inr rfl) hfollow
  rcases hstep (State.step_eq_some_iff.mp hnext).2 with hlost | hsame
  · exact .inl hlost
  · rw [hsame]
    exact hs

theorem IsAlone.children_eq {slots : Nat} {p : Plan} {t : Task} (h : t.IsAlone slots p) :
    t.children = [] ∨ t.children = p.children := h.lost_or_eq children Steps.children_eq

theorem IsAlone.recovery_eq {slots : Nat} {p : Plan} {t : Task} (h : t.IsAlone slots p) :
    t.recovery = none ∨ t.recovery = p.recovery := h.lost_or_eq recovery Steps.recovery_eq

/-- What a unit does where its plan comes to alone its plan can do alone. -/
theorem IsAlone.step {slots : Nat} {p : Plan} {t t' : Task} {path : Path} {m : Move}
    (h : t.IsAlone slots p) (hstep : Steps m path t t') (hm : m ≠ .grant ∨ t.held < slots) :
    t'.IsAlone slots p := by
  obtain ⟨schedule, s, hfollow, rfl⟩ := h
  have htotal := ((State.sound_start slots p).follow hfollow).slots_eq
  have hsome : m ≠ .grant ∨ 0 < s.free := hm.imp_right fun hheld => by omega
  obtain ⟨free, hfree⟩ := Move.exists_slotsAfter hsome
  have hnext : s.step path m = some ⟨free, t'⟩ := State.step_eq_some_iff.mpr ⟨hfree, hstep⟩
  exact ⟨schedule ++ [(path, m)], ⟨free, t'⟩, State.follow_append_singleton hfollow hnext, rfl⟩

/-- A unit that is told to end and has not been cancelled by that has come to a result. -/
theorem cancel_eq_self {t : Task} (h : t.cancel.isCancelled = false) : t.cancel = t := by
  cases t <;> first | rfl | cases h

end Task

namespace State

/-- Whether every unit that was not cancelled is where its plan can come to alone. -/
def AreAlone (slots : Nat) (plan : Plan) (s : State) : Prop :=
  ∀ unit t, s.root.at? unit = some t → t.isCancelled = false →
    ∃ p, plan.at? unit = some p ∧ t.IsAlone slots p

theorem areAlone_start (slots : Nat) (plan : Plan) : (start slots plan).AreAlone slots plan := by
  intro unit t ht _
  cases unit with
  | nil =>
    cases ht
    exact ⟨plan, rfl, Task.isAlone_ready slots plan⟩
  | cons i unit => cases ht

/-- A move leaves every unit where its plan can come to alone. -/
theorem AreAlone.step {slots : Nat} {plan : Plan} {s s' : State} {path : Path} {m : Move}
    (halone : s.AreAlone slots plan) (hs : s.Sound slots) (h : s.step path m = some s') :
    s'.AreAlone slots plan := by
  obtain ⟨hfree, hroot⟩ := step_eq_some_iff.mp h
  intro unit t ht hlive
  by_cases hunit : unit <+: path
  · -- The move is made in the unit.
    obtain ⟨rest, rfl⟩ := hunit
    obtain ⟨p, p', hp, hp', hstep⟩ := hroot.within
    rw [ht] at hp'
    cases hp'
    rw [hstep.isCancelled_eq] at hlive
    obtain ⟨q, hq, hpalone⟩ := halone unit p hp hlive
    refine ⟨q, hq, hpalone.step hstep ?_⟩
    by_cases hm : m = .grant
    · subst hm
      have hheld := Task.held_le_of_at? hp
      have htotal := hs.slots_eq
      rw [Move.slotsAfter_grant_iff] at hfree
      exact .inr (by omega)
    · exact .inl hm
  · cases hroot.comesFrom hunit ht with
    | kept hp => exact halone unit t hp hlive
    | cancelled habort hp =>
      have hsame := Task.cancel_eq_self hlive
      rw [hsame] at hlive ⊢
      exact halone unit _ hp hlive
    | @started i children join recover child hplan hchild =>
      obtain ⟨q, hq, hqalone⟩ := halone path _ hplan rfl
      refine ⟨child, ?_, Task.isAlone_ready slots child⟩
      have hchildren : children = q.children := by
        rcases hqalone.children_eq with hnone | hsame
        · have hnone : children = [] := hnone
          rw [hnone] at hchild
          cases hchild
        · exact hsame
      rw [Plan.at?_append, hq, Option.bind_some, Plan.at?, ← hchildren, hchild]
      rfl

/-- In every run a unit that was not cancelled is where its plan can come to alone. -/
theorem areAlone_follow {slots : Nat} {plan : Plan} {s : State} {schedule : List (Path × Move)}
    (h : (start slots plan).follow schedule = some s) : s.AreAlone slots plan := by
  have hboth : s.Sound slots ∧ s.AreAlone slots plan := by
    refine follow_induction (P := fun s => s.Sound slots ∧ s.AreAlone slots plan) ?_ ?_ h
    · intro s s' path m hs hstep
      exact ⟨hs.1.step hstep, hs.2.step hs.1 hstep⟩
    · exact ⟨sound_start slots plan, areAlone_start slots plan⟩
  exact hboth.2

/-! ## Results of units -/

/-- Whether a unit comes to a result along a schedule. -/
def Attains (s : State) (schedule : List (Path × Move)) (unit : Path) (result : Attempt Outcome) : Prop :=
  ∃ before s', before <+: schedule ∧ s.follow before = some s' ∧
    s'.root.at? unit = some (.finished result)

/-- The result of a unit is one that its plan can come to alone. -/
theorem Attains.exists_plan {slots : Nat} {plan : Plan} {schedule : List (Path × Move)} {unit : Path}
    {result : Attempt Outcome} (h : (start slots plan).Attains schedule unit result) :
    ∃ p, plan.at? unit = some p ∧ p.CanComeTo slots result := by
  obtain ⟨before, s, -, hbefore, hunit⟩ := h
  obtain ⟨p, hp, alone, s', hfollow, hroot⟩ := areAlone_follow hbefore unit _ hunit rfl
  exact ⟨p, hp, alone, s', hfollow, result?_eq_some_iff.mpr hroot⟩

/-- What is attained after a move is attained. -/
theorem Attains.cons {s next : State} {move : Path × Move} {rest : List (Path × Move)} {unit : Path}
    {result : Attempt Outcome} (h : next.Attains rest unit result)
    (hstep : s.step move.1 move.2 = some next) : s.Attains (move :: rest) unit result := by
  obtain ⟨before, s', hbefore, hfollow, hunit⟩ := h
  exact ⟨move :: before, s', List.cons_prefix_cons.mpr ⟨rfl, hbefore⟩,
    follow_cons.mpr ⟨next, hstep, hfollow⟩, hunit⟩

/-- What a unit has come to is attained. -/
theorem Attains.now {s : State} {unit : Path} {result : Attempt Outcome}
    (h : s.root.at? unit = some (.finished result)) (schedule : List (Path × Move)) :
    s.Attains schedule unit result := ⟨[], s, List.nil_prefix, rfl, h⟩

/-- A move that aborts a unit is made because a part of it has come to a fault, from which the unit is
about to recover as it would have done before. -/
theorem exists_of_step_abort {s s' : State} {whole : Path} {part : Nat}
    (h : s.step whole (.abort part) = some s') :
    ∃ parts join recover cause, s.root.at? whole = some (.joining parts join recover) ∧
      s.root.at? (whole ++ [part]) = some (.finished (.error cause)) ∧
      s'.root.at? whole = some (.unwinding cause (Task.cancelAll parts) recover) := by
  obtain ⟨p, p', hp, hp', hmove⟩ := (step_eq_some_iff.mp h).2.itself
  cases hmove with
  | @abort _ parts cause join recover hfault =>
    refine ⟨parts, join, recover, cause, hp, ?_, hp'⟩
    obtain ⟨q, hq, hcause⟩ := Option.bind_eq_some_iff.mp hfault
    obtain rfl := Task.fault?_eq_some_iff.mp hcause
    rw [Task.at?_append, hp, Option.bind_some, Task.at?, Task.parts, hq]
    rfl

/-- A unit is aborted only because a part of it has come to a fault. -/
theorem exists_attains_of_abort {s s' : State} {schedule : List (Path × Move)}
    (h : s.follow schedule = some s') {whole : Path} {part : Nat}
    (habort : (whole, .abort part) ∈ schedule) :
    ∃ cause, s.Attains schedule (whole ++ [part]) (.error cause) := by
  induction schedule generalizing s with
  | nil => cases habort
  | cons move rest ih =>
    obtain ⟨next, hnext, hrest⟩ := follow_cons.mp h
    rcases List.mem_cons.mp habort with hnow | hlater
    · subst hnow
      obtain ⟨parts, join, recover, cause, -, hpart, -⟩ := exists_of_step_abort hnext
      exact ⟨cause, .now hpart _⟩
    · obtain ⟨cause, hcause⟩ := ih hrest hlater
      exact ⟨cause, hcause.cons hnext⟩

/-- A unit that has not been told to end comes to a result in a run to the end, unless a unit around it is
aborted; and what its own steps keep true of it is true of it then. -/
theorem exists_attains_of_keeps (keeps : Task → Prop)
    (hkeeps : ∀ {m path t t'}, Task.Steps m path t t' → keeps t → keeps t') {s s' : State}
    {schedule : List (Path × Move)} (h : s.follow schedule = some s') (hend : s'.root.isEnded = true)
    {unit : Path} {t : Task} (ht : s.root.at? unit = some t) (hlive : t.isCancelled = false)
    (hundisturbed : Undisturbed unit schedule) (hnow : keeps t) :
    ∃ result, s.Attains schedule unit result ∧ keeps (.finished result) := by
  induction schedule generalizing s t with
  | nil =>
    obtain rfl := follow_nil.mp h
    obtain ⟨result, rfl⟩ := Task.exists_result_of_isEnded (Task.isEnded_at? hend ht) hlive
    exact ⟨result, .now ht _, hnow⟩
  | cons move rest ih =>
    obtain ⟨next, hnext, hrest⟩ := follow_cons.mp h
    have hlater : Undisturbed unit rest := hundisturbed.mono (List.subset_cons_self _ _)
    have hroot := (step_eq_some_iff.mp hnext).2
    cases hopen : t.isEnded with
    | true =>
      obtain ⟨result, rfl⟩ := Task.exists_result_of_isEnded hopen hlive
      exact ⟨result, .now ht _, hnow⟩
    | false =>
      -- The unit goes on living until it has come to a result.
      have hlives : ∃ t', next.root.at? unit = some t' ∧ t'.isCancelled = false ∧ keeps t' := by
        obtain ⟨t', ht', rfl | ⟨below, -, hstep⟩⟩ :=
          hroot.exists_next ht hopen (hundisturbed move (by simp))
        · exact ⟨t', ht', hlive, hnow⟩
        · exact ⟨t', ht', hstep.isCancelled_eq.trans hlive, hkeeps hstep hnow⟩
      obtain ⟨t', ht', hlive', hnow'⟩ := hlives
      obtain ⟨result, hresult, hkept⟩ := ih hrest ht' hlive' hlater hnow'
      exact ⟨result, hresult.cons hnext, hkept⟩

/-- A unit that has not been told to end comes to a result in a run to the end, unless a unit around it is
aborted. -/
theorem exists_attains_of_live {s s' : State} {schedule : List (Path × Move)}
    (h : s.follow schedule = some s') (hend : s'.root.isEnded = true) {unit : Path} {t : Task}
    (ht : s.root.at? unit = some t) (hlive : t.isCancelled = false)
    (hundisturbed : Undisturbed unit schedule) : ∃ result, s.Attains schedule unit result := by
  obtain ⟨result, hresult, -⟩ :=
    exists_attains_of_keeps (fun _ => True) (fun _ _ => trivial) h hend ht hlive hundisturbed trivial
  exact ⟨result, hresult⟩

/-- A unit that makes a call comes to a result in a run to the end, unless a unit around it is aborted. -/
theorem exists_attains_of_mem_callsOf {s s' : State} {schedule : List (Path × Move)}
    (h : s.follow schedule = some s') (hend : s'.root.isEnded = true) {unit : Path} {call : HookCall}
    (hcall : call ∈ s.callsOf unit schedule) (hundisturbed : Undisturbed unit schedule) :
    ∃ result, s.Attains schedule unit result := by
  induction schedule generalizing s with
  | nil => cases hcall
  | cons move rest ih =>
    obtain ⟨next, hnext, hrest⟩ := follow_cons.mp h
    simp only [callsOf, hnext, List.mem_append] at hcall
    rcases hcall with hnow | hlater
    · split at hnow
      · rename_i hunit
        subst hunit
        have hgranted : ∃ stay plan, s.root.at? move.1 = some (.granted stay plan) := by
          unfold Task.callAt at hnow
          split at hnow
          · exact ⟨_, _, ‹_›⟩
          · cases hnow
        obtain ⟨stay, plan, ht⟩ := hgranted
        exact exists_attains_of_live h hend ht rfl hundisturbed
      · cases hnow
    · obtain ⟨result, hresult⟩ :=
        ih hrest hlater (hundisturbed.mono (List.subset_cons_self _ _))
      exact ⟨result, hresult.cons hnext⟩

/-! ## Parts and their results -/

/-- What is attained along the rest of a schedule is attained along all of it. -/
theorem Attains.append {s next : State} {before rest : List (Path × Move)} {unit : Path}
    {result : Attempt Outcome} (h : next.Attains rest unit result) (hbefore : s.follow before = some next) :
    s.Attains (before ++ rest) unit result := by
  obtain ⟨first, s', hfirst, hfollow, hunit⟩ := h
  refine ⟨before ++ first, s', (List.prefix_append_right_inj _).mpr hfirst, ?_, hunit⟩
  rw [follow_append, hbefore]
  exact hfollow

/-- In a run to the end a unit starts all parts into which it forks, unless it is aborted, or a unit around
it is, before that. -/
theorem exists_ready_of_children {s s' : State} {schedule : List (Path × Move)}
    (h : s.follow schedule = some s') (hend : s'.root.isEnded = true) {unit : Path} {t : Task} {i : Nat}
    {child : Plan} (ht : s.root.at? unit = some t) (hchild : t.children[i]? = some child)
    (hundisturbed : Undisturbed (unit ++ [i]) schedule) :
    ∃ before rest next, schedule = before ++ rest ∧ s.follow before = some next ∧
      next.follow rest = some s' ∧ next.root.at? (unit ++ [i]) = some (.ready child) := by
  induction schedule generalizing s t with
  | nil =>
    obtain rfl := follow_nil.mp h
    rw [Task.children_of_isEnded (Task.isEnded_at? hend ht)] at hchild
    cases hchild
  | cons move rest ih =>
    obtain ⟨next, hnext, hrest⟩ := follow_cons.mp h
    have hlater : Undisturbed (unit ++ [i]) rest := hundisturbed.mono (List.subset_cons_self _ _)
    have hroot := (step_eq_some_iff.mp hnext).2
    -- If the unit is still about to fork after the move, the rest of the run starts its part.
    have hgoes {t' : Task} (ht' : next.root.at? unit = some t') (hsame : t'.children[i]? = some child) :
        ∃ before later s'', move :: rest = before ++ later ∧ s.follow before = some s'' ∧
          s''.follow later = some s' ∧ s''.root.at? (unit ++ [i]) = some (.ready child) := by
      obtain ⟨before, later, s'', rfl, hbefore, hafter, hready⟩ := ih hrest ht' hsame hlater
      exact ⟨move :: before, later, s'', rfl, follow_cons.mpr ⟨next, hnext, hbefore⟩, hafter, hready⟩
    have hopen : t.isEnded = false := by
      refine Bool.eq_false_iff.mpr fun hended => ?_
      rw [Task.children_of_isEnded hended] at hchild
      cases hchild
    obtain ⟨t', ht', rfl | ⟨below, -, hstep⟩⟩ := hroot.exists_next ht hopen fun habort hpart =>
      hundisturbed move (by simp) habort (hpart.append [i])
    · exact hgoes ht' hchild
    · rcases hstep.starts hchild with hsame | hready
      · exact hgoes ht' (hsame ▸ hchild)
      · refine ⟨[move], rest, next, rfl, follow_cons.mpr ⟨next, hnext, rfl⟩, hrest, ?_⟩
        rw [Task.at?_append, ht']
        exact hready

/-- A unit inside one that has not begun comes to a result in a run to the end, unless a unit around it is
aborted. -/
theorem exists_attains_of_plan_at? {s s' : State} {schedule : List (Path × Move)}
    (h : s.follow schedule = some s') (hend : s'.root.isEnded = true) {unit path : Path} {p q : Plan}
    (hunit : s.root.at? unit = some (.ready p)) (hpath : p.at? path = some q)
    (hundisturbed : Undisturbed (unit ++ path) schedule) :
    ∃ result, s.Attains schedule (unit ++ path) result := by
  induction path generalizing s schedule unit p with
  | nil =>
    rw [List.append_nil] at hundisturbed ⊢
    exact exists_attains_of_live h hend hunit rfl hundisturbed
  | cons i path ih =>
    obtain ⟨child, hchild, hbelow⟩ := Option.bind_eq_some_iff.mp hpath
    have hsplit : unit ++ i :: path = (unit ++ [i]) ++ path := by simp
    rw [hsplit] at hundisturbed ⊢
    obtain ⟨before, rest, next, rfl, hbefore, hrest, hready⟩ :=
      exists_ready_of_children h hend hunit hchild hundisturbed.of_append
    obtain ⟨result, hresult⟩ :=
      ih hrest hready hbelow (hundisturbed.mono (List.subset_append_right _ _))
    exact ⟨result, hresult.append hbefore⟩

/-- What a validation comes to that waits for its parts: it joins the outcomes that they have come to, or
one of them has failed. -/
theorem exists_attains_of_joining {s s' : State} {schedule : List (Path × Move)} {parts : List Task}
    {join : List Outcome → Work} {recover : Fault → Attempt Outcome} {result : Attempt Outcome}
    (h : s.follow schedule = some s') (hroot : s.root = .joining parts join recover)
    (hresult : s'.result? = some result) :
    (∃ outcomes : List Outcome, outcomes.length = parts.length ∧
      (∀ i o, outcomes[i]? = some o → s.Attains schedule [i] (.ok o)) ∧
      result = (join outcomes).result) ∨
    ∃ i cause, s.Attains schedule [i] (.error cause) ∧ result = recover cause := by
  induction schedule generalizing s parts with
  | nil =>
    obtain rfl := follow_nil.mp h
    rw [result?, hroot] at hresult
    cases hresult
  | cons move rest ih =>
    obtain ⟨next, hnext, hrest⟩ := follow_cons.mp h
    have hstep := (step_eq_some_iff.mp hnext).2
    -- What the validation ensures after the move is what becomes of it.
    have hensures {expected : Attempt Outcome}
        (hafter : next.root.Ensures unrestricted fun r => r = expected) : result = expected := by
      have hlast := ensures_follow hrest ⟨fun _ _ => trivial, .inl trivial⟩ hafter
      rw [Task.result?_eq_some_iff.mp hresult] at hlast
      exact hlast
    have hnow {i : Nat} {t : Task} (ht : parts[i]? = some t) : s.root.at? [i] = some t := by
      rw [hroot, Task.at?, Task.parts, ht]
      rfl
    rw [hroot] at hstep
    generalize hpath : move.1 = path at hstep
    generalize hmove : move.2 = m at hstep
    generalize hroot' : next.root = root' at hstep
    cases hstep with
    | @merge _ outcomes _ _ hparts =>
      left
      obtain rfl := Task.mapM_outcome?_eq_some_iff.mp hparts
      refine ⟨outcomes, (List.length_map _).symm, fun i o ho => .now (hnow ?_) _, hensures ?_⟩
      · rw [List.getElem?_map, ho]
        rfl
      · rw [hroot']
        exact Plan.ensures_work.mpr fun _ => rfl
    | @abort i _ cause _ _ hfault =>
      right
      obtain ⟨q, hq, hcause⟩ := Option.bind_eq_some_iff.mp hfault
      obtain rfl := Task.fault?_eq_some_iff.mp hcause
      refine ⟨i, cause, .now (hnow hq) _, hensures ?_⟩
      rw [hroot']
      rfl
    | @inJoining _ _ p p' before after _ _ hpart =>
      rcases ih hrest hroot' with ⟨outcomes, hlength, houtcomes, hjoined⟩ | ⟨i, cause, hcause, hrecovered⟩
      · left
        refine ⟨outcomes, by simpa using hlength, fun i o ho => ?_, hjoined⟩
        exact (houtcomes i o ho).cons hnext
      · exact .inr ⟨i, cause, hcause.cons hnext, hrecovered⟩

/-- What a fork comes to: it joins the outcomes that its parts have come to, or one of them has failed. -/
theorem exists_attains_of_fork {slots : Nat} {children : List Plan} {join : List Outcome → Work}
    {recover : Fault → Attempt Outcome} {s : State} {schedule : List (Path × Move)}
    {result : Attempt Outcome} (h : (start slots (.fork children join recover)).follow schedule = some s)
    (hresult : s.result? = some result) :
    (∃ outcomes : List Outcome, outcomes.length = children.length ∧
      (∀ i o, outcomes[i]? = some o →
        (start slots (.fork children join recover)).Attains schedule [i] (.ok o)) ∧
      result = (join outcomes).result) ∨
    ∃ i cause, (start slots (.fork children join recover)).Attains schedule [i] (.error cause) ∧
      result = recover cause := by
  cases schedule with
  | nil =>
    obtain rfl := follow_nil.mp h
    cases hresult
  | cons move rest =>
    obtain ⟨next, hnext, hrest⟩ := follow_cons.mp h
    have hstep := (step_eq_some_iff.mp hnext).2
    generalize hpath : move.1 = path at hstep
    generalize hmove : move.2 = m at hstep
    generalize hroot : next.root = root at hstep
    cases hstep with
    | begin =>
      rcases exists_attains_of_joining hrest hroot hresult with
        ⟨outcomes, hlength, houtcomes, hjoined⟩ | ⟨i, cause, hcause, hrecovered⟩
      · left
        refine ⟨outcomes, by simpa using hlength, fun i o ho => ?_, hjoined⟩
        exact (houtcomes i o ho).cons hnext
      · exact .inr ⟨i, cause, hcause.cons hnext, hrecovered⟩

/-! ## What units yield -/

/-- Whether a unit comes to a result along a schedule that leads to a state.  It comes to no other; in a
run to the end it comes to this one, unless a unit around it is aborted; and unless the result is a fault,
no unit is aborted on its account. -/
structure Yields (s s' : State) (schedule : List (Path × Move)) (unit : Path)
    (result : Attempt Outcome) : Prop where
  only : ∀ other, s.Attains schedule unit other → other = result
  attained : s'.IsFinal → Undisturbed unit schedule → s.Attains schedule unit result
  harmless : ∀ outcome, result = .ok outcome → ∀ whole part, unit = whole ++ [part] →
    (whole, Move.abort part) ∉ schedule

/-- A unit yields the only result that it attains, if it attains one in every run to the end in which no
unit around it is aborted. -/
theorem yields_of_only {s s' : State} {schedule : List (Path × Move)} {unit : Path}
    {result : Attempt Outcome} (h : s.follow schedule = some s')
    (honly : ∀ other, s.Attains schedule unit other → other = result)
    (hattains : s'.IsFinal → Undisturbed unit schedule → ∃ other, s.Attains schedule unit other) :
    s.Yields s' schedule unit result where
  only := honly
  attained hfinal hundisturbed := by
    obtain ⟨other, hother⟩ := hattains hfinal hundisturbed
    rw [← honly other hother]
    exact hother
  harmless := by
    rintro outcome hok whole part rfl habort
    obtain ⟨cause, hcause⟩ := exists_attains_of_abort h habort
    have hfault := honly _ hcause
    rw [hok] at hfault
    cases hfault

/-- A validation that cannot go on has ended. -/
theorem Sound.isEnded {slots : Nat} {s : State} (hs : s.Sound slots) (hslots : 1 ≤ slots)
    (hfinal : s.IsFinal) : s.root.isEnded = true := by
  obtain ⟨result, hresult⟩ := hs.exists_result hslots hfinal
  rw [hresult]
  rfl

/-- The unit of a plan inside a plan yields the only result that its plan can come to alone. -/
theorem yields_of_canComeTo {slots : Nat} {plan p : Plan} {s : State} {schedule : List (Path × Move)}
    {unit : Path} {result : Attempt Outcome} (hslots : 1 ≤ slots)
    (h : (start slots plan).follow schedule = some s) (hp : plan.at? unit = some p)
    (honly : ∀ other, p.CanComeTo slots other → other = result) :
    (start slots plan).Yields s schedule unit result := by
  refine yields_of_only h (fun other hother => ?_) fun hfinal hundisturbed => ?_
  · obtain ⟨q, hq, hcomes⟩ := hother.exists_plan
    rw [hp] at hq
    cases hq
    exact honly other hcomes
  · have hend := ((sound_start slots plan).follow h).isEnded hslots hfinal
    have hroot : (start slots plan).root.at? [] = some (.ready plan) := rfl
    exact exists_attains_of_plan_at? h hend hroot hp hundisturbed

end State

/-- What a plan ensures holds of every result that it can come to. -/
theorem Plan.Ensures.of_canComeTo {p : Plan} {post : Condition} (hp : p.Ensures unrestricted post)
    {slots : Nat} {result : Attempt Outcome} (h : p.CanComeTo slots result) : post result := by
  obtain ⟨schedule, s, hfollow, hresult⟩ := h
  have hroot : s.root.Ensures unrestricted post :=
    State.ensures_follow hfollow ⟨fun _ _ => trivial, .inl trivial⟩ hp
  rw [Task.result?_eq_some_iff.mp hresult] at hroot
  exact hroot

end RecordCheck.Parallel
