import RecordCheck.Proofs.Parallel.Isolation

/-!
# Aborts

A unit of which a part fails is aborted: it tells its other parts to end, waits until all of them have, and
then fails in turn, or recovers.  So a fault goes from unit to unit up to the whole record, unless a unit on
the way recovers from it.  No unit does so from a fault that aborts.  But a unit is aborted on account of a
single part, and if the choice of a rule fails for that part, then the unit recovers, and the faults of its
other parts are lost.

Nothing is left behind: a unit has ended before the unit around it goes on, and who is told to end calls no
hook any more.
-/

set_option autoImplicit false

namespace RecordCheck.Parallel

/-! ## Units on their course -/

namespace Task

/-- Whether a unit follows its own plan: no part of it has failed, and it was not told to end. -/
def isOnCourse : Task → Bool
  | unwinding .. | leaving _ | halting _ | stopped => false
  | _ => true

/-- Units leave their course only by aborts. -/
theorem Steps.isOnCourse {m : Move} {path : Path} {t t' : Task} (h : Steps m path t t')
    (hkept : path = [] → m.isAbort = false) (ht : t.isOnCourse = true) : t'.isOnCourse = true := by
  cases h with
  | begin plan => cases plan <;> rfl
  | abort join recover hfault => cases hkept rfl
  | _ => first | rfl | cases ht

theorem cancel_of_isEnded {t : Task} (h : t.isEnded = true) : t.cancel = t := by
  cases t <;> first | rfl | cases h

/-- Unless it is aborted, a unit that waits for its parts goes on waiting after one of them has failed. -/
theorem Steps.exists_joining {m : Move} {path : Path} {parts : List Task} {join : List Outcome → Work}
    {recover : Fault → Attempt Outcome} {i : Nat} {cause : Fault} {t' : Task}
    (h : Steps m path (.joining parts join recover) t') (hkept : path = [] → m.isAbort = false)
    (hfault : parts[i]?.bind fault? = some cause) :
    ∃ parts', t' = .joining parts' join recover ∧ parts'[i]?.bind fault? = some cause := by
  cases h with
  | @merge _ outcomes _ _ hparts =>
    rw [mapM_outcome?_eq_some_iff.mp hparts, List.getElem?_map] at hfault
    obtain ⟨t, ht, hcause⟩ := Option.bind_eq_some_iff.mp hfault
    obtain ⟨o, -, rfl⟩ := Option.map_eq_some_iff.mp ht
    cases hcause
  | abort join recover _ => cases hkept rfl
  | @inJoining _ _ p p' before after _ _ hpart =>
    refine ⟨before ++ p' :: after, rfl, ?_⟩
    have hi : i ≠ before.length := by
      rintro rfl
      simp only [List.getElem?_append_right, Nat.le_refl, Nat.sub_self, List.getElem?_cons_zero,
        Option.bind_some] at hfault
      obtain rfl := fault?_eq_some_iff.mp hfault
      cases hpart
    rw [getElem?_of_ne hi]
    exact hfault

end Task

/-- A move that aborts no unit around a part does not abort the unit whose part it is. -/
theorem isAbort_eq_false_of_isPart {m : Move} {unit whole below : Path} (hpart : IsPart unit whole)
    (hundisturbed : m.isAbort = true → ¬ IsPart unit (whole ++ below)) (hbelow : below = []) :
    m.isAbort = false := by
  subst hbelow
  rw [List.append_nil] at hundisturbed
  exact Bool.eq_false_iff.mpr fun habort => hundisturbed habort hpart

namespace State

/-- Whether all units around a unit are on their course. -/
def OnCourseAround (unit : Path) (s : State) : Prop :=
  ∀ whole t, IsPart unit whole → s.root.at? whole = some t → t.isOnCourse = true

theorem OnCourseAround.step {unit path : Path} {m : Move} {s s' : State} (hs : s.OnCourseAround unit)
    (h : s.step path m = some s') (hundisturbed : m.isAbort = true → ¬ IsPart unit path) :
    s'.OnCourseAround unit := by
  have hroot := (step_eq_some_iff.mp h).2
  intro whole t hpart ht
  by_cases hwhole : whole <+: path
  · obtain ⟨below, rfl⟩ := hwhole
    obtain ⟨p, p', hp, hp', hstep⟩ := hroot.within
    rw [ht] at hp'
    cases hp'
    exact hstep.isOnCourse (isAbort_eq_false_of_isPart hpart hundisturbed) (hs whole p hpart hp)
  · cases hroot.comesFrom hwhole ht with
    | kept hp => exact hs whole t hpart hp
    | @cancelled _ p habort hp =>
      -- The abort was elsewhere, so that telling the unit to end has changed nothing.
      have hsame : p.cancel = p := by
        rcases hroot.at?_after hwhole hp with hsame | ⟨-, haround, -⟩ | hended
        · rw [ht] at hsame
          exact Option.some.inj hsame
        · exact absurd (hpart.trans haround) (hundisturbed habort)
        · exact Task.cancel_of_isEnded hended
      rw [hsame]
      exact hs whole p hpart hp
    | started hplan hchild => rfl

/-- In every run all units around an undisturbed one are on their course. -/
theorem OnCourseAround.follow {unit : Path} {s s' : State} {schedule : List (Path × Move)}
    (hs : s.OnCourseAround unit) (h : s.follow schedule = some s')
    (hundisturbed : Undisturbed unit schedule) : s'.OnCourseAround unit := by
  induction schedule generalizing s with
  | nil =>
    obtain rfl := State.follow_nil.mp h
    exact hs
  | cons move rest ih =>
    obtain ⟨next, hnext, hrest⟩ := follow_cons.mp h
    have hafter := hs.step hnext (hundisturbed move (by simp))
    exact ih hafter hrest (hundisturbed.mono (List.subset_cons_self _ _))

theorem onCourseAround_start (slots : Nat) (plan : Plan) (unit : Path) :
    (start slots plan).OnCourseAround unit := by
  intro whole t _ ht
  cases whole with
  | nil =>
    cases ht
    rfl
  | cons i whole => cases ht

/-! ## Faults of parts -/

/-- A unit waits for a part that has failed as long as no unit around that part is aborted. -/
theorem exists_joining_of_fault {s s' : State} {schedule : List (Path × Move)}
    (h : s.follow schedule = some s') {whole : Path} {i : Nat} {parts : List Task}
    {join : List Outcome → Work} {recover : Fault → Attempt Outcome} {cause : Fault}
    (ht : s.root.at? whole = some (.joining parts join recover))
    (hfault : parts[i]?.bind Task.fault? = some cause)
    (hundisturbed : Undisturbed (whole ++ [i]) schedule) :
    ∃ parts', s'.root.at? whole = some (.joining parts' join recover) := by
  have hpart : IsPart (whole ++ [i]) whole := ⟨i, [], rfl⟩
  induction schedule generalizing s parts with
  | nil =>
    obtain rfl := follow_nil.mp h
    exact ⟨parts, ht⟩
  | cons move rest ih =>
    obtain ⟨next, hnext, hrest⟩ := follow_cons.mp h
    have hlater : Undisturbed (whole ++ [i]) rest := hundisturbed.mono (List.subset_cons_self _ _)
    have hnow := hundisturbed move (by simp)
    obtain ⟨t', ht', rfl | ⟨below, hbelow, hstep⟩⟩ :=
      (step_eq_some_iff.mp hnext).2.exists_next ht rfl fun habort haround =>
        hnow habort (hpart.trans haround)
    · exact ih hrest ht' hfault hlater
    · rw [hbelow] at hnow
      obtain ⟨parts', rfl, hfault'⟩ :=
        hstep.exists_joining (isAbort_eq_false_of_isPart hpart hnow) hfault
      exact ih hrest ht' hfault' hlater

/-- In a run to the end a unit that has failed is disturbed: some unit around it is aborted. -/
theorem not_undisturbed_of_attains {slots : Nat} {plan : Plan} {s : State}
    {schedule : List (Path × Move)} (h : (start slots plan).follow schedule = some s)
    (hend : s.root.isEnded = true) {unit : Path} (hunit : unit ≠ []) {cause : Fault}
    (hfault : (start slots plan).Attains schedule unit (.error cause)) :
    ¬ Undisturbed unit schedule := by
  intro hundisturbed
  obtain ⟨whole, i, rfl⟩ := (List.eq_nil_or_concat' unit).resolve_left hunit
  obtain ⟨before, mid, ⟨rest, rfl⟩, hbefore, hat⟩ := hfault
  rw [follow_append, hbefore] at h
  rw [Task.at?_append] at hat
  obtain ⟨t, ht, hpart⟩ := Option.bind_eq_some_iff.mp hat
  have hcourse : t.isOnCourse = true :=
    (onCourseAround_start slots plan _).follow hbefore
      (hundisturbed.mono (List.subset_append_left _ _)) whole t ⟨i, [], rfl⟩ ht
  cases t with
  | joining parts join recover =>
    obtain ⟨q, hq, hself⟩ := Option.bind_eq_some_iff.mp hpart
    cases hself
    have hcause : parts[i]?.bind Task.fault? = some cause := by
      rw [show parts[i]? = some (.finished (.error cause)) from hq]
      rfl
    obtain ⟨parts', hwaits⟩ := exists_joining_of_fault h ht hcause
      (hundisturbed.mono (List.subset_append_right _ _))
    cases Task.isEnded_at? hend hwaits
  | unwinding | leaving | halting | stopped => cases hcourse
  | _ => cases hpart

/-- Of the aborted units around a unit one is in no other. -/
theorem exists_undisturbed_abort {unit : Path} {schedule : List (Path × Move)}
    (h : ¬ Undisturbed unit schedule) :
    ∃ whole part, IsPart unit whole ∧ (whole, Move.abort part) ∈ schedule ∧
      Undisturbed whole schedule := by
  induction hlength : unit.length using Nat.strongRecOn generalizing unit with
  | ind n ih =>
    subst hlength
    simp only [Undisturbed, not_forall, not_not] at h
    obtain ⟨⟨whole, m⟩, hmove, habort, hpart⟩ := h
    obtain ⟨part, rfl⟩ : ∃ part, m = .abort part := by
      cases m with
      | abort part => exact ⟨part, rfl⟩
      | _ => cases habort
    by_cases hwhole : Undisturbed whole schedule
    · exact ⟨whole, part, hpart, hmove, hwhole⟩
    · have hshorter : whole.length < unit.length := by
        obtain ⟨i, below, rfl⟩ := hpart
        simp
      obtain ⟨outer, j, haround, hrest⟩ := ih whole.length hshorter hwhole rfl
      exact ⟨outer, j, hpart.trans haround, hrest⟩

/-! ## What aborted units come to -/

/-- In a run to the end an aborted unit recovers from the fault of a part as its plan says, unless a unit
around it is aborted. -/
theorem exists_recovery_of_abort {slots : Nat} {plan : Plan} {s : State} {schedule : List (Path × Move)}
    (h : (start slots plan).follow schedule = some s) (hend : s.root.isEnded = true) {whole : Path}
    {part : Nat} (habort : (whole, .abort part) ∈ schedule) (hundisturbed : Undisturbed whole schedule) :
    ∃ p recover cause, plan.at? whole = some p ∧ p.recovery = some recover ∧
      (start slots plan).Attains schedule (whole ++ [part]) (.error cause) ∧
      (start slots plan).Attains schedule whole (recover cause) := by
  obtain ⟨before, rest, rfl⟩ := List.append_of_mem habort
  rw [follow_append] at h
  obtain ⟨mid, hbefore, hafter⟩ := Option.bind_eq_some_iff.mp h
  obtain ⟨next, hnext, hrest⟩ := follow_cons.mp hafter
  obtain ⟨parts, join, recover, cause, hwhole, hpart, hunwinds⟩ := exists_of_step_abort hnext
  obtain ⟨p, hp, halone⟩ := areAlone_follow hbefore whole _ hwhole rfl
  refine ⟨p, recover, cause, hp, ?_, (Attains.now hpart _).append hbefore, ?_⟩
  · rcases halone.recovery_eq with hnone | hsame
    · cases hnone
    · exact hsame.symm
  · -- From the abort on, the only result that the unit can come to is what it recovers to.
    have hlater : Undisturbed whole rest :=
      hundisturbed.mono fun move hmove => List.mem_append_right _ (List.mem_cons_of_mem _ hmove)
    obtain ⟨result, hresult, hrecovers⟩ :=
      exists_attains_of_keeps (fun t => t.Ensures unrestricted fun result => result = recover cause)
        (fun hstep => hstep.ensures (fun _ _ => trivial) fun _ => trivial) hrest hend hunwinds rfl hlater
        rfl
    obtain rfl : result = recover cause := hrecovers
    exact (hresult.cons hnext).append hbefore

/-- The result that the outermost unit has come to is that of the run. -/
theorem Attains.result? {s s' : State} {schedule : List (Path × Move)} {result : Attempt Outcome}
    (h : s.Attains schedule [] result) (hfollow : s.follow schedule = some s') :
    s'.result? = some result := by
  obtain ⟨before, mid, ⟨rest, rfl⟩, hbefore, hroot⟩ := h
  rw [follow_append, hbefore] at hfollow
  have hresult : mid.result? = some result := result?_eq_some_iff.mpr (Option.some.inj hroot)
  cases rest with
  | nil =>
    obtain rfl := follow_nil.mp hfollow
    exact hresult
  | cons move rest =>
    obtain ⟨next, hnext, -⟩ := follow_cons.mp hfollow
    rw [isFinal_of_result? hresult move.1 move.2] at hnext
    cases hnext

/-! ## Units that are waited for -/

/-- In a run to the end every unit ends while it is still there, be it told to end or not. -/
theorem exists_isEnded {s s' : State} {schedule : List (Path × Move)} (h : s.follow schedule = some s')
    (hend : s'.root.isEnded = true) {unit : Path} {t : Task} (ht : s.root.at? unit = some t) :
    ∃ later mid t', later <+: schedule ∧ s.follow later = some mid ∧ mid.root.at? unit = some t' ∧
      t'.isEnded = true := by
  induction schedule generalizing s t with
  | nil =>
    obtain rfl := follow_nil.mp h
    exact ⟨[], s, t, List.nil_prefix, rfl, ht, Task.isEnded_at? hend ht⟩
  | cons move rest ih =>
    cases hopen : t.isEnded with
    | true => exact ⟨[], s, t, List.nil_prefix, rfl, ht, hopen⟩
    | false =>
      obtain ⟨next, hnext, hrest⟩ := follow_cons.mp h
      obtain ⟨t', ht'⟩ := (step_eq_some_iff.mp hnext).2.exists_at? ht hopen
      obtain ⟨later, mid, u, hlater, hmid, hu, hended⟩ := ih hrest ht'
      exact ⟨move :: later, mid, u, List.cons_prefix_cons.mpr ⟨rfl, hlater⟩,
        follow_cons.mpr ⟨next, hnext, hmid⟩, hu, hended⟩

/-- After a unit was aborted, no part of it calls a hook. -/
theorem callsOf_eq_nil_of_abort {s s' : State} {whole : Path} {part : Nat}
    {rest : List (Path × Move)} (h : s.follow ((whole, .abort part) :: rest) = some s') {c : Conduct}
    (hs : s.root.Conducts c) {unit : Path} (hunit : IsPart unit whole) :
    s.callsOf unit ((whole, .abort part) :: rest) = [] := by
  obtain ⟨next, hnext, hrest⟩ := follow_cons.mp h
  obtain ⟨c', hc', hcontinues⟩ := (step_eq_some_iff.mp hnext).2.conducts hs
  obtain ⟨_, -, hcalls⟩ := conducts_follow hrest hc'
  have hother : unit ≠ whole := by
    obtain ⟨i, below, rfl⟩ := hunit
    simp
  have hlater : next.callsOf unit rest = [] := by
    have hbegins := (hcalls unit).1
    rw [hcontinues.dropped unit rfl hunit] at hbegins
    exact List.prefix_nil.mp hbegins
  simp only [callsOf, hnext, if_neg hother, hlater, List.append_nil]

end State

section

variable {registry : Custom.Registry} {standard : Value} {context : Context} {rule : Rule} {value : Value}

/-! ## Recovering from faults -/

theorem recovery_planItems {common : Common} {element : Rule} {planElement : Value → Plan}
    {checked : Attempt Outcome} {recover : Fault → Attempt Outcome}
    (h : (planItems common standard context value element planElement checked).recovery = some recover) :
    recover = fun cause => guarded value (.error cause) := by
  unfold planItems at h
  rw [Plan.recovery] at h
  split at h
  · split at h
    · exact (Option.some.inj h).symm
    · cases h
  · cases h

/-- Records and arrays inside a record recover from a fault as from one of their own. -/
theorem recovery_planValue (hvalue : value.isBlank = false) (hrule : rule.isConditional = false)
    {recover : Fault → Attempt Outcome}
    (h : (planValue registry standard context rule value).recovery = some recover) :
    recover = fun cause => guarded value (.error cause) := by
  have hshape : Shape registry standard context rule value _ := planValue_shape hvalue hrule
  generalize planValue registry standard context rule value = p at h hshape
  cases hshape with
  | whole _ =>
    have hnone : (planWhole registry standard context rule value).recovery = none := Plan.recovery_work _
    rw [hnone] at h
    cases h
  | fields _ => exact (Option.some.inj h).symm
  | rejected _ _ => cases h
  | items _ => exact recovery_planItems h

/-- The whole record fails with every fault of a field. -/
theorem recovery_planRecord {schema : Schema} {recover : Fault → Attempt Outcome}
    (h : (planRecord registry standard context schema value).recovery = some recover) :
    recover = .error := by
  unfold planRecord at h
  split at h
  · exact (Option.some.inj h).symm
  · cases h

variable {schema : Schema} {path : Path} {p : Plan} {recover : Fault → Attempt Outcome}

/-- The unit at a position recovers from the fault of a part as from one of its own. -/
theorem SchemaReaches.recovery_eq {visit : Visit} (h : SchemaReaches context schema value path visit)
    (hp : (planRecord registry standard context schema value).at? path = some p)
    (hrecovery : p.recovery = some recover) (cause : Fault) :
    recover cause = guarded visit.value (.error cause) := by
  obtain rfl := h.plan_eq hp
  rw [recovery_planValue h.isBlank_value h.isConditional hrecovery]

/-- Inside a record no unit recovers from a fault that aborts. -/
theorem recovery_of_isAborting (hpath : path ≠ [])
    (hp : (planRecord registry standard context schema value).at? path = some p)
    (hrecovery : p.recovery = some recover) {cause : Fault} (hcause : cause.isAborting = true) :
    recover cause = .error cause := by
  obtain ⟨i, below, rfl⟩ := List.exists_cons_of_ne_nil hpath
  rcases planRecord_located hp with ⟨visit, hvisit⟩ | ⟨o, rfl⟩ | ⟨fault, rfl, -⟩
  · rw [hvisit.recovery_eq hp hrecovery]
    exact guarded_eq_error_iff.mpr ⟨rfl, hcause⟩
  · cases hrecovery
  · cases hrecovery

/-- A part for which the choice of a rule fails is a field of the record at the position around it. -/
theorem Undecided.exists_visit {whole : Path} {part : Nat} {cause : Fault} (hwhole : whole ≠ [])
    (h : Undecided context schema value (whole ++ [part]) cause) :
    ∃ visit, SchemaReaches context schema value whole visit ∧ visit.Undecides part cause := by
  generalize hpath : whole ++ [part] = path at h
  cases h with
  | outermost _ _ =>
    have hlength := congrArg List.length hpath
    simp at hlength
    exact absurd hlength hwhole
  | nested hinside =>
    obtain ⟨whole', i, visit, rfl, hvisit, hundecides⟩ := hinside
    obtain ⟨rfl, hpart⟩ := List.append_inj' hpath rfl
    cases hpart
    exact ⟨visit, hvisit, hundecides⟩

/-! ## Validations -/

/-- Whether a nested record around a unit was aborted because the choice of a rule fails for a field of
it, and has taken that for an error of its own. -/
def Overtaken (context : Context) (schema : Schema) (value : Value) (s : State)
    (schedule : List (Path × Move)) (unit : Path) : Prop :=
  ∃ whole visit part cause, IsPart unit whole ∧ (whole, Move.abort part) ∈ schedule ∧
    SchemaReaches context schema value whole visit ∧ visit.Undecides part cause ∧
    cause.isAborting = false ∧ s.Attains schedule whole (.ok (.reject visit.value [faultEntry cause]))

/-- How a validation of a record, whose plan is given, comes to its end along a schedule, and what becomes of
the faults of its units. -/
structure EndsInOrder (context : Context) (schema : Schema) (value : Value) (slots : Nat) (plan : Plan)
    (s : State) (schedule : List (Path × Move)) : Prop where
  /-- no order of moves goes on for ever -/
  terminates : (State.start slots plan).Terminates
  /-- the record comes to a result, and is not cancelled itself -/
  ended : ∃ result, s.root = .finished result
  /-- all slots are free -/
  freed : s.free = slots
  /-- every unit that was ever started has ended, with a result or because it was told to -/
  awaited : ∀ before rest mid unit t, schedule = before ++ rest →
    (State.start slots plan).follow before = some mid → mid.root.at? unit = some t →
    ∃ later mid' t', later <+: rest ∧ mid.follow later = some mid' ∧ mid'.root.at? unit = some t' ∧
      t'.isEnded = true
  /-- once a unit is aborted, no part of it calls a hook -/
  silenced : ∀ before whole part rest mid unit, schedule = before ++ (whole, Move.abort part) :: rest →
    (State.start slots plan).follow before = some mid → IsPart unit whole →
    mid.callsOf unit ((whole, .abort part) :: rest) = []
  /-- if a unit fails, then the whole record fails with the fault of a field, or a record around the unit is
  overtaken by a field for which the choice of a rule fails -/
  raised : ∀ unit fault, (State.start slots plan).Attains schedule unit (.error fault) →
    (∃ i cause, s.result? = some (.error cause) ∧
      (State.start slots plan).Attains schedule [i] (.error cause)) ∨
    Overtaken context schema value (State.start slots plan) schedule unit

variable {slots : Nat} {s : State} {schedule : List (Path × Move)}

/-- If the whole record fails, then it does so with the fault of a field. -/
theorem exists_attains_of_result
    (h : (State.start slots (planRecord registry standard context schema value)).follow schedule = some s)
    {fault : Fault} (hresult : s.result? = some (.error fault)) :
    ∃ i, (State.start slots (planRecord registry standard context schema value)).Attains schedule [i]
      (.error fault) := by
  cases value with
  | dict entries =>
    rcases State.exists_attains_of_fork h hresult with
      ⟨outcomes, -, -, hjoined⟩ | ⟨i, cause, hcause, hfault⟩
    · cases hjoined
    · cases hfault
      exact ⟨i, hcause⟩
  | _ =>
    have hrejects := Plan.eq_of_canComeTo_ends ⟨schedule, s, h, hresult⟩
    cases hrejects

/-- A unit that fails takes all units around it with it, up to the whole record, or one of them is overtaken
by another part. -/
theorem raised_of_attains (hend : s.root.isEnded = true)
    (h : (State.start slots (planRecord registry standard context schema value)).follow schedule = some s)
    {unit : Path} {fault : Fault} (hunit : unit ≠ [])
    (hfault : (State.start slots (planRecord registry standard context schema value)).Attains schedule unit
      (.error fault)) :
    (∃ i cause, s.result? = some (.error cause) ∧
      (State.start slots (planRecord registry standard context schema value)).Attains schedule [i]
        (.error cause)) ∨
    Overtaken context schema value
      (State.start slots (planRecord registry standard context schema value)) schedule unit := by
  have hdisturbed := State.not_undisturbed_of_attains h hend hunit hfault
  obtain ⟨whole, part, hpart, habort, hundisturbed⟩ := State.exists_undisturbed_abort hdisturbed
  obtain ⟨p, recover, cause, hp, hrecovery, hcause, hwhole⟩ :=
    State.exists_recovery_of_abort h hend habort hundisturbed
  by_cases houter : whole = []
  · subst houter
    cases hp
    obtain rfl := recovery_planRecord hrecovery
    exact .inl ⟨part, cause, hwhole.result? h, hcause⟩
  · have hharmless : cause.isAborting = false := by
      refine Bool.eq_false_iff.mpr fun haborting => ?_
      -- Otherwise the unit fails in turn, and is no more the outermost one that is aborted.
      rw [recovery_of_isAborting houter hp hrecovery haborting] at hwhole
      exact State.not_undisturbed_of_attains h hend houter hwhole hundisturbed
    have hundecided : Undecided context schema value (whole ++ [part]) cause := by
      obtain ⟨q, hq, hcomes⟩ := hcause.exists_plan
      refine (isAborting_of_canComeTo (by simp) hq hcomes).resolve_left ?_
      rw [hharmless]
      exact Bool.false_ne_true
    obtain ⟨visit, hvisit, hundecides⟩ := hundecided.exists_visit houter
    rw [hvisit.recovery_eq hp hrecovery, guarded_error hharmless] at hwhole
    exact .inr ⟨whole, visit, part, cause, hpart, habort, hvisit, hundecides, hharmless, hwhole⟩

/-- A validation of a record waits for every unit that it starts, and gives back all slots; and if a unit
fails, then so does the whole record, unless the choice of a rule fails for a field of a nested record around
the unit. -/
theorem endsInOrder_of_follow (hslots : 1 ≤ slots)
    (h : (State.start slots (planRecord registry standard context schema value)).follow schedule = some s)
    (hfinal : s.IsFinal) :
    EndsInOrder context schema value slots (planRecord registry standard context schema value) s
      schedule := by
  have hsound := (State.sound_start slots (planRecord registry standard context schema value)).follow h
  obtain ⟨result, hroot⟩ := hsound.exists_result hslots hfinal
  have hend : s.root.isEnded = true := hsound.isEnded hslots hfinal
  refine ⟨State.terminates _, ⟨result, hroot⟩, ?_, ?_, ?_, ?_⟩
  · have hslots := hsound.slots_eq
    rw [hroot] at hslots
    exact hslots
  · rintro before rest mid unit t rfl hbefore ht
    rw [State.follow_append, hbefore] at h
    exact State.exists_isEnded h hend ht
  · rintro before whole part rest mid unit rfl hbefore hunit
    rw [State.follow_append, hbefore] at h
    obtain ⟨c, hconducts, -⟩ := planRecord_conducts registry standard context schema value
    obtain ⟨c', hc', -⟩ := State.conducts_follow hbefore hconducts
    exact State.callsOf_eq_nil_of_abort h hc' hunit
  · intro unit fault hfault
    by_cases hunit : unit = []
    · subst hunit
      have hresult : s.result? = some (.error fault) := hfault.result? h
      obtain ⟨i, hi⟩ := exists_attains_of_result h hresult
      exact .inl ⟨i, fault, hresult, hi⟩
    · exact raised_of_attains hend h hunit hfault

end

/-! ### Two validations with a hook that gives no answer -/

/-- A unit comes to a fault that aborts, from what can be computed of it. -/
theorem State.exists_attains_of_any (s : State) (before rest : List (Path × Move)) (unit : Path)
    (h : (s.follow before).any (fun mid => ((mid.root.at? unit).bind Task.fault?).any (·.isAborting)) = true) :
    ∃ fault, s.Attains (before ++ rest) unit (.error fault) ∧ fault.isAborting = true := by
  obtain ⟨mid, hbefore, hunit⟩ := (Option.any_eq_true _ _).mp h
  obtain ⟨fault, hfault, haborting⟩ := (Option.any_eq_true _ _).mp hunit
  obtain ⟨t, ht, hcause⟩ := Option.bind_eq_some_iff.mp hfault
  obtain rfl := Task.fault?_eq_some_iff.mp hcause
  exact ⟨fault, ⟨before, mid, List.prefix_append before rest, hbefore, ht⟩, haborting⟩

namespace Sample

/-- A text with a hook that answers with a number, which is no answer. -/
def unanswered : Rule := checkedText fun _ => .int 42

/-- The moves of a field of the first nested record. -/
def nestedMoves (i : Nat) : List (Path × Move) := (fieldMoves i).map fun move => (0 :: move.1, move.2)

/-- A record with such a text in a nested one, and two other texts beside that. -/
def abortedSchema : Schema :=
  ⟨[(.text "o", nested [(.text "a", unanswered)]), (.text "x", checkedText fun _ => .null),
    (.text "y", checkedText fun _ => .null)], []⟩

/-- A record with these texts. -/
def aborted : Value :=
  .dict [(.text "o", .dict failingEntries), (.text "x", .text "w"), (.text "y", .text "u")]

/-- The plan for the record. -/
def abortedPlan : Plan := planRecord (.empty "none") (.int 100) context abortedSchema aborted

/-- The moves up to the fault: the first of the other texts is in its hook by then, and the second one stands
in line for a slot. -/
def movesToFault : List (Path × Move) :=
  [([], .begin), ([0], .begin)] ++
    [Move.begin, .grant, .enter, .release, .begin, .grant, .enter].map ([1], ·) ++
    nestedMoves 0 ++ [([2], .begin)]

/-- The moves from the fault on: both records are aborted, the inner one first, and the other texts end. -/
def movesFromFault : List (Path × Move) :=
  [([0], .abort 0), ([0], .settle), ([], .abort 0), ([1], .release), ([1], .leave), ([2], .leave),
    ([], .settle)]

/-- A record with a nested one, in which such a text stands behind one under a condition that cannot be
decided. -/
def overtakenSchema : Schema :=
  ⟨[(.text "o", nested [(.text "b", undecidedText), (.text "a", unanswered)])], []⟩

/-- The plan for a record under this schema. -/
def overtakenPlan : Plan :=
  planRecord (.empty "none") (.int 100) context overtakenSchema (.dict [(.text "o", .dict failingEntries)])

/-- The moves of both texts up to their faults, that of the condition first. -/
def movesToFaults : List (Path × Move) :=
  [([], .begin), ([0], .begin), ([0, 0], .begin)] ++ nestedMoves 1

/-- The nested record is aborted on account of the condition, and joined with nothing else. -/
def movesFromFaults : List (Path × Move) :=
  [([0], .abort 0), ([0], .settle), ([], .merge), ([], .begin)]

end Sample

/-- A fault in a nested record ends the whole record, while another unit is in its hook and a third one stands
in line for a slot. -/
theorem endsInOrder_of_follow_sample :
    ∃ s fault cause, (State.start 2 Sample.abortedPlan).follow
        (Sample.movesToFault ++ Sample.movesFromFault) = some s ∧
      EndsInOrder Sample.context Sample.abortedSchema Sample.aborted 2 Sample.abortedPlan s
        (Sample.movesToFault ++ Sample.movesFromFault) ∧
      (State.start 2 Sample.abortedPlan).Attains (Sample.movesToFault ++ Sample.movesFromFault) [0, 0]
        (.error fault) ∧ fault.isAborting = true ∧ s.result? = some (.error cause) := by
  have hfails : ((State.start 2 Sample.abortedPlan).follow
      (Sample.movesToFault ++ Sample.movesFromFault)).any (·.root.fault?.isSome) = true := by
    decide +kernel
  obtain ⟨s, h, hs⟩ := (Option.any_eq_true _ _).mp hfails
  obtain ⟨cause, hcause⟩ := Option.isSome_iff_exists.mp hs
  have hresult : s.result? = some (.error cause) :=
    State.result?_eq_some_iff.mpr (Task.fault?_eq_some_iff.mp hcause)
  obtain ⟨fault, hfault, haborting⟩ := State.exists_attains_of_any (.start 2 Sample.abortedPlan)
    Sample.movesToFault Sample.movesFromFault [0, 0] (by decide +kernel)
  have hends := endsInOrder_of_follow (Nat.le_succ 1) h (State.isFinal_of_result? hresult)
  exact ⟨s, fault, cause, h, hends, hfault, haborting, hresult⟩

/-- A unit can fail with a fault that aborts, and the whole record still comes to an outcome. -/
theorem not_raised_of_undecided :
    ¬ ∀ (registry : Custom.Registry) (standard : Value) (context : Context) (schema : Schema)
      (value : Value) (slots : Nat) (s : State) (schedule : List (Path × Move)) (unit : Path)
      (fault : Fault),
      1 ≤ slots →
      (State.start slots (planRecord registry standard context schema value)).follow schedule = some s →
      s.IsFinal →
      (State.start slots (planRecord registry standard context schema value)).Attains schedule unit
        (.error fault) → fault.isAborting = true →
      ∃ cause, s.result? = some (.error cause) := by
  intro hall
  obtain ⟨s, outcome, h, hresult⟩ := exists_outcome_of_follow (.start 1 Sample.overtakenPlan)
    (Sample.movesToFaults ++ Sample.movesFromFaults) (by decide +kernel)
  obtain ⟨fault, hfault, haborting⟩ := State.exists_attains_of_any (.start 1 Sample.overtakenPlan)
    Sample.movesToFaults Sample.movesFromFaults [0, 1] (by decide +kernel)
  obtain ⟨cause, hcause⟩ := hall _ _ _ _ _ 1 s _ [0, 1] fault (Nat.le_refl 1) h
    (State.isFinal_of_result? hresult) hfault haborting
  rw [hresult] at hcause
  cases hcause

end RecordCheck.Parallel
