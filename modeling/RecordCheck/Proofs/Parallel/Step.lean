import RecordCheck.Parallel.Task

/-!
# Steps of units

The moves that units can make, as a relation with one rule for each move and three for the places where
a part of a unit can move.  Every invariant of a validation under way is proved by cases on it: the
executable `stepAt` is searched for a part to change only here.
-/

set_option autoImplicit false

namespace RecordCheck.Parallel

/-! ## Induction on plans and units -/

/-- What holds of a fork when it holds of its children holds of every plan. -/
theorem Plan.induction {motive : Plan → Prop} (ends : ∀ result, motive (.ends result))
    (stay : ∀ s next, motive next → motive (.stay s next))
    (fork : ∀ children join recover, (∀ p ∈ children, motive p) →
      motive (.fork children join recover)) (plan : Plan) : motive plan :=
  @Plan.rec motive (fun plans => ∀ p ∈ plans, motive p) ends stay fork (by simp)
    (fun _ _ hfirst hrest => List.forall_mem_cons.mpr ⟨hfirst, hrest⟩) plan

/-- What holds of units with parts when it holds of the parts holds of every unit. -/
theorem Task.induction {motive : Task → Prop} (ready : ∀ plan, motive (.ready plan))
    (queued : ∀ s next, motive (.queued s next)) (granted : ∀ s next, motive (.granted s next))
    (holding : ∀ pauses next, motive (.holding pauses next))
    (joining : ∀ parts join recover, (∀ p ∈ parts, motive p) → motive (.joining parts join recover))
    (unwinding : ∀ cause parts recover, (∀ p ∈ parts, motive p) →
      motive (.unwinding cause parts recover))
    (leaving : ∀ holds, motive (.leaving holds))
    (halting : ∀ parts, (∀ p ∈ parts, motive p) → motive (.halting parts))
    (finished : ∀ result, motive (.finished result)) (stopped : motive .stopped) (t : Task) :
    motive t :=
  @Task.rec motive (fun tasks => ∀ p ∈ tasks, motive p) ready queued granted holding joining unwinding
    leaving halting finished stopped (by simp)
    (fun _ _ hfirst hrest => List.forall_mem_cons.mpr ⟨hfirst, hrest⟩) t

/-! ## Steps -/

/-- `Steps m path t t'`: the unit at a path in `t` can make a move, and `t'` is `t` after it. -/
inductive Task.Steps : Move → Path → Task → Task → Prop
  | begin (plan : Plan) : Steps .begin [] (.ready plan) (.begin plan)
  | grant (s : Stay) (next : Plan) : Steps .grant [] (.queued s next) (.granted s next)
  | enter (s : Stay) (next : Plan) : Steps .enter [] (.granted s next) (.holding s.pauses next)
  | pass (pause : Pause) (rest : List Pause) (next : Plan) :
      Steps .pass [] (.holding (pause :: rest) next) (.holding rest next)
  | release (next : Plan) : Steps .release [] (.holding [] next) (.ready next)
  | giveUp : Steps .release [] (.leaving true) (.leaving false)
  | merge {parts : List Task} {outcomes : List Outcome} (join : List Outcome → Work)
      (recover : Fault → Attempt Outcome) (hparts : parts.mapM outcome? = some outcomes) :
      Steps .merge [] (.joining parts join recover) (.ready (join outcomes).plan)
  | abort {i : Nat} {parts : List Task} {cause : Fault} (join : List Outcome → Work)
      (recover : Fault → Attempt Outcome) (hfault : parts[i]?.bind fault? = some cause) :
      Steps (.abort i) [] (.joining parts join recover)
        (.unwinding cause (cancelAll parts) recover)
  | settle {parts : List Task} (cause : Fault) (recover : Fault → Attempt Outcome)
      (hparts : parts.all isEnded) :
      Steps .settle [] (.unwinding cause parts recover) (.finished (recover cause))
  | leave : Steps .leave [] (.leaving false) .stopped
  | halt {parts : List Task} (hparts : parts.all isEnded) :
      Steps .halt [] (.halting parts) .stopped
  | inJoining {m : Move} {path : Path} {p p' : Task} (before after : List Task)
      (join : List Outcome → Work) (recover : Fault → Attempt Outcome)
      (hpart : Steps m path p p') :
      Steps m (before.length :: path) (.joining (before ++ p :: after) join recover)
        (.joining (before ++ p' :: after) join recover)
  | inUnwinding {m : Move} {path : Path} {p p' : Task} (cause : Fault) (before after : List Task)
      (recover : Fault → Attempt Outcome) (hpart : Steps m path p p') :
      Steps m (before.length :: path) (.unwinding cause (before ++ p :: after) recover)
        (.unwinding cause (before ++ p' :: after) recover)
  | inHalting {m : Move} {path : Path} {p p' : Task} (before after : List Task)
      (hpart : Steps m path p p') :
      Steps m (before.length :: path) (.halting (before ++ p :: after))
        (.halting (before ++ p' :: after))

namespace Task

/-- A list with one member changed has the members before and after it unchanged. -/
theorem changeAt_eq_some_iff {α : Type} {change : α → Option α} {i : Nat} {l l' : List α} :
    changeAt change i l = some l' ↔
      ∃ before a a' after, l = before ++ a :: after ∧ before.length = i ∧ change a = some a' ∧
        l' = before ++ a' :: after := by
  induction l generalizing i l' with
  | nil => simp [changeAt]
  | cons b rest ih =>
    cases i with
    | zero =>
      simp only [changeAt, Option.map_eq_some_iff]
      constructor
      · rintro ⟨b', hb, rfl⟩
        exact ⟨[], b, b', rest, rfl, rfl, hb, rfl⟩
      · rintro ⟨before, a, a', after, hl, hlength, ha, rfl⟩
        obtain rfl := List.length_eq_zero_iff.mp hlength
        simp only [List.nil_append, List.cons.injEq] at hl
        obtain ⟨rfl, rfl⟩ := hl
        exact ⟨a', ha, rfl⟩
    | succ i =>
      simp only [changeAt, Option.map_eq_some_iff, ih]
      constructor
      · rintro ⟨_, ⟨before, a, a', after, rfl, rfl, ha, rfl⟩, rfl⟩
        exact ⟨b :: before, a, a', after, rfl, rfl, ha, rfl⟩
      · rintro ⟨before, a, a', after, hl, hlength, ha, rfl⟩
        cases before with
        | nil => simp at hlength
        | cons c before =>
          simp only [List.cons_append, List.cons.injEq] at hl
          obtain ⟨rfl, rfl⟩ := hl
          exact ⟨_, ⟨before, a, a', after, rfl, by simpa using hlength, ha, rfl⟩, rfl⟩

/-- The member behind an initial part of a list is the one that is changed. -/
theorem changeAt_append {α : Type} {change : α → Option α} {a a' : α} (before after : List α)
    (ha : change a = some a') :
    changeAt change before.length (before ++ a :: after) = some (before ++ a' :: after) :=
  changeAt_eq_some_iff.mpr ⟨before, a, a', after, rfl, rfl, ha, rfl⟩

/-- When one member of a list is changed, the others stay. -/
theorem getElem?_of_ne {α : Type} {before after : List α} {a a' : α} {i : Nat} (hi : i ≠ before.length) :
    (before ++ a' :: after)[i]? = (before ++ a :: after)[i]? := by
  rw [List.getElem?_append, List.getElem?_append, List.getElem?_cons, List.getElem?_cons]
  split
  · rfl
  · rw [if_neg (by omega), if_neg (by omega)]

/-- A move that a unit itself can make is a step at the empty path. -/
theorem steps_nil_of_step {m : Move} {t t' : Task} (h : t.step m = some t') : Steps m [] t t' := by
  unfold step at h
  split at h
  case h_1 plan => cases h; exact .begin plan
  case h_2 s next => cases h; exact .grant s next
  case h_3 s next => cases h; exact .enter s next
  case h_4 pause rest next => cases h; exact .pass pause rest next
  case h_5 next => cases h; exact .release next
  case h_6 => cases h; exact .giveUp
  case h_7 parts join recover =>
    obtain ⟨outcomes, hparts, rfl⟩ := Option.map_eq_some_iff.mp h
    exact .merge join recover hparts
  case h_8 i parts join recover =>
    obtain ⟨cause, hfault, rfl⟩ := Option.map_eq_some_iff.mp h
    exact .abort join recover hfault
  case h_9 cause parts recover =>
    split at h
    · cases h; exact .settle cause recover ‹_›
    · cases h
  case h_10 => cases h; exact .leave
  case h_11 parts =>
    split at h
    · cases h; exact .halt ‹_›
    · cases h
  case h_12 => cases h

/-- The steps of a unit are what `stepAt` computes. -/
theorem stepAt_eq_some_iff {m : Move} {path : Path} {t t' : Task} :
    stepAt m path t = some t' ↔ Steps m path t t' := by
  constructor
  · intro h
    induction path generalizing t t' with
    | nil => exact steps_nil_of_step h
    | cons i path ih =>
      simp only [stepAt, changeParts] at h
      split at h
      case h_1 parts join recover =>
        obtain ⟨parts', hparts, rfl⟩ := Option.map_eq_some_iff.mp h
        obtain ⟨before, p, p', after, rfl, rfl, hp, rfl⟩ := changeAt_eq_some_iff.mp hparts
        exact .inJoining before after join recover (ih hp)
      case h_2 cause parts recover =>
        obtain ⟨parts', hparts, rfl⟩ := Option.map_eq_some_iff.mp h
        obtain ⟨before, p, p', after, rfl, rfl, hp, rfl⟩ := changeAt_eq_some_iff.mp hparts
        exact .inUnwinding cause before after recover (ih hp)
      case h_3 parts =>
        obtain ⟨parts', hparts, rfl⟩ := Option.map_eq_some_iff.mp h
        obtain ⟨before, p, p', after, rfl, rfl, hp, rfl⟩ := changeAt_eq_some_iff.mp hparts
        exact .inHalting before after (ih hp)
      case h_4 => cases h
  · intro h
    induction h with
    | merge join recover hparts => simp [stepAt, step, hparts]
    | abort join recover hfault => simp [stepAt, step, hfault]
    | settle cause recover hparts => simp [stepAt, step, hparts]
    | halt hparts => simp [stepAt, step, hparts]
    | inJoining before after join recover _ ih => simp [stepAt, changeParts, changeAt_append _ _ ih]
    | inUnwinding cause before after recover _ ih => simp [stepAt, changeParts, changeAt_append _ _ ih]
    | inHalting before after _ ih => simp [stepAt, changeParts, changeAt_append _ _ ih]
    | _ => rfl

end Task

namespace State

/-- A step of a validation is a step of one of its units for which there are slots. -/
theorem step_eq_some_iff {s s' : State} {path : Path} {m : Move} :
    s.step path m = some s' ↔
      m.slotsAfter s.free = some s'.free ∧ Task.Steps m path s.root s'.root := by
  cases s' with
  | mk free root =>
    simp only [step, Option.bind_eq_bind, Option.bind_eq_some_iff, Task.stepAt_eq_some_iff,
      Option.pure_def, Option.some.injEq, mk.injEq]
    constructor
    · rintro ⟨_, hfree, _, hroot, rfl, rfl⟩
      exact ⟨hfree, hroot⟩
    · rintro ⟨hfree, hroot⟩
      exact ⟨free, hfree, root, hroot, rfl, rfl⟩

/-- A validation after no move at all. -/
theorem follow_nil {s s' : State} : s.follow [] = some s' ↔ s = s' := Option.some_inj

/-- A validation after a schedule that begins with a move. -/
theorem follow_cons {s s' : State} {move : Path × Move} {schedule : List (Path × Move)} :
    s.follow (move :: schedule) = some s' ↔
      ∃ next, s.step move.1 move.2 = some next ∧ next.follow schedule = some s' := by
  simp [follow, Option.bind_eq_some_iff]

/-- An invariant of single steps holds throughout a schedule. -/
theorem follow_induction {P : State → Prop}
    (hstep : ∀ {s s' path m}, P s → s.step path m = some s' → P s') {s s' : State}
    {schedule : List (Path × Move)} (hs : P s) (h : s.follow schedule = some s') : P s' := by
  induction schedule generalizing s with
  | nil =>
    obtain rfl := follow_nil.mp h
    exact hs
  | cons move schedule ih =>
    obtain ⟨next, hnext, hrest⟩ := follow_cons.mp h
    exact ih (hstep hs hnext) hrest

end State

end RecordCheck.Parallel
