import RecordCheck.Proofs.Parallel.Accord

/-!
# Which hooks are called

In every run of a validation the hook of the rule that is active at a position is called just when the
value there has passed all checks and the hooks of its parts have accepted theirs.  There are no other
calls: a conditional rule is never active itself, so that a hook of its own is never called.

Two things can keep a hook from its call.  A timeout that is no duration, such as an integer too large for
the clock, makes it fail in its slot.  And a unit that is told to end, because a sibling of it or of a unit
around it has failed with a fault, may have passed its checks and not have called its hook yet.
-/

set_option autoImplicit false

namespace RecordCheck.Parallel

section

variable {registry : Custom.Registry} {standard : Value} {context : Context} {rule : Rule}
  {value : Value}

/-- At every position the context is that of the record around it, for the same validation. -/
theorem Reaches.context_eq {path : Path} {visit : Visit} (h : Reaches context rule value path visit) :
    visit.context = context.forData visit.context.data := by
  induction h with
  | here _ _ => rfl
  | field _ _ _ _ ih => exact ih
  | item _ _ _ _ _ ih => exact ih

theorem SchemaReaches.context_eq {schema : Schema} {path : Path} {visit : Visit}
    (h : SchemaReaches context schema value path visit) :
    visit.context = context.forData visit.context.data := by
  cases h with
  | field _ _ inside => exact inside.context_eq

/-- At every position the rule that is active is not conditional. -/
theorem Reaches.isConditional {path : Path} {visit : Visit} (h : Reaches context rule value path visit) :
    visit.rule.isConditional = false := by
  induction h with
  | here selected _ => exact Rule.isConditional_of_activate selected
  | field _ _ _ _ ih => exact ih
  | item _ _ _ _ _ ih => exact ih

theorem SchemaReaches.isConditional {schema : Schema} {path : Path} {visit : Visit}
    (h : SchemaReaches context schema value path visit) : visit.rule.isConditional = false := by
  cases h with
  | field _ _ inside => exact inside.isConditional

/-- In a run to the end the hook at a position is called at most once, and only if the value there has
passed all checks and the hooks of its parts have accepted theirs, with what became of it and the context
of the record around it; it is called if this is so, unless a unit around the position is aborted.  There
are no other calls. -/
theorem callsOf_planRecord {schema : Schema} {slots : Nat} {s : State} {schedule : List (Path × Move)}
    (hslots : 1 ≤ slots)
    (h : (State.start slots (planRecord registry standard context schema value)).follow schedule =
      some s)
    (hfinal : s.IsFinal) :
    (∀ unit visit, SchemaReaches context schema value unit visit →
      visit.context = context.forData visit.context.data ∧
      (State.start slots (planRecord registry standard context schema value)).callsOf unit schedule <+:
        visit.calls registry standard ∧
      (State.Undisturbed unit schedule →
        (State.start slots (planRecord registry standard context schema value)).callsOf unit schedule =
          visit.calls registry standard)) ∧
    ∀ unit, (∀ visit, ¬ SchemaReaches context schema value unit visit) →
      (State.start slots (planRecord registry standard context schema value)).callsOf unit schedule =
        [] := by
  obtain ⟨c, hconducts, hmatches⟩ := planRecord_conducts registry standard context schema value
  have hcalls := State.callsOf_of_conducts hslots hconducts h hfinal
  constructor
  · intro unit visit hvisit
    rw [← hmatches.called unit visit hvisit]
    exact ⟨hvisit.context_eq, hcalls unit⟩
  · intro unit hnone
    have hbegins := (hcalls unit).1
    rw [hmatches.uncalled unit hnone] at hbegins
    exact List.prefix_nil.mp hbegins

end

/-- A whole number of milliseconds is a limit if it is a floating point number in seconds. -/
theorem limit_of_isFinite {ms : Int}
    (h : (Number.Binary64.ofRatio (ms < 0) ms.natAbs 1000).isFinite = true) :
    Duration.ofValue (.int ms) = .ok (.finite ms) :=
  if_pos (e := refuse .largeTimeout) h

namespace Sample

theorem limit_standard : Duration.ofValue (.int 100) = .ok (.finite 100) :=
  limit_of_isFinite (by decide +kernel)

/-- The position of the first text of the record. -/
def nameVisit : Visit :=
  ⟨context.forData [(.text "name", .text "ann"), (.text "mail", .text "a@b.c")],
    checkedText fun _ => .null, .text "ann"⟩

/-- Its hook is called with the text and accepts it. -/
theorem calls_nameVisit : nameVisit.calls (.empty "none") (.int 100) =
    [⟨.text "ann", nameVisit.context, some (.ok .null)⟩] := by
  have hlimit : Duration.ofValue (timeoutOf nameVisit.rule.common (.int 100)) = .ok (.finite 100) :=
    limit_standard
  have hcut : isCutOff (hook (fun _ => .null) (.text "ann") nameVisit.context) (.finite 100) = false := by
    decide +kernel
  have hchecked : nameVisit.checked (.empty "none") (.int 100) = some (.text "ann") := rfl
  rw [Visit.calls, hchecked, callsAfter, hlimit]
  change [HookCall.mk _ _ (endingUnder (hook (fun _ => .null) (.text "ann") _) (.finite 100))] = _
  rw [endingUnder, hcut]
  rfl

end Sample

/-- While the fields of a record are validated side by side, the hook of the first one is called, and there
is no call for the record itself. -/
theorem callsOf_planRecord_sample :
    (State.start 2 (Sample.plan Sample.rejection)).callsOf [0] Sample.sideBySide =
        [⟨.text "ann", Sample.nameVisit.context, some (.ok .null)⟩] ∧
      (State.start 2 (Sample.plan Sample.rejection)).callsOf [] Sample.sideBySide = [] := by
  have hended : ((State.start 2 (Sample.plan Sample.rejection)).follow Sample.sideBySide).any
      (·.root.isEnded) = true := by decide +kernel
  obtain ⟨s, h, hend⟩ := (Option.any_eq_true _ _).mp hended
  have hreached : SchemaReaches Sample.context (Sample.schema Sample.rejection) Sample.record [0]
      Sample.nameVisit := .field rfl rfl (.here rfl rfl)
  obtain ⟨hcalled, huncalled⟩ :=
    callsOf_planRecord (Nat.le_succ 1) h (State.isFinal_of_isEnded hend)
  obtain ⟨-, -, hcalls⟩ := hcalled [0] Sample.nameVisit hreached
  refine ⟨?_, huncalled [] fun visit hvisit => by cases hvisit⟩
  rw [← Sample.calls_nameVisit]
  exact hcalls (State.undisturbed_of_unaborted (by decide) _)

/-- A run that comes to an outcome, from what can be computed of it. -/
theorem exists_outcome_of_follow (s : State) (schedule : List (Path × Move))
    (h : (s.follow schedule).any (fun s => (s.result?.bind (·.toOption)).isSome) = true) :
    ∃ s' outcome, s.follow schedule = some s' ∧ s'.result? = some (.ok outcome) := by
  obtain ⟨s', hfollow, hresult⟩ := (Option.any_eq_true _ _).mp h
  obtain ⟨outcome, houtcome⟩ := Option.isSome_iff_exists.mp hresult
  obtain ⟨result, hresult, hok⟩ := Option.bind_eq_some_iff.mp houtcome
  rw [toOption_eq_some_iff.mp hok] at hresult
  exact ⟨s', outcome, hfollow, hresult⟩

/-- Whether the hook at a position whose value passes is called just once, in runs that come to an outcome
and at positions of some kind. -/
def CallsHooksOnce (kind : List (Path × Move) → Value → Visit → Prop) : Prop :=
  ∀ (registry : Custom.Registry) (standard : Value) (context : Context) (schema : Schema) (value : Value)
    (slots : Nat) (s : State) (schedule : List (Path × Move)) (outcome : Outcome) (unit : Path)
    (visit : Visit) (hook : Hook) (found : Value),
    1 ≤ slots →
    (State.start slots (planRecord registry standard context schema value)).follow schedule = some s →
    s.result? = some (.ok outcome) → SchemaReaches context schema value unit visit →
    visit.rule.common.hook = some hook → visit.checked registry standard = some found →
    kind schedule standard visit →
    ((State.start slots (planRecord registry standard context schema value)).callsOf unit
      schedule).length = 1

namespace Sample

/-- A text under a condition that cannot be decided for every number. -/
def undecidedText : Rule :=
  .conditional ⟨.bool false, none, .null⟩ (.text "n") ⟨none, none, .null, .int 0, .null⟩
    (.text ⟨.bool false, none, .null⟩ ⟨.null, .null, .null, .null⟩) none none

/-- A nested record without defaults. -/
def nested (fields : List (Value × Rule)) : Rule := .object ⟨.bool false, none, .null⟩ fields []

/-- A record with two nested ones, of which the first has a field that fails. -/
def failingSchema : Schema :=
  ⟨[(.text "o", nested [(.text "a", checkedText fun _ => .null), (.text "b", undecidedText)]),
    (.text "x", checkedText fun _ => .null),
    (.text "p", nested [(.text "y", checkedText fun _ => .null)])], []⟩

/-- The first nested record, with a number that is not one. -/
def failingEntries : Entries :=
  [(.text "a", .text "v"), (.text "n", .number (.decimal (.nan false false none))), (.text "b", .text "t")]

/-- A record in which a field of the first nested one fails. -/
def failing : Value :=
  .dict [(.text "o", .dict failingEntries), (.text "x", .text "w"), (.text "p", .dict [(.text "y", .text "u")])]

/-- The moves of the record with one slot.  The text in the first nested record has passed its checks and
stands in line behind that in the second one when its sibling fails. -/
def cutShort : List (Path × Move) :=
  [([], .begin), ([0], .begin), ([1], .begin), ([1], .grant), ([1], .enter), ([1], .release),
    ([1], .begin), ([1], .grant), ([1], .enter), ([2], .begin), ([0, 0], .begin), ([0, 1], .begin),
    ([1], .pass), ([1], .release), ([0, 0], .grant), ([1], .begin), ([2, 0], .begin),
    ([0, 0], .enter), ([0, 0], .release), ([2, 0], .grant), ([0, 0], .begin), ([0], .abort 1),
    ([2, 0], .enter), ([2, 0], .release), ([2, 0], .begin), ([2, 0], .grant), ([2, 0], .enter),
    ([0, 0], .leave), ([0], .settle), ([2, 0], .pass), ([2, 0], .release), ([2, 0], .begin),
    ([2], .merge), ([2], .begin), ([], .merge), ([], .begin)]

end Sample

/-- Neither a run without aborts nor a timeout by which a hook can be called is enough by itself for it to
be called. -/
theorem not_callsHooksOnce :
    ¬ CallsHooksOnce (fun schedule _ _ => Unaborted schedule) ∧
      ¬ CallsHooksOnce (fun _ standard visit =>
        (Duration.ofValue (timeoutOf visit.rule.common standard)).isOk = true) := by
  constructor
  · intro hall
    obtain ⟨s, outcome, h, hresult⟩ := exists_outcome_of_follow (.start 1
      (planRecord (.empty "none") (.int 100) Sample.context Sample.unhurried Sample.record))
      Sample.uncalled (by decide +kernel)
    have hcalls := hall _ _ _ _ _ 1 s _ outcome [0] _ _ (.text "ann") (Nat.le_refl 1) h hresult
      (.field rfl rfl (.here rfl rfl)) rfl rfl (by decide)
    exact absurd hcalls (by decide +kernel)
  · intro hall
    obtain ⟨s, outcome, h, hresult⟩ := exists_outcome_of_follow (.start 1
      (planRecord (.empty "none") (.int 100) Sample.context Sample.failingSchema Sample.failing))
      Sample.cutShort (by decide +kernel)
    have hcalls := hall _ _ _ _ _ 1 s _ outcome [0, 0] _ _ (.text "v") (Nat.le_refl 1) h hresult
      (.field rfl rfl (.field rfl rfl rfl (.here rfl rfl))) rfl rfl (by decide +kernel)
    exact absurd hcalls (by decide +kernel)

/-! ## Hooks of conditional rules -/

section

variable {registry : Custom.Registry} {standard : Value} {context : Context} {value : Value}

/-- Every call in a run, whether it has come to its end or not, is the call of the hook of a rule that is
active at a position, and thus not conditional. -/
theorem exists_visit_of_mem_callsAlong {schema : Schema} {slots : Nat} {s : State}
    {schedule : List (Path × Move)} {call : HookCall}
    (h : (State.start slots (planRecord registry standard context schema value)).follow schedule =
      some s)
    (hcall : call ∈ (State.start slots (planRecord registry standard context schema value)).callsAlong
      schedule) :
    ∃ unit visit hook limit, SchemaReaches context schema value unit visit ∧
      visit.rule.isConditional = false ∧ visit.rule.common.hook = some hook ∧
      Duration.ofValue (timeoutOf visit.rule.common standard) = .ok limit ∧
      visit.checked registry standard = some call.argument ∧ call.context = visit.context ∧
      call.ending = endingUnder (hook call.argument visit.context) limit := by
  obtain ⟨c, hconducts, hmatches⟩ := planRecord_conducts registry standard context schema value
  obtain ⟨_, -, hcalls⟩ := State.conducts_follow h hconducts
  obtain ⟨unit, hunit⟩ := State.mem_callsAlong_iff.mp hcall
  have hmem : call ∈ c.calls unit := (hcalls unit).1.subset hunit
  by_cases hreached : ∃ visit, SchemaReaches context schema value unit visit
  · obtain ⟨visit, hvisit⟩ := hreached
    rw [hmatches.called unit visit hvisit] at hmem
    obtain ⟨hook, limit, hhook, hlimit, hchecked, hcontext, hending⟩ :=
      Visit.exists_hook_of_mem_calls hmem
    exact ⟨unit, visit, hook, limit, hvisit, hvisit.isConditional, hhook, hlimit, hchecked, hcontext,
      hending⟩
  · rw [hmatches.uncalled unit fun visit hvisit => hreached ⟨visit, hvisit⟩] at hmem
    cases hmem

end

/-- There is a call while the fields of a record are validated side by side. -/
theorem exists_visit_of_mem_callsAlong_sample :
    ∃ call ∈ (State.start 2 (Sample.plan Sample.rejection)).callsAlong Sample.sideBySide,
      ∃ unit visit hook limit, SchemaReaches Sample.context (Sample.schema Sample.rejection)
          Sample.record unit visit ∧
        visit.rule.isConditional = false ∧ visit.rule.common.hook = some hook ∧
        Duration.ofValue (timeoutOf visit.rule.common (.int 100)) = .ok limit ∧
        visit.checked (.empty "none") (.int 100) = some call.argument ∧ call.context = visit.context ∧
        call.ending = endingUnder (hook call.argument visit.context) limit := by
  have hsome : ((State.start 2 (Sample.plan Sample.rejection)).follow Sample.sideBySide).isSome := by
    decide +kernel
  have hcalls : 0 < ((State.start 2 (Sample.plan Sample.rejection)).callsAlong
      Sample.sideBySide).length := by decide +kernel
  obtain ⟨s, h⟩ := Option.isSome_iff_exists.mp hsome
  obtain ⟨call, hcall⟩ := List.exists_mem_of_length_pos hcalls
  exact ⟨call, hcall, exists_visit_of_mem_callsAlong h hcall⟩

namespace Sample

/-- A text under a condition, with a hook of the conditional rule that rejects it. -/
def hookedBranch : Rule :=
  .conditional ⟨.bool false, some (hook rejection), .null⟩ (.text "kind")
    ⟨some (.text "k"), none, .null, .null, .null⟩
    (.text ⟨.bool false, none, .null⟩ ⟨.null, .null, .null, .null⟩) none none

/-- A record of one such text. -/
def hookedSchema : Schema := ⟨[(.text "name", hookedBranch)], []⟩

/-- A record in which the condition holds. -/
def hooked : Entries := [(.text "kind", .text "k"), (.text "name", .text "x")]

/-- The moves of the record: the text is validated, and no hook is called. -/
def unhooked : List (Path × Move) :=
  ([], .begin) :: [Move.begin, .grant, .enter, .release, .begin].map ([0], ·) ++
    [([], .merge), ([], .begin)]

end Sample

/-- The hook of a conditional rule is not called, be the value ever so acceptable. -/
theorem not_callsHook_of_conditional :
    ¬ ∀ (registry : Custom.Registry) (standard : Value) (context : Context) (schema : Schema)
      (entries : Entries) (slots : Nat) (s : State) (schedule : List (Path × Move)) (outcome : Outcome)
      (i : Nat) (name : Value) (common : Common) (field : Value) (conditions : Conditions)
      (consequent : Rule) (otherwise base : Option Rule) (hook : Hook) (key given found : Value),
      1 ≤ slots →
      (State.start slots (planRecord registry standard context schema (.dict entries))).follow schedule =
        some s →
      s.result? = some (.ok outcome) →
      schema.fields[i]? =
        some (name, .conditional common field conditions consequent otherwise base) →
      common.hook = some hook →
      (Entries.withDefaults entries schema.defaults).resolve name = some (key, given) →
      given.isBlank = false →
      settle registry standard (context.forData (Entries.withDefaults entries schema.defaults))
        (.conditional common field conditions consequent otherwise base) given = some found →
      ∃ call ∈ (State.start slots (planRecord registry standard context schema (.dict entries))).callsOf
        [i] schedule, call.argument = found := by
  intro hall
  obtain ⟨s, outcome, h, hresult⟩ := exists_outcome_of_follow (.start 1
    (planRecord (.empty "none") (.int 100) Sample.context Sample.hookedSchema (.dict Sample.hooked)))
    Sample.unhooked (by decide +kernel)
  obtain ⟨call, hcall, -⟩ := hall _ _ _ _ _ 1 s _ outcome 0 _ _ _ _ _ _ _ _ _ _ (.text "x")
    (Nat.le_refl 1) h hresult rfl rfl rfl rfl rfl
  have hnone : ((State.start 1 (planRecord (.empty "none") (.int 100) Sample.context
      Sample.hookedSchema (.dict Sample.hooked))).callsOf [0] Sample.unhooked).length = 0 := by
    decide +kernel
  rw [List.length_eq_zero_iff.mp hnone] at hcall
  cases hcall

end RecordCheck.Parallel
