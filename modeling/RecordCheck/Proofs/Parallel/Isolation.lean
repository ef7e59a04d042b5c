import RecordCheck.Proofs.Parallel.HookResults

/-!
# Where faults are reported

Whatever goes wrong while a value is checked, in its conversion, a custom validator or its hook, is reported
as an error of that value, and its siblings come to outcomes of their own.  There are two kinds of faults of
which this is not so.  Some are mistakes of the programmer, and abort all that is around them.  And if it
cannot be decided which rule is active for a field, the fault arises before anything looks after it: then it
is reported as an error of the nested record around the field, and for a field of the whole record it is all
that the validation comes to.
-/

set_option autoImplicit false

namespace RecordCheck

/-! ## Places where nothing can fail -/

/-- A value that no rule looks at comes to an outcome. -/
theorem exists_unchecked (value : Value) (required : Bool) : ∃ o, unchecked value required = .ok o := by
  unfold unchecked
  split
  · exact ⟨_, rfl⟩
  · exact ⟨_, rfl⟩

/-- A field that is not there comes to an outcome. -/
theorem Outcome.exists_absent (required : Bool) : ∃ o, Outcome.absent required = .ok o := by
  unfold Outcome.absent
  split
  · exact ⟨_, rfl⟩
  · exact ⟨_, rfl⟩

namespace Parallel

/-! ## Fields without a rule -/

/-- Whether a position is a record and the choice of a rule fails for one of its fields. -/
def Visit.Undecides (visit : Visit) (i : Nat) (fault : Fault) : Prop :=
  ∃ common fields defaults entries name r, visit.rule = .object common fields defaults ∧
    visit.value = .dict entries ∧ fields[i]? = some (name, r) ∧
    r.activate (Entries.withDefaults entries defaults) = .error fault

/-- Whether the choice of a rule fails for the field at a path, the record around it being at one of some
positions. -/
def UndecidedAmong (positions : Path → Visit → Prop) (path : Path) (fault : Fault) : Prop :=
  ∃ whole i visit, path = whole ++ [i] ∧ positions whole visit ∧ visit.Undecides i fault

/-- `Undecided context schema value path fault`: the choice of a rule fails for the field at a path. -/
inductive Undecided (context : Context) (schema : Schema) : Value → Path → Fault → Prop
  /-- a field of the whole record -/
  | outermost {entries : Entries} {i : Nat} {name : Value} {r : Rule} {fault : Fault}
      (isField : schema.fields[i]? = some (name, r))
      (fails : r.activate (Entries.withDefaults entries schema.defaults) = .error fault) :
      Undecided context schema (.dict entries) [i] fault
  /-- a field of a nested record -/
  | nested {value : Value} {path : Path} {fault : Fault}
      (inside : UndecidedAmong (SchemaReaches context schema value) path fault) :
      Undecided context schema value path fault

/-- What the unit at a path can be: at a position, in a place where nothing can fail, or a field for which
the choice of a rule fails. -/
def Located (positions : Path → Visit → Prop) (path : Path) (p : Plan) : Prop :=
  (∃ visit, positions path visit) ∨ (∃ o, p = .ends (.ok o)) ∨
    ∃ fault, p = .ends (.error fault) ∧ UndecidedAmong positions path fault

section

variable {positions others : Path → Visit → Prop} {path : Path} {p : Plan}

/-- Positions in a part are positions in the whole. -/
theorem UndecidedAmong.cons {fault : Fault} (h : UndecidedAmong positions path fault) {i : Nat}
    (hothers : ∀ path visit, positions path visit → others (i :: path) visit) :
    UndecidedAmong others (i :: path) fault := by
  obtain ⟨whole, j, visit, rfl, hvisit, hundecided⟩ := h
  exact ⟨i :: whole, j, visit, rfl, hothers whole visit hvisit, hundecided⟩

theorem Located.cons (h : Located positions path p) {i : Nat}
    (hothers : ∀ path visit, positions path visit → others (i :: path) visit) :
    Located others (i :: path) p := by
  rcases h with ⟨visit, hvisit⟩ | hends | ⟨fault, hp, hundecided⟩
  · exact .inl ⟨visit, hothers path visit hvisit⟩
  · exact .inr (.inl hends)
  · exact .inr (.inr ⟨fault, hp, hundecided.cons hothers⟩)

/-- In the plan of a unit that ends with an outcome at once there are no other units. -/
theorem located_ends {o : Outcome} (h : (Plan.ends (.ok o)).at? path = some p) :
    Located positions path p := by
  cases path with
  | nil =>
    cases h
    exact .inr (.inl ⟨o, rfl⟩)
  | cons i path => cases h

end

section

variable {registry : Custom.Registry} {standard : Value} {context : Context} {rule : Rule}
  {value : Value} {path : Path} {p : Plan}

/-- What the induction over rules shows: every unit in the plan for a value is located. -/
def AllLocated (registry : Custom.Registry) (standard : Value) (rule : Rule) : Prop :=
  ∀ (context : Context) (value : Value) (selected : Option Rule × Value),
    rule.activate context.data = .ok selected → ∀ (path : Path) (p : Plan),
      (planValue registry standard context rule value).at? path = some p →
      Located (Reaches context rule value) path p

theorem located_planUnchecked {positions : Path → Visit → Prop} {required : Bool}
    (h : (planUnchecked value required).at? path = some p) : Located positions path p := by
  obtain ⟨o, ho⟩ := exists_unchecked value required
  rw [planUnchecked, ho] at h
  exact located_ends h

/-- The units in the plan for a field are located if those in the plan for its value are, unless the choice
of a rule fails. -/
theorem located_planField {f : Value × Rule} (hrule : AllLocated registry standard f.2)
    (h : (planField context.data f.1 f.2 (planValue registry standard context f.2)).at? path = some p) :
    Located (InField context context.data f) path p ∨
      path = [] ∧ ∃ fault, p = .ends (.error fault) ∧ f.2.activate context.data = .error fault := by
  unfold planField at h
  cases hactive : f.2.activate context.data with
  | error fault =>
    rw [hactive] at h
    cases path with
    | nil =>
      cases h
      exact .inr ⟨rfl, fault, rfl, rfl⟩
    | cons i path => cases h
  | ok selected =>
    rw [hactive] at h
    dsimp only at h
    left
    cases hresolve : context.data.resolve f.1 with
    | none =>
      rw [hresolve] at h
      obtain ⟨o, ho⟩ := Outcome.exists_absent selected.2.isTruthy
      dsimp only at h
      rw [ho] at h
      exact located_ends h
    | some found =>
      rw [hresolve] at h
      have hpositions : InField context context.data f = Reaches context f.2 found.2 := by
        funext path visit
        simp [InField, hresolve, Prod.ext_iff]
      rw [hpositions]
      exact hrule context found.2 selected hactive path p h

/-- The unit of a value that is validated in one stay is at the position of that value. -/
theorem located_planWhole (hvalue : value.isBlank = false) (hrule : rule.isConditional = false)
    (h : (planWhole registry standard context rule value).at? path = some p) :
    Located (Reaches context rule value) path p := by
  cases path with
  | nil => exact .inl ⟨_, (reaches_nil_iff hrule).mpr ⟨hvalue, rfl⟩⟩
  | cons i path =>
    rw [Plan.at?_cons_of_children children_planWhole] at h
    cases h

/-- The units in the fields of a record are located if those in the plans for their values are, unless the
choice of a rule fails. -/
theorem located_planFields {data : Entries} {fields : List (Value × Rule)} {i : Nat}
    (hfields : ∀ f ∈ fields, AllLocated registry standard f.2)
    (h : (planFields registry standard (context.forData data) data fields)[i]?.bind (Plan.at? path) =
      some p) :
    ∃ f, fields[i]? = some f ∧ (Located (InField (context.forData data) data f) path p ∨
      path = [] ∧ ∃ fault, p = .ends (.error fault) ∧ f.2.activate data = .error fault) := by
  rw [planFields_eq_map, List.getElem?_map] at h
  obtain ⟨q, hq, hpath⟩ := Option.bind_eq_some_iff.mp h
  obtain ⟨f, hf, rfl⟩ := Option.map_eq_some_iff.mp hq
  exact ⟨f, hf, located_planField (hfields f (List.mem_of_getElem? hf)) hpath⟩

theorem located_fields {common : Common} {fields : List (Value × Rule)} {defaults entries : Entries}
    {i : Nat} {join : List Outcome → Work} {recover : Fault → Attempt Outcome}
    (hfields : ∀ f ∈ fields, AllLocated registry standard f.2)
    (h : (Plan.fork (planFields registry standard (context.forData (Entries.withDefaults entries defaults))
      (Entries.withDefaults entries defaults) fields) join recover).at? (i :: path) = some p) :
    Located (Reaches context (.object common fields defaults) (.dict entries)) (i :: path) p := by
  obtain ⟨f, hf, hlocated | ⟨rfl, fault, hp, hfails⟩⟩ := located_planFields hfields h
  · refine hlocated.cons fun path visit hvisit => ?_
    obtain ⟨key, v, hfound, hinside⟩ := hvisit
    exact reaches_object_iff.mpr ⟨entries, f, key, v, rfl, hf, hfound, hinside⟩
  · have hundecides : (Visit.mk context (.object common fields defaults) (.dict entries)).Undecides i fault :=
      ⟨common, fields, defaults, entries, f.1, f.2, rfl, rfl, hf, hfails⟩
    exact .inr (.inr ⟨fault, hp, [], i, _, rfl, (reaches_nil_iff rfl).mpr ⟨rfl, rfl⟩, hundecides⟩)

/-- The units in the items of an array are located if those in the plan for each item are. -/
theorem located_items {common : Common} {element : Rule} {checks : ArrayChecks} {i : Nat}
    (helement : AllLocated registry standard element) (hvalue : value.isBlank = false)
    (h : (planItems common standard context value element (planValue registry standard context element)
      (Coercion.coerceArray checks context.convert value)).at? (i :: path) = some p) :
    Located (Reaches context (.array common (some element) checks) value) (i :: path) p := by
  unfold planItems at h
  split at h
  · rename_i items notes hgiven
    split at h
    · rename_i selected hactive
      rw [Plan.at?, Plan.children, Plan.children, List.getElem?_map] at h
      obtain ⟨q, hq, hpath⟩ := Option.bind_eq_some_iff.mp h
      obtain ⟨item, hitem, rfl⟩ := Option.map_eq_some_iff.mp hq
      refine (helement context item selected hactive path p hpath).cons fun path visit hvisit => ?_
      exact reaches_array_iff.mpr ⟨hvalue, items, notes, item, hgiven, hitem, hvisit⟩
    · cases h
  · cases h

/-- Every unit in the plan for a value is located. -/
theorem planValue_located (rule : Rule) : AllLocated registry standard rule := by
  induction rule using Rule.induction with
  | conditional common field conditions consequent otherwise base hconsequent hotherwise hbase =>
    intro context value selected hactive path p h
    rw [Rule.activate_conditional] at hactive
    obtain ⟨holds, hholds, hbranch⟩ := Attempt.bind_eq_ok_iff.mp hactive
    rw [planValue_conditional, hholds] at h
    dsimp only at h
    cases htaken : Rule.branch holds consequent otherwise base with
    | none =>
      rw [htaken] at h
      exact located_planUnchecked h
    | some r =>
      rw [htaken] at h hbranch
      have hr : AllLocated registry standard r :=
        Rule.forall_branch hconsequent hotherwise hbase holds r htaken
      have hpositions : Reaches context (.conditional common field conditions consequent otherwise base)
          value = Reaches context r value := by
        funext path visit
        exact propext (reaches_iff_of_activate (Rule.activate_conditional_of_branch hholds htaken))
      rw [hpositions]
      exact hr context value selected hbranch path p h
  | object common fields defaults ih =>
    intro context value selected hactive path p h
    cases hblank : value.isBlank with
    | true =>
      simp only [planValue, hblank, if_true] at h
      exact located_planUnchecked h
    | false =>
      have hshape : Shape registry standard context (.object common fields defaults) value _ :=
        planValue_shape hblank rfl
      generalize planValue registry standard context (.object common fields defaults) value = q
        at h hshape
      cases path with
      | nil => exact .inl ⟨_, (reaches_nil_iff rfl).mpr ⟨hblank, rfl⟩⟩
      | cons i path =>
        cases hshape with
        | whole hundivided => exact located_planWhole hblank rfl h
        | fields _ => exact located_fields ih h
        | rejected _ _ => cases h
  | array common element checks ih =>
    intro context value selected hactive path p h
    cases hblank : value.isBlank with
    | true =>
      cases element <;> simp only [planValue, hblank, if_true] at h <;> exact located_planUnchecked h
    | false =>
      have hshape : Shape registry standard context (.array common element checks) value _ :=
        planValue_shape hblank rfl
      generalize planValue registry standard context (.array common element checks) value = q at h hshape
      cases path with
      | nil => exact .inl ⟨_, (reaches_nil_iff rfl).mpr ⟨hblank, rfl⟩⟩
      | cons i path =>
        cases hshape with
        | whole hundivided => exact located_planWhole hblank rfl h
        | items _ => exact located_items (ih _ rfl) hblank h
  | _ =>
    intro context value selected hactive path p h
    cases hblank : value.isBlank with
    | true =>
      simp only [planValue, hblank, if_true] at h
      exact located_planUnchecked h
    | false =>
      simp only [planValue, hblank, Bool.false_eq_true, if_false] at h
      exact located_planWhole hblank rfl h

/-- Every unit in the plan for a record is at a position or in a place where nothing can fail, or the choice
of a rule fails for it. -/
theorem planRecord_located {schema : Schema} {i : Nat}
    (h : (planRecord registry standard context schema value).at? (i :: path) = some p) :
    (∃ visit, SchemaReaches context schema value (i :: path) visit) ∨ (∃ o, p = .ends (.ok o)) ∨
      ∃ fault, p = .ends (.error fault) ∧ Undecided context schema value (i :: path) fault := by
  cases value with
  | dict entries =>
    obtain ⟨f, hf, hlocated | ⟨rfl, fault, hp, hfails⟩⟩ :=
      located_planFields (fun f _ => planValue_located f.2) h
    · have hinside : Located (SchemaReaches context schema (.dict entries)) (i :: path) p := by
        refine hlocated.cons fun path visit hvisit => ?_
        obtain ⟨key, v, hfound, hreaches⟩ := hvisit
        exact .field hf hfound hreaches
      rcases hinside with hvisit | hends | ⟨fault, hp, hundecided⟩
      · exact .inl hvisit
      · exact .inr (.inl hends)
      · exact .inr (.inr ⟨fault, hp, .nested hundecided⟩)
    · exact .inr (.inr ⟨fault, hp, .outermost hf hfails⟩)
  | _ => cases h

/-! ## What is guarded -/

/-- Whether a result is no fault but one that aborts. -/
def OnlyAborts : Condition := fun result => ∀ fault, result = .error fault → fault.isAborting = true

theorem onlyAborts_ok (o : Outcome) : OnlyAborts (.ok o) := nofun

theorem onlyAborts_guarded (value : Value) (result : Attempt Outcome) : OnlyAborts (guarded value result) :=
  fun _ hfault => (guarded_eq_error_iff.mp hfault).2

/-- Of every plan something holds that holds of all results. -/
theorem Plan.ensures_trivial (plan : Plan) : plan.Ensures unrestricted fun _ => True := by
  induction plan using Plan.induction with
  | ends result => trivial
  | stay s next ih => exact fun _ => ih
  | fork children join recover ih =>
    refine ⟨children.map fun _ _ => True, ?_, fun _ _ _ => trivial, fun _ _ _ => trivial⟩
    rw [ensuresAll_iff, List.forall₂_map_right_iff, List.forall₂_same]
    exact ih

/-- What holds of all that a fork joins and recovers to holds of its results. -/
theorem Plan.ensures_fork {children : List Plan} {join : List Outcome → Work}
    {recover : Fault → Attempt Outcome} {post : Condition} (hjoin : ∀ outcomes, post (join outcomes).result)
    (hrecover : ∀ cause, post (recover cause)) :
    (fork children join recover).Ensures unrestricted post := by
  refine ⟨children.map fun _ _ => True, ?_, fun outcomes _ _ => hjoin outcomes, fun _ cause _ =>
    hrecover cause⟩
  rw [ensuresAll_iff, List.forall₂_map_right_iff, List.forall₂_same]
  exact fun p _ => p.ensures_trivial

theorem planWhole_onlyAborts :
    (planWhole registry standard context rule value).Ensures unrestricted OnlyAborts :=
  fun _ => Plan.ensures_work.mpr fun _ => onlyAborts_guarded value _

/-- The plan for an array ensures what holds of all that is guarded. -/
theorem planItems_onlyAborts {common : Common} {element : Rule} {planElement : Value → Plan}
    {checked : Attempt Outcome} :
    (planItems common standard context value element planElement checked).Ensures unrestricted
      OnlyAborts := by
  unfold planItems
  intro _
  split
  · split
    · exact Plan.ensures_fork (fun _ => onlyAborts_guarded _ _) fun _ => onlyAborts_guarded _ _
    · exact onlyAborts_guarded _ _
  · exact onlyAborts_guarded _ _

/-- The unit at a position comes to no fault but one that aborts. -/
theorem planValue_onlyAborts (hvalue : value.isBlank = false) (hrule : rule.isConditional = false) :
    (planValue registry standard context rule value).Ensures unrestricted OnlyAborts := by
  have hshape : Shape registry standard context rule value _ := planValue_shape hvalue hrule
  generalize planValue registry standard context rule value = p at hshape
  cases hshape with
  | whole hundivided => exact planWhole_onlyAborts
  | fields _ => exact Plan.ensures_fork (fun _ => onlyAborts_guarded _ _) fun _ => onlyAborts_guarded _ _
  | rejected _ _ => exact onlyAborts_ok _
  | items _ => exact planItems_onlyAborts

/-! ## What goes wrong at a position -/

/-- `visit.FailsWith registry standard fault`: at a position something goes wrong. -/
inductive Visit.FailsWith (registry : Custom.Registry) (standard : Value) (visit : Visit) :
    Fault → Prop
  /-- in the checks of a value that is validated in one stay, custom validators and all -/
  | checks {fault : Fault} (undivided : isDivided visit.rule = false)
      (fails : visit.rule.validate registry visit.context false visit.value = .error fault) :
      visit.FailsWith registry standard fault
  /-- in the checks of an array whose items are validated side by side -/
  | array {common : Common} {element : Rule} {checks : ArrayChecks} {fault : Fault}
      (isArray : visit.rule = .array common (some element) checks) (divided : element.hasHook = true)
      (fails : Coercion.coerceArray checks visit.context.convert visit.value = .error fault) :
      visit.FailsWith registry standard fault
  /-- in the choice of a rule for its items -/
  | items {common : Common} {element : Rule} {checks : ArrayChecks} {fault : Fault} {items : List Value}
      {notes : Value} (isArray : visit.rule = .array common (some element) checks)
      (divided : element.hasHook = true)
      (given : Coercion.coerceArray checks visit.context.convert visit.value =
        .ok (.accepted (.list items) notes))
      (fails : element.activate visit.context.data = .error fault) :
      visit.FailsWith registry standard fault
  /-- in the call of the hook -/
  | hook {hook : Hook} {found : Value} {fault : Fault} (isHook : visit.rule.common.hook = some hook)
      (passes : visit.checked registry standard = some found)
      (fails : (callHook hook visit.rule.typeName (timeoutOf visit.rule.common standard) found
        visit.context).result = .error fault) : visit.FailsWith registry standard fault

/-- What goes wrong at a position is guarded there. -/
theorem Visit.FailsWith.ensures {visit : Visit} {fault : Fault}
    (h : visit.FailsWith registry standard fault) (hvalue : visit.value.isBlank = false)
    (hrule : visit.rule.isConditional = false) :
    (planValue registry standard visit.context visit.rule visit.value).Ensures unrestricted
      fun result => result = guarded visit.value (.error fault) := by
  obtain ⟨context, rule, value⟩ := visit
  have hshape : Shape registry standard context rule value _ := planValue_shape hvalue hrule
  cases h with
  | checks hundivided hfails =>
    dsimp only at hundivided hfails ⊢
    generalize planValue registry standard context rule value = p at hshape ⊢
    cases hshape with
    | whole _ =>
      rw [planWhole, hfails]
      exact fun _ => Plan.ensures_work.mpr fun _ => rfl
    | fields hdivided | rejected hdivided _ | items hdivided =>
      rw [isDivided, hdivided] at hundivided
      cases hundivided
  | @array common element checks _ hrule hdivided hfails =>
    dsimp only at hrule hfails ⊢
    subst hrule
    generalize planValue registry standard context (.array common (some element) checks) value = p
      at hshape ⊢
    cases hshape with
    | whole hundivided =>
      rw [isDivided, hdivided] at hundivided
      cases hundivided
    | items _ =>
      unfold planItems
      rw [hfails]
      exact fun _ => rfl
  | @items common element checks _ items notes hrule hdivided hgiven hfails =>
    dsimp only at hrule hgiven hfails ⊢
    subst hrule
    generalize planValue registry standard context (.array common (some element) checks) value = p
      at hshape ⊢
    cases hshape with
    | whole hundivided =>
      rw [isDivided, hdivided] at hundivided
      cases hundivided
    | items _ =>
      unfold planItems
      rw [hgiven]
      dsimp only
      rw [hfails]
      exact fun _ => rfl
  | hook hhook hpasses hfails =>
    have hdecides := planValue_ensures_of_checked hvalue hrule hhook hpasses
    rw [resultOfHook, hfails] at hdecides
    exact hdecides

/-! ## Fields without a rule fail -/

/-- A field for which the choice of a rule fails ends with that fault at once. -/
theorem getElem?_planFields_of_error {data : Entries} {fields : List (Value × Rule)} {i : Nat} {r : Rule}
    {name : Value} {fault : Fault} (hfield : fields[i]? = some (name, r))
    (hfails : r.activate data = .error fault) :
    (planFields registry standard context data fields)[i]? = some (.ends (.error fault)) := by
  rw [planFields_eq_map, List.getElem?_map, hfield, Option.map_some, planField, hfails]

/-- If the choice of a rule fails for a field of a nested record, and the fields are units of their own, the
plan for the record is a fork of which a part fails. -/
theorem Visit.Undecides.exists_fork {visit : Visit} {i : Nat} {fault : Fault}
    (h : visit.Undecides i fault) {p : Plan}
    (hp : (planValue registry standard visit.context visit.rule visit.value).at? [i] = some p) :
    p = .ends (.error fault) ∧ ∃ children join,
      planValue registry standard visit.context visit.rule visit.value =
        .fork children join (fun cause => guarded visit.value (.error cause)) := by
  obtain ⟨common, fields, defaults, entries, name, r, hrule, hvalue, hfield, hfails⟩ := h
  have hshape : Shape registry standard visit.context (.object common fields defaults) (.dict entries) _ :=
    planValue_shape rfl rfl
  rw [hrule, hvalue] at hp ⊢
  generalize planValue registry standard visit.context (.object common fields defaults) (.dict entries) = q
    at hp hshape ⊢
  cases hshape with
  | whole _ =>
    rw [Plan.at?_cons_of_children children_planWhole] at hp
    cases hp
  | fields _ =>
    rw [Plan.at?, Plan.children, getElem?_planFields_of_error hfield hfails] at hp
    cases hp
    exact ⟨rfl, _, _, rfl⟩
  | rejected _ hnone => exact absurd rfl (hnone entries)

/-- The plan of a field for which the choice of a rule fails. -/
theorem Undecided.plan_eq {schema : Schema} {fault : Fault} (h : Undecided context schema value path fault)
    (hp : (planRecord registry standard context schema value).at? path = some p) :
    p = .ends (.error fault) := by
  cases h with
  | outermost hfield hfails =>
    rw [planRecord, Plan.at?, Plan.children, getElem?_planFields_of_error hfield hfails] at hp
    cases hp
    rfl
  | nested hinside =>
    obtain ⟨whole, i, visit, rfl, hvisit, hundecides⟩ := hinside
    rw [Plan.at?_append] at hp
    obtain ⟨q, hq, hpart⟩ := Option.bind_eq_some_iff.mp hp
    obtain rfl := hvisit.plan_eq hq
    exact (hundecides.exists_fork hpart).1

/-- A plan that ends at once comes to nothing else. -/
theorem Plan.eq_of_canComeTo_ends {slots : Nat} {expected result : Attempt Outcome}
    (h : (Plan.ends expected).CanComeTo slots result) : result = expected := by
  have hends : (Plan.ends expected).Ensures unrestricted fun r => r = expected := rfl
  exact hends.of_canComeTo h

/-! ## Validations -/

/-- Where the faults of a validation of a record, whose plan is given, are reported. -/
structure ReportsFaults (registry : Custom.Registry) (standard : Value) (context : Context)
    (schema : Schema) (value : Value) (slots : Nat) (plan : Plan) (s : State)
    (schedule : List (Path × Move)) : Prop where
  /-- what goes wrong at a position, and does not abort, is the only error of the value there -/
  reported : ∀ unit visit fault, SchemaReaches context schema value unit visit →
    (plan.at? unit).isSome → visit.FailsWith registry standard fault → fault.isAborting = false →
    (State.start slots plan).Yields s schedule unit (.ok (.reject visit.value [faultEntry fault]))
  /-- no unit fails but with a fault that aborts, or because the choice of a rule fails -/
  contained : ∀ unit fault, unit ≠ [] → (State.start slots plan).Attains schedule unit (.error fault) →
    fault.isAborting = true ∨ Undecided context schema value unit fault
  /-- a field for which the choice of a rule fails comes to no outcome -/
  undecided : ∀ unit fault, Undecided context schema value unit fault → (plan.at? unit).isSome →
    (State.start slots plan).Yields s schedule unit (.error fault)
  /-- its fault, or that of another field, is an error of the nested record around it, or aborts that -/
  nested : ∀ whole visit i fault, SchemaReaches context schema value whole visit →
    visit.Undecides i fault → (plan.at? (whole ++ [i])).isSome →
    ∀ result, (State.start slots plan).Attains schedule whole result →
      (∃ cause, cause.isAborting = true ∧ result = .error cause) ∨
        ∃ j cause, Undecided context schema value (whole ++ [j]) cause ∧
          result = .ok (.reject visit.value [faultEntry cause])
  /-- the whole record fails with the fault of a field, or every field reports its own outcome -/
  outermost : ∀ entries, value = .dict entries → ∃ result, s.result? = some result ∧
    ((∃ i cause, (State.start slots plan).Attains schedule [i] (.error cause) ∧ result = .error cause) ∨
      ∃ outcomes : List Outcome, outcomes.length = schema.fields.length ∧
        (∀ i o, outcomes[i]? = some o → (State.start slots plan).Attains schedule [i] (.ok o)) ∧
        result = .ok (mergeFields (Entries.withDefaults entries schema.defaults)
          ((namesOf schema.fields).zip outcomes)))

/-- A plan inside that of a record comes to no fault but one that aborts, unless the choice of a rule fails
for the field that it is the plan of. -/
theorem isAborting_of_canComeTo {schema : Schema} {slots : Nat} {fault : Fault} (hpath : path ≠ [])
    (hp : (planRecord registry standard context schema value).at? path = some p)
    (hcomes : p.CanComeTo slots (.error fault)) :
    fault.isAborting = true ∨ Undecided context schema value path fault := by
  obtain ⟨i, path, rfl⟩ := List.exists_cons_of_ne_nil hpath
  rcases planRecord_located hp with ⟨visit, hvisit⟩ | ⟨o, rfl⟩ | ⟨cause, rfl, hundecided⟩
  · left
    obtain rfl := hvisit.plan_eq hp
    exact (planValue_onlyAborts hvisit.isBlank_value hvisit.isConditional).of_canComeTo hcomes fault rfl
  · cases Plan.eq_of_canComeTo_ends hcomes
  · right
    cases Plan.eq_of_canComeTo_ends hcomes
    exact hundecided

variable {schema : Schema} {slots : Nat} {s : State} {schedule : List (Path × Move)}

/-- What a nested record comes to, if the choice of a rule fails for one of its fields. -/
theorem result_of_undecides {whole : Path} {visit : Visit} {i : Nat} {fault : Fault}
    {result : Attempt Outcome} (hvisit : SchemaReaches context schema value whole visit)
    (hundecides : visit.Undecides i fault)
    (hpart : ((planRecord registry standard context schema value).at? (whole ++ [i])).isSome)
    (hwhole : (planRecord registry standard context schema value).at? whole = some p)
    (hcomes : p.CanComeTo slots result) :
    (∃ cause, cause.isAborting = true ∧ result = .error cause) ∨
      ∃ j cause, Undecided context schema value (whole ++ [j]) cause ∧
        result = .ok (.reject visit.value [faultEntry cause]) := by
  obtain rfl := hvisit.plan_eq hwhole
  obtain ⟨q, hq⟩ := Option.isSome_iff_exists.mp hpart
  rw [Plan.at?_append, hwhole, Option.bind_some] at hq
  obtain ⟨rfl, children, join, hfork⟩ := hundecides.exists_fork hq
  rw [hfork] at hq hwhole hcomes
  obtain ⟨alone, s', hfollow, hresult⟩ := hcomes
  rcases State.exists_attains_of_fork hfollow hresult with
    ⟨outcomes, hlength, houtcomes, -⟩ | ⟨j, cause, hcause, rfl⟩
  · -- The field has no outcome that could be joined.
    obtain ⟨child, hchild, -⟩ := Option.bind_eq_some_iff.mp hq
    have hi : i < outcomes.length := hlength ▸ (List.getElem?_eq_some_iff.mp hchild).1
    obtain ⟨r, hr, hcomes⟩ := (houtcomes i _ (List.getElem?_eq_getElem hi)).exists_plan
    rw [hq] at hr
    cases hr
    cases Plan.eq_of_canComeTo_ends hcomes
  · obtain ⟨r, hr, hcomes⟩ := hcause.exists_plan
    have hpath : (planRecord registry standard context schema value).at? (whole ++ [j]) = some r := by
      rw [Plan.at?_append, hwhole]
      exact hr
    cases habort : cause.isAborting with
    | true => exact .inl ⟨cause, habort, by rw [guarded, habort, if_pos rfl]; rfl⟩
    | false =>
      rcases isAborting_of_canComeTo (by simp) hpath hcomes with htrue | hundecided
      · rw [habort] at htrue
        cases htrue
      · exact .inr ⟨j, cause, hundecided, guarded_error habort⟩

/-- In a run to the end what goes wrong at a position is reported there, and its siblings come to outcomes
of their own.  Only faults that abort, and faults in the choice of a rule for a field, are not contained:
these are reported for the nested record around the field, or are all that the whole record comes to. -/
theorem reportsFaults_of_follow (hslots : 1 ≤ slots)
    (h : (State.start slots (planRecord registry standard context schema value)).follow schedule = some s)
    (hfinal : s.IsFinal) :
    ReportsFaults registry standard context schema value slots
      (planRecord registry standard context schema value) s schedule where
  reported unit visit fault hvisit hunit hfails hharmless := by
    obtain ⟨p, hp⟩ := Option.isSome_iff_exists.mp hunit
    refine State.yields_of_canComeTo hslots h hp fun other hcomes => ?_
    obtain rfl := hvisit.plan_eq hp
    rw [← guarded_error hharmless]
    exact (hfails.ensures hvisit.isBlank_value hvisit.isConditional).of_canComeTo hcomes
  contained unit fault hunit hfault := by
    obtain ⟨p, hp, hcomes⟩ := hfault.exists_plan
    exact isAborting_of_canComeTo hunit hp hcomes
  undecided unit fault hundecided hunit := by
    obtain ⟨p, hp⟩ := Option.isSome_iff_exists.mp hunit
    refine State.yields_of_canComeTo hslots h hp fun other hcomes => ?_
    rw [hundecided.plan_eq hp] at hcomes
    exact Plan.eq_of_canComeTo_ends hcomes
  nested whole visit i fault hvisit hundecides hpart result hresult := by
    obtain ⟨p, hp, hcomes⟩ := hresult.exists_plan
    exact result_of_undecides hvisit hundecides hpart hp hcomes
  outermost entries hvalue := by
    subst hvalue
    obtain ⟨result, hroot⟩ := ((State.sound_start slots _).follow h).exists_result hslots hfinal
    have hresult : s.result? = some result := by rw [State.result?, hroot, Task.result?]
    refine ⟨result, hresult, ?_⟩
    rcases State.exists_attains_of_fork h hresult with
      ⟨outcomes, hlength, houtcomes, hjoined⟩ | ⟨i, cause, hcause, hrecovered⟩
    · refine .inr ⟨outcomes, ?_, houtcomes, hjoined⟩
      rw [hlength, planFields_eq_map, List.length_map]
    · exact .inl ⟨i, cause, hcause, hrecovered⟩

end

namespace Sample

/-- A record of two texts, the first of which is under a condition that cannot be decided for every
number. -/
def undecidedSchema : Schema :=
  ⟨[(.text "a", undecidedText), (.text "b", checkedText fun _ => .null)], []⟩

/-- The plan for a record in which it cannot be decided. -/
def undecidedPlan : Plan :=
  planRecord (.empty "none") (.int 100) context undecidedSchema (.dict failingEntries)

/-- The moves of the record: the first text fails, and the second one is told to end before it has begun. -/
def undecidedMoves : List (Path × Move) :=
  [([], .begin), ([0], .begin), ([], .abort 0), ([1], .leave), ([], .settle)]

/-- The condition compares with a decimal that is not a number. -/
theorem undecided_first : Undecided context undecidedSchema (.dict failingEntries) [0]
    (.operation (.decimal .invalidOperation)) := .outermost rfl rfl

end Sample

/-- A text under a condition that cannot be decided fails, unguarded, with the fault of the comparison. -/
theorem reportsFaults_of_follow_sample :
    ∃ s, (State.start 1 Sample.undecidedPlan).follow Sample.undecidedMoves = some s ∧
      ReportsFaults (.empty "none") (.int 100) Sample.context Sample.undecidedSchema
        (.dict Sample.failingEntries) 1 Sample.undecidedPlan s Sample.undecidedMoves ∧
      (State.start 1 Sample.undecidedPlan).Yields s Sample.undecidedMoves [0]
        (.error (.operation (.decimal .invalidOperation))) := by
  have hended : ((State.start 1 Sample.undecidedPlan).follow Sample.undecidedMoves).any
      (·.root.isEnded) = true := by decide +kernel
  obtain ⟨s, h, hend⟩ := (Option.any_eq_true _ _).mp hended
  have hreports := reportsFaults_of_follow (Nat.le_refl 1) h (State.isFinal_of_isEnded hend)
  exact ⟨s, h, hreports, hreports.undecided [0] _ Sample.undecided_first rfl⟩

/-- A fault that does not abort can be all that a validation comes to. -/
theorem not_reported_of_undecided :
    ¬ ∀ (registry : Custom.Registry) (standard : Value) (context : Context) (schema : Schema)
      (value : Value) (slots : Nat) (s : State) (schedule : List (Path × Move)) (fault : Fault),
      1 ≤ slots →
      (State.start slots (planRecord registry standard context schema value)).follow schedule = some s →
      s.result? = some (.error fault) → fault.isAborting = true := by
  intro hall
  have hfails : ((State.start 1 Sample.undecidedPlan).follow Sample.undecidedMoves).any (fun s =>
      s.root.fault?.any fun fault => !fault.isAborting) = true := by decide +kernel
  obtain ⟨s, h, hs⟩ := (Option.any_eq_true _ _).mp hfails
  obtain ⟨fault, hfault, hharmless⟩ := (Option.any_eq_true _ _).mp hs
  have hresult : s.result? = some (.error fault) := by
    rw [State.result?, Task.fault?_eq_some_iff.mp hfault, Task.result?]
  rw [hall _ _ _ _ _ 1 s _ fault (Nat.le_refl 1) h hresult] at hharmless
  cases hharmless

end Parallel

end RecordCheck
