import RecordCheck.Parallel.Planning
import RecordCheck.Parallel.Task
import RecordCheck.Proofs.Validation
import RecordCheck.Proofs.Rule.Structure

/-!
# Positions and their calls

What validation asks of the hooks of a record can be said without units and slots, and without asking
which parts of a rule have hooks at all.  The positions of a record are the places, at any depth, where a
rule is active for a value that is not blank.  At each of them the value is checked, parts and their
hooks first; if it passes, the hook of the rule is called with what became of it, and has the last word.
-/

set_option autoImplicit false

namespace RecordCheck.Parallel

/-! ## What becomes of a value -/

/-- What the hook of a rule, if it has one, makes of a value that was accepted without it. -/
def afterHook (common : Common) (typeName : String) (standard : Value) (context : Context)
    (value : Value) : Option Value :=
  match common.hook with
  | none => some value
  | some hook =>
    acceptedBy (callHook hook typeName (timeoutOf common standard) value context).result

/-- What becomes of the value of a field, given what becomes of a value that is there. -/
def settleField (data : Entries) (name : Value) (rule : Rule) (settleValue : Value → Option Value) :
    Option Value :=
  match rule.activate data with
  | .error _ => none
  | .ok (_, required) =>
    match data.resolve name with
    | none => acceptedBy (Outcome.absent required.isTruthy)
    | some (_, value) => settleValue value

/-- What becomes of a record, given what becomes of its fields. -/
def settleRecord (defaults : Entries) (settleAll : Entries → Option (List (Value × Outcome))) :
    Value → Option Value
  | .dict entries =>
    let data := Entries.withDefaults entries defaults
    (settleAll data).map fun fields => .dict (recordOfFields data fields)
  | _ => none

/-- What becomes of an array, given what becomes of its items. -/
def settleItems (checks : ArrayChecks) (context : Context) (element : Rule)
    (settleElement : Value → Option Value) (value : Value) : Option Value :=
  match Coercion.coerceArray checks context.convert value, element.activate context.data with
  | .ok (.accepted (.list items) _), .ok _ => (items.mapM settleElement).map .list
  | _, _ => none

mutual

/-- What becomes of a value under a rule, in a place that may be left blank: none if some check or hook
does not accept. -/
def settle (registry : Custom.Registry) (standard : Value) (context : Context) :
    Rule → Value → Option Value
  | .conditional common field conditions consequent otherwise base, value =>
    match conditions.holdIn field context.data with
    | .error _ => none
    | .ok true => settle registry standard context consequent value
    | .ok false =>
      settleBranch registry standard context
        (settleBranch registry standard context
          (fun v => acceptedBy (unchecked v common.required.isTruthy)) base)
        otherwise value
  | .object common fields defaults, value =>
    if value.isBlank then acceptedBy (unchecked value common.required.isTruthy)
    else
      (settleRecord defaults
        (fun data => settleFields registry standard (context.forData data) data fields) value).bind
          (afterHook common "object" standard context)
  | .array common (some element) checks, value =>
    if value.isBlank then acceptedBy (unchecked value common.required.isTruthy)
    else
      (settleItems checks context element (settle registry standard context element) value).bind
        (afterHook common "array" standard context)
  | rule, value =>
    if value.isBlank then acceptedBy (unchecked value rule.isRequired)
    else
      (acceptedBy (rule.validate registry context false value)).bind
        (afterHook rule.common rule.typeName standard context)

/-- What becomes of a value under a branch, or as `absent` says if there is no such branch. -/
def settleBranch (registry : Custom.Registry) (standard : Value) (context : Context)
    (absent : Value → Option Value) : Option Rule → Value → Option Value
  | none, value => absent value
  | some r, value => settle registry standard context r value

/-- What becomes of the fields of a record, none if one of them is not accepted. -/
def settleFields (registry : Custom.Registry) (standard : Value) (context : Context) (data : Entries) :
    List (Value × Rule) → Option (List (Value × Outcome))
  | [] => some []
  | (name, r) :: rest =>
    (settleField data name r (settle registry standard context r)).bind fun value =>
      (settleFields registry standard context data rest).map ((name, .accept value) :: ·)

end

/-! ## Positions -/

/-- A position: the rule that is active there, which is not conditional, the value, and the context of
the nearest record around it. -/
structure Visit where
  context : Context
  rule : Rule
  value : Value

/-- `Reaches context rule value path visit`: the position at a path in a value under a rule. -/
inductive Reaches : Context → Rule → Value → Path → Visit → Prop
  /-- the value itself -/
  | here {context : Context} {rule active : Rule} {required value : Value}
      (selected : rule.activate context.data = .ok (some active, required))
      (present : value.isBlank = false) : Reaches context rule value [] ⟨context, active, value⟩
  /-- a position in a field that is there and not blank -/
  | field {context : Context} {rule r : Rule} {common : Common} {fields : List (Value × Rule)}
      {defaults entries : Entries} {required name key value : Value} {i : Nat} {path : Path}
      {visit : Visit}
      (selected : rule.activate context.data = .ok (some (.object common fields defaults), required))
      (isField : fields[i]? = some (name, r))
      (found : (Entries.withDefaults entries defaults).resolve name = some (key, value))
      (inside : Reaches (context.forData (Entries.withDefaults entries defaults)) r value path visit) :
      Reaches context rule (.dict entries) (i :: path) visit
  /-- a position in an item -/
  | item {context : Context} {rule element : Rule} {common : Common} {checks : ArrayChecks}
      {required value notes item : Value} {items : List Value} {i : Nat} {path : Path} {visit : Visit}
      (selected : rule.activate context.data = .ok (some (.array common (some element) checks), required))
      (present : value.isBlank = false)
      (given : Coercion.coerceArray checks context.convert value = .ok (.accepted (.list items) notes))
      (isItem : items[i]? = some item) (inside : Reaches context element item path visit) :
      Reaches context rule value (i :: path) visit

/-- `SchemaReaches context schema value path visit`: the position at a path in a record. -/
inductive SchemaReaches (context : Context) (schema : Schema) : Value → Path → Visit → Prop
  /-- a position in a field that is there and not blank -/
  | field {entries : Entries} {r : Rule} {name key value : Value} {i : Nat} {path : Path}
      {visit : Visit} (isField : schema.fields[i]? = some (name, r))
      (found : (Entries.withDefaults entries schema.defaults).resolve name = some (key, value))
      (inside : Reaches (context.forData (Entries.withDefaults entries schema.defaults)) r value path
        visit) : SchemaReaches context schema (.dict entries) (i :: path) visit

/-- The call of a rule's hook on a value that was accepted without it, if there is a hook and a timeout
by which it can be called. -/
def callsAfter (common : Common) (standard : Value) (context : Context) : Option Value → List HookCall
  | none => []
  | some value =>
    match common.hook, Duration.ofValue (timeoutOf common standard) with
    | some hook, .ok limit => [⟨value, context, endingUnder (hook value context) limit⟩]
    | _, _ => []

namespace Visit

/-- What becomes of the value at a position if all its parts are accepted, hooks and all, and so is the
value itself, its own hook left aside. -/
def checked (registry : Custom.Registry) (standard : Value) (v : Visit) : Option Value :=
  match v.rule with
  | .object _ fields defaults =>
    settleRecord defaults
      (fun data => settleFields registry standard (v.context.forData data) data fields) v.value
  | .array _ (some element) checks =>
    settleItems checks v.context element (settle registry standard v.context element) v.value
  | rule => acceptedBy (rule.validate registry v.context false v.value)

/-- The calls that are made at a position for its own rule. -/
def calls (registry : Custom.Registry) (standard : Value) (v : Visit) : List HookCall :=
  callsAfter v.rule.common standard v.context (v.checked registry standard)

end Visit

section

variable {registry : Custom.Registry} {standard : Value} {context : Context} {rule : Rule}
  {value : Value}

/-- A blank value is left alone if none is required. -/
theorem settle_of_isBlank (hvalue : value.isBlank = true) (hrule : rule.isConditional = false) :
    settle registry standard context rule value = acceptedBy (unchecked value rule.isRequired) := by
  cases rule with
  | conditional common field conditions consequent otherwise base => cases hrule
  | array common element checks => cases element <;> simp [settle, hvalue, Rule.isRequired, Rule.common]
  | _ => simp [settle, hvalue, Rule.isRequired, Rule.common]

/-- Any other value is checked, and then the hook has the last word. -/
theorem settle_of_not_isBlank (hvalue : value.isBlank = false) (hrule : rule.isConditional = false) :
    settle registry standard context rule value =
      ((Visit.mk context rule value).checked registry standard).bind
        (afterHook rule.common rule.typeName standard context) := by
  cases rule with
  | conditional common field conditions consequent otherwise base => cases hrule
  | array common element checks =>
    cases element <;> simp [settle, hvalue, Visit.checked, Rule.common, Rule.typeName]
  | _ => simp [settle, hvalue, Visit.checked, Rule.common, Rule.typeName]

/-- A conditional rule leaves it to the branch that it takes. -/
theorem settle_conditional {common : Common} {field : Value} {conditions : Conditions}
    {consequent : Rule} {otherwise base : Option Rule} :
    settle registry standard context (.conditional common field conditions consequent otherwise base)
        value =
      match conditions.holdIn field context.data with
      | .error _ => none
      | .ok holds =>
        match Rule.branch holds consequent otherwise base with
        | none => acceptedBy (unchecked value common.required.isTruthy)
        | some r => settle registry standard context r value := by
  rw [settle]
  rcases conditions.holdIn field context.data with fault | _ | _
  · rfl
  · cases otherwise <;> cases base <;> rfl
  · rfl

/-! ## Positions and branches -/

variable {path : Path} {visit : Visit}

/-- The rule that is active decides which positions there are. -/
theorem Reaches.of_activate {other : Rule} (h : Reaches context rule value path visit)
    (hother : rule.activate context.data = other.activate context.data) :
    Reaches context other value path visit := by
  cases h with
  | here selected present => exact .here (hother ▸ selected) present
  | field selected isField found inside => exact .field (hother ▸ selected) isField found inside
  | item selected present given isItem inside =>
    exact .item (hother ▸ selected) present given isItem inside

theorem reaches_iff_of_activate {other : Rule}
    (h : rule.activate context.data = other.activate context.data) :
    Reaches context rule value path visit ↔ Reaches context other value path visit :=
  ⟨fun hreaches => hreaches.of_activate h, fun hreaches => hreaches.of_activate h.symm⟩

/-- There are positions only where a rule is active. -/
theorem Reaches.exists_active (h : Reaches context rule value path visit) :
    ∃ active required, rule.activate context.data = .ok (some active, required) := by
  cases h with
  | here selected _ => exact ⟨_, _, selected⟩
  | field selected _ _ _ => exact ⟨_, _, selected⟩
  | item selected _ _ _ _ => exact ⟨_, _, selected⟩

/-- There are no positions where the choice of a rule fails. -/
theorem not_reaches_of_activate {fault : Fault} (h : rule.activate context.data = .error fault) :
    ¬ Reaches context rule value path visit := by
  intro hvisit
  obtain ⟨active, required, hselected⟩ := hvisit.exists_active
  rw [h] at hselected
  cases hselected

/-- The outermost position is the value itself, if it is not blank. -/
theorem reaches_nil_iff (hrule : rule.isConditional = false) :
    Reaches context rule value [] visit ↔ value.isBlank = false ∧ visit = ⟨context, rule, value⟩ := by
  have hself : rule.activate context.data = .ok (some rule, rule.common.required) :=
    Rule.activate_of_not_isConditional hrule
  constructor
  · intro h
    cases h with
    | here selected present =>
      rw [hself] at selected
      cases selected
      exact ⟨present, rfl⟩
  · rintro ⟨hvalue, rfl⟩
    exact .here hself hvalue

/-- The positions in the fields of a record. -/
theorem reaches_object_iff {common : Common} {fields : List (Value × Rule)} {defaults : Entries}
    {i : Nat} :
    Reaches context (.object common fields defaults) value (i :: path) visit ↔
      ∃ entries f key v, value = .dict entries ∧ fields[i]? = some f ∧
        (Entries.withDefaults entries defaults).resolve f.1 = some (key, v) ∧
        Reaches (context.forData (Entries.withDefaults entries defaults)) f.2 v path visit := by
  constructor
  · intro h
    cases h with
    | field selected isField found inside =>
      cases selected
      exact ⟨_, _, _, _, rfl, isField, found, inside⟩
    | item selected _ _ _ _ => cases selected
  · rintro ⟨entries, f, key, v, rfl, hfield, hfound, hinside⟩
    exact .field rfl hfield hfound hinside

/-- The positions in the items of an array. -/
theorem reaches_array_iff {common : Common} {element : Rule} {checks : ArrayChecks} {i : Nat} :
    Reaches context (.array common (some element) checks) value (i :: path) visit ↔
      value.isBlank = false ∧ ∃ items notes item,
        Coercion.coerceArray checks context.convert value = .ok (.accepted (.list items) notes) ∧
        items[i]? = some item ∧ Reaches context element item path visit := by
  constructor
  · intro h
    cases h with
    | field selected _ _ _ => cases selected
    | item selected present given isItem inside =>
      cases selected
      exact ⟨present, _, _, _, given, isItem, inside⟩
  · rintro ⟨hvalue, items, notes, item, hgiven, hitem, hinside⟩
    exact .item rfl hvalue hgiven hitem hinside

/-- There are no positions in a value that was not confirmed as a list. -/
theorem not_reaches_array {common : Common} {element : Rule} {checks : ArrayChecks}
    (h : ∀ items notes,
      Coercion.coerceArray checks context.convert value ≠ .ok (.accepted (.list items) notes))
    (i : Nat) (path : Path) (visit : Visit) :
    ¬ Reaches context (.array common (some element) checks) value (i :: path) visit := by
  intro hvisit
  obtain ⟨-, items, notes, item, hgiven, -⟩ := reaches_array_iff.mp hvisit
  exact h items notes hgiven

/-! ## Rules without hooks -/

/-- Under a rule under which there is no hook no position has one. -/
theorem Reaches.hasHook (h : Reaches context rule value path visit) (hrule : rule.hasHook = false) :
    visit.rule.hasHook = false := by
  induction h with
  | here selected _ => exact Rule.hasHook_of_activate hrule selected
  | field selected isField _ _ ih =>
    have hactive := Rule.hasHook_of_activate hrule selected
    rw [Rule.hasHook, Bool.or_eq_false_iff] at hactive
    exact ih (Rule.fieldsHaveHook_eq_false_iff.mp hactive.2 _ (List.mem_of_getElem? isField))
  | item selected _ _ _ _ ih =>
    have hactive := Rule.hasHook_of_activate hrule selected
    rw [Rule.hasHook, Bool.or_eq_false_iff] at hactive
    exact ih hactive.2

/-- At a position without a hook no call is made. -/
theorem Visit.calls_of_hook (h : visit.rule.common.hook = none) :
    visit.calls registry standard = [] := by
  unfold Visit.calls callsAfter
  rw [h]
  split <;> rfl

/-- A call at a position is the call of the hook there, on what became of the value. -/
theorem Visit.exists_hook_of_mem_calls {call : HookCall} (h : call ∈ visit.calls registry standard) :
    ∃ hook limit, visit.rule.common.hook = some hook ∧
      Duration.ofValue (timeoutOf visit.rule.common standard) = .ok limit ∧
      visit.checked registry standard = some call.argument ∧ call.context = visit.context ∧
      call.ending = endingUnder (hook call.argument visit.context) limit := by
  unfold Visit.calls callsAfter at h
  split at h
  · cases h
  · rename_i found hchecked
    split at h
    · rename_i hook limit hhook hlimit
      obtain rfl := List.mem_singleton.mp h
      exact ⟨hook, limit, hhook, hlimit, hchecked, rfl, rfl⟩
    · cases h

/-- What becomes of a field whose value is validated in order. -/
theorem settleField_of_validate {data : Entries} {name : Value} {settleValue : Value → Option Value}
    (h : ∀ v, settleValue v = acceptedBy (rule.validate registry context true v)) :
    settleField data name rule settleValue =
      acceptedBy (validateField registry context data name rule) := by
  unfold settleField validateField
  rcases rule.activate data with fault | ⟨active, required⟩
  · rfl
  · rw [Attempt.ok_bind]
    cases data.resolve name with
    | none => rfl
    | some found => exact h found.2

/-- What becomes of fields that are validated in order. -/
theorem settleFields_of_validateField {data : Entries} {fields : List (Value × Rule)}
    (h : ∀ f ∈ fields, settleField data f.1 f.2 (settle registry standard context f.2) =
      acceptedBy (validateField registry context data f.1 f.2)) :
    settleFields registry standard context data fields =
      (Rule.validateFields registry context data fields).toOption.bind acceptedFields := by
  induction fields with
  | nil => rfl
  | cons f rest ih =>
    obtain ⟨name, r⟩ := f
    obtain ⟨hfirst, hrest⟩ := List.forall_mem_cons.mp h
    rw [settleFields, hfirst, ih hrest, Rule.validateFields_cons]
    rcases validateField registry context data name r with fault | o
    · rfl
    · rcases Rule.validateFields registry context data rest with fault | outcomes
      · cases o <;> rfl
      · rfl

/-- What becomes of items that are validated in order. -/
theorem mapM_acceptedBy (validate : Value → Attempt Outcome) (items : List Value) :
    (items.mapM fun item => acceptedBy (validate item)) =
      (items.mapM validate).toOption.bind (·.mapM Outcome.accepted?) := by
  induction items with
  | nil => rfl
  | cons item rest ih =>
    rw [List.mapM_cons, List.mapM_cons, ih]
    rcases validate item with fault | o
    · rfl
    · rcases rest.mapM validate with fault | outcomes
      · cases o <;> rfl
      · exact (List.mapM_cons (f := Outcome.accepted?)).symm

/-- What becomes of a record whose fields are validated in order. -/
theorem settleRecord_of_settle {common : Common} {fields : List (Value × Rule)} {defaults : Entries}
    (h : ∀ f ∈ fields, ∀ context v, settle registry standard context f.2 v =
      acceptedBy (f.2.validate registry context true v)) :
    (Visit.mk context (.object common fields defaults) value).checked registry standard =
      acceptedBy ((Rule.object common fields defaults).validate registry context false value) := by
  cases value with
  | dict entries =>
    have hfields : settleFields registry standard
        (context.forData (Entries.withDefaults entries defaults)) (Entries.withDefaults entries defaults)
        fields = _ :=
      settleFields_of_validateField fun f hf => settleField_of_validate (h f hf _)
    simp only [Visit.checked, settleRecord, Rule.validate, Bool.false_and, hfields]
    rcases Rule.validateFields registry (context.forData (Entries.withDefaults entries defaults))
      (Entries.withDefaults entries defaults) fields with fault | outcomes
    · rfl
    · exact (accepted?_mergeFields _ outcomes).symm
  | _ => rfl

/-- What becomes of an array whose items are validated in order. -/
theorem settleItems_of_settle {common : Common} {element : Rule} {checks : ArrayChecks}
    (h : ∀ v, settle registry standard context element v =
      acceptedBy (element.validate registry context true v)) :
    (Visit.mk context (.array common (some element) checks) value).checked registry standard =
      acceptedBy ((Rule.array common (some element) checks).validate registry context false value) := by
  simp only [Visit.checked, settleItems, Rule.validate, Bool.false_and]
  rcases hcoerce : Coercion.coerceArray checks context.convert value with fault | accepted | _
  · rfl
  · obtain ⟨items, rfl, -⟩ := Coercion.coerceArray_spec hcoerce
    rw [Attempt.ok_bind]
    dsimp only
    rcases element.activate context.data with fault | selected
    · rfl
    · rw [Attempt.ok_bind, validateItems]
      simp only [funext h, mapM_acceptedBy]
      rcases items.mapM (element.validate registry context true) with fault | outcomes
      · rfl
      · exact (accepted?_mergeElements items outcomes).symm
  · rfl

/-- Without a hook a value stays what it is. -/
theorem bind_afterHook_of_hook {common : Common} (h : common.hook = none) (typeName : String)
    (found : Option Value) :
    found.bind (afterHook common typeName standard context) = found := by
  cases found with
  | none => rfl
  | some v => simp [afterHook, h]

/-- A value becomes what it does in order if its rule has no hook and its parts are checked in order. -/
theorem settle_of_checked (hrule : rule.isConditional = false) (hhook : rule.common.hook = none)
    (hchecked : (Visit.mk context rule value).checked registry standard =
      acceptedBy (rule.validate registry context false value)) :
    settle registry standard context rule value =
      acceptedBy (rule.validate registry context true value) := by
  cases hvalue : value.isBlank with
  | true => rw [settle_of_isBlank hvalue hrule, Rule.validate_of_isBlank hvalue hrule]
  | false =>
    rw [settle_of_not_isBlank hvalue hrule, bind_afterHook_of_hook hhook, hchecked,
      Rule.validate_of_not_isBlank hvalue]

/-- Without hooks every value becomes what it does in order. -/
theorem settle_of_hasHook (hrule : rule.hasHook = false) :
    settle registry standard context rule value =
      acceptedBy (rule.validate registry context true value) := by
  induction rule using Rule.induction generalizing context value with
  | conditional common field conditions consequent otherwise base hconsequent hotherwise hbase =>
    simp only [Rule.hasHook, Bool.or_eq_false_iff, Rule.branchHasHook_eq_false_iff] at hrule
    obtain ⟨⟨⟨-, hthen⟩, helse⟩, hdefault⟩ := hrule
    rw [settle_conditional, Rule.validate_conditional]
    rcases conditions.holdIn field context.data with fault | holds
    · rfl
    · rw [Attempt.ok_bind]
      dsimp only
      cases hbranch : Rule.branch holds consequent otherwise base with
      | none => rfl
      | some r =>
        exact Rule.forall_branch @hconsequent hotherwise hbase holds r hbranch
          (Rule.forall_branch hthen helse hdefault holds r hbranch)
  | object common fields defaults ih =>
    refine settle_of_checked rfl (Rule.hook_of_hasHook hrule) ?_
    rw [Rule.hasHook, Bool.or_eq_false_iff, Rule.fieldsHaveHook_eq_false_iff] at hrule
    exact settleRecord_of_settle fun f hf context v => ih f hf (hrule.2 f hf)
  | array common element checks ih =>
    refine settle_of_checked rfl (Rule.hook_of_hasHook hrule) ?_
    rw [Rule.hasHook, Bool.or_eq_false_iff, Rule.branchHasHook_eq_false_iff] at hrule
    cases element with
    | none => rfl
    | some r => exact settleItems_of_settle fun v => ih r rfl (hrule.2 r rfl)
  | _ => exact settle_of_checked rfl (Rule.hook_of_hasHook hrule) rfl

end

end RecordCheck.Parallel
