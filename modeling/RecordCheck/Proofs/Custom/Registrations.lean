import RecordCheck.Proofs.Custom.Dispatch
import RecordCheck.Proofs.Defaults

/-!
# What a registry was told

A registry is changed in place: validators are registered, removed, or all of them cleared.  A change may fail at
several moments, when the shape of a validator is found out, when its object is made, or when its name is looked up,
and all of them come before anything is stored.  So what fails leaves everything as it was, and what a name stands
for after many changes was decided by the last of those that succeeded and had to do with it.
-/

set_option autoImplicit false

namespace RecordCheck.Custom

open Attempt

/-! ## Steps of a change -/

namespace Change

variable {α β : Type} {fault : Fault} {f : α → Change β}

theorem ok_bind (a : α) : (liftExcept (.ok a : Attempt α) >>= f : Change β) = f a := rfl

theorem error_bind : (liftExcept (.error fault : Attempt α) >>= f : Change β) = throw fault := rfl

theorem run_get_bind (r : Registry) (f : Registry → Change β) : (get >>= f : Change β).run r = (f r).run r := rfl

end Change

/-! ## Shapes -/

/-- Why a candidate for a name is no validator. -/
inductive Candidate.IsShapeless (name : Value) (shown : String) : Candidate → Fault → Prop
  /-- a function that takes no argument, or more than three -/
  | arity {parameters : Nat} {isOpen : Bool} {run : Received → Attempt Value}
      (unsupported : ¬(1 ≤ arity parameters isOpen ∧ arity parameters isOpen ≤ 3)) :
      IsShapeless name shown (.function parameters isOpen run)
        (.validator (.unsupportedArity shown name (arity parameters isOpen)))
  /-- a class that leaves validating undefined -/
  | abstract : IsShapeless name shown .abstractClass (.operation .abstractValidator)
  /-- a candidate that fails itself -/
  | faulty {fault : Fault} : IsShapeless name shown (.faulty fault) fault
  /-- something of another kind -/
  | kind {kind : String} :
      IsShapeless name shown (.other kind) (.validator (.unsupportedValidator shown name kind))

theorem Candidate.toValidator_eq_error_iff {name : Value} {shown : String} {candidate : Candidate} {fault : Fault}
    (hname : name.textOf = .ok shown) :
    candidate.toValidator name = .error fault ↔ candidate.IsShapeless name shown fault := by
  constructor
  · intro h
    cases candidate with
    | function parameters isOpen run =>
      simp only [toValidator, hname, ok_bind] at h
      split at h
      · cases h
      · rename_i hunsupported
        cases h
        exact .arity hunsupported
    | object run => cases h
    | abstractClass =>
      cases h
      exact .abstract
    | faulty raised =>
      cases h
      exact .faulty
    | other kind =>
      rw [toValidator, hname] at h
      cases h
      exact .kind
  · intro h
    cases h with
    | arity hunsupported =>
      simp only [toValidator, hname, ok_bind]
      rw [if_neg hunsupported]
      rfl
    | abstract => rfl
    | faulty => rfl
    | kind =>
      rw [toValidator, hname]
      rfl

/-! ## Operations -/

/-- Something that is done to a registry. -/
inductive Operation where
  | register (name : Value) (candidate : Candidate) (overwrite : Bool)
  | unregister (name : Value)
  | clear

namespace Operation

/-- The change that an operation makes. -/
def change : Operation → Change Unit
  | register name candidate overwrite => .register name candidate overwrite
  | unregister name => .unregister name
  | clear => .clear

/-- Carry an operation out: what it comes to, and the registry then. -/
def perform (op : Operation) (r : Registry) : Attempt Unit × Registry :=
  match op.change.run r with
  | .ok () changed => (.ok (), changed)
  | .error fault changed => (.error fault, changed)

/-- Whether the name in an operation can be written, as every text can.  A validator under any other name is
stored by the time that writing the name fails. -/
def isWritten : Operation → Bool
  | register name _ _ | unregister name => name.hasText
  | clear => true

/-- Whether an operation has to do with a name. -/
def affects (name : Value) : Operation → Bool
  | register key _ _ | unregister key => key.sameKey name
  | clear => true

/-- The validator that an operation leaves under the names that it has to do with. -/
def leaves : Operation → Option Validator
  | register name candidate _ => (candidate.toValidator name).toOption
  | unregister _ | clear => none

end Operation

/-- What an operation that succeeds makes of a registry. -/
inductive Applies (r : Registry) : Operation → Registry → Prop
  /-- a candidate that is a validator is stored under a name that is free or may be overwritten -/
  | registered {name : Value} {candidate : Candidate} {overwrite : Bool} {validator : Validator}
      (shaped : candidate.toValidator name = .ok validator) (hashable : name.checkKey = .ok ())
      (allowed : Registry.find? name r.validators = none ∨ overwrite = true) :
      Applies r (.register name candidate overwrite) (r.store name validator)
  /-- what is under a name is removed -/
  | unregistered {name : Value} {validator : Validator} (hashable : name.checkKey = .ok ())
      (known : Registry.find? name r.validators = some validator) : Applies r (.unregister name) (r.remove name)
  /-- everything is removed -/
  | cleared : Applies r .clear r.clear

/-- What an operation fails with. -/
inductive Refuses (r : Registry) : Operation → Fault → Prop
  /-- the candidate is no validator -/
  | shapeless {name : Value} {shown : String} {candidate : Candidate} {overwrite : Bool} {fault : Fault}
      (named : name.textOf = .ok shown) (shapeless : candidate.IsShapeless name shown fault) :
      Refuses r (.register name candidate overwrite) fault
  /-- the name for a validator cannot be a key -/
  | noKey {name : Value} {candidate : Candidate} {overwrite : Bool} {validator : Validator} {fault : Fault}
      (shaped : candidate.toValidator name = .ok validator) (unhashable : name.checkKey = .error fault) :
      Refuses r (.register name candidate overwrite) fault
  /-- the name is taken and must not be overwritten -/
  | taken {name : Value} {shown : String} {candidate : Candidate} {validator stored : Validator}
      (named : name.textOf = .ok shown) (shaped : candidate.toValidator name = .ok validator)
      (hashable : name.checkKey = .ok ()) (taken : Registry.find? name r.validators = some stored) :
      Refuses r (.register name candidate false) (.registry (.taken shown name r.name))
  /-- the name to be removed cannot be a key -/
  | noKnownKey {name : Value} {fault : Fault} (unhashable : name.checkKey = .error fault) :
      Refuses r (.unregister name) fault
  /-- nothing is under the name to be removed -/
  | unknown {name : Value} {shown : String} (named : name.textOf = .ok shown) (hashable : name.checkKey = .ok ())
      (unknown : Registry.find? name r.validators = none) :
      Refuses r (.unregister name) (.registry (.notFound shown name r.name none))

section

variable {r changed : Registry} {op : Operation} {name : Value} {s : String} {fault : Fault}

theorem get?_of_checkKey (h : name.checkKey = .ok ()) :
    r.get? name = .ok (Registry.find? name r.validators) := by
  rw [Registry.get?, h]
  rfl

theorem has_of_checkKey (h : name.checkKey = .ok ()) :
    r.has name = .ok (Registry.find? name r.validators).isSome := by
  rw [Registry.has, get?_of_checkKey h]
  rfl

theorem has_of_unhashable (h : name.checkKey = .error fault) : r.has name = .error fault := by
  rw [Registry.has, Registry.get?, h]
  rfl

theorem perform_of_applies (hwritten : op.isWritten = true) (h : Applies r op changed) :
    op.perform r = (.ok (), changed) := by
  cases h with
  | @registered name candidate overwrite validator hshaped hhashable hallowed =>
    obtain ⟨shown, hshown⟩ := Value.exists_textOf_iff.mpr hwritten
    have hfree : ((Registry.find? name r.validators).isSome && !overwrite) = false := by
      rcases hallowed with hnone | hoverwrite
      · rw [hnone]
        rfl
      · rw [hoverwrite, Bool.not_true, Bool.and_false]
    simp only [Operation.perform, Operation.change, Change.register, Change.ok_bind, Change.run_get_bind, hshaped,
      has_of_checkKey hhashable, hfree, hshown]
    rfl
  | unregistered hhashable hknown =>
    simp only [Operation.perform, Operation.change, Change.unregister, Change.ok_bind, Change.run_get_bind,
      has_of_checkKey hhashable, hknown]
    rfl
  | cleared => rfl

/-- What an operation that fails has done by then: nothing. -/
theorem perform_of_refuses (h : Refuses r op fault) : op.perform r = (.error fault, r) := by
  cases h with
  | shapeless hnamed hshapeless =>
    simp only [Operation.perform, Operation.change, Change.register, Change.error_bind,
      (Candidate.toValidator_eq_error_iff hnamed).mpr hshapeless]
    rfl
  | noKey hshaped hunhashable =>
    simp only [Operation.perform, Operation.change, Change.register, Change.ok_bind, Change.error_bind,
      Change.run_get_bind, hshaped, has_of_unhashable hunhashable]
    rfl
  | taken hnamed hshaped hhashable htaken =>
    simp only [Operation.perform, Operation.change, Change.register, Change.ok_bind, Change.run_get_bind, hshaped,
      has_of_checkKey hhashable, htaken, hnamed]
    rfl
  | noKnownKey hunhashable =>
    simp only [Operation.perform, Operation.change, Change.unregister, Change.error_bind, Change.run_get_bind,
      has_of_unhashable hunhashable]
    rfl
  | unknown hnamed hhashable hunknown =>
    simp only [Operation.perform, Operation.change, Change.unregister, Change.ok_bind, Change.run_get_bind,
      has_of_checkKey hhashable, hunknown, Registry.missing, hnamed]
    rfl

/-- Every operation succeeds or fails for one of the reasons that are known. -/
theorem applies_or_refuses (r : Registry) (hwritten : op.isWritten = true) :
    (∃ changed, Applies r op changed) ∨ ∃ fault, Refuses r op fault := by
  cases op with
  | register name candidate overwrite =>
    obtain ⟨shown, hshown⟩ := Value.exists_textOf_iff.mpr hwritten
    cases hshaped : candidate.toValidator name with
    | error fault => exact .inr ⟨fault, .shapeless hshown ((Candidate.toValidator_eq_error_iff hshown).mp hshaped)⟩
    | ok validator =>
      cases hkey : name.checkKey with
      | error fault => exact .inr ⟨fault, .noKey hshaped hkey⟩
      | ok _ =>
        cases hfound : Registry.find? name r.validators with
        | none => exact .inl ⟨_, .registered hshaped hkey (.inl hfound)⟩
        | some stored =>
          cases overwrite with
          | true => exact .inl ⟨_, .registered hshaped hkey (.inr rfl)⟩
          | false => exact .inr ⟨_, .taken hshown hshaped hkey hfound⟩
  | unregister name =>
    obtain ⟨shown, hshown⟩ := Value.exists_textOf_iff.mpr hwritten
    cases hkey : name.checkKey with
    | error fault => exact .inr ⟨fault, .noKnownKey hkey⟩
    | ok _ =>
      cases hfound : Registry.find? name r.validators with
      | none => exact .inr ⟨_, .unknown hshown hkey hfound⟩
      | some stored => exact .inl ⟨_, .unregistered hkey hfound⟩
  | clear => exact .inl ⟨_, .cleared⟩

theorem perform_eq_ok_iff (hwritten : op.isWritten = true) :
    op.perform r = (.ok (), changed) ↔ Applies r op changed := by
  refine ⟨fun h => ?_, perform_of_applies hwritten⟩
  rcases applies_or_refuses r hwritten with ⟨other, happlies⟩ | ⟨fault, hrefuses⟩
  · cases (perform_of_applies hwritten happlies).symm.trans h
    exact happlies
  · cases (perform_of_refuses hrefuses).symm.trans h

theorem perform_eq_error_iff (hwritten : op.isWritten = true) :
    op.perform r = (.error fault, changed) ↔ Refuses r op fault ∧ changed = r := by
  constructor
  · intro h
    rcases applies_or_refuses r hwritten with ⟨other, happlies⟩ | ⟨other, hrefuses⟩
    · cases (perform_of_applies hwritten happlies).symm.trans h
    · cases (perform_of_refuses hrefuses).symm.trans h
      exact ⟨hrefuses, rfl⟩
  · rintro ⟨hrefuses, rfl⟩
    exact perform_of_refuses hrefuses

end

/-! ## What a name stands for -/

section

variable {r changed : Registry} {op : Operation} {name key other : Value} {validator : Validator} {s : String}

/-- Keys that are the same are both the name, or neither is. -/
theorem sameKey_name_congr (hname : name.text? = some s) (h : other.sameKey key = true) :
    other.sameKey name = key.sameKey name := by
  rw [Bool.eq_iff_iff, Value.sameKey_text_iff hname, Value.sameKey_text_iff hname]
  exact ⟨Value.text?_of_sameKey h, fun hkey => (Value.sameKey_text_iff hkey).mp h⟩

/-- Keys that are not the same are not both the name. -/
theorem sameKey_name_of_not (hname : name.text? = some s) (h : ¬other.sameKey key = true)
    (hother : other.sameKey name = true) : key.sameKey name = false := by
  rw [Bool.eq_false_iff]
  intro hkey
  rw [Value.sameKey_text_iff hname] at hother hkey
  exact h ((Value.sameKey_text_iff hkey).mpr hother)

/-- A name stands for the validator that is stored under a key just when it is that key. -/
theorem find?_store (hname : name.text? = some s) (r : Registry) (key : Value) (validator : Validator) :
    Registry.find? name (r.store key validator).validators =
      if key.sameKey name then some validator else Registry.find? name r.validators := by
  unfold Registry.store
  dsimp only
  induction r.validators with
  | nil => rfl
  | cons e rest ih =>
    by_cases hsame : e.1.sameKey key = true
    · rw [Registry.put, if_pos hsame, Registry.find?, Registry.find?, sameKey_name_congr hname hsame]
      split <;> rfl
    · rw [Registry.put, if_neg hsame, Registry.find?, Registry.find?, ih]
      split
      · rename_i hfound
        rw [sameKey_name_of_not hname hsame hfound]
        rfl
      · rfl

/-- A name stands for nothing once it is the key that is removed, and else for what it did. -/
theorem find?_remove (hname : name.text? = some s) (r : Registry) (key : Value) :
    Registry.find? name (r.remove key).validators =
      if key.sameKey name then none else Registry.find? name r.validators := by
  unfold Registry.remove
  dsimp only
  induction r.validators with
  | nil => simp [Registry.find?]
  | cons e rest ih =>
    by_cases hsame : e.1.sameKey key = true
    · rw [List.filter_cons, hsame, Bool.not_true, if_neg Bool.false_ne_true, ih, Registry.find?,
        sameKey_name_congr hname hsame]
      split <;> rfl
    · rw [List.filter_cons, Bool.eq_false_iff.mpr hsame, Bool.not_false, if_pos rfl, Registry.find?, Registry.find?, ih]
      split
      · rename_i hfound
        rw [sameKey_name_of_not hname hsame hfound]
        rfl
      · rfl

/-- What an operation that succeeds leaves under a name. -/
theorem find?_of_applies (hname : name.text? = some s) (h : Applies r op changed) :
    Registry.find? name changed.validators =
      if op.affects name then op.leaves else Registry.find? name r.validators := by
  cases h with
  | registered hshaped =>
    rw [find?_store hname, Operation.affects, Operation.leaves, hshaped]
    rfl
  | unregistered => exact find?_remove hname r _
  | cleared => rfl

/-- What any operation leaves under a name. -/
theorem find?_perform (hname : name.text? = some s) (r : Registry) (hwritten : op.isWritten = true) :
    Registry.find? name (op.perform r).2.validators =
      if op.affects name && (op.perform r).1.isOk then op.leaves else Registry.find? name r.validators := by
  rcases applies_or_refuses r hwritten with ⟨changed, happlies⟩ | ⟨fault, hrefuses⟩
  · rw [perform_of_applies hwritten happlies, find?_of_applies hname happlies]
    simp [Except.isOk, Except.toBool]
  · rw [perform_of_refuses hrefuses]
    simp [Except.isOk, Except.toBool]

end

/-! ## Runs -/

/-- Carry operations out one after the other, whether or not one of them fails: what they come to, in order, and
the registry in the end. -/
def performAll : List Operation → Registry → List (Attempt Unit) × Registry
  | [], r => ([], r)
  | op :: rest, r =>
    let (result, changed) := op.perform r
    let (results, last) := performAll rest changed
    (result :: results, last)

/-- The last of the operations that succeeded and had to do with a name. -/
def lastAffecting (name : Value) (ops : List Operation) (results : List (Attempt Unit)) : Option Operation :=
  ((ops.zip results).findRev? fun h => h.1.affects name && h.2.isOk).map (·.1)

/-- What the last operation on a name left is what the name stands for, and without one it stands for what it did
at first. -/
theorem find?_performAll {name : Value} {s : String} (hname : name.text? = some s) {ops : List Operation}
    (hwritten : ∀ op ∈ ops, op.isWritten = true) (r : Registry) :
    Registry.find? name (performAll ops r).2.validators =
      match lastAffecting name ops (performAll ops r).1 with
      | some op => op.leaves
      | none => Registry.find? name r.validators := by
  induction ops generalizing r with
  | nil => rfl
  | cons op rest ih =>
    obtain ⟨hfirst, hrest⟩ := List.forall_mem_cons.mp hwritten
    have hstep := find?_perform hname r hfirst
    have hothers := ih hrest (op.perform r).2
    simp only [performAll, lastAffecting, List.zip_cons_cons, List.findRev?] at hothers ⊢
    cases hlast : (rest.zip (performAll rest (op.perform r).2).1).findRev? fun h => h.1.affects name && h.2.isOk with
    | some later =>
      rw [hlast] at hothers
      exact hothers
    | none =>
      rw [hlast] at hothers
      rw [hothers]
      simp only [Option.map_none]
      rw [hstep]
      split <;> rfl

/-- Whatever an operation comes to in a run, it comes to on some registry. -/
theorem exists_perform_of_mem {ops : List Operation} {r : Registry} {op : Operation} {result : Attempt Unit}
    (hmem : (op, result) ∈ ops.zip (performAll ops r).1) : op ∈ ops ∧ ∃ before, result = (op.perform before).1 := by
  induction ops generalizing r with
  | nil => cases hmem
  | cons first rest ih =>
    rcases List.mem_cons.mp hmem with hfirst | hlater
    · cases hfirst
      exact ⟨List.mem_cons_self, r, rfl⟩
    · obtain ⟨hrest, hbefore⟩ := ih hlater
      exact ⟨List.mem_cons_of_mem first hrest, hbefore⟩

/-- The last operation on a name succeeded, on whatever registry it found. -/
theorem exists_applies_of_lastAffecting {name : Value} {ops : List Operation} {r : Registry} {op : Operation}
    (hwritten : ∀ op ∈ ops, op.isWritten = true) (h : lastAffecting name ops (performAll ops r).1 = some op) :
    ∃ before changed, Applies before op changed := by
  obtain ⟨⟨_, result⟩, hfind, rfl⟩ := Option.map_eq_some_iff.mp h
  rw [List.findRev?_eq_find?_reverse] at hfind
  obtain ⟨hmem, before, rfl⟩ := exists_perform_of_mem (List.mem_reverse.mp (List.mem_of_find?_eq_some hfind))
  rcases applies_or_refuses before (hwritten _ hmem) with ⟨changed, happlies⟩ | ⟨fault, hrefuses⟩
  · exact ⟨before, changed, happlies⟩
  · have hok := List.find?_some hfind
    rw [perform_of_refuses hrefuses, Bool.and_eq_true] at hok
    cases hok.2

/-- Whether the last operation on the name of a type decides what becomes of values under the type. -/
structure DecidedBy (r : Registry) (request : Request) (shown : String) (last : Option Operation) : Prop where
  /-- nothing is found under the name just when that operation left nothing there, or there was none -/
  missing_iff : r.get? request.typeName = .ok none ↔
    ∀ key candidate overwrite, last ≠ some (.register key candidate overwrite)
  /-- a type that nothing is found for is reported as unknown -/
  missing : r.get? request.typeName = .ok none → ∀ value context,
    dispatch r request value context = .ok (.reject value [unknownType request.typeName shown])
  /-- for any other type, the validator that was last registered runs: the value is rejected if it fails, and is
  what its answer stands for if it does not -/
  registered : ∀ key candidate overwrite, last = some (.register key candidate overwrite) →
    ∃ validator, candidate.toValidator key = .ok validator ∧ r.get? request.typeName = .ok (some validator) ∧
      ∀ value context,
        dispatch r request value context =
          match validator value context request with
          | .error fault => .ok (.reject value [failedValidator request.typeName shown fault])
          | .ok answer => normalize answer value request.typeName

/-- The last operation on the name of a type decides if what it left is what is found under the name. -/
theorem decidedBy_of_get? {r : Registry} {request : Request} {shown : String} {last : Option Operation}
    (hshown : request.typeName.textOf = .ok shown)
    (hlast : ∀ op, last = some op → ∃ before changed, Applies before op changed)
    (hget : r.get? request.typeName = .ok (last.bind Operation.leaves)) : DecidedBy r request shown last := by
  have hmissing (h : r.get? request.typeName = .ok none) (value : Value) (context : Context) :
      dispatch r request value context = .ok (.reject value [unknownType request.typeName shown]) := by
    rw [dispatch_of_missing h, hshown]
    rfl
  have hleft (hnone : r.get? request.typeName = .ok none)
      (hother : ∀ key candidate overwrite, last ≠ some (.register key candidate overwrite)) :
      DecidedBy r request shown last :=
    ⟨iff_of_true hnone hother, hmissing, fun key candidate overwrite h => absurd h (hother key candidate overwrite)⟩
  cases last with
  | none => exact hleft hget (by simp)
  | some op =>
    obtain ⟨before, changed, happlies⟩ := hlast op rfl
    cases happlies with
    | @registered name candidate overwrite validator hshaped =>
      have hfound : r.get? request.typeName = .ok (some validator) := by
        rw [hget, Option.bind_some, Operation.leaves, hshaped]
        rfl
      refine ⟨iff_of_false (by rw [hfound]; nofun) fun h => h _ _ _ rfl, hmissing, fun key other overwrite heq => ?_⟩
      cases heq
      refine ⟨validator, hshaped, hfound, fun value context => ?_⟩
      cases hanswer : validator value context request with
      | error fault =>
        rw [dispatch_of_failed hfound hanswer, hshown]
        rfl
      | ok answer => exact dispatch_of_answered hfound hanswer
    | unregistered => exact hleft hget (by simp)
    | cleared => exact hleft hget (by simp)

/-- What is found under the name of a type after some operations on a new registry is decided by the last of them
that succeeded and had to do with the name. -/
theorem decidedBy_performAll {ops : List Operation} {request : Request} {s shown : String} (registryName : String)
    (hwritten : ∀ op ∈ ops, op.isWritten = true) (hname : request.typeName.text? = some s)
    (hshown : request.typeName.textOf = .ok shown) :
    DecidedBy (performAll ops (.empty registryName)).2 request shown
      (lastAffecting request.typeName ops (performAll ops (.empty registryName)).1) := by
  refine decidedBy_of_get? hshown (fun op => exists_applies_of_lastAffecting hwritten) ?_
  rw [get?_of_checkKey (Value.checkKey_of_text? hname), find?_performAll hname hwritten]
  cases lastAffecting request.typeName ops (performAll ops (.empty registryName)).1 <;> rfl

/-- An operation on a registry succeeds, or fails for a reason that is known and leaves everything as it was; and
after any operations on a new registry the last one that succeeded and had to do with the name of a type decides
what becomes of values under the type. -/
theorem performAll_decides :
    (∀ (op : Operation) (r : Registry), op.isWritten = true →
      (∀ changed, op.perform r = (.ok (), changed) ↔ Applies r op changed) ∧
      ∀ fault changed, op.perform r = (.error fault, changed) ↔ Refuses r op fault ∧ changed = r) ∧
    ∀ (ops : List Operation) (registryName : String) (request : Request) (s : String),
      (∀ op ∈ ops, op.isWritten = true) → request.typeName.text? = some s →
        ∃ shown, request.typeName.textOf = .ok shown ∧
          DecidedBy (performAll ops (.empty registryName)).2 request shown
            (lastAffecting request.typeName ops (performAll ops (.empty registryName)).1) := by
  refine ⟨fun op r h => ⟨fun _ => perform_eq_ok_iff h, fun _ _ => perform_eq_error_iff h⟩, ?_⟩
  intro ops registryName request s hwritten hname
  obtain ⟨shown, hshown⟩ := Value.exists_textOf_iff.mpr (Value.hasText_of_text? hname)
  exact ⟨shown, hshown, decidedBy_performAll registryName hwritten hname hshown⟩

namespace Sample

/-- A function that accepts every value. -/
def accepting : Candidate := .function 1 false fun _ => pure .null

/-- An object that rejects every value. -/
def rejecting : Candidate := .object fun received => pure (.result false received.value (.text "no"))

/-- Operations of which the first and the fifth succeed.  The others find a name that is taken, a name that is not
known, a function of too many arguments and a class that makes no object. -/
def attempts : List Operation :=
  [.register (.text "slug") accepting false, .register (.text "slug") rejecting false, .unregister (.text "other"),
    .register (.text "other") (.function 4 false fun _ => pure .null) false,
    .register (.textMember "slug") rejecting true, .register (.text "slug") .abstractClass true]

/-- The registry after all of them. -/
def registered : Registry := (performAll attempts (.empty "custom_types")).2

/-- What a rule of a type tells its validator. -/
def asked (typeName : String) : Request := ⟨.text typeName, [], .bool false⟩

end Sample

open RecordCheck.Custom.Sample in
/-- The name that was overwritten stands for the second validator, in the place of the first, and the name that was
never registered for none. -/
theorem performAll_decides_sample :
    (∀ op ∈ attempts, op.isWritten = true) ∧ registered.names = [.text "slug"] ∧
      Refuses registered (.unregister (.text "other"))
        (.registry (.notFound "other" (.text "other") "custom_types" none)) ∧
      (∀ value context, dispatch registered (asked "slug") value context =
        .ok (.reject value [⟨.text "slug", .text "no", []⟩])) ∧
      ∀ value context, dispatch registered (asked "other") value context =
        .ok (.reject value [unknownType (.text "other") "other"]) := by
  have hwritten : ∀ op ∈ attempts, op.isWritten = true := by decide
  obtain ⟨hperform, hdecides⟩ := performAll_decides
  obtain ⟨_, hslug, slug⟩ := hdecides attempts "custom_types" (asked "slug") "slug" hwritten rfl
  obtain ⟨_, hother, other⟩ := hdecides attempts "custom_types" (asked "other") "other" hwritten rfl
  cases hslug
  cases hother
  refine ⟨hwritten, rfl, ?_, fun value context => ?_, other.missing (other.missing_iff.mpr fun _ _ _ h => nomatch h)⟩
  · exact (((hperform (.unregister (.text "other")) registered rfl).2 _ registered).mp rfl).1
  · obtain ⟨validator, hvalidator, -, hdispatch⟩ := slug.registered (.textMember "slug") rejecting true rfl
    cases hvalidator
    exact hdispatch value context

end RecordCheck.Custom
