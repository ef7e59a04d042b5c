import RecordCheck.Proofs.Attempt
import RecordCheck.Value.Equality

/-!
# Faults of operations

An operation on a value can fail: the members of something that has none, say, or a key that is a list.  Its fault
does not abort a validation.  What a computation can fail with is followed through its steps, whatever they yield.
-/

set_option autoImplicit false

namespace RecordCheck

/-- Whether a fault is that of an operation on a value. -/
def Fault.IsOperation (fault : Fault) : Prop := ∃ cause, fault = .operation cause

theorem Fault.IsOperation.isAborting {fault : Fault} (h : fault.IsOperation) :
    fault.isAborting = false := by
  obtain ⟨cause, rfl⟩ := h
  rfl

/-- No operation fails with the kind of fault that a configuration is refused with. -/
theorem Fault.IsOperation.kind_ne {fault : Fault} (h : fault.IsOperation) : fault.kind ≠ "ConfigurationError" := by
  obtain ⟨cause, rfl⟩ := h
  unfold Fault.kind OperationFault.kind
  dsimp only
  split <;> first | decide | (split <;> decide)

/-- Whether a fault is that of an operation that is not defined for the type of a value. -/
def Fault.IsTypeFault (fault : Fault) : Prop := ∃ cause, fault = .operation cause ∧ cause.kind = "TypeError"

theorem Fault.IsTypeFault.isOperation {fault : Fault} (h : fault.IsTypeFault) : fault.IsOperation := by
  obtain ⟨cause, rfl, -⟩ := h
  exact ⟨cause, rfl⟩

/-! ## Computations and their faults -/

namespace Attempt

variable {α β : Type} {P Q : Fault → Prop}

/-- Whether every fault that a computation fails with satisfies a condition. -/
def FailsOnly (P : Fault → Prop) (x : Attempt α) : Prop := ∀ fault, x = .error fault → P fault

theorem failsOnly_pure (a : α) : FailsOnly P (pure a) := nofun

theorem failsOnly_throw {fault : Fault} (h : P fault) : FailsOnly P (throw fault : Attempt α) := by
  rintro _ ⟨⟩
  exact h

theorem failsOnly_refuse (cause : OperationFault) :
    FailsOnly Fault.IsOperation (refuse cause : Attempt α) := failsOnly_throw ⟨cause, rfl⟩

theorem FailsOnly.imp {x : Attempt α} (h : FailsOnly P x) (hPQ : ∀ fault, P fault → Q fault) :
    FailsOnly Q x := fun fault hfault => hPQ fault (h fault hfault)

/-- What a computation yields may be made use of to see how the one after it fails. -/
theorem FailsOnly.bind_of_ok {x : Attempt α} {f : α → Attempt β} (hx : FailsOnly P x)
    (hf : ∀ a, x = .ok a → FailsOnly P (f a)) : FailsOnly P (x >>= f) := by
  cases x with
  | error fault => exact fun _ hfault => hx _ (by cases hfault; rfl)
  | ok a => exact hf a rfl

theorem FailsOnly.bind {x : Attempt α} {f : α → Attempt β} (hx : FailsOnly P x)
    (hf : ∀ a, FailsOnly P (f a)) : FailsOnly P (x >>= f) := hx.bind_of_ok fun a _ => hf a

theorem FailsOnly.map {x : Attempt α} (hx : FailsOnly P x) (f : α → β) : FailsOnly P (f <$> x) := by
  cases x with
  | error fault => exact fun _ hfault => hx _ (by cases hfault; rfl)
  | ok a => exact nofun

theorem FailsOnly.ite {x y : Attempt α} {p : Prop} [Decidable p] (hx : FailsOnly P x)
    (hy : FailsOnly P y) : FailsOnly P (if p then x else y) := by
  split
  · exact hx
  · exact hy

theorem failsOnly_anyM {check : α → Attempt Bool} {l : List α}
    (h : ∀ a ∈ l, FailsOnly P (check a)) : FailsOnly P (l.anyM check) := by
  induction l with
  | nil => exact failsOnly_pure false
  | cons a rest ih =>
    obtain ⟨hfirst, hrest⟩ := List.forall_mem_cons.mp h
    refine hfirst.bind fun answer => ?_
    cases answer with
    | true => exact failsOnly_pure true
    | false => exact ih hrest

theorem failsOnly_findM? {check : α → Attempt Bool} {l : List α}
    (h : ∀ a ∈ l, FailsOnly P (check a)) : FailsOnly P (l.findM? check) := by
  induction l with
  | nil => exact failsOnly_pure none
  | cons a rest ih =>
    obtain ⟨hfirst, hrest⟩ := List.forall_mem_cons.mp h
    refine hfirst.bind fun answer => ?_
    cases answer with
    | true => exact failsOnly_pure (some a)
    | false => exact ih hrest

/-- What is found in a list is in it. -/
theorem mem_of_findM? {check : α → Attempt Bool} {l : List α} {a : α}
    (h : l.findM? check = .ok (some a)) : a ∈ l := by
  induction l with
  | nil => cases h
  | cons b rest ih =>
    obtain ⟨answer, -, h⟩ := bind_eq_ok_iff.mp h
    cases answer with
    | true =>
      cases h
      exact List.mem_cons_self
    | false => exact List.mem_cons_of_mem b (ih h)

end Attempt

open Attempt

/-! ## Operations on values -/

namespace Value

mutual

/-- What cannot be a key cannot for its type. -/
theorem failsOnly_checkKey : (v : Value) → FailsOnly Fault.IsTypeFault v.checkKey
  | .number n => by
    unfold checkKey
    split
    · exact failsOnly_throw ⟨_, rfl, rfl⟩
    · exact failsOnly_pure _
  | .list _ | .dict _ | .set _ | .result .. | .entry .. => failsOnly_throw ⟨_, rfl, rfl⟩
  | .tuple items => failsOnly_checkKeys items
  | .null | .bool _ | .text _ | .bytes _ | .range .. | .date _ | .dateTime _ | .pattern _
  | .textMember _ | .member _ => failsOnly_pure _

theorem failsOnly_checkKeys : (items : List Value) → FailsOnly Fault.IsTypeFault (checkKeys items)
  | [] => failsOnly_pure _
  | v :: rest => (failsOnly_checkKey v).bind fun _ => failsOnly_checkKeys rest

end

theorem failsOnly_items (v : Value) : FailsOnly Fault.IsOperation v.items := by
  cases v <;> first | exact failsOnly_pure _ | exact failsOnly_refuse _

theorem failsOnly_pair (index : Nat) (v : Value) : FailsOnly Fault.IsOperation (pair index v) := by
  unfold pair
  dsimp only
  split
  · refine (failsOnly_pure _).bind fun parts => ?_
    split
    · exact failsOnly_pure _
    · exact failsOnly_refuse _
  · exact failsOnly_refuse _

theorem failsOnly_entriesOfPairs (entries : Entries) (index : Nat) (items : List Value) :
    FailsOnly Fault.IsOperation (entriesOfPairs entries index items) := by
  induction items generalizing entries index with
  | nil => exact failsOnly_pure _
  | cons v rest ih =>
    exact (failsOnly_pair index v).bind fun e =>
      ((failsOnly_checkKey e.1).imp fun _ => Fault.IsTypeFault.isOperation).bind fun _ => ih _ _

theorem failsOnly_toEntries (v : Value) : FailsOnly Fault.IsOperation v.toEntries := by
  have hitems := (failsOnly_items v).bind fun items => failsOnly_entriesOfPairs [] 0 items
  cases v with
  | dict entries => exact failsOnly_pure entries
  | _ => exact hitems

end Value

end RecordCheck
