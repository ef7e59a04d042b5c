import RecordCheck.Custom.Dispatch
import RecordCheck.Proofs.Custom.Answers

/-!
# Values under custom types

A value under a custom type is rejected if no validator is registered for the type, and if the validator fails,
whatever it fails with.  If it answers, the value is what the answer stands for.  Besides what keeps an answer from
standing for anything, only the name of the type can keep a value from an outcome.
-/

set_option autoImplicit false

namespace RecordCheck.Custom

open Attempt

/-- The entry for a type that no validator is registered for. -/
def unknownType (typeName : Value) (name : String) : Entry :=
  ⟨.text "custom_type", .text ("unknown custom type " ++ name), [(.text "type", typeName)]⟩

/-- The entry for a validator that failed. -/
def failedValidator (typeName : Value) (name : String) (fault : Fault) : Entry :=
  ⟨.text "custom_type", .text ("custom validator " ++ name ++ " failed: " ++ fault.message),
    [(.text "type", typeName), (.text "reason", .text fault.message)]⟩

section

variable (registry : Registry) (request : Request) (value : Value) (context : Context)

/-- The outcome of a value under a custom type. -/
inductive Decides : Outcome → Prop
  | unknown {name : String} (missing : registry.get? request.typeName = .ok none)
      (named : request.typeName.textOf = .ok name) :
      Decides (.reject value [unknownType request.typeName name])
  | failed {validator : Validator} {fault : Fault} {name : String}
      (found : registry.get? request.typeName = .ok (some validator))
      (failed : validator value context request = .error fault) (named : request.typeName.textOf = .ok name) :
      Decides (.reject value [failedValidator request.typeName name fault])
  | answered {validator : Validator} {answer : Value} {o : Outcome}
      (found : registry.get? request.typeName = .ok (some validator))
      (answered : validator value context request = .ok answer)
      (stands : StandsFor request.typeName value answer o) : Decides o

/-- Whether a value under a custom type has no outcome, and for what fault. -/
inductive IsUndecided : Fault → Prop
  /-- the name of the type cannot be a key -/
  | noKey {fault : Fault} (unhashable : request.typeName.checkKey = .error fault) : IsUndecided fault
  /-- no validator is registered for the type, and its name has no text -/
  | unknown (missing : registry.get? request.typeName = .ok none) (unwritten : request.typeName.hasText = false) :
      IsUndecided (.operation .longInteger)
  /-- the validator failed, and the name of the type has no text -/
  | failed {validator : Validator} {fault : Fault}
      (found : registry.get? request.typeName = .ok (some validator))
      (failed : validator value context request = .error fault) (unwritten : request.typeName.hasText = false) :
      IsUndecided (.operation .longInteger)
  /-- the answer is a mistake of the validator -/
  | mistaken {validator : Validator} {answer : Value} {fault : Fault}
      (found : registry.get? request.typeName = .ok (some validator))
      (answered : validator value context request = .ok answer)
      (mistake : IsMistake request.typeName answer fault) : IsUndecided fault
  /-- an operation fails when the answer is made out -/
  | hindered {validator : Validator} {answer : Value} {fault : Fault}
      (found : registry.get? request.typeName = .ok (some validator))
      (answered : validator value context request = .ok answer)
      (hinders : Hinders request.typeName answer fault) : IsUndecided fault

end

section

variable {registry : Registry} {request : Request} {context : Context} {value answer : Value} {fault : Fault}

theorem rejectFor_customType (value typeName : Value) :
    Outcome.rejectFor value .customType [(.text "type", typeName)] =
      (fun name => .reject value [unknownType typeName name]) <$> typeName.textOf := by
  have hfill : Code.customType.template.fill [(.text "type", typeName)] =
      (fun name => "unknown custom type " ++ name ++ "") <$> typeName.textOf := rfl
  rw [Outcome.rejectFor, Entry.ofCode, hfill]
  simp only [String.append_empty]
  cases typeName.textOf <;> rfl

theorem dispatch_of_missing (h : registry.get? request.typeName = .ok none) :
    dispatch registry request value context =
      (fun name => .reject value [unknownType request.typeName name]) <$> request.typeName.textOf := by
  rw [dispatch, h, ok_bind, rejectFor_customType]

theorem dispatch_of_failed {validator : Validator} (h : registry.get? request.typeName = .ok (some validator))
    (hfault : validator value context request = .error fault) :
    dispatch registry request value context =
      (fun name => .reject value [failedValidator request.typeName name fault]) <$> request.typeName.textOf := by
  rw [dispatch, h, ok_bind]
  dsimp only
  rw [hfault]
  dsimp only
  rw [failureOutcome]
  cases request.typeName.textOf <;> rfl

theorem dispatch_of_answered {validator : Validator} (h : registry.get? request.typeName = .ok (some validator))
    (hanswer : validator value context request = .ok answer) :
    dispatch registry request value context = normalize answer value request.typeName := by
  rw [dispatch, h, ok_bind]
  dsimp only
  rw [hanswer]

theorem dispatch_eq_ok_iff {o : Outcome} :
    dispatch registry request value context = .ok o ↔ Decides registry request value context o := by
  constructor
  · intro h
    obtain ⟨found, hfound, -⟩ := bind_eq_ok_iff.mp h
    cases found with
    | none =>
      rw [dispatch_of_missing hfound] at h
      obtain ⟨name, hname, rfl⟩ := map_eq_ok_iff.mp h
      exact .unknown hfound hname
    | some validator =>
      cases hanswer : validator value context request with
      | error fault =>
        rw [dispatch_of_failed hfound hanswer] at h
        obtain ⟨name, hname, rfl⟩ := map_eq_ok_iff.mp h
        exact .failed hfound hanswer hname
      | ok answer =>
        rw [dispatch_of_answered hfound hanswer, normalize_eq_ok_iff] at h
        exact .answered hfound hanswer h
  · intro h
    cases h with
    | unknown hfound hname =>
      rw [dispatch_of_missing hfound, hname]
      rfl
    | failed hfound hfault hname =>
      rw [dispatch_of_failed hfound hfault, hname]
      rfl
    | answered hfound hanswer hstands =>
      rw [dispatch_of_answered hfound hanswer]
      exact normalize_eq_ok_iff.mpr hstands

theorem dispatch_eq_error_iff :
    dispatch registry request value context = .error fault ↔ IsUndecided registry request value context fault := by
  constructor
  · intro h
    rcases bind_eq_error_iff.mp h with hkey | ⟨found, hfound, -⟩
    · rcases bind_eq_error_iff.mp hkey with hkey | ⟨_, -, hfind⟩
      · exact .noKey hkey
      · cases hfind
    cases found with
    | none =>
      rw [dispatch_of_missing hfound, map_eq_error_iff] at h
      obtain ⟨hunwritten, rfl⟩ := Value.textOf_eq_error_iff.mp h
      exact .unknown hfound hunwritten
    | some validator =>
      cases hanswer : validator value context request with
      | error raised =>
        rw [dispatch_of_failed hfound hanswer, map_eq_error_iff] at h
        obtain ⟨hunwritten, rfl⟩ := Value.textOf_eq_error_iff.mp h
        exact .failed hfound hanswer hunwritten
      | ok answer =>
        rw [dispatch_of_answered hfound hanswer] at h
        rcases normalize_eq_error_iff.mp h with hmistake | hhinders
        · exact .mistaken hfound hanswer hmistake
        · exact .hindered hfound hanswer hhinders
  · intro h
    cases h with
    | noKey hkey =>
      rw [dispatch, Registry.get?, hkey]
      rfl
    | unknown hfound hunwritten =>
      rw [dispatch_of_missing hfound, map_eq_error_iff]
      exact Value.textOf_eq_error_iff.mpr ⟨hunwritten, rfl⟩
    | failed hfound hfault hunwritten =>
      rw [dispatch_of_failed hfound hfault, map_eq_error_iff]
      exact Value.textOf_eq_error_iff.mpr ⟨hunwritten, rfl⟩
    | mistaken hfound hanswer hmistake =>
      rw [dispatch_of_answered hfound hanswer]
      exact normalize_eq_error_iff.mpr (.inl hmistake)
    | hindered hfound hanswer hhinders =>
      rw [dispatch_of_answered hfound hanswer]
      exact normalize_eq_error_iff.mpr (.inr hhinders)

end

/-- An answer is normalized to the outcome that it stands for, or reported as the mistake of the validator that it
is, just when no operation on something in it fails; the fault of one goes through.  A value under a custom type is
decided in turn, and rejected where the validator fails. -/
theorem normalize_dispatch_spec (answer value code : Value) (registry : Registry) (request : Request)
    (context : Context) :
    (∀ o, normalize answer value code = .ok o ↔ StandsFor code value answer o) ∧
      (∀ fault, normalize answer value code = .error fault ↔
        IsMistake code answer fault ∨ Hinders code answer fault) ∧
      (∀ fault, IsMistake code answer fault → fault.kind = "CustomValidatorError") ∧
      (∀ fault, Hinders code answer fault → fault.IsOperation) ∧
      ((∃ o, StandsFor code value answer o) ∨ (∃ fault, IsMistake code answer fault) ↔
        ¬ ∃ fault, Hinders code answer fault) ∧
      (∀ o, dispatch registry request value context = .ok o ↔ Decides registry request value context o) ∧
      ∀ fault, dispatch registry request value context = .error fault ↔
        IsUndecided registry request value context fault := by
  refine ⟨fun _ => normalize_eq_ok_iff, fun _ => normalize_eq_error_iff, fun _ h => h.isUnsupported.kind_eq,
    fun _ => Hinders.isOperation, ⟨?_, fun hnone => ?_⟩, fun _ => dispatch_eq_ok_iff, fun _ => dispatch_eq_error_iff⟩
  · rintro hmet ⟨fault, hhinders⟩
    have hfault : normalize answer value code = .error fault := normalize_eq_error_iff.mpr (.inr hhinders)
    rcases hmet with ⟨o, hstands⟩ | ⟨mistaken, hmistake⟩
    · cases (normalize_eq_ok_iff.mpr hstands).symm.trans hfault
    · have hmistaken : normalize answer value code = .error mistaken := normalize_eq_error_iff.mpr (.inl hmistake)
      cases hmistaken.symm.trans hfault
      exact hmistake.isUnsupported.not_isOperation hhinders.isOperation
  · cases h : normalize answer value code with
    | ok o => exact .inl ⟨o, normalize_eq_ok_iff.mp h⟩
    | error fault =>
      rcases normalize_eq_error_iff.mp h with hmistake | hhinders
      · exact .inr ⟨fault, hmistake⟩
      · exact absurd ⟨fault, hhinders⟩ hnone

/-- Errors that are a number are neither read nor reported as a mistake: they have no members. -/
theorem not_normalize_total :
    ¬ ∀ answer value code : Value, (∃ o, normalize answer value code = .ok o) ∨
      ∃ fault, normalize answer value code = .error fault ∧ fault.kind = "CustomValidatorError" := by
  intro hall
  have hhinders : normalize (.result false (.text "x") (.int 42)) (.text "x") (.text "slug") =
      .error (.operation (.notIterable "int")) := normalize_eq_error_iff.mpr (.inr (.unlisted rfl rfl))
  rcases hall _ _ _ with ⟨o, ho⟩ | ⟨fault, hfault, hkind⟩
  · cases hhinders.symm.trans ho
  · cases hhinders.symm.trans hfault
    exact absurd hkind (by decide)

end RecordCheck.Custom
