import RecordCheck.Proofs.Operations
import RecordCheck.Proofs.Value.Writing
import RecordCheck.Report.Entry

/-!
# Codes without a message

A code has a message with any details unless one of four things goes wrong: the code cannot be looked up, it is no
text that could be read as a message, the details to fill the message with are no mapping, or the one that it
names has no text.
-/

set_option autoImplicit false

namespace RecordCheck

open Attempt

variable {code : Value} {fault : Fault}

/-- Whether a code with details has no message, and for what fault. -/
inductive LacksMessage (code details : Value) : Fault → Prop
  /-- the code is of a type that cannot be a key -/
  | noKey {fault : Fault} (unhashable : code.checkKey = .error fault) : LacksMessage code details fault
  /-- the code is none of the library's own, and no text that could be read as a message -/
  | noText {fault : Fault} (hashable : code.checkKey = .ok ()) (unread : foreignMessage code = .error fault) :
      LacksMessage code details fault
  /-- the code is one of the library's own, and there are details that are no mapping -/
  | noMapping {c : Code} (known : code.text?.bind Code.ofName? = some c) (filled : details.isTruthy = true)
      (other : details.entries? = none) :
      LacksMessage code details (.operation (.formatArguments details.operandName))
  /-- the message names a detail that has no text -/
  | noDetail {c : Code} {name : String} {entries : Entries} {v : Value}
      (known : code.text?.bind Code.ofName? = some c) (given : details = .dict entries)
      (named : c.template.detail = some name) (found : entries.get? (.text name) = some v)
      (unwritten : v.hasText = false) : LacksMessage code details (.operation .longInteger)

theorem fill_eq_error_iff {t : Template} {details : Entries} :
    t.fill details = .error fault ↔
      ∃ name v, t.detail = some name ∧ details.get? (.text name) = some v ∧ v.hasText = false ∧
        fault = .operation .longInteger := by
  unfold Template.fill
  cases hname : t.detail with
  | none => simp
  | some name =>
    cases hv : details.get? (.text name) with
    | none => simp [hv]
    | some v => simp [hv, Value.textOf_eq_error_iff]

theorem detailsOf_eq_error_iff {details : Value} :
    detailsOf details = .error fault ↔
      details.isTruthy = true ∧ details.entries? = none ∧
        fault = .operation (.formatArguments details.operandName) := by
  unfold detailsOf
  cases details.isTruthy with
  | false => simp
  | true => cases details <;> simp [Value.entries?]

theorem detailsOf_dict (entries : Entries) : detailsOf (.dict entries) = .ok entries := by
  cases entries <;> rfl

/-- Details that are found are those of a mapping. -/
theorem dict_of_detailsOf {details : Value} {entries : Entries} {key v : Value} (h : detailsOf details = .ok entries)
    (hfound : entries.get? key = some v) : details = .dict entries := by
  unfold detailsOf at h
  split at h
  · cases h
    cases hfound
  · split at h
    · cases h
      rfl
    · cases h

/-- A code of the library's own has the message that it has with the details. -/
theorem defaultMessage_of_known {details : Value} {c : Code} (h : code.text?.bind Code.ofName? = some c) :
    defaultMessage code details = detailsOf details >>= c.template.fill := by
  have hkey : code.checkKey = .ok () := by cases code <;> first | rfl | cases h
  rw [defaultMessage, hkey, ok_bind, h]

/-- A text has a message of its own. -/
theorem text?_of_foreignMessage (h : foreignMessage code = .error fault) : code.text? = none := by
  cases code <;> first | rfl | cases h

theorem defaultMessage_eq_error_iff {details : Value} :
    defaultMessage code details = .error fault ↔ LacksMessage code details fault := by
  constructor
  · intro h
    rw [defaultMessage, bind_eq_error_iff] at h
    rcases h with hkey | ⟨_, hkey, h⟩
    · exact .noKey hkey
    split at h
    · exact .noText hkey h
    · rename_i c hknown
      rw [bind_eq_error_iff, detailsOf_eq_error_iff] at h
      rcases h with ⟨hfilled, hother, rfl⟩ | ⟨entries, hentries, h⟩
      · exact .noMapping hknown hfilled hother
      · obtain ⟨name, v, hnamed, hfound, hunwritten, rfl⟩ := fill_eq_error_iff.mp h
        exact .noDetail hknown (dict_of_detailsOf hentries hfound) hnamed hfound hunwritten
  · intro h
    cases h with
    | noKey hkey => exact bind_eq_error_iff.mpr (.inl hkey)
    | noText hkey hunread =>
      rw [defaultMessage, hkey, ok_bind, text?_of_foreignMessage hunread]
      exact hunread
    | noMapping hknown hfilled hother =>
      rw [defaultMessage_of_known hknown]
      exact bind_eq_error_iff.mpr (.inl (detailsOf_eq_error_iff.mpr ⟨hfilled, hother, rfl⟩))
    | noDetail hknown hgiven hnamed hfound hunwritten =>
      rw [defaultMessage_of_known hknown, hgiven, detailsOf_dict, ok_bind]
      exact fill_eq_error_iff.mpr ⟨_, _, hnamed, hfound, hunwritten, rfl⟩

theorem failsOnly_foreignMessage (code : Value) : FailsOnly Fault.IsOperation (foreignMessage code) := by
  unfold foreignMessage
  split <;> first | exact failsOnly_pure _ | exact failsOnly_refuse _

theorem LacksMessage.isOperation {details : Value} (h : LacksMessage code details fault) : fault.IsOperation := by
  cases h with
  | noKey hkey => exact (Value.failsOnly_checkKey code fault hkey).isOperation
  | noText _ hunread => exact failsOnly_foreignMessage code fault hunread
  | noMapping => exact ⟨_, rfl⟩
  | noDetail => exact ⟨_, rfl⟩

end RecordCheck
