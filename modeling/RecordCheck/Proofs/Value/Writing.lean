import RecordCheck.Proofs.Attempt
import RecordCheck.Value.Text

/-!
# Values that can be written

A value can be shown unless there is an integer in it that has too many digits, and that is the only reason why a
value has no text.  The text of a member of an enumeration is its name, whatever its body is.
-/

set_option autoImplicit false

namespace RecordCheck

namespace Value

mutual

/-- Whether no integer in a value has too many digits. -/
def isWritable : Value → Bool
  | .number n => n.text?.isSome
  | .list items | .tuple items | .set items => areWritable items
  | .dict entries => entriesAreWritable entries
  | .range start stop step => (rangeArguments start stop step).all fun n => (Number.int n).text?.isSome
  | .member body => body.isWritable
  | .entry code message details => code.isWritable && (message.isWritable && entriesAreWritable details)
  | .result _ value errors => value.isWritable && errors.isWritable
  | .null | .bool _ | .text _ | .bytes _ | .date _ | .dateTime _ | .pattern _ | .textMember _ => true

/-- Whether no integer in some values has too many digits. -/
def areWritable : List Value → Bool
  | [] => true
  | v :: rest => v.isWritable && areWritable rest

/-- Whether no integer in the keys and values of a mapping has too many digits. -/
def entriesAreWritable : List (Value × Value) → Bool
  | [] => true
  | (key, v) :: rest => key.isWritable && (v.isWritable && entriesAreWritable rest)

end

/-- Whether a value has a text: it is a member of an enumeration, or no integer in it has too many digits. -/
def hasText : Value → Bool
  | .member _ => true
  | v => v.isWritable

/-! ## Writing -/

/-- Whether writing something succeeds if it can be written, and fails for a long integer if not. -/
inductive WritesIf {α : Type} : Bool → Attempt α → Prop
  | written (a : α) : WritesIf true (.ok a)
  | refused : WritesIf false (.error (.operation .longInteger))

section

variable {α β : Type} {b c : Bool} {x : Attempt α} {f : α → Attempt β}

theorem writesIf_pure (a : α) : WritesIf true (pure a : Attempt α) := .written a

theorem WritesIf.bind (hx : WritesIf b x) (hf : ∀ a, WritesIf c (f a)) : WritesIf (b && c) (x >>= f) := by
  cases hx with
  | written a => exact hf a
  | refused => exact .refused

theorem WritesIf.bind_pure (hx : WritesIf b x) (g : α → β) : WritesIf b (x >>= fun a => pure (g a)) := by
  cases hx with
  | written a => exact .written (g a)
  | refused => exact .refused

/-- What is written fails to be only if it cannot be, and then for a long integer. -/
theorem WritesIf.eq_error_iff (hx : WritesIf b x) {fault : Fault} :
    x = .error fault ↔ b = false ∧ fault = .operation .longInteger := by
  cases hx with
  | written a => simp
  | refused => simp [eq_comm]

/-- What is written succeeds to be just when it can be. -/
theorem WritesIf.exists_ok_iff (hx : WritesIf b x) : (∃ a, x = .ok a) ↔ b = true := by
  cases hx with
  | written a => simp
  | refused => simp

end

theorem writesIf_numberText (n : Number) : WritesIf n.text?.isSome (numberText n) := by
  unfold numberText
  cases n.text? with
  | none => exact .refused
  | some s => exact .written s

theorem writesIf_integers (ns : List Int) :
    WritesIf (ns.all fun n => (Number.int n).text?.isSome) (ns.mapM fun n => numberText (.int n)) := by
  induction ns with
  | nil => exact writesIf_pure []
  | cons n rest ih =>
    rw [List.mapM_cons, List.all_cons]
    refine WritesIf.bind (writesIf_numberText (.int n)) fun s => ?_
    exact ih.bind_pure (s :: ·)

mutual

theorem writesIf_shown : ∀ v : Value, WritesIf v.isWritable v.shown
  | .number (.decimal d) => writesIf_pure _
  | .number (.int n) => writesIf_numberText (.int n)
  | .number (.float x) => writesIf_numberText (.float x)
  | .list items => (writesIf_shownList items).bind_pure _
  | .tuple [] => (writesIf_shownList []).bind_pure _
  -- A tuple of one item is shown with a comma after it, and so apart from the others.
  | .tuple [item] => by
    have h : (tuple [item]).isWritable = item.isWritable := by rw [isWritable, areWritable, areWritable, Bool.and_true]
    rw [h]
    exact (writesIf_shown item).bind_pure _
  | .tuple (item :: next :: rest) => (writesIf_shownList (item :: next :: rest)).bind_pure _
  | .set [] => writesIf_pure _
  | .set (item :: rest) => (writesIf_shownList (item :: rest)).bind_pure _
  | .dict entries => (writesIf_shownEntries entries).bind_pure _
  | .range start stop step => (writesIf_integers _).bind_pure _
  | .member body => (writesIf_shown body).bind_pure _
  | .entry code message details =>
    (writesIf_shown code).bind fun _ => (writesIf_shown message).bind fun _ =>
      (writesIf_shownEntries details).bind_pure _
  | .result _ value errors => (writesIf_shown value).bind fun _ => (writesIf_shown errors).bind_pure _
  | .null | .bool _ | .text _ | .bytes _ | .date _ | .dateTime _ | .pattern _ | .textMember _ => writesIf_pure _

theorem writesIf_shownList : ∀ items : List Value, WritesIf (areWritable items) (shownList items)
  | [] => writesIf_pure _
  | v :: rest => (writesIf_shown v).bind fun _ => (writesIf_shownList rest).bind_pure _

theorem writesIf_shownEntries : ∀ entries : List (Value × Value),
    WritesIf (entriesAreWritable entries) (shownEntries entries)
  | [] => writesIf_pure _
  | (key, v) :: rest =>
    (writesIf_shown key).bind fun _ => (writesIf_shown v).bind fun _ => (writesIf_shownEntries rest).bind_pure _

end

variable {v : Value} {fault : Fault}

theorem shownText_eq_error_iff :
    v.shownText = .error fault ↔ v.isWritable = false ∧ fault = .operation .longInteger :=
  ((writesIf_shown v).bind_pure _).eq_error_iff

theorem writesIf_textOf (v : Value) : WritesIf v.hasText v.textOf := by
  refine WritesIf.bind_pure ?_ _
  cases v with
  | number n => exact writesIf_numberText n
  | bool _ | list _ | tuple _ | set _ | dict _ | range _ _ _ | entry _ _ _ | result _ _ _ => exact writesIf_shown _
  | _ => exact writesIf_pure _

theorem textOf_eq_error_iff :
    v.textOf = .error fault ↔ v.hasText = false ∧ fault = .operation .longInteger :=
  (writesIf_textOf v).eq_error_iff

/-- Every text can be written. -/
theorem hasText_of_text? {s : String} (h : v.text? = some s) : v.hasText = true := by
  cases v <;> first | rfl | cases h

theorem exists_textOf_iff : (∃ s, v.textOf = .ok s) ↔ v.hasText = true := (writesIf_textOf v).exists_ok_iff

end Value

end RecordCheck
