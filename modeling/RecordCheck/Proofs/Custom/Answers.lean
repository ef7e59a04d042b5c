import RecordCheck.Custom.Answer
import RecordCheck.Proofs.Report.Messages

/-!
# What answers stand for

A validator or hook may answer with anything.  What it answers with is exactly one of three things: it stands for
an outcome, it is of a kind that stands for nothing, which is reported as a mistake of the validator, or an
operation on something in it fails, which is not.
-/

set_option autoImplicit false

namespace RecordCheck.Custom

open Attempt

variable {code value answer item errors : Value} {fault : Fault}

/-! ## Errors in an answer -/

/-- Whether a value can be an error: an entry, a text or a mapping. -/
def isItem : Value → Bool
  | .entry .. | .text _ | .textMember _ | .dict _ => true
  | _ => false

/-- Whether a value can be errors: a single one, or something that has members. -/
def isListing : Value → Bool
  | .list _ | .tuple _ | .set _ | .bytes _ | .range .. => true
  | v => isItem v

theorem errorItems_of_isItem (h : isItem errors = true) : errorItems errors = .ok [errors] := by
  cases errors <;> first | rfl | cases h

theorem errorItems_of_not_isItem (h : isItem errors = false) :
    errorItems errors = if errors.isTruthy then errors.items else .ok [] := by
  cases errors <;> first | rfl | cases h

theorem isListing_of_isItem (h : isItem errors = true) : isListing errors = true := by
  cases errors <;> first | rfl | cases h

theorem items_eq_error_iff (h : isItem errors = false) :
    errors.items = .error fault ↔
      isListing errors = false ∧ fault = .operation (.notIterable errors.operandName) := by
  cases errors <;> simp_all [Value.items, isListing, isItem]

theorem errorItems_eq_error_iff :
    errorItems errors = .error fault ↔
      errors.isTruthy = true ∧ isListing errors = false ∧
        fault = .operation (.notIterable errors.operandName) := by
  cases hitem : isItem errors with
  | true => simp [errorItems_of_isItem hitem, isListing_of_isItem hitem]
  | false =>
    rw [errorItems_of_not_isItem hitem]
    cases errors.isTruthy with
    | true => simp [items_eq_error_iff hitem]
    | false => simp

/-- The code that a mapping gives, or else a default. -/
def givenCode (code : Value) (item : Entries) : Value := (item.get? (.text "code")).getD code

/-- The details that a mapping gives, none if what it gives counts as false. -/
def givenDetails (item : Entries) : Value :=
  let details := (item.get? (.text "meta")).getD .null
  if details.isTruthy then details else .dict []

/-- The message that a mapping gives, unless that counts as false. -/
def givenMessage? (item : Entries) : Option Value := (item.get? (.text "message")).filter Value.isTruthy

/-- The message of the entry that a mapping describes: its own, or else that of the code. -/
def messageOf (code : Value) (item : Entries) : Attempt Value :=
  match givenMessage? item with
  | some message => pure message
  | none => .text <$> defaultMessage (givenCode code item) (givenDetails item)

/-- Whether an error in an answer is read as an entry, where the code is the one for those that have none. -/
inductive Reads (code : Value) : Value → Entry → Prop
  | entry (e : Entry) : Reads code e.toValue e
  | text {item : Value} (text : item.isText = true) : Reads code item ⟨code, item, []⟩
  | mapping {item details : Entries} {message : Value} (messaged : messageOf code item = .ok message)
      (detailed : (givenDetails item).toEntries = .ok details) :
      Reads code (.dict item) ⟨givenCode code item, message, details⟩

/-- Whether an operation fails when an error in an answer is read, and with what fault. -/
inductive Misreads (code : Value) : Value → Fault → Prop
  /-- it is of a kind that stands for nothing and cannot be shown -/
  | unshown {item : Value} (foreign : isItem item = false) (unwritten : item.isWritable = false) :
      Misreads code item (.operation .longInteger)
  /-- it is a mapping without a message, and its code has none -/
  | unmessaged {item : Entries} {fault : Fault} (none : givenMessage? item = none)
      (lacks : LacksMessage (givenCode code item) (givenDetails item) fault) : Misreads code (.dict item) fault
  /-- it is a mapping whose details cannot be made into a mapping -/
  | undetailed {item : Entries} {message : Value} {fault : Fault} (messaged : messageOf code item = .ok message)
      (unmapped : (givenDetails item).toEntries = .error fault) : Misreads code (.dict item) fault

theorem entryOfDict_eq (code : Value) (item : Entries) :
    entryOfDict code item = do
      let message ← messageOf code item
      return ⟨givenCode code item, message, ← (givenDetails item).toEntries⟩ := by
  unfold entryOfDict messageOf givenMessage?
  cases hmessage : item.get? (.text "message") with
  | none => rfl
  | some message =>
    cases htruthy : message.isTruthy with
    | true => simp [htruthy, Option.filter]; rfl
    | false => simp [htruthy, Option.filter]; rfl

theorem toEntry_of_not_isItem (h : isItem item = false) :
    toEntry code item =
      item.shownText >>= fun shown => throw (.validator (.unsupportedItem item.kindName shown)) := by
  cases item <;> first | rfl | cases h

theorem toEntry_eq_ok_iff {e : Entry} : toEntry code item = .ok e ↔ Reads code item e := by
  constructor
  · intro h
    cases item with
    | entry code' message details =>
      cases h
      exact .entry ⟨code', message, details⟩
    | text s =>
      cases h
      exact .text rfl
    | textMember s =>
      cases h
      exact .text rfl
    | dict entries =>
      rw [toEntry, entryOfDict_eq] at h
      obtain ⟨message, hmessage, h⟩ := bind_eq_ok_iff.mp h
      obtain ⟨details, hdetails, h⟩ := bind_eq_ok_iff.mp h
      cases h
      exact .mapping hmessage hdetails
    | _ =>
      rw [toEntry_of_not_isItem rfl] at h
      obtain ⟨shown, -, h⟩ := bind_eq_ok_iff.mp h
      cases h
  · intro h
    cases h with
    | entry e => rfl
    | text htext => cases item <;> first | rfl | cases htext
    | mapping hmessage hdetails => rw [toEntry, entryOfDict_eq, hmessage, ok_bind, hdetails]; rfl

theorem toEntry_eq_error_iff :
    toEntry code item = .error fault ↔
      (∃ shown, isItem item = false ∧ item.shownText = .ok shown ∧
        fault = .validator (.unsupportedItem item.kindName shown)) ∨ Misreads code item fault := by
  constructor
  · intro h
    cases hitem : isItem item with
    | false =>
      rw [toEntry_of_not_isItem hitem, bind_eq_error_iff] at h
      rcases h with h | ⟨shown, hshown, h⟩
      · obtain ⟨hunwritten, rfl⟩ := Value.shownText_eq_error_iff.mp h
        exact .inr (.unshown hitem hunwritten)
      · cases h
        exact .inl ⟨shown, rfl, hshown, rfl⟩
    | true =>
      cases item with
      | dict entries =>
        rw [toEntry, entryOfDict_eq, bind_eq_error_iff] at h
        rcases h with h | ⟨message, hmessage, h⟩
        · unfold messageOf at h
          split at h
          · cases h
          · rename_i hnone
            exact .inr (.unmessaged hnone (defaultMessage_eq_error_iff.mp (map_eq_error_iff.mp h)))
        · rcases bind_eq_error_iff.mp h with h | ⟨details, -, h⟩
          · exact .inr (.undetailed hmessage h)
          · cases h
      | text s => cases h
      | textMember s => cases h
      | entry code' message details => cases h
      | _ => cases hitem
  · rintro (⟨shown, hforeign, hshown, rfl⟩ | h)
    · rw [toEntry_of_not_isItem hforeign, hshown]
      rfl
    · cases h with
      | unshown hforeign hunwritten =>
        rw [toEntry_of_not_isItem hforeign, Value.shownText_eq_error_iff.mpr ⟨hunwritten, rfl⟩]
        rfl
      | unmessaged hnone hlacks =>
        rw [toEntry, entryOfDict_eq, messageOf, hnone, defaultMessage_eq_error_iff.mpr hlacks]
        rfl
      | undetailed hmessage hunmapped =>
        rw [toEntry, entryOfDict_eq, hmessage, ok_bind, hunmapped]
        rfl

/-! ## Answers -/

/-- Whether an answer is of a kind that stands for something: nothing, `true` or a result. -/
def isAnswer : Value → Bool
  | .null | .bool true | .result .. => true
  | _ => false

/-- The outcome that an answer stands for. -/
inductive StandsFor (code value : Value) : Value → Outcome → Prop
  | silence : StandsFor code value .null (.accept value)
  | consent : StandsFor code value (.bool true) (.accept value)
  | accepted (other notes : Value) : StandsFor code value (.result true other notes) (.accepted other notes)
  | rejected {other errors : Value} {items : List Value} {entries : List Entry}
      (listed : errorItems errors = .ok items) (filled : items ≠ [])
      (each : List.Forall₂ (Reads code) items entries) :
      StandsFor code value (.result false other errors) (.reject other entries)
  | unexplained {other errors : Value} {message : String} (listed : errorItems errors = .ok [])
      (default : defaultMessage code .null = .ok message) :
      StandsFor code value (.result false other errors) (.reject other [⟨code, .text message, []⟩])

/-- Whether an answer is a mistake of the validator: it, or the first of its errors that is not read, is of a kind
that stands for nothing. -/
inductive IsMistake (code : Value) : Value → Fault → Prop
  | answer {answer : Value} {shown : String} (foreign : isAnswer answer = false)
      (written : answer.shownText = .ok shown) :
      IsMistake code answer (.validator (.unsupportedResult answer.kindName shown))
  | item {other errors item : Value} {before after : List Value} {shown : String}
      (listed : errorItems errors = .ok (before ++ item :: after))
      (earlier : ∀ b ∈ before, ∃ e, Reads code b e) (foreign : isItem item = false)
      (written : item.shownText = .ok shown) :
      IsMistake code (.result false other errors) (.validator (.unsupportedItem item.kindName shown))

/-- Whether an operation fails when an answer is made out, and with what fault. -/
inductive Hinders (code : Value) : Value → Fault → Prop
  /-- it is of a kind that stands for nothing and cannot be shown -/
  | unshown {answer : Value} (foreign : isAnswer answer = false) (unwritten : answer.isWritable = false) :
      Hinders code answer (.operation .longInteger)
  /-- its errors are no error and have no members -/
  | unlisted {other errors : Value} (filled : errors.isTruthy = true) (foreign : isListing errors = false) :
      Hinders code (.result false other errors) (.operation (.notIterable errors.operandName))
  /-- an operation fails when the first of its errors that is not read is -/
  | misread {other errors item : Value} {before after : List Value} {fault : Fault}
      (listed : errorItems errors = .ok (before ++ item :: after))
      (earlier : ∀ b ∈ before, ∃ e, Reads code b e) (misread : Misreads code item fault) :
      Hinders code (.result false other errors) fault
  /-- it has no errors, and the code has no message -/
  | unexplained {other errors : Value} {fault : Fault} (listed : errorItems errors = .ok [])
      (lacks : LacksMessage code .null fault) : Hinders code (.result false other errors) fault

theorem normalize_of_not_isAnswer (h : isAnswer answer = false) (value code : Value) :
    normalize answer value code =
      answer.shownText >>= fun shown => throw (.validator (.unsupportedResult answer.kindName shown)) := by
  cases answer with
  | bool b => cases b <;> first | rfl | cases h
  | null => cases h
  | result valid other errors => cases h
  | _ => rfl

theorem normalize_rejected (other errors value code : Value) :
    normalize (.result false other errors) value code = (do
      match ← (← errorItems errors).mapM (toEntry code) with
      | [] => return .reject other [⟨code, .text (← defaultMessage code .null), []⟩]
      | entries => return .reject other entries) := rfl

/-- Errors are read as entries, one by one. -/
theorem mapM_toEntry_eq_ok_iff {items : List Value} {entries : List Entry} :
    items.mapM (toEntry code) = .ok entries ↔ List.Forall₂ (Reads code) items entries := by
  simp only [mapM_eq_ok_iff, toEntry_eq_ok_iff]

theorem normalize_eq_ok_iff {o : Outcome} : normalize answer value code = .ok o ↔ StandsFor code value answer o := by
  constructor
  · intro h
    cases hanswer : isAnswer answer with
    | false =>
      rw [normalize_of_not_isAnswer hanswer] at h
      obtain ⟨shown, -, h⟩ := bind_eq_ok_iff.mp h
      cases h
    | true =>
      cases answer with
      | null =>
        cases h
        exact .silence
      | bool b =>
        cases b with
        | true =>
          cases h
          exact .consent
        | false => cases hanswer
      | result valid other errors =>
        cases valid with
        | true =>
          cases h
          exact .accepted other errors
        | false =>
          rw [normalize_rejected] at h
          obtain ⟨items, hitems, h⟩ := bind_eq_ok_iff.mp h
          obtain ⟨entries, hentries, h⟩ := bind_eq_ok_iff.mp h
          have heach := mapM_toEntry_eq_ok_iff.mp hentries
          cases heach with
          | nil =>
            obtain ⟨message, hmessage, h⟩ := bind_eq_ok_iff.mp h
            cases h
            exact .unexplained hitems hmessage
          | cons hfirst hrest =>
            cases h
            exact .rejected hitems (List.cons_ne_nil _ _) (.cons hfirst hrest)
      | _ => cases hanswer
  · intro h
    cases h with
    | silence => rfl
    | consent => rfl
    | accepted other notes => rfl
    | rejected hitems hfilled heach =>
      rw [normalize_rejected, hitems, ok_bind, mapM_toEntry_eq_ok_iff.mpr heach]
      cases heach with
      | nil => exact absurd rfl hfilled
      | cons hfirst hrest => rfl
    | unexplained hitems hmessage =>
      rw [normalize_rejected, hitems, ok_bind, mapM_toEntry_eq_ok_iff.mpr .nil, ok_bind]
      dsimp only
      rw [hmessage]
      rfl

theorem normalize_eq_error_iff :
    normalize answer value code = .error fault ↔ IsMistake code answer fault ∨ Hinders code answer fault := by
  constructor
  · intro h
    cases hanswer : isAnswer answer with
    | false =>
      rw [normalize_of_not_isAnswer hanswer, bind_eq_error_iff] at h
      rcases h with h | ⟨shown, hshown, h⟩
      · obtain ⟨hunwritten, rfl⟩ := Value.shownText_eq_error_iff.mp h
        exact .inr (.unshown hanswer hunwritten)
      · cases h
        exact .inl (.answer hanswer hshown)
    | true =>
      cases answer with
      | null => cases h
      | bool b =>
        cases b with
        | true => cases h
        | false => cases hanswer
      | result valid other errors =>
        cases valid with
        | true => cases h
        | false =>
          rw [normalize_rejected, bind_eq_error_iff] at h
          rcases h with h | ⟨items, hitems, h⟩
          · obtain ⟨hfilled, hforeign, rfl⟩ := errorItems_eq_error_iff.mp h
            exact .inr (.unlisted hfilled hforeign)
          rcases bind_eq_error_iff.mp h with h | ⟨entries, hentries, h⟩
          · -- The first error that is not read decides which of the two it is.
            obtain ⟨before, item, after, rfl, hearlier, h⟩ := mapM_eq_error_iff.mp h
            simp only [toEntry_eq_ok_iff] at hearlier
            rcases toEntry_eq_error_iff.mp h with ⟨shown, hforeign, hshown, rfl⟩ | hmisreads
            · exact .inl (.item hitems hearlier hforeign hshown)
            · exact .inr (.misread hitems hearlier hmisreads)
          · cases mapM_toEntry_eq_ok_iff.mp hentries with
            | nil =>
              rcases bind_eq_error_iff.mp h with hmessage | ⟨message, -, h⟩
              · exact .inr (.unexplained hitems (defaultMessage_eq_error_iff.mp hmessage))
              · cases h
            | cons hfirst hrest => cases h
      | _ => cases hanswer
  · have failed {other errors item : Value} {before after : List Value} {fault : Fault}
        (hitems : errorItems errors = .ok (before ++ item :: after))
        (hearlier : ∀ b ∈ before, ∃ e, Reads code b e) (h : toEntry code item = .error fault) :
        normalize (.result false other errors) value code = .error fault := by
      simp only [← toEntry_eq_ok_iff] at hearlier
      rw [normalize_rejected, hitems, ok_bind, mapM_eq_error_iff.mpr ⟨before, item, after, rfl, hearlier, h⟩]
      rfl
    rintro (h | h)
    · cases h with
      | answer hforeign hshown =>
        rw [normalize_of_not_isAnswer hforeign, hshown]
        rfl
      | item hitems hearlier hforeign hshown =>
        exact failed hitems hearlier (toEntry_eq_error_iff.mpr (.inl ⟨_, hforeign, hshown, rfl⟩))
    · cases h with
      | unshown hforeign hunwritten =>
        rw [normalize_of_not_isAnswer hforeign, Value.shownText_eq_error_iff.mpr ⟨hunwritten, rfl⟩]
        rfl
      | unlisted hfilled hforeign =>
        rw [normalize_rejected, errorItems_eq_error_iff.mpr ⟨hfilled, hforeign, rfl⟩]
        rfl
      | misread hitems hearlier hmisreads =>
        exact failed hitems hearlier (toEntry_eq_error_iff.mpr (.inr hmisreads))
      | unexplained hitems hlacks =>
        rw [normalize_rejected, hitems, ok_bind, mapM_toEntry_eq_ok_iff.mpr .nil, ok_bind]
        dsimp only
        rw [defaultMessage_eq_error_iff.mpr hlacks]
        rfl

/-! ## Faults of answers -/

/-- Whether a fault is that of an answer, or of an error in one, of a kind that stands for nothing. -/
def IsUnsupported (fault : Fault) : Prop :=
  ∃ kind shown, fault = .validator (.unsupportedResult kind shown) ∨
    fault = .validator (.unsupportedItem kind shown)

theorem IsUnsupported.kind_eq (h : IsUnsupported fault) : fault.kind = "CustomValidatorError" := by
  obtain ⟨kind, shown, rfl | rfl⟩ := h <;> rfl

theorem IsUnsupported.not_isOperation (h : IsUnsupported fault) : ¬ fault.IsOperation := by
  rintro ⟨cause, rfl⟩
  obtain ⟨kind, shown, h | h⟩ := h <;> cases h

theorem IsMistake.isUnsupported (h : IsMistake code answer fault) : IsUnsupported fault := by
  cases h with
  | answer => exact ⟨_, _, .inl rfl⟩
  | item => exact ⟨_, _, .inr rfl⟩

theorem Hinders.isOperation (h : Hinders code answer fault) : fault.IsOperation := by
  cases h with
  | unshown => exact ⟨_, rfl⟩
  | unlisted => exact ⟨_, rfl⟩
  | misread _ _ hmisreads =>
    cases hmisreads with
    | unshown => exact ⟨_, rfl⟩
    | unmessaged _ hlacks => exact hlacks.isOperation
    | undetailed _ hunmapped => exact Value.failsOnly_toEntries _ _ hunmapped
  | unexplained _ hlacks => exact hlacks.isOperation

end RecordCheck.Custom
