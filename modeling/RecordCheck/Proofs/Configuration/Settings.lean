import RecordCheck.Configuration.Settings
import RecordCheck.Proofs.Operations
import RecordCheck.Proofs.Value.Writing

/-!
# Settings that are checked

A setting is read if it stands for a truth value or for a positive integer, and refused by a message that shows it
if it does not.  Two things come in between: an infinite number is no integer in a way that is not looked for, and
a value with an integer of too many digits cannot be shown.
-/

set_option autoImplicit false

namespace RecordCheck

open Attempt

/-! ## Readers -/

/-- Whether a value is an infinite number. -/
def Value.isInfinite : Value → Bool
  | .number (.float (.infinite _)) | .number (.decimal (.infinite _)) => true
  | _ => false

namespace Settings

/-- Whether a setting stands for a truth value: it is one, or a word for it. -/
def IsBoolean (v : Value) (b : Bool) : Prop := v = .bool b ∨ v.text?.bind readWord = some b

/-- Whether a setting stands for a positive integer; a truth value does not. -/
def IsPositive (v : Value) (n : Nat) : Prop := v.isBool = false ∧ 0 < n ∧ v.toInteger = .ok n

/-- How a setting that stands for no truth value is refused. -/
def RefusesBoolean (key : String) (v : Value) (fault : Fault) : Prop :=
  (∀ b, ¬IsBoolean v b) ∧ ∃ shown, v.shownText = .ok shown ∧ fault = .configuration (.notBoolean key shown)

/-- How a setting that stands for no positive integer is refused. -/
inductive RefusesPositive (key : String) (v : Value) : Fault → Prop
  /-- it stands for no integer at all -/
  | noInteger {cause : Fault} {shown : String} (unread : v.toInteger = .error cause) (finite : v.isInfinite = false)
      (written : v.shownText = .ok shown) : RefusesPositive key v (.configuration (.notInteger key shown))
  /-- it stands for an integer, but is a truth value, or the integer is not positive -/
  | notPositive {n : Int} {shown : String} (read : v.toInteger = .ok n) (bad : v.isBool = true ∨ n ≤ 0)
      (written : v.shownText = .ok shown) : RefusesPositive key v (.configuration (.notPositive key shown))

/-- What a setting that stands for no truth value fails with where it cannot be shown. -/
def HindersBoolean (v : Value) (fault : Fault) : Prop :=
  (∀ b, ¬IsBoolean v b) ∧ v.isWritable = false ∧ fault = .operation .longInteger

/-- What a setting that stands for no positive integer fails with where it is not refused. -/
inductive HindersPositive : Value → Fault → Prop
  /-- an infinite floating point number -/
  | float {negative : Bool} :
      HindersPositive (.number (.float (.infinite negative))) (.operation (.notFinite false false))
  /-- an infinite decimal -/
  | decimal {negative : Bool} :
      HindersPositive (.number (.decimal (.infinite negative))) (.operation (.notFinite true false))
  /-- a value that cannot be shown -/
  | unwritable {v : Value} (unread : ∀ n, ¬IsPositive v n) (unwritable : v.isWritable = false) :
      HindersPositive v (.operation .longInteger)

section

variable {key : String} {v : Value} {b : Bool} {n : Nat} {fault : Fault}

theorem readBoolean_of_unread (h : ∀ b, ¬IsBoolean v b) :
    readBoolean key v = v.shownText >>= fun shown => throw (.configuration (.notBoolean key shown)) := by
  unfold readBoolean
  split
  · exact absurd (.inl rfl) (h _)
  · split
    · rename_i hword
      exact absurd (.inr hword) (h _)
    · rfl

theorem readBoolean_of_isBoolean (h : IsBoolean v b) : readBoolean key v = .ok b := by
  rcases h with rfl | hword
  · rfl
  · unfold readBoolean
    split
    · cases hword
    · rw [hword]
      rfl

theorem readBoolean_eq_ok_iff : readBoolean key v = .ok b ↔ IsBoolean v b := by
  refine ⟨fun h => ?_, readBoolean_of_isBoolean⟩
  by_cases hread : ∃ other, IsBoolean v other
  · obtain ⟨other, hother⟩ := hread
    cases (readBoolean_of_isBoolean hother).symm.trans h
    exact hother
  · rw [readBoolean_of_unread (not_exists.mp hread)] at h
    obtain ⟨shown, -, hthrow⟩ := bind_eq_ok_iff.mp h
    cases hthrow

theorem readBoolean_eq_error_iff :
    readBoolean key v = .error fault ↔ RefusesBoolean key v fault ∨ HindersBoolean v fault := by
  by_cases hread : ∃ b, IsBoolean v b
  · obtain ⟨b, hb⟩ := hread
    rw [readBoolean_of_isBoolean hb]
    refine iff_of_false nofun ?_
    rintro (⟨hunread, -⟩ | ⟨hunread, -⟩) <;> exact hunread b hb
  · have hunread := not_exists.mp hread
    rw [readBoolean_of_unread hunread, bind_eq_error_iff, Value.shownText_eq_error_iff]
    constructor
    · rintro (⟨hlong, rfl⟩ | ⟨shown, hshown, hthrow⟩)
      · exact .inr ⟨hunread, hlong, rfl⟩
      · cases hthrow
        exact .inl ⟨hunread, shown, hshown, rfl⟩
    · rintro (⟨-, shown, hshown, rfl⟩ | ⟨-, hlong, rfl⟩)
      · exact .inr ⟨shown, hshown, rfl⟩
      · exact .inl ⟨hlong, rfl⟩

/-- What an integer cannot be made of says so, unless it is infinite. -/
theorem isNoInteger_of_toInteger (h : v.toInteger = .error fault) : isNoInteger fault = !v.isInfinite := by
  have hnumeral {s : List Char} (h : Value.integerOfNumeral s v = .error fault) : isNoInteger fault = true := by
    unfold Value.integerOfNumeral at h
    split at h
    · rcases bind_eq_error_iff.mp h with hshown | ⟨shown, -, hrefuse⟩
      · obtain ⟨-, rfl⟩ := Value.shownText_eq_error_iff.mp hshown
        rfl
      · cases hrefuse
        rfl
    · split at h <;> cases h
      rfl
  cases v with
  | number n => cases n with
    | int n => cases h
    | float x => cases x <;> cases h <;> rfl
    | decimal d => cases d <;> cases h <;> rfl
  | text s | textMember s | bytes b => exact hnumeral h
  | _ => cases h <;> rfl

theorem readPositive_of_error (h : v.toInteger = .error fault) (hfinite : v.isInfinite = false) :
    readPositive key v = v.shownText >>= fun shown => throw (.configuration (.notInteger key shown)) := by
  rw [readPositive, h]
  dsimp only
  rw [isNoInteger_of_toInteger h, hfinite]
  rfl

theorem readPositive_of_bad {n : Int} (h : v.toInteger = .ok n) (hbad : v.isBool = true ∨ n ≤ 0) :
    readPositive key v = v.shownText >>= fun shown => throw (.configuration (.notPositive key shown)) := by
  rw [readPositive, h]
  dsimp only
  rw [if_pos (by simpa using hbad)]

theorem readPositive_of_isPositive (h : IsPositive v n) : readPositive key v = .ok n := by
  obtain ⟨hbool, hpositive, hread⟩ := h
  rw [readPositive, hread]
  dsimp only
  rw [if_neg (by simp [hbool]; omega)]
  rfl

/-- An integer that a setting stands for is positive, or else the setting is refused for it. -/
theorem isPositive_or_bad {n : Int} (h : v.toInteger = .ok n) : IsPositive v n.toNat ∨ v.isBool = true ∨ n ≤ 0 := by
  by_cases hbad : v.isBool = true ∨ n ≤ 0
  · exact .inr hbad
  · obtain ⟨hbool, hpositive⟩ := not_or.mp hbad
    refine .inl ⟨Bool.eq_false_iff.mpr hbool, by omega, ?_⟩
    rw [h, Int.toNat_of_nonneg (by omega)]

theorem not_isPositive_of_bad {n : Int} (h : v.toInteger = .ok n) (hbad : v.isBool = true ∨ n ≤ 0) (m : Nat) :
    ¬IsPositive v m := by
  rintro ⟨hbool, hpositive, hread⟩
  cases h.symm.trans hread
  rcases hbad with htrue | hle
  · rw [hbool] at htrue
    cases htrue
  · omega

/-- A number that is infinite can be shown. -/
theorem isInfinite_of_not_isWritable (h : v.isWritable = false) : v.isInfinite = false := by
  cases v with
  | number n => cases n <;> first | rfl | cases h
  | _ => rfl

theorem readPositive_of_refuses (h : RefusesPositive key v fault) : readPositive key v = .error fault := by
  cases h with
  | noInteger hunread hfinite hshown =>
    rw [readPositive_of_error hunread hfinite, hshown]
    rfl
  | notPositive hread hbad hshown =>
    rw [readPositive_of_bad hread hbad, hshown]
    rfl

theorem readPositive_of_hinders (h : HindersPositive v fault) : readPositive key v = .error fault := by
  cases h with
  | float => rfl
  | decimal => rfl
  | unwritable hunread hlong =>
    have hshown := Value.shownText_eq_error_iff.mpr ⟨hlong, rfl⟩
    cases hread : v.toInteger with
    | error cause =>
      rw [readPositive_of_error hread (isInfinite_of_not_isWritable hlong), hshown]
      rfl
    | ok n =>
      rcases isPositive_or_bad hread with hpositive | hbad
      · exact absurd hpositive (hunread _)
      · rw [readPositive_of_bad hread hbad, hshown]
        rfl

theorem exists_hinders_of_isInfinite (h : v.isInfinite = true) : ∃ fault, HindersPositive v fault := by
  unfold Value.isInfinite at h
  split at h
  · exact ⟨_, .float⟩
  · exact ⟨_, .decimal⟩
  · cases h

/-- A setting that stands for no integer is refused, infinite or impossible to show. -/
theorem refuses_or_hinders_of_unread {cause : Fault} (h : v.toInteger = .error cause) :
    ∃ fault, RefusesPositive key v fault ∨ HindersPositive v fault := by
  cases hinfinite : v.isInfinite with
  | true =>
    obtain ⟨fault, hfault⟩ := exists_hinders_of_isInfinite hinfinite
    exact ⟨fault, .inr hfault⟩
  | false =>
    cases hshown : v.shownText with
    | ok shown => exact ⟨_, .inl (.noInteger h hinfinite hshown)⟩
    | error fault =>
      obtain ⟨hlong, rfl⟩ := Value.shownText_eq_error_iff.mp hshown
      refine ⟨_, .inr (.unwritable (fun n hn => ?_) hlong)⟩
      cases h.symm.trans hn.2.2

/-- A setting that stands for a bad integer is refused or impossible to show. -/
theorem refuses_or_hinders_of_bad {n : Int} (h : v.toInteger = .ok n) (hbad : v.isBool = true ∨ n ≤ 0) :
    ∃ fault, RefusesPositive key v fault ∨ HindersPositive v fault := by
  cases hshown : v.shownText with
  | ok shown => exact ⟨_, .inl (.notPositive h hbad hshown)⟩
  | error fault =>
    obtain ⟨hlong, rfl⟩ := Value.shownText_eq_error_iff.mp hshown
    exact ⟨_, .inr (.unwritable (not_isPositive_of_bad h hbad) hlong)⟩

/-- A setting stands for a positive integer, or is refused, or cannot be. -/
theorem isPositive_or_refuses_or_hinders (key : String) (v : Value) :
    (∃ n, IsPositive v n) ∨ ∃ fault, RefusesPositive key v fault ∨ HindersPositive v fault := by
  cases hread : v.toInteger with
  | error cause => exact .inr (refuses_or_hinders_of_unread hread)
  | ok n =>
    rcases isPositive_or_bad hread with hpositive | hbad
    · exact .inl ⟨_, hpositive⟩
    · exact .inr (refuses_or_hinders_of_bad hread hbad)

theorem readPositive_eq_error_of (h : RefusesPositive key v fault ∨ HindersPositive v fault) :
    readPositive key v = .error fault := h.elim readPositive_of_refuses readPositive_of_hinders

theorem readPositive_eq_ok_iff : readPositive key v = .ok n ↔ IsPositive v n := by
  refine ⟨fun h => ?_, readPositive_of_isPositive⟩
  rcases isPositive_or_refuses_or_hinders key v with ⟨m, hm⟩ | ⟨fault, hfault⟩
  · cases (readPositive_of_isPositive hm).symm.trans h
    exact hm
  · cases (readPositive_eq_error_of hfault).symm.trans h

theorem readPositive_eq_error_iff :
    readPositive key v = .error fault ↔ RefusesPositive key v fault ∨ HindersPositive v fault := by
  refine ⟨fun h => ?_, readPositive_eq_error_of⟩
  rcases isPositive_or_refuses_or_hinders key v with ⟨m, hm⟩ | ⟨other, hother⟩
  · cases (readPositive_of_isPositive hm).symm.trans h
  · cases (readPositive_eq_error_of hother).symm.trans h
    exact hother

end

/-! ## All settings -/

/-- Whether settings that are given stand for settings. -/
structure Reads (given : GivenSettings) (s : Settings) : Prop where
  /-- the truth value -/
  convert : IsBoolean given.convert s.convert
  /-- the timeout, which is positive -/
  timeout : IsPositive given.timeout s.timeout
  /-- the number of units, which is positive -/
  maxConcurrency : IsPositive given.maxConcurrency s.maxConcurrency

/-- Whether something holds of the first setting that is not read, with its name. -/
inductive FirstUnread (given : GivenSettings) (boolean positive : String → Value → Prop) : Prop
  | convert (unread : boolean "convert" given.convert)
  | timeout {b : Bool} (convert : IsBoolean given.convert b) (unread : positive "timeout" given.timeout)
  | maxConcurrency {b : Bool} {n : Nat} (convert : IsBoolean given.convert b) (timeout : IsPositive given.timeout n)
      (unread : positive "max_concurrency" given.maxConcurrency)

/-- How settings that are given are refused: as the first that is not read is. -/
def Refuses (given : GivenSettings) (fault : Fault) : Prop :=
  FirstUnread given (fun key v => RefusesBoolean key v fault) fun key v => RefusesPositive key v fault

/-- What settings that are given fail with where the first that is not read is not refused. -/
def Hinders (given : GivenSettings) (fault : Fault) : Prop :=
  FirstUnread given (fun _ v => HindersBoolean v fault) fun _ v => HindersPositive v fault

section

variable {given : GivenSettings} {s : Settings} {fault : Fault}

theorem check_eq_ok_iff : check given = .ok s ↔ Reads given s := by
  obtain ⟨convert, timeout, maxConcurrency⟩ := s
  simp only [check, bind_eq_ok_iff, readBoolean_eq_ok_iff, readPositive_eq_ok_iff, pure_eq_ok_iff]
  constructor
  · rintro ⟨b, hconvert, n, htimeout, m, hmax, heq⟩
    cases heq
    exact ⟨hconvert, htimeout, hmax⟩
  · rintro ⟨hconvert, htimeout, hmax⟩
    exact ⟨_, hconvert, _, htimeout, _, hmax, rfl⟩

theorem check_eq_error_iff : check given = .error fault ↔ Refuses given fault ∨ Hinders given fault := by
  simp only [check, bind_eq_error_iff, readBoolean_eq_ok_iff, readPositive_eq_ok_iff, readBoolean_eq_error_iff,
    readPositive_eq_error_iff, pure_ne_error, and_false, exists_false, or_false]
  constructor
  · rintro (hconvert | ⟨b, hb, htimeout | ⟨n, hn, hmax⟩⟩)
    · exact hconvert.imp .convert .convert
    · exact htimeout.imp (.timeout hb) (.timeout hb)
    · exact hmax.imp (.maxConcurrency hb hn) (.maxConcurrency hb hn)
  · rintro ((h | ⟨hb, h⟩ | ⟨hb, hn, h⟩) | (h | ⟨hb, h⟩ | ⟨hb, hn, h⟩))
    · exact .inl (.inl h)
    · exact .inr ⟨_, hb, .inl (.inl h)⟩
    · exact .inr ⟨_, hb, .inr ⟨_, hn, .inl h⟩⟩
    · exact .inl (.inr h)
    · exact .inr ⟨_, hb, .inl (.inr h)⟩
    · exact .inr ⟨_, hb, .inr ⟨_, hn, .inr h⟩⟩

theorem RefusesPositive.kind_eq {key : String} {v : Value} (h : RefusesPositive key v fault) :
    fault.kind = "ConfigurationError" := by
  cases h <;> rfl

theorem HindersPositive.isOperation {v : Value} (h : HindersPositive v fault) : fault.IsOperation := by
  cases h <;> exact ⟨_, rfl⟩

theorem Refuses.kind_eq (h : Refuses given fault) : fault.kind = "ConfigurationError" := by
  cases h with
  | convert h =>
    obtain ⟨-, shown, -, rfl⟩ := h
    rfl
  | timeout _ h => exact h.kind_eq
  | maxConcurrency _ _ h => exact h.kind_eq

theorem Hinders.isOperation (h : Hinders given fault) : fault.IsOperation := by
  cases h with
  | convert h =>
    obtain ⟨-, -, rfl⟩ := h
    exact ⟨_, rfl⟩
  | timeout _ h => exact h.isOperation
  | maxConcurrency _ _ h => exact h.isOperation

end

/-! ## Settings that are written -/

/-- Whether the numbers of settings have few enough digits to be written. -/
def isWritable (s : Settings) : Bool := (Value.int s.timeout).hasText && (Value.int s.maxConcurrency).hasText

/-- Settings can be written to the log just when their numbers can. -/
theorem writesIf_shown (s : Settings) : Value.WritesIf s.isWritable s.toGiven.shown := by
  have hbool : (Value.bool s.convert).hasText = true := rfl
  have hshown := (Value.writesIf_textOf (.bool s.convert)).bind fun convert =>
    (Value.writesIf_textOf (.int s.timeout)).bind fun timeout =>
      (Value.writesIf_textOf (.int s.maxConcurrency)).bind_pure fun maxConcurrency => [convert, timeout, maxConcurrency]
  rwa [hbool, Bool.true_and, ← isWritable] at hshown

end Settings

end RecordCheck
