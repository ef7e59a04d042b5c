import RecordCheck.Proofs.Coercion
import RecordCheck.Proofs.Value.Comparison
import RecordCheck.Rule.Condition

/-!
# When conditions hold

Conditions hold for a value just when every check that is present does, with two exceptions.  The floating
point NaN passes for a number within any bounds, because it is neither below nor above them.  And some values
have no answer: a signaling NaN where it is compared for equality, a decimal NaN where there are bounds, and
an integer that is no byte where it is sought in bytes.
-/

set_option autoImplicit false

namespace RecordCheck

open Attempt

namespace Conditions

/-! ## Checks -/

/-- Whether every check that is present holds for a value, with bounds as a relation between numbers says. -/
structure Hold (atMost : Number → Number → Prop) (c : Conditions) (value : Value) : Prop where
  /-- the value is equal to the one asked for -/
  equals : ∀ v, c.equals = some v → value.same v = .ok true
  /-- it is a member of the container asked for, which is one that can have such members -/
  oneOf : ∀ container, c.oneOf = some container → container.contains value = .ok true
  /-- it is a text with the pattern in it -/
  pattern : ∀ p, c.pattern = .pattern p → ∃ s, value.text? = some s ∧ p.search s = true
  /-- it is a number that the lower bound is at most -/
  min : ∀ limit, c.min.numeric? = some limit → ∃ n, value = .number n ∧ atMost limit n
  /-- it is a number that is at most the upper bound -/
  max : ∀ limit, c.max.numeric? = some limit → ∃ n, value = .number n ∧ atMost n limit

/-- Whether checks are of the types that they are meant to be: a pattern, and bounds that are integers or
floating point numbers and not NaN. -/
structure IsTyped (c : Conditions) : Prop where
  pattern : c.pattern = .null ∨ ∃ p, c.pattern = .pattern p
  min : c.min.IsLimit
  max : c.max.IsLimit
  binary : ∀ n, c.min.numeric? = some n ∨ c.max.numeric? = some n → n.isDecimal = false

/-- What hinders conditions from having an answer for a value. -/
inductive Hinders (c : Conditions) (value : Value) : Fault → Prop
  /-- a signaling NaN in the value or in the one that it is compared with -/
  | equals {v : Value} (asked : c.equals = some v) (signal : ¬ (value.isQuiet = true ∧ v.isQuiet = true)) :
      Hinders c value (.operation (.decimal .invalidOperation))
  /-- a signaling NaN in the value or in the container -/
  | oneOf {container : Value} (asked : c.oneOf = some container)
      (signal : ¬ (value.isQuiet = true ∧ container.isQuiet = true)) :
      Hinders c value (.operation (.decimal .invalidOperation))
  /-- an integer that is no byte, sought in bytes -/
  | byte {container : Value} (asked : c.oneOf = some container) (noByte : value.IsNoByteOf container) :
      Hinders c value (.operation .byteRange)
  /-- a decimal NaN, compared with a bound -/
  | bound {limit : Number} {signaling negative : Bool} {payload : Option Nat}
      (asked : c.min.numeric? = some limit ∨ c.max.numeric? = some limit)
      (nan : value = .number (.decimal (.nan signaling negative payload))) :
      Hinders c value (.operation (.decimal .invalidOperation))

variable {c : Conditions} {value : Value}

theorem equalsHolds_eq_true_iff :
    c.equalsHolds value = .ok true ↔ ∀ v, c.equals = some v → value.same v = .ok true := by
  unfold equalsHolds
  cases c.equals <;> simp

theorem oneOfHolds_eq_true_iff :
    c.oneOfHolds value = .ok true ↔
      ∀ container, c.oneOf = some container → container.contains value = .ok true := by
  unfold oneOfHolds
  cases c.oneOf with
  | none => simp
  | some container =>
    cases hcontains : container.contains value with
    | ok answer => simp [hcontains]
    | error fault =>
      simp only [Option.some.injEq, forall_eq', hcontains, reduceCtorEq, iff_false]
      split <;> nofun

theorem patternHolds_eq_true_iff (hpattern : c.pattern = .null ∨ ∃ p, c.pattern = .pattern p) :
    c.patternHolds value = .ok true ↔
      ∀ p, c.pattern = .pattern p → ∃ s, value.text? = some s ∧ p.search s = true := by
  unfold patternHolds
  rcases hpattern with hnull | ⟨p, hp⟩
  · rw [hnull]
    simp [Value.isNull]
  · rw [hp]
    cases value.text? <;> simp [Value.isNull, findsPattern]

/-- The bounds are within reach of numbers only, and are checked one after the other. -/
theorem boundsHold_eq_true_iff :
    c.boundsHold value = .ok true ↔
      (c.min.isNull = true ∧ c.max.isNull = true) ∨
        value.isNumber = true ∧ (c.min.isNull = true ∨ value.compareWith .less c.min = .ok false) ∧
          (c.max.isNull = true ∨ value.compareWith .greater c.max = .ok false) := by
  unfold boundsHold
  cases hmin : c.min.isNull <;> cases hmax : c.max.isNull <;> cases hnumber : value.isNumber <;> simp

/-! ## Bounds -/

section

open Value

variable {n : Number} {limit : Value} (hlimit : limit.IsLimit)
  (hbinary : ∀ m, limit.numeric? = some m → m.isDecimal = false)

include hlimit hbinary

/-- A number is not in a relation to a limit if it stands to that as an order says, or if it is the floating
point NaN. -/
theorem compareWith_eq_false_iff {relation : Comparison} {P : Number → Number → Prop}
    (hrelation : ∀ m, compareNumbers relation n m = .ok false ↔
      P n m ∨ (n = .float .nan ∧ m.isDecimal = false) ∨ (m = .float .nan ∧ n.isDecimal = false)) :
    limit.isNull = true ∨ (number n).compareWith relation limit = .ok false ↔
      (∀ m, limit.numeric? = some m → P n m) ∨ n = .float .nan := by
  rw [Number.compareWith_eq_false_iff]
  rcases hlimit with rfl | ⟨m, y, hm, hy⟩
  · simp [numeric?]
  · have hnull : limit ≠ .null := by
      rintro rfl
      cases hm
    have hnumber : m ≠ .float .nan := by
      rintro rfl
      cases hy
    simp [hm, hnull, hrelation, hbinary m hm, hnumber]

/-- A number is not below a limit if that is at most the number, or if it is the floating point NaN. -/
theorem notBelow_iff :
    limit.isNull = true ∨ (number n).compareWith .less limit = .ok false ↔
      (∀ m, limit.numeric? = some m → m.AtMost n) ∨ n = .float .nan :=
  compareWith_eq_false_iff (P := fun a b => b.AtMost a) hlimit hbinary
    fun _ => compareNumbers_less_eq_false_iff

/-- A number is not above a limit if it is at most that, or if it is the floating point NaN. -/
theorem notAbove_iff :
    limit.isNull = true ∨ (number n).compareWith .greater limit = .ok false ↔
      (∀ m, limit.numeric? = some m → n.AtMost m) ∨ n = .float .nan :=
  compareWith_eq_false_iff (P := fun a b => a.AtMost b) hlimit hbinary
    fun _ => compareNumbers_greater_eq_false_iff

end

/-- The bounds hold for the numbers between them, and for the floating point NaN. -/
theorem boundsHold_iff (hc : c.IsTyped) :
    c.boundsHold value = .ok true ↔
      ((∀ limit, c.min.numeric? = some limit → ∃ n, value = .number n ∧ limit.AtMost n) ∧
        ∀ limit, c.max.numeric? = some limit → ∃ n, value = .number n ∧ n.AtMost limit) ∨
      value = .number (.float .nan) := by
  rw [boundsHold_eq_true_iff]
  cases value with
  | number n =>
    rw [notBelow_iff hc.min fun m hm => hc.binary m (.inl hm),
      notAbove_iff hc.max fun m hm => hc.binary m (.inr hm), hc.min.isNull_iff, hc.max.isNull_iff]
    have hmin (h : ∀ m, c.min.numeric? ≠ some m) : ∀ m, c.min.numeric? = some m → m.AtMost n :=
      fun m hm => absurd hm (h m)
    have hmax (h : ∀ m, c.max.numeric? ≠ some m) : ∀ m, c.max.numeric? = some m → n.AtMost m :=
      fun m hm => absurd hm (h m)
    have hnumber : (Value.number n).isNumber = true := rfl
    simp only [hnumber, Value.number.injEq, exists_eq_left', true_and]
    tauto
  | _ => simp [Value.isNumber, Value.number?, hc.min.isNull_iff, hc.max.isNull_iff]

/-- All checks are tried, up to the first that does not hold. -/
theorem holdFor_eq_true_iff :
    c.holdFor value = .ok true ↔ c.equalsHolds value = .ok true ∧ c.oneOfHolds value = .ok true ∧
      c.patternHolds value = .ok true ∧ c.boundsHold value = .ok true := by
  rw [holdFor, bind_ite_eq_true_iff, bind_ite_eq_true_iff, bind_ite_eq_true_iff]

/-- Conditions hold for a value just when all their checks do, and for the floating point NaN within any
bounds. -/
theorem holdFor_iff (hc : c.IsTyped) :
    c.holdFor value = .ok true ↔ c.Hold Number.AtMost value ∨
      value = .number (.float .nan) ∧ c.Hold (fun _ _ => True) value := by
  rw [holdFor_eq_true_iff, equalsHolds_eq_true_iff, oneOfHolds_eq_true_iff,
    patternHolds_eq_true_iff hc.pattern, boundsHold_iff hc]
  constructor
  · rintro ⟨hequals, honeOf, hpattern, ⟨hmin, hmax⟩ | rfl⟩
    · exact .inl ⟨hequals, honeOf, hpattern, hmin, hmax⟩
    · exact .inr ⟨rfl, hequals, honeOf, hpattern, fun _ _ => ⟨_, rfl, trivial⟩,
        fun _ _ => ⟨_, rfl, trivial⟩⟩
  · rintro (h | ⟨rfl, h⟩)
    · exact ⟨h.equals, h.oneOf, h.pattern, .inl ⟨h.min, h.max⟩⟩
    · exact ⟨h.equals, h.oneOf, h.pattern, .inr rfl⟩

/-! ## Answers -/

theorem failsOnly_equalsHolds : FailsOnly (c.Hinders value) (c.equalsHolds value) := by
  unfold equalsHolds
  cases hequals : c.equals with
  | none => exact failsOnly_pure true
  | some v =>
    refine (Value.failsOnly_same value v).imp fun fault h => ?_
    obtain ⟨rfl, hsignal⟩ := h
    exact .equals hequals hsignal

theorem failsOnly_oneOfHolds : FailsOnly (c.Hinders value) (c.oneOfHolds value) := by
  unfold oneOfHolds
  cases hcontainer : c.oneOf with
  | none => exact failsOnly_pure true
  | some container =>
    have hfails := Value.failsOnly_contains container value
    dsimp only
    split
    · exact failsOnly_pure _
    · rename_i fault hcontains
      split
      · exact failsOnly_pure false
      · rename_i hkind
        rcases hfails fault hcontains with ⟨cause, rfl, htype⟩ | ⟨rfl, hsignal⟩ | ⟨rfl, hbyte⟩
        · exact absurd htype hkind
        · exact failsOnly_throw (.oneOf hcontainer hsignal)
        · exact failsOnly_throw (.byte hcontainer hbyte)

theorem failsOnly_patternHolds (hpattern : c.pattern = .null ∨ ∃ p, c.pattern = .pattern p) :
    FailsOnly (c.Hinders value) (c.patternHolds value) := by
  unfold patternHolds
  rcases hpattern with hnull | ⟨p, hp⟩
  · rw [hnull]
    exact failsOnly_pure true
  · rw [hp]
    cases value.text? <;> exact failsOnly_pure _

/-- A number is compared with a limit without fail, unless it is a decimal NaN. -/
theorem failsOnly_compareWith_limit {P : Fault → Prop} {n : Number} {limit : Value} {relation : Comparison}
    (hlimit : limit.IsLimit) (hbinary : ∀ m, limit.numeric? = some m → m.isDecimal = false)
    (hnull : limit.isNull = false)
    (hnan : ∀ m signaling negative payload, limit.numeric? = some m →
      n = .decimal (.nan signaling negative payload) → P (.operation (.decimal .invalidOperation))) :
    FailsOnly P ((Value.number n).compareWith relation limit) := by
  rcases hlimit with rfl | ⟨m, y, hm, hy⟩
  · cases hnull
  · rw [Value.compareWith_number relation hm]
    refine (Value.failsOnly_compareNumbers relation n m).imp fun fault h => ?_
    obtain ⟨rfl, hn | hm', hdecimal⟩ := h
    · rw [hbinary m hm, Bool.or_false] at hdecimal
      rcases Number.worth?_eq_none_iff.mp hn with rfl | ⟨signaling, negative, payload, hnumber⟩
      · cases hdecimal
      · exact hnan m signaling negative payload hm hnumber
    · rw [hy] at hm'
      cases hm'

/-- A limit is checked without fail, unless the number is a decimal NaN, and so is what comes after it. -/
theorem failsOnly_withinLimit {P : Fault → Prop} {n : Number} {limit : Value} {relation : Comparison}
    {rest : Attempt Bool} (hlimit : limit.IsLimit)
    (hbinary : ∀ m, limit.numeric? = some m → m.isDecimal = false)
    (hnan : ∀ m signaling negative payload, limit.numeric? = some m →
      n = .decimal (.nan signaling negative payload) → P (.operation (.decimal .invalidOperation)))
    (hrest : FailsOnly P rest) :
    FailsOnly P (if (!limit.isNull) = true then do
      let beyond ← (Value.number n).compareWith relation limit
      if beyond then pure false else rest
    else rest) := by
  split
  · rename_i hnull
    refine FailsOnly.bind ?_ fun _ => .ite (failsOnly_pure false) hrest
    exact failsOnly_compareWith_limit hlimit hbinary (by simpa using hnull) hnan
  · exact hrest

theorem failsOnly_boundsHold (hc : c.IsTyped) : FailsOnly (c.Hinders value) (c.boundsHold value) := by
  unfold boundsHold
  refine .ite (failsOnly_pure true) ?_
  cases value with
  | number n =>
    refine .ite (failsOnly_pure false) ?_
    refine failsOnly_withinLimit hc.min (fun m hm => hc.binary m (.inl hm))
      (fun m signaling negative payload hm hn => .bound (.inl hm) (congrArg Value.number hn)) ?_
    exact failsOnly_withinLimit hc.max (fun m hm => hc.binary m (.inr hm))
      (fun m signaling negative payload hm hn => .bound (.inr hm) (congrArg Value.number hn))
      (failsOnly_pure true)
  | _ => exact failsOnly_pure false

/-- Conditions fail to have an answer only if something hinders them from one. -/
theorem failsOnly_holdFor (hc : c.IsTyped) : FailsOnly (c.Hinders value) (c.holdFor value) :=
  failsOnly_equalsHolds.bind fun _ => .ite (failsOnly_pure false) <|
    failsOnly_oneOfHolds.bind fun _ => .ite (failsOnly_pure false) <|
      (failsOnly_patternHolds hc.pattern).bind fun _ => .ite (failsOnly_pure false) <|
        failsOnly_boundsHold hc

/-- Conditions have an answer for a value unless something hinders them, and they hold for it just when all
their checks do; but for the floating point NaN they hold whatever the bounds. -/
theorem holdFor_spec (hc : c.IsTyped) (value : Value) :
    ((∃ answer, c.holdFor value = .ok answer) ∨
      ∃ fault, c.holdFor value = .error fault ∧ c.Hinders value fault) ∧
    (c.holdFor value = .ok true ↔ c.Hold Number.AtMost value ∨
      value = .number (.float .nan) ∧ c.Hold (fun _ _ => True) value) := by
  refine ⟨?_, holdFor_iff hc⟩
  cases hholds : c.holdFor value with
  | ok answer => exact .inl ⟨answer, rfl⟩
  | error fault => exact .inr ⟨fault, rfl, failsOnly_holdFor hc fault hholds⟩

end Conditions

namespace Sample

/-- A multiple of seven from one to fifty. -/
def multipleOfSeven : Conditions := ⟨none, some (.range 0 100 7), .null, .int 1, .int 50⟩

/-- A number that is not negative. -/
def notNegative : Conditions := ⟨none, none, .null, .int 0, .null⟩

theorem isLimit_int (n : Int) : (Value.int n).IsLimit := .inr ⟨.int n, _, rfl, rfl⟩

theorem isTyped_multipleOfSeven : multipleOfSeven.IsTyped where
  pattern := .inl rfl
  min := isLimit_int 1
  max := isLimit_int 50
  binary n h := by rcases h with h | h <;> cases h <;> rfl

theorem isTyped_notNegative : notNegative.IsTyped where
  pattern := .inl rfl
  min := isLimit_int 0
  max := .inl rfl
  binary n h := by rcases h with h | h <;> cases h; rfl

end Sample

open Sample in
/-- The bounds are checked and so is that the number is a member of the range. -/
theorem Conditions.holdFor_spec_sample :
    multipleOfSeven.holdFor (.int 21) = .ok true ∧ multipleOfSeven.Hold Number.AtMost (.int 21) := by
  have hholds : multipleOfSeven.holdFor (.int 21) = .ok true := rfl
  refine ⟨hholds, ?_⟩
  rcases (Conditions.holdFor_spec isTyped_multipleOfSeven (.int 21)).2.mp hholds with h | ⟨hnan, -⟩
  · exact h
  · cases hnan

open Sample in
/-- The floating point NaN passes for a number that is not negative. -/
theorem Conditions.not_holdFor_iff :
    ¬ ∀ (c : Conditions) (value : Value), c.IsTyped →
      ∃ answer, c.holdFor value = .ok answer ∧ (answer = true ↔ c.Hold Number.AtMost value) := by
  intro hall
  obtain ⟨answer, hanswer, hiff⟩ := hall notNegative (.number (.float .nan)) isTyped_notNegative
  have htrue : notNegative.holdFor (.number (.float .nan)) = .ok true := rfl
  rw [htrue] at hanswer
  cases hanswer
  obtain ⟨n, hn, x, y, -, hy, -⟩ := (hiff.mp rfl).min (.int 0) rfl
  cases hn
  cases hy

end RecordCheck
