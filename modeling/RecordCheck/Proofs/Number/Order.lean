import Mathlib.Algebra.Order.Field.Power
import Mathlib.Algebra.Order.Field.Rat
import Mathlib.Data.Rat.Cast.Order
import Mathlib.Order.Compare
import Mathlib.Order.WithBot
import RecordCheck.Number.Basic
import RecordCheck.Proofs.Text

/-!
# Numbers are compared as what they are worth

Whatever its kind, a number other than NaN is worth a rational number or is infinite.  Two numbers are in the
order in which they stand on the line of the rationals with its two ends, without any rounding, and there is
no order if one of them is NaN.

Magnitudes are compared by the places of their leading digits first.  That this is right is seen from the
powers of ten around a magnitude: the one of its leading digit is not above it, the next one is.
-/

set_option autoImplicit false

namespace RecordCheck.Number

/-! ## Worth -/

/-- The line of the rational numbers with an infinity at each end. -/
abbrev Line := WithBot (WithTop ℚ)

/-- A rational number on the line. -/
def onLine (q : ℚ) : Line := ((q : WithTop ℚ) : Line)

/-- The end of the line on the negative or the positive side. -/
def endOfLine (negative : Bool) : Line := if negative then ⊥ else ⊤

/-- A rational number with a sign. -/
def withSign (negative : Bool) (q : ℚ) : ℚ := if negative then -q else q

/-- What a floating point number is worth, if it is not NaN. -/
def Binary64.worth? : Binary64 → Option Line
  | .nan => none
  | .infinite negative => some (endOfLine negative)
  | .finite negative mantissa exponent => some (onLine (withSign negative (mantissa * 2 ^ exponent)))

/-- What a decimal number is worth, if it is not NaN. -/
def Decimal.worth? : Decimal → Option Line
  | .nan .. => none
  | .infinite negative => some (endOfLine negative)
  | .finite negative coefficient exponent =>
    some (onLine (withSign negative (coefficient * 10 ^ exponent)))

/-- What a number is worth, if it is not NaN. -/
def worth? : Number → Option Line
  | .int n => some (onLine n)
  | .float x => x.worth?
  | .decimal d => d.worth?

/-- What a number in the common form is worth, if it is not NaN. -/
def Exact.worth? : Exact → Option Line
  | .nan => none
  | .infinite negative => some (endOfLine negative)
  | .finite negative coefficient exponent =>
    some (onLine (withSign negative (coefficient * 10 ^ exponent)))

theorem onLine_strictMono : StrictMono onLine := fun _ _ h => WithBot.coe_lt_coe.mpr (WithTop.coe_lt_coe.mpr h)

theorem lt_onLine (q : ℚ) : endOfLine true < onLine q := WithBot.bot_lt_coe _

theorem onLine_lt (q : ℚ) : onLine q < endOfLine false := WithBot.coe_lt_coe.mpr (WithTop.coe_lt_top q)

theorem withSign_ofInt (n : Int) : withSign (n < 0) (n.natAbs * 10 ^ (0 : Int)) = n := by
  rw [zpow_zero, mul_one, withSign, Nat.cast_natAbs]
  split
  · rename_i hnegative
    rw [abs_of_neg (of_decide_eq_true hnegative), Int.cast_neg, neg_neg]
  · rename_i hnonneg
    rw [abs_of_nonneg (not_lt.mp fun h => hnonneg (decide_eq_true h))]

/-- A power of two is one of ten over one of five. -/
theorem five_pow_mul_ten_zpow {exponent : Int} (h : exponent < 0) (mantissa : ℚ) :
    mantissa * 5 ^ (-exponent).toNat * 10 ^ exponent = mantissa * 2 ^ exponent := by
  have hfive : (5 : ℚ) ^ (-exponent).toNat = 5 ^ (-exponent) := by
    rw [← zpow_natCast, Int.toNat_of_nonneg (by omega)]
  have hten : (10 : ℚ) ^ exponent = 5 ^ exponent * 2 ^ exponent := by
    rw [← mul_zpow]
    norm_num
  rw [hfive, hten, zpow_neg, mul_assoc, ← mul_assoc _ (5 ^ exponent : ℚ), inv_mul_cancel₀ (by positivity),
    one_mul]

/-- A number is worth the same in the common form. -/
theorem worth?_exact (n : Number) : n.exact.worth? = n.worth? := by
  cases n with
  | int n =>
    rw [exact, Exact.ofInt, Exact.worth?, withSign_ofInt]
    rfl
  | float x =>
    cases x with
    | nan => rfl
    | infinite negative => rfl
    | finite negative mantissa exponent =>
      rw [exact, Exact.ofBinary64]
      split
      · rename_i hnonneg
        have htwo : (2 : ℚ) ^ exponent.toNat = 2 ^ exponent := by
          rw [← zpow_natCast, Int.toNat_of_nonneg hnonneg]
        simp [Exact.worth?, worth?, Binary64.worth?, htwo]
      · rename_i hnegative
        simp [Exact.worth?, worth?, Binary64.worth?, five_pow_mul_ten_zpow (not_le.mp hnegative)]
  | decimal d => cases d <;> rfl

/-! ## Magnitudes -/

section

variable {c d : Nat} {e f : Int}

/-- The power of ten of its leading digit is not above a magnitude, and the next one is. -/
theorem place_spec (hc : c ≠ 0) (e : Int) :
    (10 : ℚ) ^ ((Text.digits c).length + e - 1) ≤ c * 10 ^ e ∧
      c * 10 ^ e < (10 : ℚ) ^ ((Text.digits c).length + e) := by
  obtain ⟨rest, hlength⟩ : ∃ rest, (Text.digits c).length = rest + 1 :=
    ⟨(Text.digits c).length - 1, by have := List.length_pos_iff.mpr (Text.digits_ne_nil c); omega⟩
  have hlow : 10 ^ rest ≤ c := by
    cases rest with
    | zero => exact Nat.one_le_iff_ne_zero.mpr hc
    | succ rest =>
      refine Nat.le_of_not_lt fun hlt => ?_
      have hfewer := (Text.length_digits_le_iff (Nat.succ_pos rest)).mpr hlt
      omega
  have hhigh : c < 10 ^ (rest + 1) :=
    (Text.length_digits_le_iff (Nat.succ_pos rest)).mp (Nat.le_of_eq hlength)
  have hpower : (0 : ℚ) < 10 ^ e := by positivity
  rw [hlength]
  constructor
  · have hexponent : ((rest + 1 : Nat) : Int) + e - 1 = rest + e := by omega
    rw [hexponent, zpow_add₀ (by norm_num), zpow_natCast]
    exact mul_le_mul_of_nonneg_right (by exact_mod_cast hlow) (le_of_lt hpower)
  · rw [zpow_add₀ (by norm_num), zpow_natCast]
    exact mul_lt_mul_of_pos_right (by exact_mod_cast hhigh) hpower

/-- Of two magnitudes the one whose leading digit has the lower place is less. -/
theorem magnitude_lt_of_place_lt (hc : c ≠ 0) (hd : d ≠ 0)
    (h : ((Text.digits c).length : Int) + e < (Text.digits d).length + f) :
    (c : ℚ) * 10 ^ e < d * 10 ^ f :=
  calc (c : ℚ) * 10 ^ e < 10 ^ ((Text.digits c).length + e) := (place_spec hc e).2
    _ ≤ 10 ^ ((Text.digits d).length + f - 1) := zpow_le_zpow_right₀ (by norm_num) (by omega)
    _ ≤ d * 10 ^ f := (place_spec hd f).1

theorem compares_natCast_mul (m n : Nat) (e : Int) :
    (compare m n).Compares ((m : ℚ) * 10 ^ e) (n * 10 ^ e) := by
  have hpower : (0 : ℚ) < 10 ^ e := by positivity
  have hmono : StrictMono fun n : Nat => (n : ℚ) * 10 ^ e := fun _ _ hlt =>
    mul_lt_mul_of_pos_right (Nat.cast_lt.mpr hlt) hpower
  exact hmono.compares.mpr (compare_iff m n |>.mp rfl)

/-- A magnitude with its coefficient scaled up to a lesser exponent. -/
theorem scaled_up (n : Nat) (h : e ≤ f) :
    ((n * Nat.pow 10 (f - e).toNat : Nat) : ℚ) * 10 ^ e = n * 10 ^ f := by
  have hpower : (10 : ℚ) ^ (f - e).toNat * 10 ^ e = 10 ^ f := by
    rw [← zpow_natCast, Int.toNat_of_nonneg (by omega), ← zpow_add₀ (by norm_num), Int.sub_add_cancel]
  rw [← hpower, Nat.cast_mul, Nat.pow_eq, Nat.cast_pow, Nat.cast_ofNat, mul_assoc]

/-- Magnitudes are compared exactly. -/
theorem compares_compareMagnitudes (c : Nat) (e : Int) (d : Nat) (f : Int) :
    (Exact.compareMagnitudes c e d f).Compares ((c : ℚ) * 10 ^ e) (d * 10 ^ f) := by
  have he : (0 : ℚ) < 10 ^ e := by positivity
  have hf : (0 : ℚ) < 10 ^ f := by positivity
  unfold Exact.compareMagnitudes
  split
  · rename_i hzero
    rcases hzero with rfl | rfl
    · have h := compares_natCast_mul 0 d f
      rwa [Nat.cast_zero, zero_mul] at h ⊢
    · have h := compares_natCast_mul c 0 e
      rwa [Nat.cast_zero, zero_mul] at h ⊢
  · rename_i hpositive
    obtain ⟨hc, hd⟩ := not_or.mp hpositive
    dsimp only
    split
    · rename_i hplace
      exact magnitude_lt_of_place_lt hc hd hplace
    · split
      · rename_i hplace
        exact magnitude_lt_of_place_lt hd hc hplace
      · split
        · rename_i hexponent
          have h := compares_natCast_mul c (d * Nat.pow 10 (f - e).toNat) e
          rwa [scaled_up d hexponent] at h
        · rename_i hexponent
          have h := compares_natCast_mul (c * Nat.pow 10 (e - f).toNat) d f
          rwa [scaled_up c (Int.le_of_lt (Int.not_le.mp hexponent))] at h

end

/-! ## Numbers -/

theorem magnitude_nonneg (c : Nat) (e : Int) : (0 : ℚ) ≤ c * 10 ^ e :=
  mul_nonneg (Nat.cast_nonneg c) (le_of_lt (zpow_pos (by norm_num) e))

theorem magnitude_pos {c : Nat} (hc : c ≠ 0) (e : Int) : (0 : ℚ) < c * 10 ^ e :=
  mul_pos (Nat.cast_pos.mpr (Nat.pos_of_ne_zero hc)) (zpow_pos (by norm_num) e)

/-- A negated magnitude is below another magnitude unless both are zero. -/
theorem neg_magnitude_lt {c d : Nat} (h : ¬ (c = 0 ∧ d = 0)) (e f : Int) :
    -((c : ℚ) * 10 ^ e) < d * 10 ^ f := by
  by_cases hc : c = 0
  · have hd := magnitude_pos (fun hd => h ⟨hc, hd⟩) f
    rw [hc, Nat.cast_zero, zero_mul, neg_zero]
    exact hd
  · exact (neg_lt_zero.mpr (magnitude_pos hc e)).trans_le (magnitude_nonneg d f)

namespace Exact

/-- Two finite numbers are in the order of what they are worth. -/
theorem compare?_finite (n : Bool) (c : Nat) (e : Int) (m : Bool) (d : Nat) (f : Int) :
    ∃ o, (finite n c e).compare? (finite m d f) = some o ∧
      o.Compares (withSign n (c * 10 ^ e)) (withSign m (d * 10 ^ f)) := by
  by_cases hzero : c = 0 ∧ d = 0
  · refine ⟨.eq, if_pos hzero, ?_⟩
    cases n <;> cases m <;> simp [withSign, hzero.1, hzero.2]
  · have hneg : StrictAnti fun q : ℚ => -q := fun _ _ h => neg_lt_neg h
    rw [compare?.eq_def]
    dsimp only
    rw [if_neg hzero]
    cases n <;> cases m
    · exact ⟨_, rfl, compares_compareMagnitudes c e d f⟩
    · exact ⟨_, rfl, neg_magnitude_lt (fun h => hzero h.symm) f e⟩
    · exact ⟨_, rfl, neg_magnitude_lt hzero e f⟩
    · exact ⟨_, rfl, hneg.compares.mpr (compares_compareMagnitudes d f c e)⟩

/-- Two numbers in the common form are in the order of what they are worth. -/
theorem compare?_spec {a b : Exact} {x y : Line} (ha : a.worth? = some x) (hb : b.worth? = some y) :
    ∃ o, a.compare? b = some o ∧ o.Compares x y := by
  cases a with
  | nan => cases ha
  | infinite n =>
    cases ha
    cases b with
    | nan => cases hb
    | infinite m =>
      cases hb
      cases n <;> cases m
      · exact ⟨.eq, rfl, rfl⟩
      · exact ⟨.gt, rfl, bot_lt_top⟩
      · exact ⟨.lt, rfl, bot_lt_top⟩
      · exact ⟨.eq, rfl, rfl⟩
    | finite m d f =>
      cases hb
      cases n
      · exact ⟨.gt, rfl, onLine_lt _⟩
      · exact ⟨.lt, rfl, lt_onLine _⟩
  | finite n c e =>
    cases ha
    cases b with
    | nan => cases hb
    | infinite m =>
      cases hb
      cases m
      · exact ⟨.lt, rfl, onLine_lt _⟩
      · exact ⟨.gt, rfl, lt_onLine _⟩
    | finite m d f =>
      cases hb
      obtain ⟨o, ho, hcompares⟩ := compare?_finite n c e m d f
      exact ⟨o, ho, onLine_strictMono.compares.mpr hcompares⟩

theorem compare?_eq_none {a b : Exact} (h : a.worth? = none ∨ b.worth? = none) : a.compare? b = none := by
  rcases h with h | h
  · cases a <;> first | rfl | cases h
  · cases b with
    | nan => cases a <;> rfl
    | _ => cases h

end Exact

variable {a b : Number} {x y : Line}

/-- Two numbers are in the order of what they are worth. -/
theorem compare?_spec (ha : a.worth? = some x) (hb : b.worth? = some y) :
    ∃ o, a.compare? b = some o ∧ o.Compares x y := by
  have hexact := Exact.compare?_spec ((worth?_exact a).trans ha) ((worth?_exact b).trans hb)
  cases a with
  | int n =>
    cases b with
    | int m =>
      cases ha
      cases hb
      have hcast : StrictMono fun n : Int => onLine n := fun _ _ h => onLine_strictMono (Int.cast_lt.mpr h)
      exact ⟨_, rfl, hcast.compares.mpr ((compare_iff n m).mp rfl)⟩
    | _ => exact hexact
  | _ => exact hexact

/-- There is no order if one of two numbers is NaN. -/
theorem compare?_eq_none (h : a.worth? = none ∨ b.worth? = none) : a.compare? b = none := by
  have hexact := Exact.compare?_eq_none (a := a.exact) (b := b.exact) (by rwa [worth?_exact, worth?_exact])
  cases a with
  | int n =>
    cases b with
    | int m => rcases h with h | h <;> cases h
    | _ => exact hexact
  | _ => exact hexact

/-- Whether a number is at most another one.  A NaN stands in no order. -/
def AtMost (a b : Number) : Prop := ∃ x y, a.worth? = some x ∧ b.worth? = some y ∧ x ≤ y

/-- A number that is worth nothing is a NaN of one of two kinds. -/
theorem worth?_eq_none_iff :
    a.worth? = none ↔
      a = .float .nan ∨ ∃ signaling negative payload, a = .decimal (.nan signaling negative payload) := by
  constructor
  · intro h
    cases a with
    | int n => cases h
    | float f => cases f <;> first | exact .inl rfl | cases h
    | decimal d => cases d <;> first | exact .inr ⟨_, _, _, rfl⟩ | cases h
  · rintro (rfl | ⟨signaling, negative, payload, rfl⟩) <;> rfl

theorem exists_worth?_of_isFinite (h : a.isFinite = true) : ∃ x, a.worth? = some x := by
  cases hworth : a.worth? with
  | some x => exact ⟨x, rfl⟩
  | none =>
    rcases worth?_eq_none_iff.mp hworth with rfl | ⟨signaling, negative, payload, rfl⟩
    · cases h
    · cases h

end RecordCheck.Number
