import RecordCheck.Proofs.Number.Order
import RecordCheck.Proofs.Operations
import RecordCheck.Value.Membership

/-!
# Comparisons that fail

A signaling NaN, wherever in a value it may be, is what makes a comparison for equality fail, and nothing
else does.  An order of two numbers fails where one is NaN and one a decimal.  To ask whether a value is a
member of a container may fail in these ways too, and where an integer is sought in bytes that is none; that
membership is not defined for the types is a failure of another kind.
-/

set_option autoImplicit false

namespace RecordCheck

open Attempt

namespace Value

/-! ## Signaling NaNs -/

mutual

/-- Whether there is no signaling NaN in a value. -/
def isQuiet : Value → Bool
  | .number n => !n.isSignaling
  | .list items | .tuple items | .set items => areQuiet items
  | .dict entries => entriesAreQuiet entries
  | .member body => body.isQuiet
  | .entry code message details => code.isQuiet && message.isQuiet && entriesAreQuiet details
  | .result _ value errors => value.isQuiet && errors.isQuiet
  | .null | .bool _ | .text _ | .bytes _ | .range .. | .date _ | .dateTime _ | .pattern _
  | .textMember _ => true

/-- Whether there is no signaling NaN in some values. -/
def areQuiet : List Value → Bool
  | [] => true
  | v :: rest => v.isQuiet && areQuiet rest

/-- Whether there is no signaling NaN in the keys and values of a mapping. -/
def entriesAreQuiet : List (Value × Value) → Bool
  | [] => true
  | (key, v) :: rest => key.isQuiet && v.isQuiet && entriesAreQuiet rest

end

section

variable {v key : Value} {items : List Value} {entries : List (Value × Value)}

theorem areQuiet_cons : areQuiet (v :: items) = true ↔ v.isQuiet = true ∧ areQuiet items = true := by
  rw [areQuiet, Bool.and_eq_true]

theorem entriesAreQuiet_cons :
    entriesAreQuiet ((key, v) :: entries) = true ↔
      (key.isQuiet = true ∧ v.isQuiet = true) ∧ entriesAreQuiet entries = true := by
  rw [entriesAreQuiet, Bool.and_eq_true, Bool.and_eq_true]

theorem areQuiet_iff : areQuiet items = true ↔ ∀ v ∈ items, v.isQuiet = true := by
  induction items with
  | nil => simp [areQuiet]
  | cons v rest ih => rw [areQuiet_cons, ih, List.forall_mem_cons]

theorem entriesAreQuiet_iff :
    entriesAreQuiet entries = true ↔ ∀ e ∈ entries, e.1.isQuiet = true ∧ e.2.isQuiet = true := by
  induction entries with
  | nil => simp [entriesAreQuiet]
  | cons e rest ih => rw [entriesAreQuiet_cons, ih, List.forall_mem_cons]

theorem isQuiet_entry {code message : Value} :
    (entry code message entries).isQuiet = true ↔
      (code.isQuiet = true ∧ message.isQuiet = true) ∧ entriesAreQuiet entries = true := by
  rw [isQuiet, Bool.and_eq_true, Bool.and_eq_true]

theorem isQuiet_result {valid : Bool} {errors : Value} :
    (result valid v errors).isQuiet = true ↔ v.isQuiet = true ∧ errors.isQuiet = true := by
  rw [isQuiet, Bool.and_eq_true]

end

/-- Whether a fault is that of a signaling NaN, which there is unless something holds. -/
def IsSignalUnless (quiet : Prop) (fault : Fault) : Prop :=
  fault = .operation (.decimal .invalidOperation) ∧ ¬ quiet

theorem IsSignalUnless.imp {quiet others : Prop} (h : others → quiet) (fault : Fault)
    (hfault : IsSignalUnless quiet fault) : IsSignalUnless others fault :=
  ⟨hfault.1, fun hothers => hfault.2 (h hothers)⟩

/-! ## Equality -/

theorem isSignaling_of_numeric? {v : Value} {n : Number} (h : v.numeric? = some n) :
    v.isQuiet = !n.isSignaling := by
  cases v <;> cases h <;> rfl

theorem failsOnly_sameNumber (a b : Number) :
    FailsOnly (IsSignalUnless ((!a.isSignaling) = true ∧ (!b.isSignaling) = true)) (sameNumber a b) := by
  unfold sameNumber
  split
  · exact failsOnly_pure _
  · rename_i hinvalid
    refine failsOnly_throw ⟨rfl, fun hquiet => ?_⟩
    rw [Bool.not_eq_true', Bool.not_eq_true'] at hquiet
    rw [Number.equal?, hquiet.1, hquiet.2] at hinvalid
    cases hinvalid

mutual

/-- To ask whether two values are equal fails only for a signaling NaN in one of them. -/
theorem failsOnly_same :
    ∀ a b : Value, FailsOnly (IsSignalUnless (a.isQuiet = true ∧ b.isQuiet = true)) (a.same b)
  | .null, b => by cases b <;> exact failsOnly_pure _
  | .bool x, b => by
    rw [same]
    split
    · rename_i n hn
      refine (failsOnly_sameNumber _ n).imp (IsSignalUnless.imp fun h => ⟨rfl, ?_⟩)
      exact isSignaling_of_numeric? hn ▸ h.2
    · exact failsOnly_pure _
  | .number m, b => by
    rw [same]
    split
    · rename_i n hn
      refine (failsOnly_sameNumber m n).imp (IsSignalUnless.imp fun h => ⟨h.1, ?_⟩)
      exact isSignaling_of_numeric? hn ▸ h.2
    · exact failsOnly_pure _
  | .text s, b | .textMember s, b => failsOnly_pure _
  | .bytes x, b => by cases b <;> exact failsOnly_pure _
  | .list items, b => by
    cases b with
    | list others =>
      rw [same]
      split
      · exact failsOnly_sameList items others
      · exact failsOnly_pure _
    | _ => exact failsOnly_pure _
  | .tuple items, b => by
    cases b with
    | tuple others =>
      rw [same]
      split
      · exact failsOnly_sameList items others
      · exact failsOnly_pure _
    | _ => exact failsOnly_pure _
  | .set items, b => by
    cases b with
    | set others =>
      rw [same]
      split
      · exact failsOnly_within items others
      · exact failsOnly_pure _
    | _ => exact failsOnly_pure _
  | .dict entries, b => by
    cases b with
    | dict others =>
      rw [same]
      split
      · exact failsOnly_entriesWithin entries others
      · exact failsOnly_pure _
    | _ => exact failsOnly_pure _
  | .range start stop step, b => by cases b <;> exact failsOnly_pure _
  | .date d, b => by cases b <;> exact failsOnly_pure _
  | .dateTime t, b => by cases b <;> exact failsOnly_pure _
  | .pattern p, b => by cases b <;> exact failsOnly_pure _
  | .member body, b => by
    cases b with
    | member other => exact failsOnly_same body other
    | _ => exact failsOnly_pure _
  | .entry code message details, b => by
    cases b with
    | entry code' message' details' =>
      rw [same]
      refine .bind ?_ fun _ => .ite (failsOnly_pure _) (.bind ?_ fun _ =>
        .ite (failsOnly_pure _) (.ite ?_ (failsOnly_pure _)))
      · exact (failsOnly_same code code').imp (IsSignalUnless.imp fun h =>
          ⟨(isQuiet_entry.mp h.1).1.1, (isQuiet_entry.mp h.2).1.1⟩)
      · exact (failsOnly_same message message').imp (IsSignalUnless.imp fun h =>
          ⟨(isQuiet_entry.mp h.1).1.2, (isQuiet_entry.mp h.2).1.2⟩)
      · exact (failsOnly_entriesWithin details details').imp (IsSignalUnless.imp fun h =>
          ⟨(isQuiet_entry.mp h.1).2, (isQuiet_entry.mp h.2).2⟩)
    | _ => exact failsOnly_pure _
  | .result valid value errors, b => by
    cases b with
    | result valid' value' errors' =>
      rw [same]
      refine .ite (failsOnly_pure _) (.bind ?_ fun _ => .ite (failsOnly_pure _) ?_)
      · exact (failsOnly_same value value').imp (IsSignalUnless.imp fun h =>
          ⟨(isQuiet_result.mp h.1).1, (isQuiet_result.mp h.2).1⟩)
      · exact (failsOnly_same errors errors').imp (IsSignalUnless.imp fun h =>
          ⟨(isQuiet_result.mp h.1).2, (isQuiet_result.mp h.2).2⟩)
    | _ => exact failsOnly_pure _

theorem failsOnly_sameList : ∀ as bs : List Value,
    FailsOnly (IsSignalUnless (areQuiet as = true ∧ areQuiet bs = true)) (sameList as bs)
  | [], bs => failsOnly_pure _
  | a :: as, [] => failsOnly_pure _
  | a :: as, b :: bs => by
    rw [sameList]
    refine .bind ?_ fun _ => .ite ?_ (failsOnly_pure _)
    · exact (failsOnly_same a b).imp (IsSignalUnless.imp fun h =>
        ⟨(areQuiet_cons.mp h.1).1, (areQuiet_cons.mp h.2).1⟩)
    · exact (failsOnly_sameList as bs).imp (IsSignalUnless.imp fun h =>
        ⟨(areQuiet_cons.mp h.1).2, (areQuiet_cons.mp h.2).2⟩)

theorem failsOnly_within : ∀ as bs : List Value,
    FailsOnly (IsSignalUnless (areQuiet as = true ∧ areQuiet bs = true)) (within as bs)
  | [], bs => failsOnly_pure _
  | a :: as, bs => by
    rw [within]
    refine .bind (failsOnly_anyM fun b hb => ?_) fun _ => .ite ?_ (failsOnly_pure _)
    · exact (failsOnly_same a b).imp (IsSignalUnless.imp fun h =>
        ⟨(areQuiet_cons.mp h.1).1, areQuiet_iff.mp h.2 b hb⟩)
    · exact (failsOnly_within as bs).imp (IsSignalUnless.imp fun h => ⟨(areQuiet_cons.mp h.1).2, h.2⟩)

theorem failsOnly_entriesWithin : ∀ as bs : List (Value × Value),
    FailsOnly (IsSignalUnless (entriesAreQuiet as = true ∧ entriesAreQuiet bs = true)) (entriesWithin as bs)
  | [], bs => failsOnly_pure _
  | (key, value) :: as, bs => by
    rw [entriesWithin]
    refine .bind_of_ok (failsOnly_findM? fun b hb => ?_) fun found hfound => ?_
    · exact (failsOnly_same key b.1).imp (IsSignalUnless.imp fun h =>
        ⟨(entriesAreQuiet_cons.mp h.1).1.1, (entriesAreQuiet_iff.mp h.2 b hb).1⟩)
    · cases found with
      | none => exact failsOnly_pure _
      | some b =>
        refine .bind ?_ fun _ => .ite ?_ (failsOnly_pure _)
        · exact (failsOnly_same value b.2).imp (IsSignalUnless.imp fun h =>
            ⟨(entriesAreQuiet_cons.mp h.1).1.2,
              (entriesAreQuiet_iff.mp h.2 b (mem_of_findM? hfound)).2⟩)
        · exact (failsOnly_entriesWithin as bs).imp (IsSignalUnless.imp fun h =>
            ⟨(entriesAreQuiet_cons.mp h.1).2, h.2⟩)

end

/-! ## Order of numbers -/

section

variable {a b : Number} {x y : Number.Line} (relation : Comparison)

theorem compareWith_number {limit : Value} (h : limit.numeric? = some b) :
    (number a).compareWith relation limit = compareNumbers relation a b := by
  rw [compareWith, h]

/-- Whether a relation holds between two numbers is told by what they are worth. -/
theorem compareNumbers_spec (ha : a.worth? = some x) (hb : b.worth? = some y) :
    ∃ o : Ordering, compareNumbers relation a b = .ok (holds relation o) ∧ o.Compares x y := by
  obtain ⟨o, ho, hcompares⟩ := Number.compare?_spec ha hb
  refine ⟨o, ?_, hcompares⟩
  rw [compareNumbers, Number.order?, ho]
  rfl

/-- A NaN stands in no relation to a number, and where one of them is a decimal it is an error to ask. -/
theorem compareNumbers_of_nan (h : a.worth? = none ∨ b.worth? = none) :
    compareNumbers relation a b =
      if a.isDecimal || b.isDecimal then .error (.operation (.decimal .invalidOperation)) else .ok false := by
  rw [compareNumbers, Number.order?, Number.compare?_eq_none h]
  cases a.isDecimal || b.isDecimal <;> rfl

/-- A relation that an order satisfies or not does not hold between two numbers just when the order of what
they are worth does not satisfy it, or when one of them is the floating point NaN and none a decimal. -/
theorem compareNumbers_eq_false_iff {P : Number.Line → Number.Line → Prop}
    (hholds : ∀ {o : Ordering} {x y : Number.Line}, o.Compares x y → (holds relation o = false ↔ P x y)) :
    compareNumbers relation a b = .ok false ↔
      (∃ x y, a.worth? = some x ∧ b.worth? = some y ∧ P x y) ∨
        (a = .float .nan ∧ b.isDecimal = false) ∨ (b = .float .nan ∧ a.isDecimal = false) := by
  cases ha : a.worth? with
  | none =>
    rw [compareNumbers_of_nan relation (.inl ha)]
    rcases Number.worth?_eq_none_iff.mp ha with rfl | ⟨signaling, negative, payload, rfl⟩ <;>
      simp [Number.isDecimal]
    rintro rfl
    rfl
  | some x =>
    have hleft : a ≠ .float .nan := by
      rintro rfl
      cases ha
    cases hb : b.worth? with
    | none =>
      rw [compareNumbers_of_nan relation (.inr hb)]
      rcases Number.worth?_eq_none_iff.mp hb with rfl | ⟨signaling, negative, payload, rfl⟩ <;>
        simp [Number.isDecimal, hleft]
    | some y =>
      have hright : b ≠ .float .nan := by
        rintro rfl
        cases hb
      obtain ⟨o, ho, hcompares⟩ := compareNumbers_spec relation ha hb
      simp [ho, hholds hcompares, hleft, hright]

/-- A number is not below another one just when that is at most the number, or when one of them is the
floating point NaN and none a decimal. -/
theorem compareNumbers_less_eq_false_iff :
    compareNumbers .less a b = .ok false ↔
      b.AtMost a ∨ (a = .float .nan ∧ b.isDecimal = false) ∨ (b = .float .nan ∧ a.isDecimal = false) := by
  have hholds {o : Ordering} {x y : Number.Line} (h : o.Compares x y) : holds .less o = false ↔ y ≤ x := by
    rw [← h.ne_lt]
    simp [holds]
  rw [compareNumbers_eq_false_iff .less hholds]
  refine or_congr_left ⟨?_, ?_⟩
  · rintro ⟨x, y, ha, hb, hle⟩
    exact ⟨y, x, hb, ha, hle⟩
  · rintro ⟨y, x, hb, ha, hle⟩
    exact ⟨x, y, ha, hb, hle⟩

/-- A number is not above another one just when it is at most that, or when one of them is the floating point
NaN and none a decimal. -/
theorem compareNumbers_greater_eq_false_iff :
    compareNumbers .greater a b = .ok false ↔
      a.AtMost b ∨ (a = .float .nan ∧ b.isDecimal = false) ∨ (b = .float .nan ∧ a.isDecimal = false) := by
  have hholds {o : Ordering} {x y : Number.Line} (h : o.Compares x y) : holds .greater o = false ↔ x ≤ y := by
    rw [← h.ne_gt]
    simp [holds]
  exact compareNumbers_eq_false_iff .greater hholds

/-- To ask whether a relation holds between two numbers fails only for a NaN and a decimal. -/
theorem failsOnly_compareNumbers (a b : Number) :
    FailsOnly (fun fault => fault = .operation (.decimal .invalidOperation) ∧
      (a.worth? = none ∨ b.worth? = none) ∧ (a.isDecimal || b.isDecimal) = true)
      (compareNumbers relation a b) := by
  intro fault hfault
  by_cases hnan : a.worth? = none ∨ b.worth? = none
  · rw [compareNumbers_of_nan relation hnan] at hfault
    split at hfault
    · rename_i hdecimal
      cases hfault
      exact ⟨rfl, hnan, hdecimal⟩
    · cases hfault
  · obtain ⟨ha, hb⟩ := not_or.mp hnan
    obtain ⟨x, hx⟩ := Option.ne_none_iff_exists'.mp ha
    obtain ⟨y, hy⟩ := Option.ne_none_iff_exists'.mp hb
    obtain ⟨o, ho, -⟩ := compareNumbers_spec relation hx hy
    rw [ho] at hfault
    cases hfault

end

/-! ## Order of values -/

theorem failsOnly_compareSets (relation : Comparison) (as bs : List Value) :
    FailsOnly Fault.IsOperation (compareSets relation as bs) := by
  have hwithin (l l' : List Value) : FailsOnly Fault.IsOperation (within l l') :=
    (failsOnly_within l l').imp fun _ h => ⟨_, h.1⟩
  cases relation <;> exact .ite (hwithin _ _) (failsOnly_pure false)

mutual

/-- To ask whether a relation holds between two values fails only as an operation on them. -/
theorem failsOnly_compareWith (relation : Comparison) : ∀ a b : Value,
    FailsOnly Fault.IsOperation (a.compareWith relation b)
  | .bool _, b | .number _, b => by
    rw [compareWith]
    split
    · exact (failsOnly_compareNumbers relation _ _).imp fun _ h => ⟨_, h.1⟩
    · exact failsOnly_refuse _
  | .text _, b | .textMember _, b => by
    rw [compareWith]
    split
    · exact failsOnly_pure _
    · exact failsOnly_refuse _
  | .bytes _, b | .date _, b => by cases b <;> first | exact failsOnly_refuse _ | exact failsOnly_pure _
  | .dateTime _, b => by
    cases b with
    | dateTime _ => exact .ite (failsOnly_pure _) (failsOnly_refuse _)
    | _ => exact failsOnly_refuse _
  | .set _, b => by
    cases b with
    | set _ => exact failsOnly_compareSets relation _ _
    | _ => exact failsOnly_refuse _
  | .list as, b => by
    cases b with
    | list bs => exact failsOnly_compareLists relation as bs
    | _ => exact failsOnly_refuse _
  | .tuple as, b => by
    cases b with
    | tuple bs => exact failsOnly_compareLists relation as bs
    | _ => exact failsOnly_refuse _
  | .null, _ | .dict _, _ | .range .., _ | .member _, _ | .entry .., _ | .result .., _ | .pattern _, _ =>
    failsOnly_refuse _

theorem failsOnly_compareLists (relation : Comparison) : ∀ as bs : List Value,
    FailsOnly Fault.IsOperation (compareLists relation as bs)
  | [], [] | [], _ :: _ | _ :: _, [] => failsOnly_pure _
  | a :: as, b :: bs => by
    rw [compareLists]
    refine .bind ((failsOnly_same a b).imp fun _ h => ⟨_, h.1⟩) fun _ => ?_
    exact .ite (failsOnly_compareLists relation as bs) (failsOnly_compareWith relation a b)

end

/-! ## Limits -/

/-- Whether a value is no limit, or any number as a limit. -/
def IsBound (limit : Value) : Prop := limit = .null ∨ ∃ m, limit.numeric? = some m

/-- Whether a value is no limit, or a number other than NaN as a limit. -/
def IsLimit (limit : Value) : Prop := limit = .null ∨ ∃ n x, limit.numeric? = some n ∧ n.worth? = some x

theorem IsLimit.isNull_iff {limit : Value} (h : limit.IsLimit) :
    limit.isNull = true ↔ ∀ n, limit.numeric? ≠ some n := by
  rcases h with rfl | ⟨n, x, hn, -⟩
  · simp [isNull, numeric?]
  · cases limit <;> cases hn <;> simp [isNull, numeric?]

/-! ## Membership -/

/-- Whether a value is an integer that is no byte, and a container bytes. -/
def IsNoByteOf (value container : Value) : Prop :=
  ∃ n bytes, value = .number (.int n) ∧ container = .bytes bytes ∧ ¬ (0 ≤ n ∧ n < 256)

/-- Whether a fault can come of asking whether a container has a value as a member. -/
def IsMembershipFault (container value : Value) (fault : Fault) : Prop :=
  fault.IsTypeFault ∨ IsSignalUnless (value.isQuiet = true ∧ container.isQuiet = true) fault ∨
    fault = .operation .byteRange ∧ value.IsNoByteOf container

theorem failsOnly_memberOf (value : Value) (items : List Value) :
    FailsOnly (IsSignalUnless (value.isQuiet = true ∧ areQuiet items = true)) (value.memberOf items) :=
  failsOnly_anyM fun item hitem => (failsOnly_same value item).imp (IsSignalUnless.imp fun h =>
    ⟨h.1, areQuiet_iff.mp h.2 item hitem⟩)

theorem failsOnly_isKeyOf (keys : List Value) (value : Value) :
    FailsOnly Fault.IsTypeFault (isKeyOf keys value) :=
  (failsOnly_checkKey value).bind fun _ => failsOnly_pure _

theorem failsOnly_rangeHolds (start stop step : Int) (n : Number) :
    FailsOnly (IsSignalUnless ((!n.isSignaling) = true)) (rangeHolds start stop step n) := by
  unfold rangeHolds
  split
  · rename_i hsignaling
    refine failsOnly_throw ⟨rfl, fun hquiet => ?_⟩
    rw [Bool.and_eq_true] at hsignaling
    rw [hsignaling.1] at hquiet
    cases hquiet
  · split <;> exact failsOnly_pure _

theorem failsOnly_bytesHold (bytes : List UInt8) (value : Value) :
    FailsOnly (IsMembershipFault (.bytes bytes) value) (bytesHold bytes value) := by
  unfold bytesHold
  split
  · exact failsOnly_pure _
  · exact failsOnly_pure _
  · rename_i n
    split
    · exact failsOnly_pure _
    · rename_i hrange
      exact failsOnly_throw (.inr (.inr ⟨rfl, n, bytes, rfl, rfl, hrange⟩))
  · exact failsOnly_throw (.inl ⟨_, rfl, rfl⟩)

/-- To ask for a member fails because of the types, for a signaling NaN, or because no such byte is. -/
theorem failsOnly_contains (container value : Value) :
    FailsOnly (IsMembershipFault container value) (container.contains value) := by
  cases container with
  | list items | tuple items => exact (failsOnly_memberOf value items).imp fun _ h => .inr (.inl h)
  | set items => exact (failsOnly_isKeyOf items value).imp fun _ h => Or.inl h
  | dict entries => exact (failsOnly_isKeyOf (entries.map (·.1)) value).imp fun _ h => Or.inl h
  | text s | textMember s =>
    rw [contains]
    split
    · exact failsOnly_pure _
    · exact failsOnly_throw (.inl ⟨_, rfl, rfl⟩)
  | bytes b => exact failsOnly_bytesHold b value
  | range start stop step =>
    rw [contains]
    split
    · rename_i n hn
      refine (failsOnly_rangeHolds start stop step n).imp fun fault h => .inr (.inl ?_)
      exact h.imp (fun hquiet => isSignaling_of_numeric? hn ▸ hquiet.1) fault
    · exact failsOnly_pure _
  | _ => exact failsOnly_throw (.inl ⟨_, rfl, rfl⟩)

end Value

end RecordCheck
