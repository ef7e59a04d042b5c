import RecordCheck.Regex.Match

/-!
# Repetitions of a class of characters

Where the body of a greedy repetition is a class of characters, the repetition matches some characters of the
class, enough of them, before what comes after it: the most that it can in the end, but for the question whether
there is a match at all any number will do.  Each round takes a character, so that the rounds are bounded by the
characters that are left, and a round is never cut short for having matched nothing.
-/

set_option autoImplicit false

namespace RecordCheck.Regex

/-- The state past a part of the text ahead, with the rest of the text ahead. -/
def State.past (s : State) (part rest : List Char) : State :=
  { s with before := part.reverse ++ s.before, after := rest }

theorem State.past_past (s : State) (first second rest others : List Char) :
    (s.past first rest).past second others = s.past (first ++ second) others := by
  simp [past]

/-! ## One character -/

/-- Whether matching before a continuation takes a character of a class, and goes on from there. -/
def TakesOne (p : Char → Bool) (step : Continuation → Continuation) : Prop :=
  ∀ next s, step next s =
    match s.after with
    | [] => none
    | c :: rest => if p c then next (s.past [c] rest) else none

variable {p : Char → Bool} {step : Continuation → Continuation} {next : Continuation} {s : State}

/-- Whether a character is in a set, or out of it if the set is negated. -/
def inSet (flags : Flags) (items : List SetItem) (negated : Bool) (c : Char) : Bool :=
  items.any (·.contains flags c) != negated

theorem takesOne_set (flags : Flags) (items : List SetItem) (negated : Bool) :
    TakesOne (inSet flags items negated) fun next => runSequence flags next [.set items negated] := by
  rintro next ⟨before, after, groups⟩
  cases after <;> rfl

theorem takesOne_code (flags : Flags) (value : Nat) (negated : Bool) :
    TakesOne (fun c => (variants flags c).contains value != negated)
      fun next => (Node.code value negated).run flags next := by
  rintro next ⟨before, after, groups⟩
  cases after <;> rfl

theorem TakesOne.isSome_iff (h : TakesOne p step) :
    (step next s).isSome = true ↔
      ∃ c rest, s.after = c :: rest ∧ p c = true ∧ (next (s.past [c] rest)).isSome = true := by
  rw [h next s]
  cases s.after with
  | nil => simp
  | cons c rest =>
    simp only [List.cons.injEq, and_assoc, exists_and_left, exists_eq_left']
    cases p c <;> simp

/-! ## Repetitions -/

/-- Whether the text ahead begins with characters of a class, at least so many of them, past which a
continuation matches. -/
def Spans (p : Char → Bool) (least : Nat) (next : Continuation) (s : State) : Prop :=
  ∃ part rest, s.after = part ++ rest ∧ (∀ c ∈ part, p c = true) ∧ least ≤ part.length ∧
    (next (s.past part rest)).isSome = true

/-- Either no character is taken, or one of the class and then others. -/
theorem spans_iff {least : Nat} :
    Spans p least next s ↔ (least = 0 ∧ (next s).isSome = true) ∨
      ∃ c rest, s.after = c :: rest ∧ p c = true ∧ Spans p (least - 1) next (s.past [c] rest) := by
  constructor
  · rintro ⟨part, rest, hafter, hpart, hleast, hnext⟩
    cases part with
    | nil =>
      obtain rfl : s.after = rest := hafter
      exact .inl ⟨Nat.le_zero.mp hleast, hnext⟩
    | cons c others =>
      obtain ⟨hc, hothers⟩ := List.forall_mem_cons.mp hpart
      refine .inr ⟨c, others ++ rest, hafter, hc, others, rest, rfl, hothers, Nat.sub_le_of_le_add hleast, ?_⟩
      rwa [State.past_past]
  · rintro (⟨rfl, hnext⟩ | ⟨c, rest, hafter, hc, part, others, hrest, hpart, hleast, hnext⟩)
    · exact ⟨[], s.after, rfl, nofun, Nat.zero_le _, hnext⟩
    · obtain rfl : rest = part ++ others := hrest
      refine ⟨c :: part, others, hafter, List.forall_mem_cons.mpr ⟨hc, hpart⟩, Nat.le_add_of_sub_le hleast, ?_⟩
      rwa [State.past_past] at hnext

/-- A greedy repetition of a class, `done` times made, matches just when characters of the class follow that
make up the least count.  The last round did not begin where the next one does. -/
theorem isSome_repeatGreedy_iff (h : TakesOne p step) {least fuel done : Nat} {last : Option State}
    (hfuel : s.after.length < fuel) (hlast : ∀ t, last = some t → s.after.length < t.after.length) :
    (repeatGreedy step least none next fuel done last s).isSome = true ↔ Spans p (least - done) next s := by
  -- By induction on the fuel, which exceeds the characters left: a round uses up one of either.
  induction fuel generalizing done last s with
  | zero => exact absurd hfuel (Nat.not_lt_zero _)
  | succ fuel ih =>
    have hagain : (step (repeatGreedy step least none next fuel (done + 1) (some s)) s).isSome = true ↔
        ∃ c rest, s.after = c :: rest ∧ p c = true ∧ Spans p (least - done - 1) next (s.past [c] rest) := by
      rw [h.isSome_iff]
      refine exists_congr fun c => exists_congr fun rest => and_congr_right fun hafter =>
        and_congr_right fun _ => ?_
      rw [hafter, List.length_cons] at hfuel
      rw [ih (Nat.lt_of_succ_lt_succ hfuel), Nat.sub_add_eq]
      rintro t ⟨⟩
      rw [hafter]
      exact Nat.lt_succ_self rest.length
    have hmoved : (last.map s.atSamePosition).getD false = false := by
      cases last with
      | none => rfl
      | some t => exact beq_false_of_ne (Nat.ne_of_lt (hlast t rfl))
    rw [repeatGreedy, hmoved, spans_iff, ← hagain]
    by_cases hdone : done < least
    · simp only [hdone, if_true]
      simp only [Nat.sub_ne_zero_of_lt hdone, false_and, false_or]
    · simp only [hdone, if_false, Nat.sub_eq_zero_of_le (Nat.not_lt.mp hdone), true_and]
      simp [or_comm]

/-- A greedy repetition of a class matches before a continuation just when enough characters of it follow, and
then the continuation matches. -/
theorem isSome_run_repetition_iff (flags : Flags) (items : List SetItem) (negated : Bool) (least : Nat) :
    ((Node.repetition .greedy least none [.set items negated]).run flags next s).isSome = true ↔
      Spans (inSet flags items negated) least next s :=
  isSome_repeatGreedy_iff (takesOne_set flags items negated) (by unfold repetitionFuel; omega) nofun

end RecordCheck.Regex
