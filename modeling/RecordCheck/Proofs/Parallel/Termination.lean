import RecordCheck.Proofs.Parallel.Progress

/-!
# Every validation ends

What a unit does after a join depends on what its parts came to, so the moves of a validation cannot be
counted beforehand.  But a join takes place only once for each fork, no work after a join forks again,
and between two joins the moves are counted by the plans.  So the joins left and the moves up to the next
join decrease together, in lexicographic order, with every step.
-/

set_option autoImplicit false

namespace RecordCheck.Parallel

namespace Plan

mutual

/-- The number of moves that a plan takes up to its joins. -/
def moves : Plan → Nat
  | ends _ => 1
  | stay s next => s.pauses.length + 4 + next.moves
  | fork children _ _ => movesIn children + 2

/-- The number of moves that plans take up to their joins. -/
def movesIn : List Plan → Nat
  | [] => 0
  | p :: rest => p.moves + movesIn rest

end

@[simp] theorem forks_work (w : Work) : w.plan.forks = 0 := by
  unfold Work.plan
  induction w.stays with
  | nil => rfl
  | cons s rest ih => simpa [forks] using ih

end Plan

namespace Task

/-! ## Joins and moves that are left -/

mutual

/-- The number of joins that a unit and its parts still come to. -/
def joins : Task → Nat
  | ready plan => plan.forks
  | queued _ next | granted _ next | holding _ next => next.forks
  | joining ps _ _ => joinsIn ps + 1
  | unwinding _ ps _ | halting ps => joinsIn ps
  | leaving _ | finished _ | stopped => 0

/-- The number of joins that units and their parts still come to. -/
def joinsIn : List Task → Nat
  | [] => 0
  | t :: rest => t.joins + joinsIn rest

end

mutual

/-- The number of moves that a unit and its parts make up to their next joins. -/
def moves : Task → Nat
  | ready plan => plan.moves
  | queued s next => s.pauses.length + 3 + next.moves
  | granted s next => s.pauses.length + 2 + next.moves
  | holding pauses next => pauses.length + 1 + next.moves
  | joining ps _ _ | unwinding _ ps _ | halting ps => movesIn ps + 1
  | leaving holds => holds.toNat + 1
  | finished _ | stopped => 0

/-- The number of moves that units and their parts make up to their next joins. -/
def movesIn : List Task → Nat
  | [] => 0
  | t :: rest => t.moves + movesIn rest

end

@[simp] theorem joinsIn_append (before after : List Task) :
    joinsIn (before ++ after) = joinsIn before + joinsIn after := by
  induction before with
  | nil => simp [joinsIn]
  | cons p rest ih => simp [joinsIn, ih]; omega

@[simp] theorem movesIn_append (before after : List Task) :
    movesIn (before ++ after) = movesIn before + movesIn after := by
  induction before with
  | nil => simp [movesIn]
  | cons p rest ih => simp [movesIn, ih]; omega

@[simp] theorem joinsIn_map_ready (plans : List Plan) :
    joinsIn (plans.map ready) = Plan.forksIn plans := by
  induction plans with
  | nil => rfl
  | cons p rest ih => simp [joinsIn, joins, Plan.forksIn, ih]

@[simp] theorem movesIn_map_ready (plans : List Plan) :
    movesIn (plans.map ready) = Plan.movesIn plans := by
  induction plans with
  | nil => rfl
  | cons p rest ih => simp [movesIn, moves, Plan.movesIn, ih]

/-- Cancellation adds no joins. -/
theorem joins_cancel_le (t : Task) : t.cancel.joins ≤ t.joins := by
  have parts {ps : List Task} (ih : ∀ p ∈ ps, p.cancel.joins ≤ p.joins) :
      joinsIn (cancelAll ps) ≤ joinsIn ps := by
    induction ps with
    | nil => exact Nat.le_refl _
    | cons p rest hrest =>
      obtain ⟨hp, hothers⟩ := List.forall_mem_cons.mp ih
      exact Nat.add_le_add hp (hrest hothers)
  induction t using Task.induction with
  | joining ps join recover ih => exact Nat.le_succ_of_le (parts ih)
  | unwinding cause ps recover ih => exact parts ih
  | halting ps ih => exact parts ih
  | _ => simp [cancel, joins]

/-- Every step uses up a join, or a move on the way to one. -/
theorem Steps.decreases {m : Move} {path : Path} {t t' : Task} (h : Steps m path t t') :
    t'.joins < t.joins ∨ (t'.joins ≤ t.joins ∧ t'.moves < t.moves) := by
  induction h with
  | begin plan =>
    right
    cases plan <;> simp [Task.begin, joins, moves, Plan.forks, Plan.moves]
  | merge join recover hparts => left; simp [joins]
  | @abort i parts cause join recover hfault =>
    left
    have hparts := joins_cancel_le (.halting parts)
    simp only [cancel, joins] at hparts ⊢
    omega
  | inJoining before after join recover hpart ih =>
    simp only [joins, moves, joinsIn_append, movesIn_append, joinsIn, movesIn]
    omega
  | inUnwinding cause before after recover hpart ih =>
    simp only [joins, moves, joinsIn_append, movesIn_append, joinsIn, movesIn]
    omega
  | inHalting before after hpart ih =>
    simp only [joins, moves, joinsIn_append, movesIn_append, joinsIn, movesIn]
    omega
  | _ => right; simp [joins, moves]

end Task

namespace State

/-- `Moves s s'`: some unit of `s` can make a move that leads to `s'`. -/
def Moves (s s' : State) : Prop := ∃ path m, s.step path m = some s'

/-- Whether every sequence of moves from a state on comes to its end. -/
def Terminates (s : State) : Prop :=
  ∀ run : Nat → State, run 0 = s → ∃ n, ¬ (run n).Moves (run (n + 1))

/-- The joins that are left, and the moves up to the next of them. -/
def measure (s : State) : Nat × Nat := (s.root.joins, s.root.moves)

/-- The order in which states come closer to their end is well-founded. -/
theorem wellFounded_lex_measure :
    WellFounded (InvImage (Prod.Lex (· < · : Nat → Nat → Prop) (· < ·)) measure) :=
  InvImage.wf measure (Prod.lex Nat.lt_wfRel Nat.lt_wfRel).wf

theorem Moves.lex_measure {s s' : State} (h : s.Moves s') :
    Prod.Lex (· < ·) (· < ·) s'.measure s.measure := by
  obtain ⟨path, m, hstep⟩ := h
  rcases (step_eq_some_iff.mp hstep).2.decreases with hjoins | ⟨hjoins, hmoves⟩
  · exact .left _ _ hjoins
  · rcases Nat.lt_or_eq_of_le hjoins with hlt | heq
    · exact .left _ _ hlt
    · have hmeasure : s'.measure = (s.root.joins, s'.root.moves) := by rw [measure, heq]
      rw [hmeasure]
      exact .right _ hmoves

/-- No validation goes on for ever. -/
theorem terminates (s : State) : s.Terminates := by
  induction s using wellFounded_lex_measure.induction with
  | h s ih =>
    intro run hrun
    by_cases hmoves : (run 0).Moves (run 1)
    · subst hrun
      obtain ⟨n, hn⟩ := ih (run 1) hmoves.lex_measure (fun n => run (n + 1)) rfl
      exact ⟨n + 1, hn⟩
    · exact ⟨0, hmoves⟩

end State

end RecordCheck.Parallel
