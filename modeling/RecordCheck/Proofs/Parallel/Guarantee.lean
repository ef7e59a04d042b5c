import Mathlib.Data.List.Forall2
import RecordCheck.Proofs.Parallel.Termination

/-!
# What plans guarantee

A plan ensures something of its result if every run of it does, whatever else is under way, as long as
the run keeps to what is assumed of it: which calls of hooks are made, and whether units are ever aborted.
The definition follows the plan.  The parts of a fork are looked at one by one, since none of them sees
the others; what they ensure is all that the join may rely on.

A validation with slots whose plan ensures something, run to its end in any order, has a result of which
that holds.
-/

set_option autoImplicit false

namespace RecordCheck.Parallel

/-- Something that may hold of a result. -/
abbrev Condition := Attempt Outcome → Prop

/-- What is assumed of a run: which calls of hooks may be made, and whether units may be aborted. -/
structure Assumption where
  calls : HookCall → Prop
  aborts : Prop

/-- Whether the call of a stay, if there is one, is as assumed. -/
def Stay.Keeps (assumed : Assumption) (s : Stay) : Prop := ∀ c, s.call = some c → assumed.calls c

/-- Whether the result of work satisfies a condition if all its calls are as assumed. -/
def Work.Ensures (assumed : Assumption) (w : Work) (post : Condition) : Prop :=
  (∀ s ∈ w.stays, s.Keeps assumed) → post w.result

/-- Whether the result of a join satisfies a condition, given what holds of the parts' outcomes. -/
def JoinEnsures (assumed : Assumption) (join : List Outcome → Work) (posts : List Condition)
    (post : Condition) : Prop :=
  ∀ outcomes, List.Forall₂ (fun (p : Condition) o => p (.ok o)) posts outcomes →
    (join outcomes).Ensures assumed post

/-- Whether the result after an abort satisfies a condition, given what holds of the parts' faults. -/
def RecoverEnsures (assumed : Assumption) (recover : Fault → Attempt Outcome)
    (posts : List Condition) (post : Condition) : Prop :=
  assumed.aborts → ∀ cause, (∃ p ∈ posts, p (.error cause)) → post (recover cause)

namespace Plan

mutual

/-- Whether every result of a plan satisfies a condition. -/
def Ensures (assumed : Assumption) : Plan → Condition → Prop
  | ends result, post => post result
  | stay s next, post => s.Keeps assumed → next.Ensures assumed post
  | fork children join recover, post =>
    ∃ posts, EnsuresAll assumed children posts ∧ JoinEnsures assumed join posts post ∧
      RecoverEnsures assumed recover posts post

/-- Whether every result of each plan satisfies the condition in the same place. -/
def EnsuresAll (assumed : Assumption) : List Plan → List Condition → Prop
  | [], [] => True
  | p :: rest, post :: posts => p.Ensures assumed post ∧ EnsuresAll assumed rest posts
  | _, _ => False

end

variable {assumed : Assumption}

theorem ensuresAll_iff {plans : List Plan} {posts : List Condition} :
    EnsuresAll assumed plans posts ↔
      List.Forall₂ (fun (p : Plan) post => p.Ensures assumed post) plans posts := by
  induction plans generalizing posts with
  | nil => cases posts <;> simp [EnsuresAll]
  | cons p rest ih => cases posts <;> simp [EnsuresAll, ih]

/-- A plan that is work without parts ensures what the work does. -/
theorem ensures_work {w : Work} {post : Condition} :
    w.plan.Ensures assumed post ↔ w.Ensures assumed post := by
  unfold Work.plan Work.Ensures
  induction w.stays with
  | nil => simp [Ensures]
  | cons s rest ih => simp [Ensures, ih]

/-- What follows from what a plan ensures is ensured, too. -/
theorem Ensures.imp {plan : Plan} {post post' : Condition} (h : plan.Ensures assumed post)
    (hpost : ∀ result, post result → post' result) : plan.Ensures assumed post' := by
  induction plan using Plan.induction with
  | ends result => exact hpost result h
  | stay s next ih => exact fun hkeeps => ih (h hkeeps)
  | fork children join recover ih =>
    obtain ⟨posts, hparts, hjoin, hrecover⟩ := h
    exact ⟨posts, hparts, fun outcomes houtcomes hkeeps => hpost _ (hjoin outcomes houtcomes hkeeps),
      fun haborts cause hcause => hpost _ (hrecover haborts cause hcause)⟩

end Plan

namespace Task

mutual

/-- Whether every result that a unit can still come to satisfies a condition.  A unit that was cancelled
comes to none. -/
def Ensures (assumed : Assumption) : Task → Condition → Prop
  | ready plan, post => plan.Ensures assumed post
  | queued s next, post | granted s next, post => s.Keeps assumed → next.Ensures assumed post
  | holding _ next, post => next.Ensures assumed post
  | joining ps join recover, post =>
    ∃ posts, EnsuresAll assumed ps posts ∧ JoinEnsures assumed join posts post ∧
      RecoverEnsures assumed recover posts post
  | unwinding cause _ recover, post => post (recover cause)
  | finished result, post => post result
  | leaving _, _ | halting _, _ | stopped, _ => True

/-- Whether every result of each unit satisfies the condition in the same place. -/
def EnsuresAll (assumed : Assumption) : List Task → List Condition → Prop
  | [], [] => True
  | t :: rest, post :: posts => t.Ensures assumed post ∧ EnsuresAll assumed rest posts
  | _, _ => False

end

variable {assumed : Assumption} {post : Condition}

theorem ensuresAll_iff {parts : List Task} {posts : List Condition} :
    EnsuresAll assumed parts posts ↔
      List.Forall₂ (fun (t : Task) post => t.Ensures assumed post) parts posts := by
  induction parts generalizing posts with
  | nil => cases posts <;> simp [EnsuresAll]
  | cons p rest ih => cases posts <;> simp [EnsuresAll, ih]

/-- Units that have not begun ensure what their plans do. -/
theorem ensuresAll_map_ready {plans : List Plan} {posts : List Condition} :
    EnsuresAll assumed (plans.map ready) posts ↔ Plan.EnsuresAll assumed plans posts := by
  rw [ensuresAll_iff, Plan.ensuresAll_iff, List.forall₂_map_left_iff]
  rfl

/-- Units of which one was changed into another that ensures as much ensure as much as before. -/
theorem ensuresAll_replace {before after : List Task} {p p' : Task} {posts : List Condition}
    (h : EnsuresAll assumed (before ++ p :: after) posts)
    (hp : ∀ post, p.Ensures assumed post → p'.Ensures assumed post) :
    EnsuresAll assumed (before ++ p' :: after) posts := by
  induction before generalizing posts with
  | nil =>
    cases posts with
    | nil => exact h.elim
    | cons post posts => exact ⟨hp post h.1, h.2⟩
  | cons q before ih =>
    cases posts with
    | nil => exact h.elim
    | cons post posts => exact ⟨h.1, ih h.2⟩

/-- Outcomes that parts have come to satisfy what the parts ensure. -/
theorem forall₂_of_ensuresAll {outcomes : List Outcome} {posts : List Condition}
    (h : EnsuresAll assumed (outcomes.map fun o => finished (.ok o)) posts) :
    List.Forall₂ (fun (p : Condition) o => p (.ok o)) posts outcomes := by
  rw [ensuresAll_iff, List.forall₂_map_left_iff] at h
  exact h.flip

/-- A fault that a part has come to satisfies what the part ensures. -/
theorem exists_of_ensuresAll {parts : List Task} {posts : List Condition} {i : Nat} {cause : Fault}
    (h : EnsuresAll assumed parts posts) (hfault : parts[i]?.bind fault? = some cause) :
    ∃ p ∈ posts, p (.error cause) := by
  induction parts generalizing i posts with
  | nil => simp at hfault
  | cons t rest ih =>
    cases posts with
    | nil => exact h.elim
    | cons post posts =>
      cases i with
      | zero =>
        obtain rfl : t = finished (.error cause) := fault?_eq_some_iff.mp (by simpa using hfault)
        exact ⟨post, by simp, h.1⟩
      | succ i =>
        obtain ⟨p, hp, hcause⟩ := ih h.2 (by simpa using hfault)
        exact ⟨p, by simp [hp], hcause⟩

/-! ## Steps -/

/-- The call that a move makes, if it makes one: that of the slot which a unit enters. -/
def callAt (t : Task) (path : Path) (m : Move) : Option HookCall :=
  match m, t.at? path with
  | .enter, some (granted s _) => s.call
  | _, _ => none

end Task

/-- Whether a move aborts a unit. -/
def Move.isAbort : Move → Bool
  | .abort _ => true
  | _ => false

namespace Task

variable {assumed : Assumption} {post : Condition}

/-- A unit that makes a move as assumed ensures as much after it as before. -/
theorem Steps.ensures {m : Move} {path : Path} {t t' : Task} (h : Steps m path t t')
    (hcall : ∀ c, t.callAt path m = some c → assumed.calls c)
    (habort : m.isAbort = true → assumed.aborts) (ht : t.Ensures assumed post) :
    t'.Ensures assumed post := by
  induction h generalizing post with
  | begin plan =>
    cases plan with
    | ends result => exact ht
    | stay s next => exact ht
    | fork children join recover =>
      obtain ⟨posts, hparts, hjoin, hrecover⟩ := ht
      exact ⟨posts, ensuresAll_map_ready.mpr hparts, hjoin, hrecover⟩
  | grant s next => exact ht
  | enter s next => exact ht hcall
  | pass pause rest next => exact ht
  | release next => exact ht
  | giveUp => trivial
  | @merge parts outcomes join recover houtcomes =>
    obtain ⟨posts, hparts, hjoin, -⟩ := ht
    rw [mapM_outcome?_eq_some_iff.mp houtcomes] at hparts
    exact Plan.ensures_work.mpr (hjoin outcomes (forall₂_of_ensuresAll hparts))
  | @abort i parts cause join recover hfault =>
    obtain ⟨posts, hparts, -, hrecover⟩ := ht
    exact hrecover (habort rfl) cause (exists_of_ensuresAll hparts hfault)
  | settle cause recover hparts => exact ht
  | leave => trivial
  | halt hparts => trivial
  | inJoining before after join recover hpart ih =>
    obtain ⟨posts, hparts, hjoin, hrecover⟩ := ht
    refine ⟨posts, ensuresAll_replace hparts ?_, hjoin, hrecover⟩
    intro post hp
    refine ih ?_ habort hp
    simpa [callAt, at?, Task.parts] using hcall
  | inUnwinding cause before after recover hpart ih => exact ht
  | inHalting before after hpart ih => trivial

end Task

/-! ## Runs -/

/-- Whether no unit is aborted in a schedule. -/
def Unaborted (schedule : List (Path × Move)) : Prop := ∀ move ∈ schedule, move.2.isAbort = false

instance (schedule : List (Path × Move)) : Decidable (Unaborted schedule) :=
  inferInstanceAs (Decidable (∀ move ∈ schedule, move.2.isAbort = false))

namespace State

/-- The calls of hooks that are made along a schedule, in order. -/
def callsAlong : State → List (Path × Move) → List HookCall
  | _, [] => []
  | s, move :: rest =>
    (s.root.callAt move.1 move.2).toList ++
      match s.step move.1 move.2 with
      | some next => next.callsAlong rest
      | none => []

/-- Whether a run is as assumed. -/
structure Meets (assumed : Assumption) (s : State) (schedule : List (Path × Move)) : Prop where
  calls : ∀ c ∈ s.callsAlong schedule, assumed.calls c
  aborts : assumed.aborts ∨ Unaborted schedule

variable {assumed : Assumption} {post : Condition}

/-- What the outermost unit ensures at the beginning of a run it ensures at its end. -/
theorem ensures_follow {s s' : State} {schedule : List (Path × Move)}
    (h : s.follow schedule = some s') (hmeets : s.Meets assumed schedule)
    (hs : s.root.Ensures assumed post) : s'.root.Ensures assumed post := by
  induction schedule generalizing s with
  | nil =>
    obtain rfl := follow_nil.mp h
    exact hs
  | cons move rest ih =>
    obtain ⟨next, hnext, hrest⟩ := follow_cons.mp h
    have hcalls := hmeets.calls
    simp only [callsAlong, hnext, List.mem_append, Option.mem_toList] at hcalls
    have haborts : move.2.isAbort = true → assumed.aborts := by
      intro hmove
      refine hmeets.aborts.resolve_right fun hun => ?_
      rw [hun move (by simp)] at hmove
      cases hmove
    have hroot := (step_eq_some_iff.mp hnext).2
    refine ih hrest ⟨fun c hc => hcalls c (.inr hc), ?_⟩
      (hroot.ensures (fun c hc => hcalls c (.inl hc)) haborts hs)
    exact hmeets.aborts.imp_right fun hun m hm => hun m (by simp [hm])

/-- A run with slots that cannot go on has a result, and the plan's condition holds of it. -/
theorem exists_result_of_ensures {slots : Nat} {plan : Plan} {s : State}
    {schedule : List (Path × Move)} (hslots : 1 ≤ slots) (hplan : plan.Ensures assumed post)
    (h : (start slots plan).follow schedule = some s)
    (hmeets : (start slots plan).Meets assumed schedule) (hfinal : s.IsFinal) :
    ∃ result, s.result? = some result ∧ post result := by
  obtain ⟨result, hresult⟩ := ((sound_start slots plan).follow h).exists_result hslots hfinal
  have hroot : s.root.Ensures assumed post := ensures_follow h hmeets hplan
  rw [hresult] at hroot
  exact ⟨result, result?_eq_some_iff.mpr hresult, hroot⟩

end State

end RecordCheck.Parallel
