import RecordCheck.Proofs.Parallel.Determinacy
import RecordCheck.Proofs.Parallel.Slots

/-!
# Freedom from deadlock

A unit that has not ended is never stuck.  While a slot is free, the unit itself or one of its parts can
make a move.  When no slot is free, somebody is in each of them, and who is in a slot can go on without
another one, so that in the end the slot is given back.  Units compete for the slots with the units that
they are part of, but those hold none while they wait.

Hence one slot is enough, and from every moment on some order of moves leads to a result.
-/

set_option autoImplicit false

namespace RecordCheck.Parallel

namespace Task

/-- The units in a coherent unit are coherent. -/
theorem Coherent.of_at? {t p : Task} {unit : Path} (h : t.Coherent) (hp : t.at? unit = some p) :
    p.Coherent := by
  induction unit generalizing t with
  | nil =>
    cases hp
    exact h
  | cons i unit ih =>
    obtain ⟨q, hq, hbelow⟩ := Option.bind_eq_some_iff.mp hp
    have hmem := List.mem_of_getElem? hq
    refine ih ?_ hbelow
    cases t with
    | joining ps join recover => exact coherentIn_iff.mp h.1 q hmem
    | unwinding cause ps recover => exact coherentIn_iff.mp h q hmem
    | halting ps => exact coherentIn_iff.mp h q hmem
    | _ => cases hmem

/-- Who has a slot can make a move for which no other slot is needed. -/
theorem exists_steps_of_hasSlot {t : Task} (h : t.hasSlot = true) :
    ∃ m t', Steps m [] t t' ∧ m ≠ .grant := by
  cases t with
  | granted s next => exact ⟨_, _, .enter s next, nofun⟩
  | holding pauses next =>
    cases pauses with
    | nil => exact ⟨_, _, .release next, nofun⟩
    | cons pause rest => exact ⟨_, _, .pass pause rest next, nofun⟩
  | leaving holds =>
    cases holds with
    | false => cases h
    | true => exact ⟨_, _, .giveUp, nofun⟩
  | _ => cases h

end Task

namespace State

/-- What a unit inside a validation can do, slots left aside, can be done if there is a slot for it. -/
theorem exists_step_of_at? {s : State} {unit path : Path} {m : Move} {t t' : Task}
    (ht : s.root.at? unit = some t) (hstep : Task.Steps m path t t') (hm : m ≠ .grant ∨ 0 < s.free) :
    ∃ s', s.step (unit ++ path) m = some s' := by
  obtain ⟨root, hroot⟩ := Task.Steps.exists_around ht hstep
  obtain ⟨free, hfree⟩ := Move.exists_slotsAfter hm
  exact ⟨⟨free, root⟩, step_eq_some_iff.mpr ⟨hfree, hroot⟩⟩

/-- When all slots are taken, somebody has one. -/
theorem Accounts.exists_hasSlot {slots : Nat} {s : State} {tenants : Tenants}
    (hs : s.Accounts slots tenants) (hslots : 1 ≤ slots) (hfree : s.free = 0) :
    ∃ unit t, s.root.at? unit = some t ∧ t.hasSlot = true := by
  have htotal := hs.total
  have hpos : 0 < tenants.length := by omega
  obtain ⟨x, hx⟩ := List.exists_mem_of_length_pos hpos
  obtain ⟨t, ht, hfits⟩ := hs.fits x hx
  exact ⟨x.1, t, ht, hfits.hasSlot⟩

/-- From every sound state some moves lead to a result. -/
theorem Sound.exists_follow_result {slots : Nat} {s : State} (hs : s.Sound slots) (hslots : 1 ≤ slots) :
    ∃ rest s' result, s.follow rest = some s' ∧ s'.result? = some result := by
  induction s using wellFounded_lex_measure.induction with
  | h s ih =>
    cases hend : s.root.isEnded with
    | true =>
      obtain ⟨result, hresult⟩ := Task.exists_result_of_isEnded hend hs.live
      exact ⟨[], s, result, rfl, result?_eq_some_iff.mpr hresult⟩
    | false =>
      obtain ⟨path, m, next, hnext⟩ := hs.exists_step hslots hend
      obtain ⟨rest, s', result, hrest, hresult⟩ :=
        ih next (Moves.lex_measure ⟨path, m, hnext⟩) (hs.step hnext)
      exact ⟨(path, m) :: rest, s', result, follow_cons.mpr ⟨next, hnext, hrest⟩, hresult⟩

end State

/-- With at least one slot no unit of a validation is ever stuck before it has ended: it can make a move
itself, or one of its parts can, or else all slots are taken and somebody who has one can make a move for
which no other is needed.  From every moment on the validation can be brought to a result. -/
theorem exists_step_of_unit {registry : Custom.Registry} {standard : Value} {context : Context}
    {schema : Schema} {value : Value} {slots : Nat} {s : State} {schedule : List (Path × Move)}
    (hslots : 1 ≤ slots)
    (h : (State.start slots (planRecord registry standard context schema value)).follow schedule =
      some s) :
    (∀ unit t, s.root.at? unit = some t → t.isEnded = false →
      ∃ path m s', s.step path m = some s' ∧
        (unit <+: path ∨
          s.free = 0 ∧ m ≠ .grant ∧ ∃ holder, s.root.at? path = some holder ∧ holder.hasSlot = true)) ∧
    ∃ rest s' result, s.follow rest = some s' ∧ s'.result? = some result := by
  have hsound := (State.sound_start slots _).follow h
  have haccounts := (State.accounts_start slots _).follow h
  refine ⟨fun unit t ht hend => ?_, hsound.exists_follow_result hslots⟩
  by_cases hfree : s.free = 0
  · obtain ⟨path, holder, hholder, hslot⟩ := haccounts.exists_hasSlot hslots hfree
    obtain ⟨m, holder', hstep, hm⟩ := Task.exists_steps_of_hasSlot hslot
    obtain ⟨s', hs'⟩ := State.exists_step_of_at? hholder hstep (.inl hm)
    rw [List.append_nil] at hs'
    exact ⟨path, m, s', hs', .inr ⟨hfree, hm, holder, hholder, hslot⟩⟩
  · obtain ⟨m, path, t', hstep⟩ := Task.exists_steps (hsound.coherent.of_at? ht) hend
    obtain ⟨s', hs'⟩ := State.exists_step_of_at? ht hstep (.inr (Nat.pos_of_ne_zero hfree))
    exact ⟨unit ++ path, m, s', hs', .inl (List.prefix_append unit path)⟩

namespace Sample

/-- A list of texts, with a hook of its own and one for each text. -/
def checkedList : Rule :=
  .array ⟨.bool true, some (hook fun _ => .null), .null⟩ (some (checkedText fun _ => .null))
    ⟨.null, .null, .bool false, .null⟩

/-- A record of such a list. -/
def listSchema : Schema := ⟨[(.text "tags", checkedList)], []⟩

/-- A list of two texts. -/
def tags : Value := .dict [(.text "tags", .list [.text "a", .text "b"])]

/-- The moves by which the hook of the first text comes to be called.  The second text stands in line, and
the list and the record wait for both. -/
def inLine : List (Path × Move) :=
  ([], .begin) :: [Move.begin, .grant, .enter, .release, .begin].map ([0], ·) ++
    ([0, 1], .begin) ::
      [Move.begin, .grant, .enter, .release, .begin, .grant, .enter].map ([0, 0], ·)

end Sample

/-- With one slot, while one text of a list waits for its hook, the other one is not stuck in the line. -/
theorem exists_step_of_unit_sample :
    ∃ s t, (State.start 1 (planRecord (.empty "none") (.int 100) Sample.context Sample.listSchema
        Sample.tags)).follow Sample.inLine = some s ∧
      s.root.at? [0, 1] = some t ∧ t.isWaiting = true ∧ s.free = 0 ∧
      ∃ path m s', s.step path m = some s' ∧
        ([0, 1] <+: path ∨
          s.free = 0 ∧ m ≠ .grant ∧ ∃ holder, s.root.at? path = some holder ∧ holder.hasSlot = true) := by
  have hwaits : ((State.start 1 (planRecord (.empty "none") (.int 100) Sample.context Sample.listSchema
      Sample.tags)).follow Sample.inLine).any (fun s => s.free == 0 &&
        (s.root.at? [0, 1]).any fun t => t.isWaiting && !t.isEnded) = true := by decide +kernel
  obtain ⟨s, h, hs⟩ := (Option.any_eq_true _ _).mp hwaits
  rw [Bool.and_eq_true, beq_iff_eq] at hs
  obtain ⟨t, ht, hwaiting⟩ := (Option.any_eq_true _ _).mp hs.2
  rw [Bool.and_eq_true, Bool.not_eq_true'] at hwaiting
  obtain ⟨hsteps, -⟩ := exists_step_of_unit (Nat.le_refl 1) h
  exact ⟨s, t, h, ht, hwaiting.1, hs.1, hsteps [0, 1] t ht hwaiting.2⟩

end RecordCheck.Parallel
