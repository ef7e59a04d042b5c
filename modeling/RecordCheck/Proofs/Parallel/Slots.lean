import Mathlib.Data.List.Nodup
import RecordCheck.Proofs.Parallel.Units

/-!
# Who has a slot

A slot is handed to a unit that stands in line, the unit enters it, and the unit gives it back.  The list
of tenants says who has a slot and what for; it is kept along a schedule by the moves alone.  At every
moment there are as many tenants as slots that are not free, no unit is a tenant twice, and the tenants
are those units that can be seen to have a slot: they are about to enter one, or validate something or
wait for their hook in it, or have been told to end before they gave it back.
-/

set_option autoImplicit false

namespace RecordCheck.Parallel

namespace Task

/-- Whether a unit has a slot: one was handed to it, or it is in one, or it was told to end before it gave
it back. -/
def hasSlot : Task → Bool
  | granted .. | holding .. => true
  | leaving holds => holds
  | _ => false

@[simp] theorem hasSlot_cancel (t : Task) : t.cancel.hasSlot = t.hasSlot := by
  cases t <;> rfl

/-- Whether a unit has a slot for a stay, or has not entered the slot if there is none. -/
def HasSlotFor : Option Stay → Task → Prop
  | none, granted .. | some _, holding .. | _, leaving true => True
  | _, _ => False

theorem HasSlotFor.hasSlot {stay : Option Stay} {t : Task} (h : t.HasSlotFor stay) :
    t.hasSlot = true := by
  cases t with
  | granted s next => rfl
  | holding pauses next => rfl
  | leaving holds => cases holds <;> cases stay <;> first | rfl | exact h.elim
  | _ => cases stay <;> exact h.elim

theorem HasSlotFor.cancel {stay : Option Stay} {t : Task} (h : t.HasSlotFor stay) :
    t.cancel.HasSlotFor stay := by
  cases t with
  | granted s next => cases stay <;> trivial
  | holding pauses next => cases stay <;> trivial
  | leaving holds => exact h
  | _ => cases stay <;> exact h.elim

theorem isEnded_of_hasSlot {t : Task} (h : t.hasSlot = true) : t.isEnded = false := by
  cases t <;> first | rfl | cases h

/-- A unit with parts has no slot. -/
theorem hasSlot_of_at?_cons {t p : Task} {i : Nat} {unit : Path} (h : t.at? (i :: unit) = some p) :
    t.hasSlot = false := by
  cases t <;> first | rfl | cases h

/-- Units around one that moves have no slots, before the move and after it. -/
theorem Steps.hasSlot_around {m : Move} {i : Nat} {path unit : Path} {t t' : Task}
    (h : Steps m (unit ++ i :: path) t t') :
    ∃ p p', t.at? unit = some p ∧ t'.at? unit = some p' ∧ p.hasSlot = false ∧ p'.hasSlot = false := by
  obtain ⟨p, p', hp, hp', hstep⟩ := h.within
  have hmoved : Steps m ([i] ++ path) p p' := hstep
  obtain ⟨q, q', hq, hq', -⟩ := hmoved.within
  exact ⟨p, p', hp, hp', hasSlot_of_at?_cons hq, hasSlot_of_at?_cons hq'⟩

/-- A unit is not around another one that moves if it has a slot before the move or after it. -/
theorem Steps.not_prefix_of_hasSlot {m : Move} {path unit : Path} {t t' p : Task} (h : Steps m path t t')
    (hunit : unit ≠ path) (hp : t.at? unit = some p ∨ t'.at? unit = some p) (hslot : p.hasSlot = true) :
    ¬ unit <+: path := by
  rintro ⟨rest, rfl⟩
  cases rest with
  | nil => exact hunit (List.append_nil unit).symm
  | cons i rest =>
    obtain ⟨q, q', hq, hq', hnone, hnone'⟩ := h.hasSlot_around
    rcases hp with hp | hp
    · rw [hp] at hq
      cases hq
      rw [hslot] at hnone
      cases hnone
    · rw [hp] at hq'
      cases hq'
      rw [hslot] at hnone'
      cases hnone'

/-- What a unit other than the one that moves has a slot for it still has it for after the move. -/
theorem Steps.hasSlotFor_after {m : Move} {path unit : Path} {t t' p : Task} {stay : Option Stay}
    (h : Steps m path t t') (hunit : unit ≠ path) (hp : t.at? unit = some p)
    (hslot : p.HasSlotFor stay) : ∃ p', t'.at? unit = some p' ∧ p'.HasSlotFor stay := by
  have hbeside := h.not_prefix_of_hasSlot hunit (.inl hp) hslot.hasSlot
  rcases h.at?_after hbeside hp with hsame | ⟨-, -, hcancel⟩ | hend
  · exact ⟨p, hsame, hslot⟩
  · exact ⟨p.cancel, hcancel, hslot.cancel⟩
  · rw [isEnded_of_hasSlot hslot.hasSlot] at hend
    cases hend

/-- A unit that has entered a slot is in it for the same stay until it gives it back. -/
theorem Steps.hasSlotFor_some_after {m : Move} {path unit : Path} {t t' p : Task} {stay : Stay}
    (h : Steps m path t t') (hkept : m ≠ .release ∨ unit ≠ path) (hp : t.at? unit = some p)
    (hslot : p.HasSlotFor (some stay)) : ∃ p', t'.at? unit = some p' ∧ p'.HasSlotFor (some stay) := by
  by_cases hunit : unit = path
  · subst hunit
    obtain ⟨q, q', hq, hq', hmove⟩ := h.itself
    rw [hp] at hq
    cases hq
    refine ⟨q', hq', ?_⟩
    cases hmove with
    | pass pause rest next => trivial
    | release next => exact absurd rfl (hkept.resolve_right (· rfl))
    | giveUp => exact absurd rfl (hkept.resolve_right (· rfl))
    | _ => exact hslot.elim
  · exact h.hasSlotFor_after hunit hp hslot

/-- A unit other than the one that moves had its slot before the move. -/
theorem Steps.hasSlot_before {m : Move} {path unit : Path} {t t' p' : Task} (h : Steps m path t t')
    (hunit : unit ≠ path) (hp' : t'.at? unit = some p') (hslot : p'.hasSlot = true) :
    ∃ p, t.at? unit = some p ∧ p.hasSlot = true := by
  have hbeside := h.not_prefix_of_hasSlot hunit (.inr hp') hslot
  cases h.comesFrom hbeside hp' with
  | kept hp => exact ⟨p', hp, hslot⟩
  | @cancelled unit p habort hp =>
    rw [hasSlot_cancel] at hslot
    exact ⟨p, hp, hslot⟩
  | started _ _ => cases hslot

/-- Whether a unit stands in line for a slot or waits for its parts. -/
def isWaiting : Task → Bool
  | queued .. | joining .. | unwinding .. | halting _ => true
  | _ => false

theorem hasSlot_of_isWaiting {t : Task} (h : t.isWaiting = true) : t.hasSlot = false := by
  cases t <;> first | rfl | cases h

/-- The stay for which the unit at a path is about to enter a slot. -/
def stayAt (t : Task) (path : Path) : Option Stay :=
  match t.at? path with
  | some (granted s _) => some s
  | _ => none

end Task

/-! ## Free slots -/

namespace Move

/-- A slot is handed over only if one is free. -/
theorem slotsAfter_grant_iff {free free' : Nat} :
    slotsAfter .grant free = some free' ↔ free = free' + 1 := by
  cases free <;> simp [slotsAfter]

@[simp] theorem slotsAfter_release (free : Nat) : slotsAfter .release free = some (free + 1) := by
  cases free <;> rfl

theorem slotsAfter_of_ne {m : Move} (hgrant : m ≠ .grant) (hrelease : m ≠ .release) (free : Nat) :
    m.slotsAfter free = some free := by
  cases m with
  | grant => exact absurd rfl hgrant
  | release => exact absurd rfl hrelease
  | _ => cases free <;> rfl

end Move

/-! ## Tenants -/

/-- The units that have a slot, each with the stay for which it has entered the slot, if it has. -/
abbrev Tenants := List (Path × Option Stay)

namespace Tenants

/-- The units among tenants. -/
def units (tenants : Tenants) : List Path := tenants.map (·.1)

/-- Tenants without a unit. -/
def without (tenants : Tenants) (unit : Path) : Tenants := tenants.filter fun x => x.1 != unit

/-- Tenants after a move of the unit at a path. -/
def after (tenants : Tenants) (root : Task) (path : Path) : Move → Tenants
  | .grant => (path, none) :: tenants
  | .enter => (path, root.stayAt path) :: tenants.without path
  | .release => tenants.without path
  | _ => tenants

/-- The number of tenants to which a slot was handed that they have not entered. -/
def arriving (tenants : Tenants) : Nat := tenants.countP fun x => x.2.isNone

/-- The number of tenants that validate something in their slot. -/
def validating (tenants : Tenants) : Nat := tenants.countP fun x => x.2.any (·.call.isNone)

/-- The number of tenants that wait for their hook in their slot. -/
def calling (tenants : Tenants) : Nat := tenants.countP fun x => x.2.any (·.call.isSome)

theorem mem_units_of_mem {tenants : Tenants} {x : Path × Option Stay} (h : x ∈ tenants) :
    x.1 ∈ tenants.units := List.mem_map_of_mem h

theorem mem_without_iff {tenants : Tenants} {unit : Path} {x : Path × Option Stay} :
    x ∈ tenants.without unit ↔ x ∈ tenants ∧ x.1 ≠ unit := by
  simp [without]

theorem units_without (tenants : Tenants) (unit : Path) :
    (tenants.without unit).units = tenants.units.filter (· != unit) := by
  simp only [units, without, List.filter_map]
  rfl

theorem nodup_without {tenants : Tenants} (h : tenants.units.Nodup) (unit : Path) :
    (tenants.without unit).units.Nodup := by
  rw [units_without]
  exact h.filter _

theorem without_of_not_mem {tenants : Tenants} {unit : Path} (h : unit ∉ tenants.units) :
    tenants.without unit = tenants := by
  refine List.filter_eq_self.mpr fun x hx => bne_iff_ne.mpr ?_
  rintro rfl
  exact h (mem_units_of_mem hx)

theorem mem_units_without_iff {tenants : Tenants} {unit other : Path} :
    other ∈ (tenants.without unit).units ↔ other ∈ tenants.units ∧ other ≠ unit := by
  simp [units_without]

/-- Taking a tenant away that is one just once makes one less. -/
theorem length_without {tenants : Tenants} {unit : Path} (hdistinct : tenants.units.Nodup)
    (h : unit ∈ tenants.units) : (tenants.without unit).length + 1 = tenants.length := by
  have hone : tenants.countP (fun x => x.1 == unit) = 1 := by
    have hcount : tenants.units.count unit = 1 := List.count_eq_one_of_mem hdistinct h
    rw [List.count, units, List.countP_map] at hcount
    exact hcount
  have hrest : (tenants.without unit).length = tenants.countP fun x => !(x.1 == unit) := by
    rw [List.countP_eq_length_filter]
    rfl
  have hall := List.length_eq_countP_add_countP (l := tenants) fun x => x.1 == unit
  simp only [decide_not, Bool.decide_eq_true] at hall
  omega

/-- Every tenant is on its way, validates something or waits for its hook. -/
theorem arriving_add_validating_add_calling (tenants : Tenants) :
    tenants.arriving + tenants.validating + tenants.calling = tenants.length := by
  induction tenants with
  | nil => rfl
  | cons x rest ih =>
    simp only [arriving, validating, calling, List.countP_cons, List.length_cons] at ih ⊢
    obtain ⟨unit, stay⟩ := x
    rcases stay with _ | ⟨_ | call, pauses⟩ <;> simp <;> omega

end Tenants

namespace State

/-- The tenants at the end of a schedule, given those at its beginning. -/
def tenantsAlong : State → Tenants → List (Path × Move) → Tenants
  | _, tenants, [] => tenants
  | s, tenants, move :: rest =>
    match s.step move.1 move.2 with
    | some next => next.tenantsAlong (tenants.after s.root move.1 move.2) rest
    | none => tenants

/-- Whether tenants are those who have the slots of a validation that are not free. -/
structure Accounts (slots : Nat) (s : State) (tenants : Tenants) : Prop where
  total : s.free + tenants.length = slots
  distinct : tenants.units.Nodup
  fits : ∀ x ∈ tenants, ∃ t, s.root.at? x.1 = some t ∧ t.HasSlotFor x.2
  complete : ∀ unit t, s.root.at? unit = some t → t.hasSlot = true → unit ∈ tenants.units

theorem accounts_start (slots : Nat) (plan : Plan) : (start slots plan).Accounts slots [] where
  total := rfl
  distinct := .nil
  fits := nofun
  complete unit t ht hslot := by
    cases unit with
    | nil =>
      cases ht
      cases hslot
    | cons i unit => cases ht

namespace Accounts

variable {slots : Nat} {s s' : State} {tenants : Tenants} {path : Path} {m : Move}

/-- A unit without a slot is no tenant. -/
theorem not_mem_units (hs : s.Accounts slots tenants) {unit : Path} {t : Task}
    (ht : s.root.at? unit = some t) (hslot : t.hasSlot = false) : unit ∉ tenants.units := by
  intro hmem
  obtain ⟨x, hx, rfl⟩ := List.mem_map.mp hmem
  obtain ⟨p, hp, hfits⟩ := hs.fits x hx
  rw [ht] at hp
  cases hp
  rw [hfits.hasSlot] at hslot
  cases hslot

/-- Other tenants than the unit that moves have their slots for what they had them for. -/
theorem fits_others (hs : s.Accounts slots tenants) (hroot : Task.Steps m path s.root s'.root) :
    ∀ x ∈ tenants.without path, ∃ t, s'.root.at? x.1 = some t ∧ t.HasSlotFor x.2 := by
  intro x hx
  obtain ⟨hmem, hother⟩ := Tenants.mem_without_iff.mp hx
  obtain ⟨p, hp, hfits⟩ := hs.fits x hmem
  exact hroot.hasSlotFor_after hother hp hfits

/-- Other units than the one that moves have slots only if they are tenants. -/
theorem complete_others (hs : s.Accounts slots tenants) (hroot : Task.Steps m path s.root s'.root)
    {unit : Path} {t : Task} (hunit : unit ≠ path) (ht : s'.root.at? unit = some t)
    (hslot : t.hasSlot = true) : unit ∈ (tenants.without path).units := by
  obtain ⟨p, hp, hslot'⟩ := hroot.hasSlot_before hunit ht hslot
  exact Tenants.mem_units_without_iff.mpr ⟨hs.complete unit p hp hslot', hunit⟩

/-- After a move by which the unit that moves has no slot any more, the others are the tenants. -/
theorem leaves (hs : s.Accounts slots tenants) (hroot : Task.Steps m path s.root s'.root)
    (hfree : s'.free + (tenants.without path).length = slots) {p' : Task}
    (hp' : s'.root.at? path = some p') (hnone : p'.hasSlot = false) :
    s'.Accounts slots (tenants.without path) where
  total := hfree
  distinct := Tenants.nodup_without hs.distinct path
  fits := hs.fits_others hroot
  complete unit t ht hslot := by
    refine hs.complete_others hroot ?_ ht hslot
    rintro rfl
    rw [hp'] at ht
    cases ht
    rw [hslot] at hnone
    cases hnone

/-- After a move by which the unit that moves has a slot for a stay, it is a tenant with the others. -/
theorem stays (hs : s.Accounts slots tenants) (hroot : Task.Steps m path s.root s'.root)
    {stay : Option Stay} (hfree : s'.free + ((tenants.without path).length + 1) = slots) {p' : Task}
    (hp' : s'.root.at? path = some p') (hslot : p'.HasSlotFor stay) :
    s'.Accounts slots ((path, stay) :: tenants.without path) where
  total := hfree
  distinct := by
    refine List.nodup_cons.mpr ⟨fun hmem => ?_, Tenants.nodup_without hs.distinct path⟩
    exact (Tenants.mem_units_without_iff.mp hmem).2 rfl
  fits := List.forall_mem_cons.mpr ⟨⟨p', hp', hslot⟩, hs.fits_others hroot⟩
  complete unit t ht htslot := by
    by_cases hunit : unit = path
    · exact List.mem_cons.mpr (.inl hunit)
    · exact List.mem_cons_of_mem _ (hs.complete_others hroot hunit ht htslot)

/-- The tenants are the same after a move by which the unit that moves keeps its slot, or has none. -/
theorem same (hs : s.Accounts slots tenants) (hroot : Task.Steps m path s.root s'.root)
    (hfree : m.slotsAfter s.free = some s'.free) (hgrant : m ≠ .grant) (hrelease : m ≠ .release)
    {p p' : Task} (hp : s.root.at? path = some p) (hp' : s'.root.at? path = some p')
    (hkept : ∀ stay, p.HasSlotFor stay → p'.HasSlotFor stay) (hback : p'.hasSlot = true → p.hasSlot = true) :
    s'.Accounts slots tenants where
  total := by
    rw [Move.slotsAfter_of_ne hgrant hrelease, Option.some.injEq] at hfree
    rw [← hfree, hs.total]
  distinct := hs.distinct
  fits x hx := by
    by_cases hunit : x.1 = path
    · obtain ⟨q, hq, hfits⟩ := hs.fits x hx
      rw [hunit, hp] at hq
      cases hq
      exact ⟨p', hunit ▸ hp', hkept _ hfits⟩
    · exact hs.fits_others hroot x (Tenants.mem_without_iff.mpr ⟨hx, hunit⟩)
  complete unit t ht hslot := by
    by_cases hunit : unit = path
    · subst hunit
      rw [hp'] at ht
      cases ht
      exact hs.complete unit p hp (hback hslot)
    · exact (Tenants.mem_units_without_iff.mp (hs.complete_others hroot hunit ht hslot)).1

/-- The tenants are the same after a move of a unit that has no slot before and after it. -/
theorem same_of_hasSlot (hs : s.Accounts slots tenants) (hroot : Task.Steps m path s.root s'.root)
    (hfree : m.slotsAfter s.free = some s'.free) (hgrant : m ≠ .grant) (hrelease : m ≠ .release)
    {p p' : Task} (hp : s.root.at? path = some p) (hp' : s'.root.at? path = some p')
    (hnone : p.hasSlot = false) (hnone' : p'.hasSlot = false) : s'.Accounts slots tenants := by
  refine hs.same hroot hfree hgrant hrelease hp hp' (fun stay hfits => ?_) fun hslot => ?_
  · rw [hfits.hasSlot] at hnone
    cases hnone
  · rw [hslot] at hnone'
    cases hnone'

/-- The tenants after a move are those who have slots then. -/
theorem step (hs : s.Accounts slots tenants) (h : s.step path m = some s') :
    s'.Accounts slots (tenants.after s.root path m) := by
  obtain ⟨hfree, hroot⟩ := step_eq_some_iff.mp h
  obtain ⟨p, p', hp, hp', hmove⟩ := hroot.itself
  have htotal := hs.total
  cases hmove with
  | grant stay next =>
    have hnone : path ∉ tenants.units := hs.not_mem_units hp rfl
    rw [Tenants.after, ← Tenants.without_of_not_mem hnone]
    refine hs.stays hroot ?_ hp' trivial
    rw [Move.slotsAfter_grant_iff] at hfree
    rw [Tenants.without_of_not_mem hnone]
    omega
  | enter stay next =>
    have hmem : path ∈ tenants.units := hs.complete path _ hp rfl
    have hlength := Tenants.length_without hs.distinct hmem
    have hstay : s.root.stayAt path = some stay := by rw [Task.stayAt, hp]
    rw [Tenants.after, hstay]
    refine hs.stays hroot ?_ hp' trivial
    rw [Move.slotsAfter_of_ne (m := .enter) nofun nofun, Option.some.injEq] at hfree
    omega
  | release next =>
    have hmem : path ∈ tenants.units := hs.complete path _ hp rfl
    have hlength := Tenants.length_without hs.distinct hmem
    refine hs.leaves hroot ?_ hp' rfl
    rw [Move.slotsAfter_release, Option.some.injEq] at hfree
    omega
  | giveUp =>
    have hmem : path ∈ tenants.units := hs.complete path _ hp rfl
    have hlength := Tenants.length_without hs.distinct hmem
    refine hs.leaves hroot ?_ hp' rfl
    rw [Move.slotsAfter_release, Option.some.injEq] at hfree
    omega
  | pass pause rest next =>
    refine hs.same hroot hfree nofun nofun hp hp' (fun stay hfits => ?_) fun _ => rfl
    cases stay with
    | none => exact hfits.elim
    | some stay => trivial
  | begin plan =>
    refine hs.same_of_hasSlot hroot hfree nofun nofun hp hp' rfl ?_
    cases plan <;> rfl
  | merge join recover hparts => exact hs.same_of_hasSlot hroot hfree nofun nofun hp hp' rfl rfl
  | abort join recover hfault => exact hs.same_of_hasSlot hroot hfree nofun nofun hp hp' rfl rfl
  | settle cause recover hparts => exact hs.same_of_hasSlot hroot hfree nofun nofun hp hp' rfl rfl
  | leave => exact hs.same_of_hasSlot hroot hfree nofun nofun hp hp' rfl rfl
  | halt hparts => exact hs.same_of_hasSlot hroot hfree nofun nofun hp hp' rfl rfl

/-- The tenants at the end of a schedule are those who have slots then. -/
theorem follow {schedule : List (Path × Move)} (hs : s.Accounts slots tenants)
    (h : s.follow schedule = some s') : s'.Accounts slots (s.tenantsAlong tenants schedule) := by
  induction schedule generalizing s tenants with
  | nil =>
    obtain rfl := State.follow_nil.mp h
    exact hs
  | cons move rest ih =>
    obtain ⟨next, hnext, hrest⟩ := follow_cons.mp h
    simp only [tenantsAlong, hnext]
    exact ih (hs.step hnext) hrest

end Accounts

end State

end RecordCheck.Parallel
