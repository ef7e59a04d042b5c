import RecordCheck.Configuration.Basic
import RecordCheck.Proofs.Configuration.Settings
import RecordCheck.Proofs.Rule.Building

/-!
# Configurations with settings overridden

A call may override settings: of each setting the last override that is not null counts.  The settings that come of
it are checked as any others are.  All of this is done to a copy, so that a configuration stays as it was even where
its copy turns out to be none.
-/

set_option autoImplicit false

namespace RecordCheck.Configuration

open Attempt

/-! ## Overrides -/

/-- Overrides that are values. -/
def overridesOf (given : List (String × Value)) : Overrides := given.map fun e => (e.1, Argument.ofValue e.2)

/-- The last override of a setting that is not null, or else the setting as it was. -/
def latest (overrides : List (String × Value)) (name : String) (old : Value) : Value :=
  ((overrides.findRev? fun e => e.1 == name && !e.2.isNull).map (·.2)).getD old

/-- Settings with those replaced that are overridden. -/
def overridden (old : GivenSettings) (overrides : List (String × Value)) : GivenSettings where
  convert := latest overrides "convert" old.convert
  timeout := latest overrides "timeout" old.timeout
  maxConcurrency := latest overrides "max_concurrency" old.maxConcurrency

/-- One step of overriding: a setting is replaced if the override is not null. -/
def override (c : Configuration) (e : String × Argument) : Attempt Configuration :=
  if e.2.isNull then pure c else c.set e.1 e.2

section

variable {c : Configuration} {name : String} {v : Value} {overrides : List (String × Value)}

theorem isNull_ofValue (v : Value) : (Argument.ofValue v).isNull = v.isNull := by cases v <;> rfl

theorem set_of_mem (c : Configuration) (hname : name ∈ Settings.names) (v : Value) :
    c.set name (.ofValue v) = .ok { c with settings := c.settings.set name v } := by
  have hneeded := Argument.needValue_ofValue v
  simp only [Settings.names, List.mem_cons, List.not_mem_nil, or_false] at hname
  rcases hname with rfl | rfl | rfl <;> simp [set, Settings.names, hneeded]

theorem latest_cons (e : String × Value) (overrides : List (String × Value)) (name : String) (old : Value) :
    latest (e :: overrides) name old =
      latest overrides name (if e.1 == name && !e.2.isNull then e.2 else old) := by
  unfold latest
  rw [List.findRev?]
  split
  · rename_i hlater
    rw [hlater]
    rfl
  · rename_i hlater
    rw [hlater]
    split <;> rfl

theorem overridden_cons (hname : name ∈ Settings.names) (old : GivenSettings) (v : Value)
    (overrides : List (String × Value)) :
    overridden old ((name, v) :: overrides) = overridden (if v.isNull then old else old.set name v) overrides := by
  simp only [overridden, latest_cons]
  simp only [Settings.names, List.mem_cons, List.not_mem_nil, or_false] at hname
  rcases hname with rfl | rfl | rfl <;> cases v.isNull <;> rfl

/-- What overriding some settings, one after the other, makes of a configuration. -/
theorem foldlM_override (hnames : ∀ e ∈ overrides, e.1 ∈ Settings.names) (c : Configuration) :
    (overridesOf overrides).foldlM override c = .ok { c with settings := overridden c.settings overrides } := by
  induction overrides generalizing c with
  | nil => rfl
  | cons e rest ih =>
    obtain ⟨hname, hrest⟩ := List.forall_mem_cons.mp hnames
    have hstep : override c (e.1, .ofValue e.2) =
        .ok { c with settings := if e.2.isNull then c.settings else c.settings.set e.1 e.2 } := by
      rw [override, isNull_ofValue, set_of_mem c hname]
      cases e.2.isNull <;> rfl
    rw [overridesOf, List.map_cons, List.foldlM_cons, hstep, ok_bind, ← overridesOf, ih hrest,
      overridden_cons hname]

theorem withOverrides_eq (hnames : ∀ e ∈ overrides, e.1 ∈ Settings.names) (c : Configuration) :
    c.withOverrides (overridesOf overrides) =
      Settings.check (overridden c.settings overrides) >>= fun s => pure { c with settings := s.toGiven } := by
  have hfold := foldlM_override hnames c
  rw [withOverrides]
  exact (congrArg (· >>= check) hfold).trans rfl

end

/-! ## Copies -/

/-- Configurations, each at its place. -/
abbrev Store := List Configuration

/-- Replace the configuration at a place. -/
def changeAt (place : Nat) (f : Configuration → Attempt Configuration) : EStateM Fault Store Unit := do
  match (← get)[place]? with
  | some c =>
    let changed ← liftExcept (f c)
    modify (·.set place changed)
  | none => pure ()

/-- Copy a configuration to a new place, and override the settings of the copy there, one after the other. -/
def overriding (c : Configuration) (overrides : Overrides) : EStateM Fault Store Nat := do
  let place := (← get).length
  modify (· ++ [c])
  overrides.forM fun e => changeAt place (override · e)
  changeAt place check
  return place

/-- Whether what was done to a copy, which comes after all other configurations, left those as they were, and did to
the copy what is computed. -/
inductive Copies {α : Type} (store : Store) (a : α) : Attempt Configuration → EStateM.Result Fault Store α → Prop
  | made (copy : Configuration) : Copies store a (.ok copy) (.ok a (store ++ [copy]))
  | failed (fault : Fault) (copy : Configuration) : Copies store a (.error fault) (.error fault (store ++ [copy]))

section

variable {α : Type} {store : Store} {c : Configuration} {x : Attempt Configuration}

theorem copies_changeAt (store : Store) (c : Configuration) (f : Configuration → Attempt Configuration) :
    Copies store () (f c) ((changeAt store.length f).run (store ++ [c])) := by
  have hget : (store ++ [c])[store.length]? = some c := by simp
  have hset (changed : Configuration) : (store ++ [c]).set store.length changed = store ++ [changed] := by simp
  unfold changeAt
  rw [EStateM.run_bind, EStateM.run_get]
  dsimp only
  rw [hget]
  dsimp only
  cases f c with
  | error fault => exact .failed fault c
  | ok changed =>
    have hmade : Copies store () (.ok changed) (.ok () (store ++ [changed])) := .made changed
    rw [← hset changed] at hmade
    exact hmade

theorem Copies.bind {b : α} {f : Configuration → Attempt Configuration} {m : EStateM Fault Store Unit}
    {k : Unit → EStateM Fault Store α} (hm : Copies store () x (m.run (store ++ [c])))
    (hk : ∀ copy, Copies store b (f copy) ((k ()).run (store ++ [copy]))) :
    Copies store b (x >>= f) ((m >>= k).run (store ++ [c])) := by
  rw [EStateM.run_bind]
  generalize m.run (store ++ [c]) = run at hm
  cases hm with
  | made copy => exact hk copy
  | failed fault copy => exact .failed fault copy

theorem copies_forM (store : Store) (c : Configuration) (overrides : Overrides) :
    Copies store () (overrides.foldlM override c)
      ((overrides.forM fun e => changeAt store.length (override · e)).run (store ++ [c])) := by
  induction overrides generalizing c with
  | nil => exact .made c
  | cons e rest ih =>
    rw [List.foldlM_cons]
    exact (copies_changeAt store c (override · e)).bind ih

/-- Overriding settings changes the copy only. -/
theorem copies_overriding (store : Store) (c : Configuration) (overrides : Overrides) :
    Copies store store.length (c.withOverrides overrides) ((overriding c overrides).run store) := by
  have hchecked (copy : Configuration) : Copies store store.length copy.check
      ((do changeAt store.length check; return store.length : EStateM Fault Store Nat).run (store ++ [copy])) := by
    have hdone := (copies_changeAt store copy check).bind (b := store.length) (f := pure)
      (k := fun _ => pure store.length) .made
    rwa [bind_pure] at hdone
  exact (copies_forM store c overrides).bind hchecked

end

end RecordCheck.Configuration
