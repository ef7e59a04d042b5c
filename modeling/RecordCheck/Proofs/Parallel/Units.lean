import RecordCheck.Proofs.Parallel.Conduct

/-!
# Units inside units

A move of a unit can be looked at from any unit around it.  Inside the unit that moves, or one that is a
part of it, the move is a step of that unit; everywhere else units stay what they are, unless they are
told to end, begin, or go with the unit whose parts they were.
-/

set_option autoImplicit false

namespace RecordCheck.Parallel

namespace Task

/-- The unit at a path in the unit at a path. -/
theorem at?_append (t : Task) (unit path : Path) :
    t.at? (unit ++ path) = (t.at? unit).bind (at? path) := by
  induction unit generalizing t with
  | nil => rfl
  | cons i unit ih =>
    simp only [List.cons_append, at?, Option.bind_assoc]
    exact congrArg _ (funext fun p => ih p)

/-- Telling a unit to end tells all units in it so. -/
theorem at?_cancel (t : Task) (unit : Path) : t.cancel.at? unit = (t.at? unit).map cancel := by
  induction unit generalizing t with
  | nil => rfl
  | cons i unit ih =>
    have hparts : t.cancel.parts = t.parts.map cancel := by
      cases t <;> simp [cancel, parts, cancelAll_eq_map]
    simp only [at?, hparts, List.getElem?_map]
    cases t.parts[i]? with
    | none => rfl
    | some p => exact ih p

/-- A member of a list stands behind as many others as its index says. -/
theorem exists_append_of_getElem? {α : Type} {l : List α} {i : Nat} {a : α} (h : l[i]? = some a) :
    ∃ before after, l = before ++ a :: after ∧ before.length = i := by
  obtain ⟨hi, rfl⟩ := List.getElem?_eq_some_iff.mp h
  refine ⟨l.take i, l.drop (i + 1), ?_, List.length_take_of_le (Nat.le_of_lt hi)⟩
  rw [← List.drop_eq_getElem_cons hi, List.take_append_drop]

/-- The units in a part that stands behind some others. -/
theorem at?_cons_of_parts {t p : Task} {before after : List Task} (h : t.parts = before ++ p :: after)
    (unit : Path) : t.at? (before.length :: unit) = p.at? unit := by
  simp [at?, h]

/-- When one part is changed, a unit elsewhere stays as it is, and one in that part is still in it. -/
theorem at?_of_part {t t' p p' : Task} {before after : List Task} {path unit : Path}
    (h : t.parts = before ++ p :: after) (h' : t'.parts = before ++ p' :: after)
    (hunit : ¬ unit <+: before.length :: path) :
    t'.at? unit = t.at? unit ∨
      ∃ rest, ¬ rest <+: path ∧ unit = before.length :: rest ∧ t.at? unit = p.at? rest ∧
        t'.at? unit = p'.at? rest := by
  cases unit with
  | nil => exact absurd List.nil_prefix hunit
  | cons i rest =>
    by_cases hi : i = before.length
    · subst hi
      right
      refine ⟨rest, fun hbelow => hunit (List.cons_prefix_cons.mpr ⟨rfl, hbelow⟩), rfl, ?_, ?_⟩
      · exact at?_cons_of_parts h rest
      · exact at?_cons_of_parts h' rest
    · left
      have hsame : (before ++ p' :: after)[i]? = (before ++ p :: after)[i]? := getElem?_of_ne hi
      simp only [at?, h, h', hsame]

/-- A unit that has ended has no parts. -/
theorem at?_cons_of_isEnded {t : Task} (h : t.isEnded = true) (i : Nat) (unit : Path) :
    t.at? (i :: unit) = none := by
  cases t <;> first | rfl | cases h

/-- A unit that has ended has only itself inside. -/
theorem isEnded_at? {t p : Task} {unit : Path} (h : t.isEnded = true) (hp : t.at? unit = some p) :
    p.isEnded = true := by
  cases unit with
  | nil =>
    cases hp
    exact h
  | cons i unit =>
    rw [at?_cons_of_isEnded h] at hp
    cases hp

/-- The units in parts that have all ended are these parts. -/
theorem isEnded_of_at? {parts : List Task} {i : Nat} {unit : Path} {p : Task}
    (h : parts.all isEnded = true) (hp : parts[i]?.bind (at? unit) = some p) : p.isEnded = true := by
  obtain ⟨q, hq, hunit⟩ := Option.bind_eq_some_iff.mp hp
  exact isEnded_at? (List.all_eq_true.mp h q (List.mem_of_getElem? hq)) hunit

/-! ## Steps seen from a unit -/

/-- A step inside a part of a unit changes that part alone. -/
theorem Steps.inside {m : Move} {i : Nat} {path : Path} {t t' : Task} (h : Steps m (i :: path) t t') :
    ∃ before p p' after, before.length = i ∧ t.parts = before ++ p :: after ∧
      t'.parts = before ++ p' :: after ∧ Steps m path p p' := by
  cases h with
  | inJoining before after join recover hpart => exact ⟨before, _, _, after, rfl, rfl, rfl, hpart⟩
  | inUnwinding cause before after recover hpart => exact ⟨before, _, _, after, rfl, rfl, rfl, hpart⟩
  | inHalting before after hpart => exact ⟨before, _, _, after, rfl, rfl, rfl, hpart⟩

/-- A step inside a unit is a step of that unit. -/
theorem Steps.within {m : Move} {unit path : Path} {t t' : Task} (h : Steps m (unit ++ path) t t') :
    ∃ p p', t.at? unit = some p ∧ t'.at? unit = some p' ∧ Steps m path p p' := by
  induction unit generalizing t t' with
  | nil => exact ⟨t, t', rfl, rfl, h⟩
  | cons i unit ih =>
    obtain ⟨before, q, q', after, rfl, hparts, hparts', hpart⟩ := h.inside
    obtain ⟨p, p', hp, hp', hstep⟩ := ih hpart
    exact ⟨p, p', (at?_cons_of_parts hparts _).trans hp, (at?_cons_of_parts hparts' _).trans hp', hstep⟩

/-- A step of the unit at a path is one that it makes itself. -/
theorem Steps.itself {m : Move} {unit : Path} {t t' : Task} (h : Steps m unit t t') :
    ∃ p p', t.at? unit = some p ∧ t'.at? unit = some p' ∧ Steps m [] p p' := by
  rw [← List.append_nil unit] at h
  exact h.within

/-- A step of a unit is a step inside the units around it. -/
theorem Steps.exists_around {m : Move} {unit path : Path} {t p p' : Task} (hp : t.at? unit = some p)
    (h : Steps m path p p') : ∃ t', Steps m (unit ++ path) t t' := by
  induction unit generalizing t with
  | nil =>
    cases hp
    exact ⟨p', h⟩
  | cons i unit ih =>
    obtain ⟨q, hq, hunit⟩ := Option.bind_eq_some_iff.mp hp
    obtain ⟨q', hstep⟩ := ih hunit
    obtain ⟨before, after, hparts, rfl⟩ := exists_append_of_getElem? hq
    cases t with
    | joining ps join recover =>
      obtain rfl : ps = _ := hparts
      exact ⟨_, .inJoining before after join recover hstep⟩
    | unwinding cause ps recover =>
      obtain rfl : ps = _ := hparts
      exact ⟨_, .inUnwinding cause before after recover hstep⟩
    | halting ps =>
      obtain rfl : ps = _ := hparts
      exact ⟨_, .inHalting before after hstep⟩
    | _ => simp [parts] at hparts

/-- What becomes of a unit when a move is made outside it: nothing, unless a unit around it is aborted and
it is told to end, or it has ended and goes with the unit that it is a part of. -/
theorem Steps.at?_after {m : Move} {path unit : Path} {t t' p : Task} (h : Steps m path t t')
    (hunit : ¬ unit <+: path) (hp : t.at? unit = some p) :
    t'.at? unit = some p ∨ (m.isAbort = true ∧ IsPart unit path ∧ t'.at? unit = some p.cancel) ∨
      p.isEnded = true := by
  induction path generalizing t t' unit with
  | nil =>
    obtain ⟨j, unit, rfl⟩ : ∃ j below, unit = j :: below :=
      List.exists_cons_of_ne_nil fun hnil => hunit (hnil ▸ List.nil_prefix)
    cases h with
    | @merge parts outcomes join recover hparts =>
      right; right
      have hend : parts.all isEnded = true := by
        rw [mapM_outcome?_eq_some_iff.mp hparts]
        simp [isEnded]
      exact isEnded_of_at? hend hp
    | @abort i parts cause join recover hfault =>
      right; left
      refine ⟨rfl, ⟨j, unit, rfl⟩, ?_⟩
      have hcancel := at?_cancel (.joining parts join recover) (j :: unit)
      rw [hp] at hcancel
      exact hcancel
    | settle cause recover hparts => exact .inr (.inr (isEnded_of_at? hparts hp))
    | halt hparts => exact .inr (.inr (isEnded_of_at? hparts hp))
    | _ => cases hp
  | cons i path ih =>
    obtain ⟨before, q, q', after, rfl, hparts, hparts', hpart⟩ := h.inside
    rcases at?_of_part hparts hparts' hunit with hsame | ⟨rest, hrest, rfl, hbefore, hafter⟩
    · exact .inl (hsame.trans hp)
    · rw [hafter, isPart_cons_iff]
      exact ih hpart hrest (hbefore.symm.trans hp)

/-- A unit that has not ended is still there after a move. -/
theorem Steps.exists_at? {m : Move} {path unit : Path} {t t' p : Task} (h : Steps m path t t')
    (hp : t.at? unit = some p) (hopen : p.isEnded = false) : ∃ p', t'.at? unit = some p' := by
  by_cases hunit : unit <+: path
  · obtain ⟨below, rfl⟩ := hunit
    obtain ⟨-, p', -, hp', -⟩ := h.within
    exact ⟨p', hp'⟩
  · rcases h.at?_after hunit hp with hsame | ⟨-, -, hcancel⟩ | hended
    · exact ⟨p, hsame⟩
    · exact ⟨p.cancel, hcancel⟩
    · rw [hopen] at hended
      cases hended

/-- As long as a unit has not ended and no unit around it is aborted, it goes on: it makes a step, or it is
left as it is. -/
theorem Steps.exists_next {m : Move} {path unit : Path} {t t' p : Task} (h : Steps m path t t')
    (hp : t.at? unit = some p) (hopen : p.isEnded = false)
    (hundisturbed : m.isAbort = true → ¬ IsPart unit path) :
    ∃ p', t'.at? unit = some p' ∧ (p' = p ∨ ∃ below, path = unit ++ below ∧ Steps m below p p') := by
  by_cases hunit : unit <+: path
  · obtain ⟨below, rfl⟩ := hunit
    obtain ⟨q, p', hq, hp', hstep⟩ := h.within
    rw [hp] at hq
    cases hq
    exact ⟨p', hp', .inr ⟨below, rfl, hstep⟩⟩
  · rcases h.at?_after hunit hp with hsame | ⟨habort, hpart, -⟩ | hended
    · exact ⟨p, hsame, .inl rfl⟩
    · exact absurd hpart (hundisturbed habort)
    · rw [hopen] at hended
      cases hended

/-- `ComesFrom m path t unit p`: in what comes from `t` by a move at a path, the unit may be `p`. -/
inductive ComesFrom (m : Move) (path : Path) (t : Task) : Path → Task → Prop
  /-- it was so before -/
  | kept {unit : Path} {p : Task} (before : t.at? unit = some p) : ComesFrom m path t unit p
  /-- it was told to end -/
  | cancelled {unit : Path} {p : Task} (aborted : m.isAbort = true) (before : t.at? unit = some p) :
      ComesFrom m path t unit p.cancel
  /-- it was started -/
  | started {i : Nat} {children : List Plan} {join : List Outcome → Work}
      {recover : Fault → Attempt Outcome} {child : Plan}
      (around : t.at? path = some (.ready (.fork children join recover)))
      (isChild : children[i]? = some child) : ComesFrom m path t (path ++ [i]) (.ready child)

/-- Where a unit in a part comes from, seen from the whole. -/
theorem ComesFrom.of_part {m : Move} {path unit : Path} {t q p : Task} {before after : List Task}
    (h : t.parts = before ++ q :: after) (hq : ComesFrom m path q unit p) :
    ComesFrom m (before.length :: path) t (before.length :: unit) p := by
  cases hq with
  | kept hp => exact .kept ((at?_cons_of_parts h unit).trans hp)
  | cancelled habort hp => exact .cancelled habort ((at?_cons_of_parts h unit).trans hp)
  | started hplan hchild => exact .started ((at?_cons_of_parts h path).trans hplan) hchild

/-- A unit outside which a move was made was there before, or has been started with it. -/
theorem Steps.comesFrom {m : Move} {path unit : Path} {t t' p' : Task} (h : Steps m path t t')
    (hunit : ¬ unit <+: path) (hp' : t'.at? unit = some p') : ComesFrom m path t unit p' := by
  induction path generalizing t t' unit with
  | nil =>
    obtain ⟨j, unit, rfl⟩ : ∃ j below, unit = j :: below :=
      List.exists_cons_of_ne_nil fun hnil => hunit (hnil ▸ List.nil_prefix)
    cases h with
    | begin plan =>
      cases plan with
      | fork children join recover =>
        obtain ⟨q, hq, hbelow⟩ := Option.bind_eq_some_iff.mp hp'
        have hq : (children.map ready)[j]? = some q := hq
        rw [List.getElem?_map] at hq
        obtain ⟨child, hchild, rfl⟩ := Option.map_eq_some_iff.mp hq
        cases unit with
        | nil =>
          cases hbelow
          have hplan : (ready (.fork children join recover)).at? [] =
            some (.ready (.fork children join recover)) := rfl
          exact .started hplan hchild
        | cons k unit => cases hbelow
      | _ => cases hp'
    | @abort i parts cause join recover hfault =>
      have hcancel : (cancel (.joining parts join recover)).at? (j :: unit) = some p' := hp'
      rw [at?_cancel] at hcancel
      obtain ⟨p, hp, rfl⟩ := Option.map_eq_some_iff.mp hcancel
      exact .cancelled rfl hp
    | _ => cases hp'
  | cons i path ih =>
    obtain ⟨before, q, q', after, rfl, hparts, hparts', hpart⟩ := h.inside
    rcases at?_of_part hparts hparts' hunit with hsame | ⟨rest, hrest, rfl, -, hafter⟩
    · exact .kept (hsame.symm.trans hp')
    · exact (ih hpart hrest (hafter.symm.trans hp')).of_part hparts

end Task

end RecordCheck.Parallel
