import Mathlib.Data.List.Forall2
import Mathlib.Data.List.Perm.Subperm
import RecordCheck.Fault

/-!
# Attempts that succeed

When an attempt made of several succeeds: every one of them does, in order.
-/

set_option autoImplicit false

namespace RecordCheck.Attempt

variable {α β : Type}

@[simp] theorem pure_eq_ok_iff {a b : α} : (pure a : Attempt α) = .ok b ↔ a = b := by
  simp [pure, Except.pure]

@[simp] theorem bind_eq_ok_iff {x : Attempt α} {f : α → Attempt β} {b : β} :
    x >>= f = .ok b ↔ ∃ a, x = .ok a ∧ f a = .ok b := by
  cases x <;> simp [bind, Except.bind]

@[simp] theorem map_eq_ok_iff {x : Attempt α} {f : α → β} {b : β} :
    f <$> x = .ok b ↔ ∃ a, x = .ok a ∧ f a = b := by
  cases x <;> simp [Functor.map, Except.map]

theorem ok_bind (a : α) (f : α → Attempt β) : ((.ok a : Attempt α) >>= f) = f a := rfl

/-- What goes on only if it is not stopped first succeeds just when it is not stopped and the rest does. -/
theorem ite_throw_bind_eq_ok_iff {p : Prop} [Decidable p] {fault : Fault} {f : α → Attempt β} {x : Attempt β}
    {b : β} : (if p then throw fault >>= f else x) = .ok b ↔ ¬p ∧ x = .ok b := by
  split <;> simp_all [throw, throwThe, MonadExceptOf.throw, bind, Except.bind]

@[simp] theorem refuse_ne_ok {cause : OperationFault} {a : α} : (refuse cause : Attempt α) ≠ .ok a :=
  nofun

/-- Something is done to every member of a list if it can be done to each. -/
theorem mapM_eq_ok_iff {f : α → Attempt β} {l : List α} {l' : List β} :
    l.mapM f = .ok l' ↔ List.Forall₂ (fun a b => f a = .ok b) l l' := by
  induction l generalizing l' with
  | nil => cases l' <;> simp
  | cons a rest ih =>
    rw [List.mapM_cons, bind_eq_ok_iff]
    cases l' with
    | nil => simp
    | cons b rest' => simp [ih]

/-- What can be done to whatever the members of a list stand for is done to all of them, in order. -/
theorem mapM_map_eq_ok {γ : Type} {key : γ → α} {f : α → Attempt β} {g : γ → β} {l : List γ}
    (h : ∀ c ∈ l, f (key c) = .ok (g c)) : (l.map key).mapM f = .ok (l.map g) := by
  rw [mapM_eq_ok_iff, List.forall₂_map_left_iff, List.forall₂_map_right_iff, List.forall₂_same]
  exact h

theorem bind_eq_error_iff {x : Attempt α} {f : α → Attempt β} {fault : Fault} :
    x >>= f = .error fault ↔ x = .error fault ∨ ∃ a, x = .ok a ∧ f a = .error fault := by
  cases x <;> simp [bind, Except.bind]

@[simp] theorem map_eq_error_iff {x : Attempt α} {f : α → β} {fault : Fault} :
    f <$> x = .error fault ↔ x = .error fault := by
  cases x <;> simp [Functor.map, Except.map]

@[simp] theorem pure_ne_error {a : α} {fault : Fault} : (pure a : Attempt α) ≠ .error fault := nofun

@[simp] theorem refuse_eq_error_iff {cause : OperationFault} {fault : Fault} :
    (refuse cause : Attempt α) = .error fault ↔ fault = .operation cause := by
  simp [refuse, throw, throwThe, MonadExceptOf.throw, eq_comm]

/-- Something fails to be done to every member of a list with the fault of the first one to which it cannot be
done. -/
theorem mapM_eq_error_iff {f : α → Attempt β} {l : List α} {fault : Fault} :
    l.mapM f = .error fault ↔
      ∃ before a after, l = before ++ a :: after ∧ (∀ b ∈ before, ∃ c, f b = .ok c) ∧ f a = .error fault := by
  induction l with
  | nil => simp
  | cons first rest ih =>
    rw [List.mapM_cons, bind_eq_error_iff]
    simp only [bind_eq_error_iff, pure_ne_error, and_false, exists_false, or_false, ih]
    constructor
    · rintro (hfirst | ⟨c, hfirst, before, a, after, rfl, hbefore, ha⟩)
      · exact ⟨[], first, rest, rfl, nofun, hfirst⟩
      · exact ⟨first :: before, a, after, rfl, List.forall_mem_cons.mpr ⟨⟨c, hfirst⟩, hbefore⟩, ha⟩
    · rintro ⟨_ | ⟨b, before⟩, a, after, hl, hbefore, ha⟩
      · cases hl
        exact .inl ha
      · cases hl
        obtain ⟨⟨c, hc⟩, hbefore⟩ := List.forall_mem_cons.mp hbefore
        exact .inr ⟨c, hc, before, a, after, rfl, hbefore, ha⟩

/-- A check, or else another one, fails just when both do. -/
theorem bind_ite_eq_false_iff {x y : Attempt Bool} :
    (x >>= fun answer => if answer then pure true else y) = .ok false ↔
      x = .ok false ∧ y = .ok false := by
  rw [bind_eq_ok_iff]
  constructor
  · rintro ⟨answer, hanswer, hrest⟩
    cases answer with
    | true => cases hrest
    | false => exact ⟨hanswer, hrest⟩
  · rintro ⟨hfirst, hrest⟩
    exact ⟨false, hfirst, hrest⟩

/-- A check, and then another one, succeeds just when both do. -/
theorem bind_ite_eq_true_iff {x y : Attempt Bool} :
    (x >>= fun answer => if !answer then pure false else y) = .ok true ↔
      x = .ok true ∧ y = .ok true := by
  rw [bind_eq_ok_iff]
  constructor
  · rintro ⟨answer, hanswer, hrest⟩
    cases answer with
    | false => cases hrest
    | true => exact ⟨hanswer, hrest⟩
  · rintro ⟨hfirst, hrest⟩
    exact ⟨true, hfirst, hrest⟩

/-- A check that goes on with another one only if it succeeds succeeds just when both do. -/
theorem bind_ite_pure_eq_true_iff {x y : Attempt Bool} :
    (x >>= fun answer => if answer then y else pure false) = .ok true ↔ x = .ok true ∧ y = .ok true := by
  rw [← bind_ite_eq_true_iff]
  cases x with
  | error fault => rfl
  | ok answer => cases answer <;> rfl

/-- No member of a list passes a check just when each of them fails it. -/
theorem anyM_eq_false_iff {check : α → Attempt Bool} {l : List α} :
    l.anyM check = .ok false ↔ ∀ a ∈ l, check a = .ok false := by
  induction l with
  | nil => simp [List.anyM]
  | cons a rest ih =>
    have hstep : (a :: rest).anyM check =
        check a >>= fun answer => if answer then pure true else rest.anyM check := by
      rw [List.anyM]
      congr 1
      funext answer
      cases answer <;> rfl
    rw [hstep, bind_ite_eq_false_iff, ih, List.forall_mem_cons]

/-! ## What attempts yield -/

variable {P : α → Prop} {Q : β → Prop}

/-- Whether whatever a computation yields satisfies a condition. -/
def YieldsOnly (P : α → Prop) (x : Attempt α) : Prop := ∀ a, x = .ok a → P a

theorem yieldsOnly_pure {a : α} (h : P a) : YieldsOnly P (pure a) := by
  rintro _ ⟨⟩
  exact h

theorem yieldsOnly_error (fault : Fault) : YieldsOnly P (.error fault) := nofun

theorem YieldsOnly.imp {P' : α → Prop} {x : Attempt α} (h : YieldsOnly P x) (hP : ∀ a, P a → P' a) :
    YieldsOnly P' x := fun a ha => hP a (h a ha)

theorem yieldsOnly_bind {x : Attempt α} {f : α → Attempt β} (h : ∀ a, x = .ok a → YieldsOnly Q (f a)) :
    YieldsOnly Q (x >>= f) := by
  intro b hb
  obtain ⟨a, ha, hfa⟩ := bind_eq_ok_iff.mp hb
  exact h a ha b hfa

/-! ## Lists that correspond -/

variable {R : α → β → Prop}

/-- If everything in a list has a counterpart, then so has the list. -/
theorem exists_forall₂ {l : List α} (h : ∀ a ∈ l, ∃ b, R a b) : ∃ l', List.Forall₂ R l l' := by
  induction l with
  | nil => exact ⟨[], .nil⟩
  | cons a rest ih =>
    obtain ⟨⟨b, hb⟩, hrest⟩ := List.forall_mem_cons.mp h
    obtain ⟨rest', hrest'⟩ := ih hrest
    exact ⟨b :: rest', .cons hb hrest'⟩

/-- If what is in two corresponding lists has a third counterpart, then so have the lists. -/
theorem exists_forall₂_of_forall₂ {γ : Type} {S : α → γ → Prop} {T : β → γ → Prop} {l : List α} {l' : List β}
    (h : List.Forall₂ R l l') (hthird : ∀ a ∈ l, ∀ b ∈ l', R a b → ∃ c, S a c ∧ T b c) :
    ∃ l'', List.Forall₂ S l l'' ∧ List.Forall₂ T l' l'' := by
  induction h with
  | nil => exact ⟨[], .nil, .nil⟩
  | cons hfirst _ ih =>
    obtain ⟨c, hs, ht⟩ := hthird _ List.mem_cons_self _ List.mem_cons_self hfirst
    obtain ⟨rest, hss, hts⟩ :=
      ih fun a ha b hb => hthird a (List.mem_cons_of_mem _ ha) b (List.mem_cons_of_mem _ hb)
    exact ⟨c :: rest, .cons hs hss, .cons ht hts⟩

/-- Lists correspond in one way just when they do in another that is the same for what is in them. -/
theorem forall₂_congr_of_mem {S : α → β → Prop} {l : List α} {l' : List β}
    (h : ∀ a ∈ l, ∀ b ∈ l', R a b ↔ S a b) : List.Forall₂ R l l' ↔ List.Forall₂ S l l' := by
  induction l generalizing l' with
  | nil => cases l' <;> simp
  | cons a rest ih =>
    cases l' with
    | nil => simp
    | cons b rest' =>
      rw [List.forall₂_cons, List.forall₂_cons, h a List.mem_cons_self b List.mem_cons_self,
        ih fun a ha b hb => h a (List.mem_cons_of_mem _ ha) b (List.mem_cons_of_mem _ hb)]

/-- Lists that correspond to the same one correspond to each other. -/
theorem forall₂_trans {γ : Type} {S : β → γ → Prop} {T : α → γ → Prop} {l : List α} {l' : List β} {l'' : List γ}
    (h : List.Forall₂ R l l') (h' : List.Forall₂ S l' l'') (htrans : ∀ a ∈ l, ∀ b c, R a b → S b c → T a c) :
    List.Forall₂ T l l'' := by
  induction h generalizing l'' with
  | nil =>
    cases h'
    exact .nil
  | cons hfirst _ ih =>
    cases h' with
    | cons hfirst' hrest' =>
      exact .cons (htrans _ List.mem_cons_self _ _ hfirst hfirst')
        (ih hrest' fun a ha => htrans a (List.mem_cons_of_mem _ ha))

/-- What is in a list has its counterpart in the list that corresponds to it. -/
theorem exists_mem_of_forall₂ {l : List α} {l' : List β} (h : List.Forall₂ R l l') {a : α}
    (ha : a ∈ l) : ∃ b ∈ l', R a b := by
  induction h with
  | nil => cases ha
  | cons hfirst _ ih =>
    rcases List.mem_cons.mp ha with rfl | hrest
    · exact ⟨_, List.mem_cons_self, hfirst⟩
    · obtain ⟨b, hb, hab⟩ := ih hrest
      exact ⟨b, List.mem_cons_of_mem _ hb, hab⟩

/-- What is in a list that corresponds to another has its counterpart there. -/
theorem exists_mem_of_forall₂' {l : List α} {l' : List β} (h : List.Forall₂ R l l') {b : β}
    (hb : b ∈ l') : ∃ a ∈ l, R a b := exists_mem_of_forall₂ h.flip hb

/-- What holds between any two in a list holds between any two in one that corresponds to it. -/
theorem pairwise_of_forall₂ {S : α → α → Prop} {T : β → β → Prop} {l : List α} {l' : List β}
    (h : List.Forall₂ R l l') (hl : l.Pairwise S)
    (hcounterparts : ∀ a b a' b', S a a' → R a b → R a' b' → T b b') : l'.Pairwise T := by
  induction h with
  | nil => exact .nil
  | cons hfirst hrest ih =>
    obtain ⟨hall, hothers⟩ := List.pairwise_cons.mp hl
    refine List.pairwise_cons.mpr ⟨fun b' hb' => ?_, ih hothers⟩
    obtain ⟨a', ha', hcounterpart⟩ := exists_mem_of_forall₂' hrest hb'
    exact hcounterparts _ _ _ _ (hall a' ha') hfirst hcounterpart

/-- If everything in a list has a counterpart in one of the same length, and no two have the same, then that list
can be brought into an order in which it corresponds to the first. -/
theorem exists_perm_of_counterparts {l : List α} {l' : List β} (hlength : l.length = l'.length)
    (h : ∀ a ∈ l, ∃ b, b ∈ l' ∧ R a b) (hdistinct : l.Pairwise fun a a' => ∀ b, R a b → ¬ R a' b) :
    ∃ order, order.Perm l' ∧ List.Forall₂ R l order := by
  obtain ⟨order, horder⟩ := exists_forall₂ h
  have hcorrespond : List.Forall₂ R l order := horder.imp fun _ _ => And.right
  have hnodup : order.Nodup := pairwise_of_forall₂ hcorrespond hdistinct fun a b a' b' hshare hb hb' heq =>
    hshare b hb (heq ▸ hb')
  have hsubset : order ⊆ l' := fun b hb => by
    obtain ⟨a, -, hmem, -⟩ := exists_mem_of_forall₂' horder hb
    exact hmem
  refine ⟨order, ?_, hcorrespond⟩
  exact (List.subperm_of_subset hnodup hsubset).perm_of_length_le
    (Nat.le_of_eq (hlength.symm.trans hcorrespond.length_eq))

/-- What is in a list has its counterpart in the same place. -/
theorem getElem?_of_forall₂ {l : List α} {l' : List β} (h : List.Forall₂ R l l') {i : Nat} {a : α}
    (ha : l[i]? = some a) : ∃ b, l'[i]? = some b ∧ R a b := by
  induction h generalizing i with
  | nil => cases ha
  | cons hfirst _ ih =>
    cases i with
    | zero =>
      cases ha
      exact ⟨_, rfl, hfirst⟩
    | succ i => exact ih ha

/-- What is in a list that corresponds to another has its counterpart in the same place there. -/
theorem getElem?_of_forall₂' {l : List α} {l' : List β} (h : List.Forall₂ R l l') {i : Nat} {b : β}
    (hb : l'[i]? = some b) : ∃ a, l[i]? = some a ∧ R a b := getElem?_of_forall₂ h.flip hb

/-- Lists whose members are mapped to the same, each to that of its counterpart, are mapped to the same. -/
theorem map_eq_map_of_forall₂ {γ : Type} {f : α → γ} {g : β → γ} {l : List α} {l' : List β}
    (h : List.Forall₂ (fun a b => f a = g b) l l') : l.map f = l'.map g := by
  rw [← List.forall₂_eq_eq_eq, List.forall₂_map_left_iff, List.forall₂_map_right_iff]
  exact h

/-- A list that corresponds to another is the same if what is in it corresponds only to itself. -/
theorem eq_of_forall₂ {R : α → α → Prop} {l l' : List α} (h : List.Forall₂ R l l')
    (hsame : ∀ a ∈ l, ∀ b, R a b → b = a) : l' = l := by
  induction h with
  | nil => rfl
  | cons hfirst _ ih =>
    obtain ⟨hhead, hrest⟩ := List.forall_mem_cons.mp hsame
    rw [hhead _ hfirst, ih hrest]

end RecordCheck.Attempt
