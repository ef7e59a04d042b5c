import RecordCheck.Configuration.Source
import RecordCheck.Proofs.Value.Comparison

/-!
# Names that are not known

A mapping may hold settings under known names only.  The others are told in order if all of them are texts.  Names of
several kinds may have no order, and those that are no texts cannot be told even if they have one.
-/

set_option autoImplicit false

namespace RecordCheck.Configuration

open Attempt

/-- The names in a mapping that are not known. -/
def unknownKeys (keys : List Value) : List Value := keys.filter fun key => !isKnown key

/-- How a mapping with names that are not known is refused: by all of them. -/
def RefusesKeys (keys : List Value) (fault : Fault) : Prop :=
  ∃ sorted texts, sorted ≠ [] ∧ sorted.Perm (unknownKeys keys) ∧ sorted.map (·.text?) = texts.map some ∧
    fault = .configuration (.unknownKeys (", ".intercalate texts) sorted)

/-- Whether a mapping with names that are not known cannot be refused: one of them is no text. -/
def HindersKeys (keys : List Value) : Prop := ∃ key ∈ unknownKeys keys, key.text? = none

section

variable {keys values sorted : List Value} {v : Value} {texts : List String} {fault : Fault}

theorem perm_of_insertInOrder (h : insertInOrder v values = .ok sorted) : sorted.Perm (v :: values) := by
  induction values generalizing sorted with
  | nil =>
    cases h
    exact .refl _
  | cons w rest ih =>
    obtain ⟨isLess, -, h⟩ := bind_eq_ok_iff.mp h
    cases isLess with
    | true =>
      cases h
      exact .refl _
    | false =>
      obtain ⟨others, hothers, h⟩ := bind_eq_ok_iff.mp h
      cases h
      exact ((ih hothers).cons w).trans (.swap v w rest)

theorem failsOnly_insertInOrder (v : Value) (values : List Value) :
    FailsOnly Fault.IsOperation (insertInOrder v values) := by
  induction values with
  | nil => exact failsOnly_pure _
  | cons w rest ih =>
    exact .bind (Value.failsOnly_compareWith .less v w) fun _ =>
      .ite (failsOnly_pure _) (.bind ih fun _ => failsOnly_pure _)

/-- A text can be put in its place among texts. -/
theorem exists_insertInOrder {s : String} (hv : v.text? = some s) (htexts : ∀ w ∈ values, ∃ t, w.text? = some t) :
    ∃ sorted, insertInOrder v values = .ok sorted := by
  induction values with
  | nil => exact ⟨_, rfl⟩
  | cons w rest ih =>
    obtain ⟨⟨t, hw⟩, hrest⟩ := List.forall_mem_cons.mp htexts
    obtain ⟨others, hothers⟩ := ih hrest
    have hcompare : ∃ isLess, v.compareWith .less w = .ok isLess := by
      cases v with
      | text _ | textMember _ =>
        rw [Value.compareWith, hw]
        exact ⟨_, rfl⟩
      | _ => cases hv
    obtain ⟨isLess, hless⟩ := hcompare
    rw [insertInOrder, hless, ok_bind, hothers]
    cases isLess <;> exact ⟨_, rfl⟩

/-- Values are put in order among others, which keeps all of them. -/
theorem perm_of_foldlM {start : List Value}
    (h : values.foldlM (fun sorted v => insertInOrder v sorted) start = .ok sorted) : sorted.Perm (values ++ start) := by
  induction values generalizing start with
  | nil =>
    cases h
    exact .refl _
  | cons v rest ih =>
    rw [List.foldlM_cons] at h
    obtain ⟨inserted, hinserted, h⟩ := bind_eq_ok_iff.mp h
    exact (ih h).trans (((perm_of_insertInOrder hinserted).append_left rest).trans List.perm_middle)

theorem perm_of_inOrder (h : inOrder values = .ok sorted) : sorted.Perm values := by
  have := perm_of_foldlM h
  rwa [List.append_nil] at this

theorem failsOnly_inOrder (values : List Value) : FailsOnly Fault.IsOperation (inOrder values) := by
  unfold inOrder
  generalize ([] : List Value) = start
  induction values generalizing start with
  | nil => exact failsOnly_pure _
  | cons v rest ih =>
    rw [List.foldlM_cons]
    exact .bind (failsOnly_insertInOrder v start) ih

/-- Texts can be put in order. -/
theorem exists_inOrder (htexts : ∀ v ∈ values, ∃ s, v.text? = some s) : ∃ sorted, inOrder values = .ok sorted := by
  have hstart : ∀ w ∈ ([] : List Value), ∃ t, w.text? = some t := fun _ hw => absurd hw List.not_mem_nil
  unfold inOrder
  generalize ([] : List Value) = start at hstart
  induction values generalizing start with
  | nil => exact ⟨_, rfl⟩
  | cons v rest ih =>
    obtain ⟨⟨s, hs⟩, hrest⟩ := List.forall_mem_cons.mp htexts
    obtain ⟨inserted, hinserted⟩ := exists_insertInOrder hs hstart
    rw [List.foldlM_cons, hinserted, ok_bind]
    refine ih hrest inserted fun w hw => ?_
    rcases List.mem_cons.mp ((perm_of_insertInOrder hinserted).mem_iff.mp hw) with rfl | hmem
    · exact ⟨s, hs⟩
    · exact hstart w hmem

theorem joinTexts_eq_ok_iff {index : Nat} :
    joinTexts index values = .ok texts ↔ values.map (·.text?) = texts.map some := by
  induction values generalizing index texts with
  | nil => cases texts <;> simp [joinTexts]
  | cons v rest ih =>
    rw [joinTexts]
    cases hv : v.text? with
    | none => cases texts <;> simp [hv]
    | some s =>
      simp only [bind_eq_ok_iff, ih, pure_eq_ok_iff, List.map_cons, hv]
      cases texts <;> simp [and_comm]

theorem failsOnly_joinTexts (index : Nat) (values : List Value) :
    FailsOnly Fault.IsOperation (joinTexts index values) := by
  induction values generalizing index with
  | nil => exact failsOnly_pure _
  | cons v rest ih =>
    rw [joinTexts]
    split
    · exact .bind (ih (index + 1)) fun _ => failsOnly_pure _
    · exact failsOnly_refuse _

theorem exists_joinTexts (index : Nat) (htexts : ∀ v ∈ values, ∃ s, v.text? = some s) :
    ∃ texts, joinTexts index values = .ok texts := by
  induction values generalizing index with
  | nil => exact ⟨_, rfl⟩
  | cons v rest ih =>
    obtain ⟨⟨s, hs⟩, hrest⟩ := List.forall_mem_cons.mp htexts
    obtain ⟨texts, hjoined⟩ := ih (index + 1) hrest
    rw [joinTexts, hs]
    dsimp only
    rw [hjoined]
    exact ⟨_, rfl⟩

theorem unknownKeys_eq_nil_iff : unknownKeys keys = [] ↔ ∀ key ∈ keys, isKnown key = true := by
  simp [unknownKeys]

theorem checkKeys_of_known (h : ∀ key ∈ keys, isKnown key = true) : checkKeys keys = .ok () := by
  have hnil := unknownKeys_eq_nil_iff.mpr h
  rw [unknownKeys] at hnil
  rw [checkKeys, hnil]
  rfl

theorem checkKeys_of_unknown (h : unknownKeys keys ≠ []) :
    checkKeys keys = inOrder (unknownKeys keys) >>= fun sorted => joinTexts 0 sorted >>= fun texts =>
      throw (.configuration (.unknownKeys (", ".intercalate texts) sorted)) := by
  have hsome : (!(unknownKeys keys).isEmpty) = true := by simpa using h
  rw [checkKeys]
  exact if_pos hsome

/-- Names that are not known are refused if all of them are texts. -/
theorem exists_refusesKeys (h : unknownKeys keys ≠ []) (htexts : ¬HindersKeys keys) :
    ∃ fault, checkKeys keys = .error fault ∧ RefusesKeys keys fault := by
  have hunknown : ∀ key ∈ unknownKeys keys, ∃ s, key.text? = some s := fun key hkey =>
    Option.ne_none_iff_exists'.mp fun hnone => htexts ⟨key, hkey, hnone⟩
  obtain ⟨sorted, hsorted⟩ := exists_inOrder hunknown
  have hperm := perm_of_inOrder hsorted
  obtain ⟨texts, hjoined⟩ := exists_joinTexts 0 fun key hkey => hunknown key (hperm.mem_iff.mp hkey)
  rw [checkKeys_of_unknown h, hsorted, ok_bind, hjoined]
  refine ⟨_, rfl, sorted, texts, ?_, hperm, joinTexts_eq_ok_iff.mp hjoined, rfl⟩
  rintro rfl
  exact h hperm.symm.eq_nil

/-- Where one of the names that are not known is no text, they cannot be told. -/
theorem exists_error_of_hindersKeys (h : HindersKeys keys) :
    ∃ fault, checkKeys keys = .error fault ∧ fault.IsOperation := by
  obtain ⟨key, hkey, hnone⟩ := h
  rw [checkKeys_of_unknown (List.ne_nil_of_mem hkey)]
  cases hsorted : inOrder (unknownKeys keys) with
  | error fault => exact ⟨fault, rfl, failsOnly_inOrder _ fault hsorted⟩
  | ok sorted =>
    rw [ok_bind]
    cases hjoined : joinTexts 0 sorted with
    | error fault => exact ⟨fault, rfl, failsOnly_joinTexts 0 sorted fault hjoined⟩
    | ok texts =>
      have hmem : none ∈ sorted.map (·.text?) :=
        List.mem_map.mpr ⟨key, (perm_of_inOrder hsorted).mem_iff.mpr hkey, hnone⟩
      rw [joinTexts_eq_ok_iff.mp hjoined] at hmem
      simp at hmem

end

end RecordCheck.Configuration
