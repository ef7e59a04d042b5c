import RecordCheck.Proofs.Idempotence

/-!
# Arrays of distinct items

Where an array asks for distinct items, they are compared as they are given, before any of them is
validated itself.  Items that validation leaves as they are remain distinct, and an array all of whose
items it leaves so passes again.  Items that it changes may become the same.
-/

set_option autoImplicit false

namespace RecordCheck

open Coercion

/-! ## Items compared -/

theorem hasDuplicatesAfter_eq_false_iff {seen items : List Value} :
    hasDuplicatesAfter seen items = .ok false ↔
      (∀ item ∈ items, ∀ s ∈ seen, sameItem item s = .ok false) ∧
        items.Pairwise fun earlier later => sameItem later earlier = .ok false := by
  induction items generalizing seen with
  | nil => simp [hasDuplicatesAfter]
  | cons item rest ih =>
    have hstep : hasDuplicatesAfter seen (item :: rest) = .ok false ↔
        (∀ s ∈ seen, sameItem item s = .ok false) ∧
          hasDuplicatesAfter (seen ++ [item]) rest = .ok false := by
      rw [← Attempt.anyM_eq_false_iff]
      exact Attempt.bind_ite_eq_false_iff
    rw [hstep, ih, List.pairwise_cons, List.forall_mem_cons]
    simp only [List.mem_append, List.mem_singleton, or_imp, forall_and, forall_eq]
    tauto

/-- Items have no duplicates just when no later one is the same as an earlier one. -/
theorem hasDuplicates_eq_false_iff {items : List Value} :
    hasDuplicates items = .ok false ↔
      items.Pairwise fun earlier later => sameItem later earlier = .ok false := by
  simp [hasDuplicates, hasDuplicatesAfter_eq_false_iff]

/-- Where distinct items are asked for, there are none that occur twice. -/
theorem hasDuplicates_of_uniqueEntry {unique : Value} {items : List Value}
    (hunique : unique.isTruthy = true) (h : uniqueEntry unique items = .ok []) :
    hasDuplicates items = .ok false := by
  rw [uniqueEntry, hunique] at h
  obtain ⟨answer, hanswer, h⟩ := Attempt.bind_eq_ok_iff.mp h
  cases answer with
  | true =>
    obtain ⟨entry, -, h⟩ := Attempt.bind_eq_ok_iff.mp h
    cases h
  | false => exact hanswer

/-! ## Items validated -/

variable {registry : Custom.Registry} {context : Context}

namespace Rule

variable {common : Common} {element : Option Rule} {checks : ArrayChecks} {value : Value}

/-- An array is validated like the list that it is confirmed to be. -/
theorem validate_array_congr {other : Value} (hvalue : value.isBlank = false)
    (hother : other.isBlank = false)
    (h : coerceArray checks context.convert value = coerceArray checks context.convert other) :
    (array common element checks).validate registry context true value =
      (array common element checks).validate registry context true other := by
  cases element <;> simp [validate, coerce, hvalue, hother, h]

/-- An array that is accepted was confirmed as a list, and comes out as one of the same length. -/
theorem exists_items_of_validate_array {accepted notes : Value} (hvalue : value.isBlank = false)
    (h : (array common element checks).validate registry context true value =
      .ok (.accepted accepted notes)) :
    ∃ items elements itemNotes,
      coerceArray checks context.convert value = .ok (.accepted (.list items) itemNotes) ∧
        accepted = .list elements ∧ items.length = elements.length := by
  cases element with
  | none =>
    rw [validate_array_none_iff hvalue] at h
    obtain ⟨items, rfl, -⟩ := coerceArray_spec h
    exact ⟨items, items, notes, h, rfl, rfl⟩
  | some r =>
    obtain ⟨items, elements, hensure, -, -, helements, rfl⟩ :=
      exists_elements_of_validate_array hvalue h
    simp only [validate, hvalue, Bool.and_false] at h
    obtain ⟨confirmed, hconfirmed, h⟩ := Attempt.bind_eq_ok_iff.mp h
    cases confirmed with
    | rejected other errors => cases h
    | accepted other otherNotes =>
      obtain ⟨same, rfl, hsame, -⟩ := coerceArray_spec hconfirmed
      rw [hsame] at hensure
      cases hensure
      exact ⟨items, elements, otherNotes, hconfirmed, rfl, helements.length_eq⟩

/-- In an array that asks for distinct items, the items given are distinct.  In the list that comes of it,
so are those items that were left as they were given; if all were, then the list is accepted in turn. -/
theorem distinct_of_validate_array {notes : Value} {elements : List Value}
    (hunique : checks.unique.isTruthy = true)
    (h : (array common element checks).validate registry context true value =
      .ok (.accepted (.list elements) notes)) :
    ∃ items, ensureArray checks.delimiter context.convert value = .ok (.accept (.list items)) ∧
      items.length = elements.length ∧ hasDuplicates items = .ok false ∧
      ((items.zip elements).Pairwise fun earlier later => earlier.2 = earlier.1 → later.2 = later.1 →
        sameItem later.2 earlier.2 = .ok false) ∧
      (elements = items → hasDuplicates elements = .ok false ∧
        (array common element checks).validate registry context true (.list elements) =
          .ok (.accepted (.list elements) notes)) := by
  have hvalue : value.isBlank = false := by
    cases hblank : value.isBlank with
    | false => rfl
    | true =>
      rw [validate_of_isBlank hblank rfl] at h
      obtain ⟨rfl, -⟩ := unchecked_eq_accepted_iff.mp h
      cases hblank
  obtain ⟨items, others, itemNotes, hcoerce, hothers, hlength⟩ := exists_items_of_validate_array hvalue h
  obtain rfl := Value.list.inj hothers
  obtain ⟨_, hitems, hensure, -, hdistinct⟩ := coerceArray_spec hcoerce
  obtain rfl := Value.list.inj hitems
  have hnone := hasDuplicates_of_uniqueEntry hunique hdistinct
  refine ⟨items, hensure, hlength, hnone, ?_, ?_⟩
  · have hpairs := hasDuplicates_eq_false_iff.mp hnone
    rw [← List.map_fst_zip (Nat.le_of_eq hlength), List.pairwise_map] at hpairs
    exact hpairs.imp fun hfirst hearlier hlater => by rw [hearlier, hlater]; exact hfirst
  · rintro rfl
    refine ⟨hnone, ?_⟩
    rw [← h]
    refine validate_array_congr rfl hvalue ?_
    rw [coerceArray, coerceArray, hensure]
    rfl

end Rule

namespace Sample

/-- A rule for arrays of distinct texts. -/
def distinctTexts : Rule := .array plain (some shortText) ⟨.null, .null, .bool true, .text ","⟩

end Sample

open Sample in
/-- Two texts that are left as they are pass again. -/
theorem Rule.distinct_of_validate_array_sample :
    distinctTexts.validate (.empty "none") ⟨[], true, []⟩ true (.tuple [.text "a", .text "b"]) =
        .ok (.accept (.list [.text "a", .text "b"])) ∧
      hasDuplicates [.text "a", .text "b"] = .ok false ∧
      distinctTexts.validate (.empty "none") ⟨[], true, []⟩ true (.list [.text "a", .text "b"]) =
        .ok (.accept (.list [.text "a", .text "b"])) := by
  have h : distinctTexts.validate (.empty "none") ⟨[], true, []⟩ true (.tuple [.text "a", .text "b"]) =
      .ok (.accept (.list [.text "a", .text "b"])) := rfl
  obtain ⟨items, hitems, -, -, -, hsame⟩ := Rule.distinct_of_validate_array rfl h
  cases hitems
  obtain ⟨hnone, hagain⟩ := hsame rfl
  exact ⟨h, hnone, hagain⟩

open Sample in
/-- Items that are changed may become the same: the blanks around a text are left out of it. -/
theorem Rule.not_distinct_of_validate_array :
    ¬ ∀ (registry : Custom.Registry) (context : Context) (common : Common) (element : Rule)
      (checks : ArrayChecks) (value notes : Value) (elements : List Value),
      checks.unique.isTruthy = true → element.hasHook = false →
      element.Everywhere (fun r => r.isCustom = false) →
      (Rule.array common (some element) checks).validate registry context true value =
        .ok (.accepted (.list elements) notes) →
      hasDuplicates elements = .ok false := by
  intro hall
  have hnone := hall (.empty "none") ⟨[], true, []⟩ plain shortText ⟨.null, .null, .bool true, .text ","⟩
    (.list [.text "a", .text " a"]) (.list []) [.text "a", .text "a"] rfl rfl rfl rfl
  cases hnone

end RecordCheck
