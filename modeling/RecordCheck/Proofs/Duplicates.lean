import RecordCheck.Proofs.CoercionFaults
import RecordCheck.Proofs.Distinct
import RecordCheck.Proofs.Value.Alike

/-!
# Items that occur twice

Among the items of a payload one occurs twice if two of them, in different places, are alike.  A truth value is
no number then, but only as an item itself: within a list or a mapping it is taken for one or zero.
-/

set_option autoImplicit false

namespace RecordCheck

namespace Value

/-! ## Values without truth values -/

/-- Whether a value is no truth value and no mapping with one as a key. -/
def IsUnmixedNode : Value → Prop
  | .bool _ => False
  | .dict entries => ∀ e ∈ entries, e.1.isBool = false
  | _ => True

/-- Whether there is no truth value in a value, be it as an item, as a key or as the value of a key. -/
def IsUnmixed (v : Value) : Prop := v.Everywhere IsUnmixedNode

theorem IsScalar.isUnmixed {v : Value} (h : v.IsScalar) (hbool : v.isBool = false) : v.IsUnmixed := by
  cases v with
  | bool b => cases hbool
  | list items => cases h
  | dict entries => cases h
  | _ => trivial

theorem IsPayload.isUnmixed_of_dict {entries : Entries} (h : (dict entries).IsPayload)
    (hunmixed : (dict entries).IsUnmixed) : ∀ e ∈ entries, e.1.IsUnmixed ∧ e.2.IsUnmixed :=
  fun e he => ⟨(h.1.1 e he).isUnmixed (hunmixed.1 e he), everywhereInEntries_iff.mp hunmixed.2 e he⟩

theorem isBool_of_text? {v : Value} {s : String} (h : v.text? = some s) : v.isBool = false := by
  cases v <;> first | rfl | cases h

namespace Alike

variable {mixed : Bool} {v w : Value}

/-- A truth value by itself is alike to a truth value only, where it is no number. -/
theorem isBool_eq (h : v.Alike false w) : v.isBool = w.isBool := by
  cases h with
  | number _ _ _ _ hkind => exact hkind.resolve_left nofun
  | text hv hw => rw [isBool_of_text? hv, isBool_of_text? hw]
  | _ => rfl

/-- Values that are alike where truth values are no numbers are alike where they are, too. -/
theorem mix (h : v.Alike false w) : v.Alike mixed w := by
  induction v using ofParts generalizing w with
  | list items ih =>
    obtain ⟨others, rfl, hitems⟩ := list_iff.mp h
    exact .list ((List.forall₂_and_left _ _ |>.mpr ⟨ih, hitems⟩).imp fun _ _ hitem => hitem.1 hitem.2)
  | dict entries ih =>
    obtain ⟨entries', order, rfl, hperm, hentries⟩ := dict_iff.mp h
    refine dict_iff.mpr ⟨entries', order, rfl, hperm, ?_⟩
    exact (List.forall₂_and_left _ _ |>.mpr ⟨ih, hentries⟩).imp fun _ _ hentry =>
      ⟨hentry.1.1 hentry.2.1, hentry.1.2 hentry.2.2⟩
  | other v hlist hdict =>
    cases h with
    | null => exact .null
    | number hv hw ha hb hkind => exact .number hv hw ha hb (.inr (hkind.resolve_left nofun))
    | text hv hw => exact .text hv hw
    | list => exact absurd rfl (hlist _)
    | dict => exact absurd rfl (hdict _)

/-- Payloads without truth values are alike just when they are where truth values are no numbers. -/
theorem unmix_iff (hv : v.IsPayload) (hw : w.IsPayload) (hv' : v.IsUnmixed) (hw' : w.IsUnmixed) :
    v.Alike true w ↔ v.Alike false w := by
  refine ⟨fun h => ?_, mix⟩
  induction v using ofParts generalizing w with
  | list items ih =>
    obtain ⟨others, rfl, hitems⟩ := list_iff.mp h
    refine .list ((Attempt.forall₂_congr_of_mem fun a ha b hb => ⟨fun h => ?_, mix⟩).mp hitems)
    exact ih a ha (hv.of_list a ha) (hw.of_list b hb) (hv'.of_list a ha) (hw'.of_list b hb) h
  | dict entries ih =>
    obtain ⟨entries', order, rfl, hperm, hentries⟩ := dict_iff.mp h
    refine dict_iff.mpr ⟨entries', order, rfl, hperm, ?_⟩
    refine (Attempt.forall₂_congr_of_mem fun e he f hf => ⟨fun h => ?_, ?_⟩).mp hentries
    · have hf' := hperm.mem_iff.mp hf
      obtain ⟨hkey, hvalue⟩ := hv.of_dict e he
      obtain ⟨hkey', hvalue'⟩ := hw.of_dict f hf'
      obtain ⟨hpure, hpures⟩ := hv.isUnmixed_of_dict hv' e he
      obtain ⟨hpure', hpures'⟩ := hw.isUnmixed_of_dict hw' f hf'
      exact ⟨(ih e he).1 hkey hkey' hpure hpure' h.1, (ih e he).2 hvalue hvalue' hpures hpures' h.2⟩
    · exact fun h => ⟨h.1.mix, h.2.mix⟩
  | other v hlist hdict =>
    cases h with
    | null => exact .null
    | number hnumeric hnumeric' ha hb hkind =>
      have hnone {u : Value} (h : u.IsUnmixed) : u.isBool = false := by
        cases u <;> first | rfl | cases h
      exact .number hnumeric hnumeric' ha hb (.inr ((hnone hv').trans (hnone hw').symm))
    | text hv hw => exact .text hv hw
    | list => exact absurd rfl (hlist _)
    | dict => exact absurd rfl (hdict _)

end Alike

end Value

namespace Coercion

/-! ## Items -/

section

variable {v w : Value}

/-- Whether two items are the same always has an answer. -/
theorem exists_sameItem (hv : v.IsPayload) (hw : w.IsPayload) : ∃ answer, sameItem v w = .ok answer := by
  unfold sameItem
  split
  · exact ⟨false, rfl⟩
  · exact hv.exists_same hw

/-- Two items are the same just when both are truth values, or neither, and they are alike, a truth value within
them taken for one or zero. -/
theorem sameItem_iff (hv : v.IsPayload) (hw : w.IsPayload) :
    sameItem v w = .ok true ↔ v.isBool = w.isBool ∧ v.Alike true w := by
  rw [← hv.same_iff hw, sameItem]
  split
  · rename_i hkinds
    exact iff_of_false nofun fun h => bne_iff_ne.mp hkinds h.1
  · rename_i hkinds
    rw [bne_iff_ne, ne_eq, not_not] at hkinds
    exact (and_iff_right hkinds).symm

end

/-- Whether something holds between two of some items in different places, the earlier and the later one. -/
def Repeats (R : Value → Value → Prop) (items : List Value) : Prop :=
  ∃ (i j : Nat) (v w : Value), i < j ∧ items[i]? = some v ∧ items[j]? = some w ∧ R v w

theorem repeats_iff {R : Value → Value → Prop} {items : List Value} :
    Repeats R items ↔ ¬ items.Pairwise fun v w => ¬ R v w := by
  rw [List.pairwise_iff_getElem]
  constructor
  · rintro ⟨i, j, v, w, hij, hv, hw, hrelated⟩ hnone
    obtain ⟨hi, rfl⟩ := List.getElem?_eq_some_iff.mp hv
    obtain ⟨hj, rfl⟩ := List.getElem?_eq_some_iff.mp hw
    exact hnone i j hi hj hij hrelated
  · intro h
    push Not at h
    obtain ⟨i, j, hi, hj, hij, hrelated⟩ := h
    exact ⟨i, j, _, _, hij, List.getElem?_eq_getElem hi, List.getElem?_eq_getElem hj, hrelated⟩

theorem Repeats.imp_of_mem {R S : Value → Value → Prop} {items : List Value} (h : Repeats R items)
    (himp : ∀ v ∈ items, ∀ w ∈ items, R v w → S v w) : Repeats S items := by
  obtain ⟨i, j, v, w, hij, hv, hw, hrelated⟩ := h
  exact ⟨i, j, v, w, hij, hv, hw, himp v (List.mem_of_getElem? hv) w (List.mem_of_getElem? hw) hrelated⟩

/-- What holds both ways does so between two of some items in whatever order they are. -/
theorem repeats_congr_of_perm {R : Value → Value → Prop} {items others : List Value}
    (hsymm : ∀ v w, R v w → R w v) (hperm : others.Perm items) : Repeats R others ↔ Repeats R items := by
  rw [repeats_iff, repeats_iff, hperm.pairwise_iff fun h h' => h (hsymm _ _ h')]

section

variable {items : List Value}

/-- Whether two items are the same, by themselves or with what is in them. -/
def IsSameItem (v w : Value) : Prop := v.isBool = w.isBool ∧ v.Alike true w

theorem IsSameItem.symm {v w : Value} (h : IsSameItem v w) : IsSameItem w v := ⟨h.1.symm, h.2.symm⟩

/-- Items without truth values within them are the same only if they are alike where a truth value is no number. -/
theorem IsSameItem.alike {v w : Value} (h : IsSameItem v w) (hv : v.IsPayload) (hw : w.IsPayload)
    (hv' : v.isBool = true ∨ v.IsUnmixed) (hw' : w.isBool = true ∨ w.IsUnmixed) : v.Alike false w := by
  obtain ⟨hkinds, halike⟩ := h
  cases hbool : v.isBool with
  | true =>
    rw [hbool] at hkinds
    cases halike with
    | number hnumeric hnumeric' ha hb => exact .number hnumeric hnumeric' ha hb (.inr (hbool.trans hkinds))
    | text hv => cases hbool.symm.trans (Value.isBool_of_text? hv)
    | _ => cases hbool
  | false =>
    rw [hbool] at hv' hkinds
    rw [← hkinds] at hw'
    exact (Value.Alike.unmix_iff hv hw (hv'.resolve_left nofun) (hw'.resolve_left nofun)).mp halike

/-- Whether an item occurs twice always has an answer: whether two in different places are the same. -/
theorem hasDuplicates_iff (h : ∀ v ∈ items, v.IsPayload) :
    ∃ answer, hasDuplicates items = .ok answer ∧ (answer = true ↔ Repeats IsSameItem items) := by
  have hnone : hasDuplicates items = .ok false ↔ ¬ Repeats IsSameItem items := by
    rw [hasDuplicates_eq_false_iff, repeats_iff, not_not]
    -- The later item is asked whether it is the same as the earlier one.
    refine List.Pairwise.iff_of_mem fun {v w} hv hw => ?_
    obtain ⟨answer, hanswer⟩ := exists_sameItem (h w hw) (h v hv)
    have hsame : sameItem w v = .ok true ↔ IsSameItem v w :=
      (sameItem_iff (h w hw) (h v hv)).trans ⟨IsSameItem.symm, IsSameItem.symm⟩
    rw [← hsame, hanswer]
    cases answer <;> simp
  cases hduplicates : hasDuplicates items with
  | error fault =>
    have hquiet := Value.areQuiet_iff.mpr fun v hv => (h v hv).isQuiet
    exact absurd hquiet (failsOnly_hasDuplicatesAfter [] items fault hduplicates).2
  | ok answer =>
    refine ⟨answer, rfl, ?_⟩
    rw [hduplicates] at hnone
    cases answer with
    | true => exact iff_of_true rfl (not_not.mp (hnone.not.mp nofun))
    | false => exact iff_of_false nofun (hnone.mp rfl)

/-- Whether an item occurs twice is told by any two that are alike, and does not depend on the order of the items.
Where a truth value is never taken for a number, two such items make it so, and if there are no truth values
within the items then nothing else does. -/
theorem hasDuplicates_spec (h : ∀ v ∈ items, v.IsPayload) :
    ∃ answer, hasDuplicates items = .ok answer ∧
      (answer = true ↔ Repeats (fun v w => v.isBool = w.isBool ∧ v.Alike true w) items) ∧
      (∀ others, others.Perm items → hasDuplicates others = .ok answer) ∧
      (Repeats (Value.Alike false) items → answer = true) ∧
      ((∀ v ∈ items, v.isBool = true ∨ v.IsUnmixed) → (answer = true ↔ Repeats (Value.Alike false) items)) := by
  obtain ⟨answer, hanswer, hrepeats⟩ := hasDuplicates_iff h
  have hstrict (hstrict : Repeats (Value.Alike false) items) : answer = true :=
    hrepeats.mpr (hstrict.imp_of_mem fun v _ w _ halike => ⟨halike.isBool_eq, halike.mix⟩)
  refine ⟨answer, hanswer, hrepeats, fun others hperm => ?_, hstrict, fun hunmixed =>
    ⟨fun hanswer => ?_, hstrict⟩⟩
  · obtain ⟨answer', hanswer', hrepeats'⟩ := hasDuplicates_iff fun v hv => h v (hperm.mem_iff.mp hv)
    rw [repeats_congr_of_perm (fun _ _ => IsSameItem.symm) hperm, ← hrepeats, ← Bool.eq_iff_iff] at hrepeats'
    rw [hanswer', hrepeats']
  · refine (hrepeats.mp hanswer).imp_of_mem fun v hv w hw hsame => ?_
    exact hsame.alike (h v hv) (h w hw) (hunmixed v hv) (hunmixed w hw)

end

namespace Sample

/-- A mapping spelled in two ways, with the keys in different order and a number of different kinds. -/
def spelledTwice : List Value :=
  [.dict [(.text "a", .list [.int 1]), (.text "b", .null)],
    .dict [(.text "b", .null), (.text "a", .list [.number (.float (.finite false 1 0))])]]

/-- A truth value and the number that it counts as, each in a list. -/
def mixedLists : List Value := [.list [.bool true], .list [.int 1]]

end Sample

open Coercion.Sample

/-- A mapping that is spelled in two ways occurs twice, in whatever order. -/
theorem hasDuplicates_spec_spelledTwice :
    (∀ v ∈ spelledTwice, v.IsPayload) ∧ hasDuplicates spelledTwice = .ok true ∧
      hasDuplicates spelledTwice.reverse = .ok true := by
  have hpayload : ∀ v ∈ spelledTwice, v.IsPayload := by
    have hkeys : (Value.text "a").sameKey (.text "b") = false ∧ (Value.text "b").sameKey (.text "a") = false :=
      ⟨rfl, rfl⟩
    simp [spelledTwice, Value.IsPayload, Value.Everywhere, Value.EverywhereInItems, Value.EverywhereInEntries,
      Value.IsPayloadNode, Value.IsScalar, Value.int, Number.isFinite, Number.Binary64.isFinite, hkeys]
  have hworth : (Number.float (.finite false 1 0)).worth? = some (Number.onLine (1 : Int)) := by
    simp [Number.worth?, Number.Binary64.worth?, Number.withSign]
  have halike : spelledTwice[0].Alike false spelledTwice[1] := by
    refine Value.Alike.dict_iff.mpr ⟨_, [(.text "a", .list [.number (.float (.finite false 1 0))]),
      (.text "b", .null)], rfl, List.Perm.swap _ _ _, ?_⟩
    exact .cons ⟨.text rfl rfl, .list (.cons (.number rfl rfl rfl hworth (.inr rfl)) .nil)⟩
      (.cons ⟨.text rfl rfl, .null⟩ .nil)
  obtain ⟨answer, hanswer, -, hperm, hstrict, -⟩ := hasDuplicates_spec hpayload
  obtain rfl : answer = true := hstrict ⟨0, 1, _, _, by decide, rfl, rfl, halike⟩
  exact ⟨hpayload, hanswer, hperm _ (List.reverse_perm _)⟩

/-- A truth value in a list is taken for the number in another one. -/
theorem not_hasDuplicates_spec :
    ¬ ∀ items : List Value, (∀ v ∈ items, v.IsPayload) →
      (hasDuplicates items = .ok true ↔ Repeats (Value.Alike false) items) := by
  intro hall
  have hpayload : ∀ v ∈ mixedLists, v.IsPayload := by
    simp [mixedLists, Value.IsPayload, Value.Everywhere, Value.EverywhereInItems, Value.IsPayloadNode,
      Value.IsScalar, Value.int, Number.isFinite]
  have hrepeats := (hall mixedLists hpayload).mp rfl
  rw [repeats_iff] at hrepeats
  have hnot : ¬ (Value.list [.bool true]).Alike false (.list [.int 1]) := fun h => by
    cases h with
    | number hnumeric => cases hnumeric
    | text htext => cases htext
    | list hitems =>
      cases hitems with
      | cons hfirst => cases hfirst.isBool_eq
  exact hrepeats (.cons (List.forall_mem_singleton.mpr hnot) (List.pairwise_singleton _ _))

end Coercion

end RecordCheck
