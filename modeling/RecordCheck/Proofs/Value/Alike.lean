import Mathlib.Data.List.Pairwise
import Mathlib.Data.List.Perm.Basic
import RecordCheck.Proofs.Value.Comparison
import RecordCheck.Proofs.Value.Structure

/-!
# Payloads compared by structure

A payload is what a document holds: null, truth values, finite numbers, texts, lists, and mappings from such
scalars.  Two payloads are alike if numbers in the same place are worth the same, texts have the same characters,
lists are alike item by item, and mappings are alike entry by entry in some order.  Equality of payloads always
has an answer, and it is whether they are alike, a truth value taken for one or zero.
-/

set_option autoImplicit false

namespace RecordCheck

namespace Value

/-! ## Payloads -/

/-- Whether a value is null, a truth value, a finite number or a text. -/
def IsScalar : Value → Prop
  | .null | .bool _ | .text _ | .textMember _ => True
  | .number n => n.isFinite = true
  | _ => False

/-- Whether a value is a scalar, a list, or a mapping whose keys are scalars no two of which are the same. -/
def IsPayloadNode : Value → Prop
  | .list _ => True
  | .dict entries => (∀ e ∈ entries, e.1.IsScalar) ∧ entries.Pairwise fun e f => e.1.sameKey f.1 = false
  | v => v.IsScalar

/-- Whether a value is what a document holds. -/
def IsPayload (v : Value) : Prop := v.Everywhere IsPayloadNode

theorem IsScalar.isPayload {v : Value} (h : v.IsScalar) : v.IsPayload := by
  cases v <;> first | exact h | cases h

section

variable {items : List Value} {entries : Entries}

theorem IsPayload.of_list (h : (list items).IsPayload) : ∀ v ∈ items, v.IsPayload := Everywhere.of_list h

theorem IsPayload.of_dict (h : (dict entries).IsPayload) : ∀ e ∈ entries, e.1.IsPayload ∧ e.2.IsPayload :=
  fun e he => ⟨(h.1.1 e he).isPayload, everywhereInEntries_iff.mp h.2 e he⟩

/-- A mapping has no two entries under keys that are the same. -/
theorem IsPayload.distinct (h : (dict entries).IsPayload) :
    entries.Pairwise fun e f => e.1.sameKey f.1 = false := h.1.2

end

mutual

/-- What holds of a list if it holds of its items, of a mapping if it holds of its keys and values, and of all
other values, holds of every value. -/
theorem ofParts {P : Value → Prop} (list : ∀ items, (∀ v ∈ items, P v) → P (.list items))
    (dict : ∀ entries, (∀ e ∈ entries, P e.1 ∧ P e.2) → P (.dict entries))
    (other : ∀ v, (∀ items, v ≠ .list items) → (∀ entries, v ≠ .dict entries) → P v) : ∀ v, P v
  | .list items => list items (ofItems list dict other items)
  | .dict entries => dict entries (ofEntries list dict other entries)
  | .null | .bool _ | .number _ | .text _ | .bytes _ | .tuple _ | .set _ | .range .. | .date _ | .dateTime _
  | .pattern _ | .member _ | .textMember _ | .entry .. | .result .. => other _ nofun nofun

theorem ofItems {P : Value → Prop} (list : ∀ items, (∀ v ∈ items, P v) → P (.list items))
    (dict : ∀ entries, (∀ e ∈ entries, P e.1 ∧ P e.2) → P (.dict entries))
    (other : ∀ v, (∀ items, v ≠ .list items) → (∀ entries, v ≠ .dict entries) → P v) :
    ∀ items : List Value, ∀ v ∈ items, P v
  | [] => nofun
  | v :: rest => List.forall_mem_cons.mpr ⟨ofParts list dict other v, ofItems list dict other rest⟩

theorem ofEntries {P : Value → Prop} (list : ∀ items, (∀ v ∈ items, P v) → P (.list items))
    (dict : ∀ entries, (∀ e ∈ entries, P e.1 ∧ P e.2) → P (.dict entries))
    (other : ∀ v, (∀ items, v ≠ .list items) → (∀ entries, v ≠ .dict entries) → P v) :
    ∀ entries : List (Value × Value), ∀ e ∈ entries, P e.1 ∧ P e.2
  | [] => nofun
  | (key, v) :: rest =>
    List.forall_mem_cons.mpr ⟨⟨ofParts list dict other key, ofParts list dict other v⟩, ofEntries list dict other rest⟩

end

/-- A value that counts as a number is no text. -/
theorem text?_of_numeric? {v : Value} {a : Number} (h : v.numeric? = some a) : v.text? = none := by
  cases v <;> first | rfl | cases h

/-! ## Structure -/

/-- Whether two values are alike.  A truth value is alike to a number, to one or to zero, only if these may be
mixed. -/
inductive Alike (mixed : Bool) : Value → Value → Prop
  | null : Alike mixed .null .null
  | number {v w : Value} {a b : Number} {x : Number.Line} (left : v.numeric? = some a)
      (right : w.numeric? = some b) (leftWorth : a.worth? = some x) (rightWorth : b.worth? = some x)
      (kind : mixed = true ∨ v.isBool = w.isBool) : Alike mixed v w
  | text {v w : Value} {s : String} (left : v.text? = some s) (right : w.text? = some s) : Alike mixed v w
  | list {items others : List Value} (same : List.Forall₂ (Alike mixed) items others) :
      Alike mixed (.list items) (.list others)
  | dict {entries others order : Entries} (ordered : order.Perm others)
      (keys : List.Forall₂ (Alike mixed) (entries.map (·.1)) (order.map (·.1)))
      (values : List.Forall₂ (Alike mixed) (entries.map (·.2)) (order.map (·.2))) :
      Alike mixed (.dict entries) (.dict others)

/-- Whether two entries have keys that are alike and values that are alike. -/
def AlikeEntries (mixed : Bool) (e f : Value × Value) : Prop := e.1.Alike mixed f.1 ∧ e.2.Alike mixed f.2

namespace Alike

variable {mixed : Bool} {v w : Value} {items others : List Value} {entries entries' : Entries}

theorem list_iff : (Value.list items).Alike mixed w ↔ ∃ others, w = .list others ∧
    List.Forall₂ (Alike mixed) items others := by
  constructor
  · rintro (_ | ⟨⟨⟩, -⟩ | ⟨⟨⟩, -⟩ | h)
    exact ⟨_, rfl, h⟩
  · rintro ⟨others, rfl, h⟩
    exact .list h

theorem dict_iff : (Value.dict entries).Alike mixed w ↔ ∃ entries' order, w = .dict entries' ∧
    order.Perm entries' ∧ List.Forall₂ (AlikeEntries mixed) entries order := by
  constructor
  · rintro (_ | ⟨⟨⟩, -⟩ | ⟨⟨⟩, -⟩ | _ | ⟨hperm, hkeys, hvalues⟩)
    rw [List.forall₂_map_left_iff, List.forall₂_map_right_iff] at hkeys hvalues
    exact ⟨_, _, rfl, hperm, List.Forall₂.mp (fun _ _ => And.intro) hkeys hvalues⟩
  · rintro ⟨entries', order, rfl, hperm, h⟩
    refine .dict hperm ?_ ?_ <;> rw [List.forall₂_map_left_iff, List.forall₂_map_right_iff]
    · exact h.imp fun _ _ => And.left
    · exact h.imp fun _ _ => And.right

theorem numeric_iff {a : Number} {x : Number.Line} (hv : v.numeric? = some a) (ha : a.worth? = some x) :
    v.Alike true w ↔ ∃ b, w.numeric? = some b ∧ b.worth? = some x := by
  constructor
  · rintro (_ | ⟨hv', hw, ha', hb, -⟩ | ⟨hv', -⟩ | _ | _)
    · cases hv
    · cases hv.symm.trans hv'
      cases ha.symm.trans ha'
      exact ⟨_, hw, hb⟩
    · cases hv'.symm.trans (text?_of_numeric? hv)
    · cases hv
    · cases hv
  · rintro ⟨b, hw, hb⟩
    exact .number hv hw ha hb (.inl rfl)

theorem text_iff {s : String} (hv : v.text? = some s) : v.Alike mixed w ↔ w.text? = some s := by
  constructor
  · rintro (_ | ⟨hv', -⟩ | ⟨hv', hw⟩ | _ | _)
    · cases hv
    · cases hv.symm.trans (text?_of_numeric? hv')
    · cases hv.symm.trans hv'
      exact hw
    · cases hv
    · cases hv
  · exact .text hv

theorem symm (h : v.Alike mixed w) : w.Alike mixed v := by
  induction v using ofParts generalizing w with
  | list items ih =>
    obtain ⟨others, rfl, hitems⟩ := list_iff.mp h
    exact .list ((List.forall₂_and_left _ _ |>.mpr ⟨ih, hitems⟩).flip.imp fun _ _ hitem => hitem.1 hitem.2)
  | dict entries ih =>
    obtain ⟨entries', order, rfl, hperm, hentries⟩ := dict_iff.mp h
    have hback : List.Forall₂ (AlikeEntries mixed) order entries :=
      (List.forall₂_and_left _ _ |>.mpr ⟨ih, hentries⟩).flip.imp fun _ _ hentry =>
        ⟨hentry.1.1 hentry.2.1, hentry.1.2 hentry.2.2⟩
    obtain ⟨order', hentries', hperm'⟩ := List.perm_comp_forall₂ hperm.symm hback
    exact dict_iff.mpr ⟨_, order', rfl, hperm', hentries'⟩
  | other v hlist hdict =>
    cases h with
    | null => exact .null
    | number hv hw ha hb hkind => exact .number hw hv hb ha (hkind.imp_right Eq.symm)
    | text hv hw => exact .text hw hv
    | list => exact absurd rfl (hlist _)
    | dict => exact absurd rfl (hdict _)

theorem trans {u : Value} (h : v.Alike mixed w) (h' : w.Alike mixed u) : v.Alike mixed u := by
  induction v using ofParts generalizing w u with
  | list items ih =>
    obtain ⟨others, rfl, hitems⟩ := list_iff.mp h
    obtain ⟨more, rfl, hothers⟩ := list_iff.mp h'
    exact .list (Attempt.forall₂_trans hitems hothers fun a ha _ _ => ih a ha)
  | dict entries ih =>
    obtain ⟨others, order, rfl, hperm, hentries⟩ := dict_iff.mp h
    obtain ⟨more, order', rfl, hperm', hothers⟩ := dict_iff.mp h'
    obtain ⟨order'', horder, hperm''⟩ := List.perm_comp_forall₂ hperm hothers
    refine dict_iff.mpr ⟨more, order'', rfl, hperm''.trans hperm', ?_⟩
    exact Attempt.forall₂_trans hentries horder fun e he _ _ hef hfg =>
      ⟨(ih e he).1 hef.1 hfg.1, (ih e he).2 hef.2 hfg.2⟩
  | other v hlist hdict =>
    cases h with
    | null => exact h'
    | number hv hw ha hb hkind =>
      cases h' with
      | number hw' hu ha' hb' hkind' =>
        cases hw.symm.trans hw'
        cases hb.symm.trans ha'
        exact .number hv hu ha hb' (hkind.elim .inl fun h => hkind'.imp_right h.trans)
      | text hw' => cases hw'.symm.trans (text?_of_numeric? hw)
      | _ => cases hw
    | text hv hw =>
      cases h' with
      | text hw' hu =>
        cases hw.symm.trans hw'
        exact .text hv hu
      | number hw' => cases hw.symm.trans (text?_of_numeric? hw')
      | _ => cases hw
    | list => exact absurd rfl (hlist _)
    | dict => exact absurd rfl (hdict _)

end Alike

/-! ## Equality -/

section

variable {v w key : Value} {items others : List Value} {entries entries' : Entries}

theorem isSignaling_of_worth? {a : Number} {x : Number.Line} (h : a.worth? = some x) : a.isSignaling = false := by
  cases a with
  | decimal d => cases d <;> first | rfl | cases h
  | _ => rfl

/-- Numbers are equal just when they are worth the same. -/
theorem sameNumber_eq_true_iff {a b : Number} {x y : Number.Line} (ha : a.worth? = some x)
    (hb : b.worth? = some y) : sameNumber a b = .ok true ↔ x = y := by
  obtain ⟨o, ho, hcompares⟩ := Number.compare?_spec ha hb
  rw [sameNumber, Number.equal?, isSignaling_of_worth? ha, isSignaling_of_worth? hb, ho]
  cases o with
  | eq => exact iff_of_true rfl hcompares
  | lt => exact iff_of_false (fun h => by cases h) (ne_of_lt hcompares)
  | gt => exact iff_of_false (fun h => by cases h) (ne_of_gt hcompares)

/-- Lists of the same length are equal just when their items are, one by one. -/
theorem sameList_eq_true_iff (hlength : items.length = others.length) :
    sameList items others = .ok true ↔ List.Forall₂ (fun v w => v.same w = .ok true) items others := by
  induction items generalizing others with
  | nil =>
    cases others with
    | nil => exact iff_of_true rfl .nil
    | cons _ _ => cases hlength
  | cons v rest ih =>
    cases others with
    | nil => cases hlength
    | cons w others =>
      rw [List.forall₂_cons, ← ih (Nat.succ.inj hlength), ← Attempt.bind_ite_pure_eq_true_iff]
      rfl

/-- Where keys can be compared, the first entry under the same key is found. -/
theorem findM?_same (h : ∀ e ∈ entries, ∃ answer, key.same e.1 = .ok answer) :
    entries.findM? (fun e => key.same e.1) = .ok (List.find? (fun e => key.sameKey e.1) entries) := by
  induction entries with
  | nil => rfl
  | cons e rest ih =>
    obtain ⟨⟨answer, hanswer⟩, hrest⟩ := List.forall_mem_cons.mp h
    rw [List.findM?, List.find?_cons, sameKey, hanswer, ih hrest]
    cases answer <;> rfl

theorem entriesWithin_eq_true_iff
    (h : ∀ e ∈ entries, ∀ f ∈ entries', ∃ answer, e.1.same f.1 = .ok answer) :
    entriesWithin entries entries' = .ok true ↔
      ∀ e ∈ entries, ∃ f, List.find? (fun f => e.1.sameKey f.1) entries' = some f ∧
        e.2.same f.2 = .ok true := by
  induction entries with
  | nil => simp [entriesWithin]
  | cons e rest ih =>
    obtain ⟨hfirst, hrest⟩ := List.forall_mem_cons.mp h
    rw [List.forall_mem_cons, ← ih hrest, entriesWithin, findM?_same hfirst, Attempt.ok_bind]
    cases List.find? (fun f => e.1.sameKey f.1) entries' with
    | none => simp
    | some f =>
      simp only [Option.some.injEq, exists_eq_left']
      exact Attempt.bind_ite_pure_eq_true_iff

/-- A number in a payload is worth something. -/
theorem IsPayload.exists_worth {a : Number} (h : v.IsPayload) (hnumeric : v.numeric? = some a) :
    ∃ x, a.worth? = some x := by
  cases v with
  | bool b =>
    cases hnumeric
    exact ⟨_, rfl⟩
  | number n =>
    cases hnumeric
    exact Number.exists_worth?_of_isFinite h
  | _ => cases hnumeric

/-- There is no NaN in a payload. -/
theorem IsPayload.isQuiet (h : v.IsPayload) : v.isQuiet = true := by
  induction v using ofParts with
  | list items ih => exact areQuiet_iff.mpr fun v hv => ih v hv (h.of_list v hv)
  | dict entries ih =>
    exact entriesAreQuiet_iff.mpr fun e he => ⟨(ih e he).1 (h.of_dict e he).1, (ih e he).2 (h.of_dict e he).2⟩
  | other v hlist hdict =>
    cases v with
    | number n =>
      obtain ⟨x, hx⟩ := h.exists_worth rfl
      rw [Value.isQuiet, isSignaling_of_worth? hx]
      rfl
    | list items => exact absurd rfl (hlist _)
    | dict entries => exact absurd rfl (hdict _)
    | _ => first | rfl | cases h.self

/-- Whether two payloads are equal always has an answer. -/
theorem IsPayload.exists_same (hv : v.IsPayload) (hw : w.IsPayload) : ∃ answer, v.same w = .ok answer := by
  cases hsame : v.same w with
  | ok answer => exact ⟨answer, rfl⟩
  | error fault => exact absurd ⟨hv.isQuiet, hw.isQuiet⟩ (failsOnly_same v w fault hsame).2

/-- A scalar that counts as a number equals what counts as a number worth the same. -/
theorem same_iff_of_numeric? {a : Number} (hv : v.IsPayload) (hw : w.IsPayload) (h : v.numeric? = some a) :
    v.same w = .ok true ↔ v.Alike true w := by
  obtain ⟨x, hx⟩ := hv.exists_worth h
  have hsame : v.same w = w.numeric?.elim (pure false) (sameNumber a) := by
    cases v with
    | bool b =>
      cases h
      rw [Value.same]
      cases w.numeric? <;> rfl
    | number n =>
      cases h
      rw [Value.same]
      cases w.numeric? <;> rfl
    | _ => cases h
  rw [hsame, Alike.numeric_iff h hx]
  cases hnumeric : w.numeric? with
  | none => simp
  | some b =>
    obtain ⟨y, hy⟩ := hw.exists_worth hnumeric
    simp [sameNumber_eq_true_iff hx hy, hy, eq_comm]

/-- A scalar equals a payload just when they are alike. -/
theorem IsScalar.same_iff (hv : v.IsScalar) (hw : w.IsPayload) : v.same w = .ok true ↔ v.Alike true w := by
  cases v with
  | null =>
    cases w <;> first | exact iff_of_true rfl .null | exact iff_of_false nofun nofun
  | bool b => exact same_iff_of_numeric? hv.isPayload hw rfl
  | number n => exact same_iff_of_numeric? hv.isPayload hw rfl
  | text s | textMember s =>
    rw [same, Attempt.pure_eq_ok_iff, beq_iff_eq]
    exact (Alike.text_iff rfl).symm
  | _ => cases hv

/-- No two keys of a payload are alike. -/
theorem IsPayload.notAlike (h : (dict entries).IsPayload) :
    entries.Pairwise fun e f => ¬ e.1.Alike true f.1 := by
  refine h.distinct.imp_of_mem fun {e f} he hf hsame halike => ?_
  rw [← (h.1.1 e he).same_iff (h.of_dict f hf).1, ← sameKey_iff, hsame] at halike
  cases halike

/-- The entry of a mapping that is found under a key is the one whose key is alike. -/
theorem find?_sameKey_iff (hkey : key.IsScalar) (h : (dict entries).IsPayload) {f : Value × Value} :
    List.find? (fun e => key.sameKey e.1) entries = some f ↔ f ∈ entries ∧ key.Alike true f.1 := by
  have hsame {e : Value × Value} (he : e ∈ entries) : key.sameKey e.1 = true ↔ key.Alike true e.1 := by
    rw [sameKey_iff, hkey.same_iff (h.of_dict e he).1]
  have found {e : Value × Value} (hfound : List.find? (fun e => key.sameKey e.1) entries = some e) :
      e ∈ entries ∧ key.Alike true e.1 := by
    have hmem := List.mem_of_find?_eq_some hfound
    have hcheck := List.find?_some hfound
    exact ⟨hmem, (hsame hmem).mp hcheck⟩
  refine ⟨found, ?_⟩
  rintro ⟨hmem, halike⟩
  cases hfind : List.find? (fun e => key.sameKey e.1) entries with
  | none => exact absurd ((hsame hmem).mpr halike) (List.find?_eq_none.mp hfind f hmem)
  | some g =>
    -- The keys of both entries are alike to this one, hence to one another; no two entries have such.
    obtain ⟨hmem', halike'⟩ := found hfind
    have hsymm : Std.Symm fun e f : Value × Value => ¬ e.1.Alike true f.1 := ⟨fun _ _ h h' => h h'.symm⟩
    rw [Option.some_inj]
    by_contra hne
    exact h.notAlike.forall hmem' hmem hne (halike'.symm.trans halike)

/-- Mappings are equal just when the entries of one can be ordered like those of the other, where keys are found
as those that are alike and values are equal just when they are alike. -/
theorem same_dict_iff (hv : (dict entries).IsPayload) (hw : (dict entries').IsPayload)
    (h : ∀ e ∈ entries, ∀ f ∈ entries', e.2.same f.2 = .ok true ↔ e.2.Alike true f.2) :
    (dict entries).same (dict entries') = .ok true ↔
      ∃ order, order.Perm entries' ∧ List.Forall₂ (AlikeEntries true) entries order := by
  have hcompared : ∀ e ∈ entries, ∀ f ∈ entries', ∃ answer, e.1.same f.1 = .ok answer := fun e he f hf =>
    (hv.of_dict e he).1.exists_same (hw.of_dict f hf).1
  constructor
  · intro hsame
    rw [same] at hsame
    split at hsame
    · rename_i hlength
      rw [entriesWithin_eq_true_iff hcompared] at hsame
      -- No two entries have the same counterpart, and there are as many others, so that each is one.
      refine Attempt.exists_perm_of_counterparts hlength (fun e he => ?_) ?_
      · obtain ⟨f, hfound, hvalue⟩ := hsame e he
        obtain ⟨hf, hkey⟩ := (find?_sameKey_iff (hv.1.1 e he) hw).mp hfound
        exact ⟨f, hf, hkey, (h e he f hf).mp hvalue⟩
      · exact hv.notAlike.imp fun hnot f he he' => hnot (he.1.trans he'.1.symm)
    · cases hsame
  · rintro ⟨order, hperm, horder⟩
    rw [same, if_pos (horder.length_eq.trans hperm.length_eq), entriesWithin_eq_true_iff hcompared]
    intro e he
    obtain ⟨f, hf, hkey, hvalue⟩ := Attempt.exists_mem_of_forall₂ horder he
    have hmem := hperm.mem_iff.mp hf
    exact ⟨f, (find?_sameKey_iff (hv.1.1 e he) hw).mpr ⟨hmem, hkey⟩, (h e he f hmem).mpr hvalue⟩

/-- Two payloads are equal just when they are alike, a truth value taken for one or zero. -/
theorem IsPayload.same_iff (hv : v.IsPayload) (hw : w.IsPayload) :
    v.same w = .ok true ↔ v.Alike true w := by
  induction v using ofParts generalizing w with
  | list items ih =>
    rw [Alike.list_iff]
    cases w with
    | list others =>
      have hitems := Attempt.forall₂_congr_of_mem fun u hu w hw' => ih u hu (hv.of_list u hu) (hw.of_list w hw')
      simp only [list.injEq, exists_eq_left', ← hitems]
      rw [same]
      split
      · rename_i hlength
        exact sameList_eq_true_iff hlength
      · rename_i hlength
        exact iff_of_false nofun fun h => hlength h.length_eq
    | _ => exact iff_of_false nofun nofun
  | dict entries ih =>
    rw [Alike.dict_iff]
    cases w with
    | dict entries' =>
      rw [same_dict_iff hv hw fun e he f hf => (ih e he).2 (hv.of_dict e he).2 (hw.of_dict f hf).2]
      simp only [dict.injEq, exists_and_left, exists_eq_left']
    | _ => exact iff_of_false nofun nofun
  | other v hlist hdict =>
    refine IsScalar.same_iff ?_ hw
    cases v with
    | list items => exact absurd rfl (hlist _)
    | dict entries => exact absurd rfl (hdict _)
    | _ => exact hv.self

end

end Value

end RecordCheck
