import RecordCheck.Proofs.Report.Rendering
import RecordCheck.Script

/-!
# The flat form in a payload

Where a formatter gives a mapping that may be added to, the flat form of the errors is put into it, whatever the
mapping holds under that name.  It is the flat form of what the formatter has left of the tree that it was given,
and so that of the translated errors if it has left the tree as it was.
-/

set_option autoImplicit false

namespace RecordCheck

/-! ## Putting a value under a text -/

namespace Entries

variable {entries : Entries} {key value : Value} {s : String}

/-- A value is found under the text that it is put under. -/
theorem get?_put_text (entries : Entries) (s : String) (value : Value) :
    (entries.put (.text s) value).get? (.text s) = some value := by
  have hself : (Value.text s).sameKey (.text s) = true := Value.text_sameKey_text_iff.mpr rfl
  induction entries with
  | nil => simp [put, get?, find?, hself]
  | cons e rest ih =>
    rw [put]
    split
    · rename_i hsame
      simp [get?, find?, hsame]
    · rename_i hother
      simpa [get?, find?, hother] using ih

/-- What is found under a key that is another text, or none, is what was found there before. -/
theorem get?_put_of_text?_ne (h : key.text? ≠ some s) :
    (entries.put (.text s) value).get? key = entries.get? key := by
  have hother {k : Value} (hk : k.text? = some s) : k.sameKey key = false := by
    rw [Bool.eq_false_iff, ne_eq, Value.sameKey_iff]
    cases k with
    | text t | textMember t =>
      cases hk
      simpa [Value.same] using h
    | _ => cases hk
  rw [get?, get?, find?, find?, find?_put_of_not (·.sameKey key) (hother rfl) fun k hk =>
    hother ((Value.sameKey_text_iff rfl).mp hk)]

end Entries

/-! ## Translating a tree -/

namespace Tree

variable {α β : Type} {f : α → Attempt β}

mutual

/-- A tree is traversed where every leaf can be replaced. -/
theorem exists_traverse (hf : ∀ a, ∃ b, f a = .ok b) : ∀ t : Tree α, ∃ u, traverse f t = .ok u
  | leaf content => by
    obtain ⟨b, hb⟩ := hf content
    exact ⟨leaf b, by rw [traverse, hb]; rfl⟩
  | node children => by
    obtain ⟨others, hothers⟩ := exists_traverseChildren hf children
    exact ⟨node others, by rw [traverse, hothers]; rfl⟩

theorem exists_traverseChildren (hf : ∀ a, ∃ b, f a = .ok b) :
    ∀ children : List (Value × Tree α), ∃ others, traverseChildren f children = .ok others
  | [] => ⟨[], rfl⟩
  | (key, t) :: rest => by
    obtain ⟨u, hu⟩ := exists_traverse hf t
    obtain ⟨others, hothers⟩ := exists_traverseChildren hf rest
    exact ⟨(key, u) :: others, by rw [traverseChildren, hu, hothers]; rfl⟩

end

end Tree

namespace Aggregator

variable {a : Aggregator}

/-- Whether an entry is another one with its message translated. -/
structure Translated (a : Aggregator) (e e' : Entry) : Prop where
  code : e'.code = e.code
  details : e'.details = e.details
  message : a.translator e.code e.message e.details = .ok e'.message

theorem render_eq_ok_iff {e e' : Entry} : a.render e = .ok e' ↔ a.Translated e e' := by
  rw [render, Attempt.bind_eq_ok_iff]
  constructor
  · rintro ⟨m, hm, ⟨⟩⟩
    exact ⟨rfl, rfl, hm⟩
  · rintro ⟨hcode, hdetails, hmessage⟩
    cases e'
    cases hcode
    cases hdetails
    exact ⟨_, hmessage, rfl⟩

/-- Whether a translator gives a message for every code, message and details. -/
def IsTotal (a : Aggregator) : Prop := ∀ code message details, ∃ m, a.translator code message details = .ok m

theorem IsTotal.exists_translate (h : a.IsTotal) (t : ErrorTree) : ∃ tree, a.translate t = .ok tree := by
  refine Tree.exists_traverse (fun entries => ?_) t
  have hrender : ∀ e ∈ entries, ∃ e', a.render e = .ok e' := fun e _ => by
    obtain ⟨m, hm⟩ := h e.code e.message e.details
    exact ⟨{ e with message := m }, render_eq_ok_iff.mpr ⟨rfl, rfl, hm⟩⟩
  obtain ⟨entries', hentries⟩ := Attempt.exists_forall₂ hrender
  exact ⟨entries', Attempt.mapM_eq_ok_iff.mpr hentries⟩

/-- A translated tree has its leaves in the same places, with the messages translated. -/
theorem forall₂_of_translate {t tree : ErrorTree} (h : a.translate t = .ok tree) :
    List.Forall₂ (fun l m => m.1 = l.1 ∧ List.Forall₂ a.Translated l.2 m.2) t.leaves tree.leaves := by
  refine (Tree.forall₂_of_traverse t h).imp fun l m hl => ⟨hl.1, ?_⟩
  exact (Attempt.mapM_eq_ok_iff.mp hl.2).imp fun _ _ => render_eq_ok_iff.mp

/-! ## The payload -/

/-- Whether a payload is a mapping with the flat form of errors in it, and else as it was given. -/
structure Injects (given flat payload : Entries) : Prop where
  injected : payload.get? (.text flatKey) = some (.dict flat)
  kept : ∀ key : Value, key.text? ≠ some flatKey → payload.get? key = given.get? key

theorem injects_put (given flat : Entries) : Injects given flat (given.put (.text flatKey) (.dict flat)) where
  injected := Entries.get?_put_text given flatKey _
  kept _ h := Entries.get?_put_of_text?_ne h

/-- Where a formatter gives a mapping that may be added to, the payload is that mapping with the flat form of what
the formatter has left of the translated errors, or if that cannot be flattened there is none.  What it has left is
flattened like the translated errors if it has left them as they were. -/
theorem build_injects (htotal : a.IsTotal) (children : List (Value × ErrorTree)) :
    ∃ others, a.translate (.node children) = .ok (.node others) ∧
      List.Forall₂ (fun l m => m.1 = l.1 ∧ List.Forall₂ a.Translated l.2 m.2)
        (Tree.node children).leaves (Tree.node others).leaves ∧
      ∀ given left, a.formatter (.node others) = .ok ⟨.dict given, true, left⟩ →
        (∀ flat, flattenValue "" left = .ok flat →
          ∃ payload, a.build (.node children) = .ok (.dict payload) ∧ Injects given flat payload) ∧
        (∀ fault, flattenValue "" left = .error fault → a.build (.node children) = .error fault) ∧
        (left = ErrorTree.toDict (.node others) → flattenValue "" left = Tree.flatten (.node others)) := by
  obtain ⟨tree, htree⟩ := htotal.exists_translate (.node children)
  obtain ⟨others, rfl⟩ := exists_node_of_translate htree
  refine ⟨others, htree, forall₂_of_translate htree, fun given left hformatter => ?_⟩
  have hbuild : a.build (.node children) = addFlat (.dict given) <$> flattenValue "" left := by
    rw [build, htree, Attempt.ok_bind, layOut, hformatter, Attempt.ok_bind]
    rfl
  refine ⟨fun flat hflat => ?_, fun fault hfault => ?_, ?_⟩
  · exact ⟨_, by rw [hbuild, hflat]; rfl, injects_put given flat⟩
  · rw [hbuild, hfault]
    rfl
  · rintro rfl
    exact flattenValue_toDict others

namespace Sample

/-- The error of a value that is required. -/
def absent : Entry := ⟨.text "required", .text "is required", []⟩

/-- The errors of two fields. -/
def absentFields : List (Value × ErrorTree) := [(.text "a", .leaf [absent]), (.text "b", .leaf [absent])]

/-- A formatter that gives the tree itself, and leaves it as it is. -/
def givesTree : Aggregator := ⟨fun t => pure ⟨ErrorTree.toDict t, true, ErrorTree.toDict t⟩, .identity⟩

/-- A formatter that takes the first field out of the tree and gives the others. -/
def takesFirst : Aggregator := ⟨fun t => Script.underName [] "errors" (Script.withoutFirst t), .identity⟩

theorem isTotal_givesTree : givesTree.IsTotal := fun _ message _ => ⟨message, rfl⟩

theorem isTotal_takesFirst : takesFirst.IsTotal := fun _ message _ => ⟨message, rfl⟩

end Sample

open Aggregator.Sample

/-- A payload that is the tree itself lists both fields. -/
theorem build_injects_givesTree :
    ∃ payload : Entries, givesTree.build (.node absentFields) = .ok (.dict payload) ∧
      payload.get? (.text flatKey) = some (.dict [(.text "a", .list [.text "is required"]),
        (.text "b", .list [.text "is required"])]) := by
  obtain ⟨others, hothers, -, hformatter⟩ := build_injects isTotal_givesTree absentFields
  cases hothers
  obtain ⟨hflat, -, hleft⟩ := hformatter _ _ rfl
  obtain ⟨payload, hpayload, hinjects⟩ := hflat _ ((hleft rfl).trans rfl)
  exact ⟨payload, hpayload, hinjects.injected⟩

/-- A field that a formatter has taken out of the tree is missing in the flat form. -/
theorem not_build_injects :
    ¬ ∀ (a : Aggregator) (children others : List (Value × ErrorTree)) (given flat : Entries) (left : Value),
      a.IsTotal → a.translate (.node children) = .ok (.node others) →
      Tree.flatten (.node others) = .ok flat → a.formatter (.node others) = .ok ⟨.dict given, true, left⟩ →
      ∃ payload : Entries, a.build (.node children) = .ok (.dict payload) ∧
        payload.get? (.text flatKey) = some (.dict flat) := by
  intro hall
  obtain ⟨payload, hpayload, hflat⟩ :=
    hall takesFirst absentFields absentFields _ _ _ isTotal_takesFirst rfl rfl rfl
  cases hpayload
  cases hflat

end Aggregator

end RecordCheck
