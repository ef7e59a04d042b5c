import Mathlib.Algebra.Order.BigOperators.Group.List
import Mathlib.Algebra.Order.Ring.Nat
import RecordCheck.Proofs.Parallel.ErrorTree
import RecordCheck.Proofs.Report.Arrangement
import RecordCheck.Proofs.Report.Rendering
import RecordCheck.Proofs.Soundness

/-!
# Messages in flat reports

The path of a leaf joins the keys on the way to it by points, and does not say where a key ends that has a
point in it itself.  Leaves that have the same path have one entry in the flat form of a tree, which holds
the messages of the last of them.  So the flat form has all messages of the tree just when no two leaves
have the same path.
-/

set_option autoImplicit false

namespace RecordCheck

/-- Nothing is lost from sizes that are positive just when no path occurs twice. -/
theorem sum_lastOfEachPath_eq_iff {β : Type} (found : List (String × β)) {size : β → Nat}
    (hsize : ∀ l ∈ found, 0 < size l.2) :
    ((lastOfEachPath found).map fun l => size l.2).sum = (found.map fun l => size l.2).sum ↔
      (found.map (·.1)).Nodup := by
  refine ⟨fun h => ?_, fun h => by rw [lastOfEachPath_eq_self found h]⟩
  induction found with
  | nil => exact List.nodup_nil
  | cons l rest ih =>
    obtain ⟨hfirst, hrest⟩ := List.forall_mem_cons.mp hsize
    rw [List.map_cons, List.nodup_cons]
    rw [lastOfEachPath] at h
    split at h
    · -- The first is lost, and nothing makes up for it.
      have hle := ((lastOfEachPath_sublist rest).map fun l => size l.2).sum_le_sum fun _ _ => Nat.zero_le _
      rw [List.map_cons, List.sum_cons] at h
      omega
    · rename_i hnot
      rw [List.map_cons, List.map_cons, List.sum_cons, List.sum_cons] at h
      exact ⟨hnot, ih hrest (Nat.add_left_cancel h)⟩

/-! ## Messages -/

/-- The number of items of a list. -/
def Value.itemCount : Value → Nat
  | .list items => items.length
  | _ => 0

/-- The number of messages in a flat mapping. -/
def messageCount (flat : Entries) : Nat := (flat.map fun e => e.2.itemCount).sum

namespace Tree

/-- The number of entries in a tree. -/
def entryCount (t : ErrorTree) : Nat := (t.leaves.map fun l => l.2.length).sum

/-- What a flat mapping says of a tree, if what was found are the path and the messages of each of its
leaves, depth first: the messages of the last leaf of each path, so that it has as many messages as the
tree has entries just when no two leaves have the same path. -/
structure ReportsLastOfEachPath (found : List (String × Value)) (flat : Entries) (t : ErrorTree) : Prop where
  each : List.Forall₂ (fun p l => pathUnder "" l.1 = .ok p.1 ∧ p.2 = messages l.2) found t.leaves
  last : flat.Perm ((lastOfEachPath found).map pathEntry)
  complete : messageCount flat = t.entryCount ↔ (found.map (·.1)).Nodup

/-- A tree of leaves that are not empty is flattened to the last leaf of each path. -/
theorem exists_reports_of_flatten {t : ErrorTree} {flat : Entries} (hfilled : ∀ l ∈ t.leaves, l.2 ≠ [])
    (h : t.flatten = .ok flat) : ∃ found, ReportsLastOfEachPath found flat t := by
  obtain ⟨found, hfound, rfl⟩ := flatten_eq_ok_iff.mp h
  have hleaves : List.Forall₂ (fun p l => pathUnder "" l.1 = .ok p.1 ∧ p.2 = messages l.2) found t.leaves :=
    (forall₂_of_leavesUnder t hfound).flip.imp fun p l ⟨hpath, hread⟩ =>
      ⟨hpath, (Attempt.pure_eq_ok_iff.mp hread).symm⟩
  have hsize : ∀ p ∈ found, 0 < p.2.itemCount := by
    intro p hp
    obtain ⟨l, hl, -, hmessages⟩ := Attempt.exists_mem_of_forall₂ hleaves hp
    rw [hmessages, messages, Value.itemCount, List.length_map]
    exact List.length_pos_iff.mpr (hfilled l hl)
  have hentries : t.entryCount = (found.map fun p => p.2.itemCount).sum := by
    have hcounts : (found.map fun p => p.2.itemCount) = t.leaves.map fun l => l.2.length := by
      refine Attempt.map_eq_map_of_forall₂ (hleaves.imp fun p l hp => ?_)
      rw [hp.2, messages, Value.itemCount, List.length_map]
    rw [entryCount, hcounts]
  have hperm := perm_arranged found
  refine ⟨found, hleaves, flatMap_eq_arranged found ▸ hperm.map pathEntry, ?_⟩
  rw [hentries, ← sum_lastOfEachPath_eq_iff found hsize, messageCount, flatMap_eq_arranged, List.map_map,
    ← (hperm.map fun p => p.2.itemCount).sum_eq]
  rfl

end Tree

/-! ## Payloads -/

/-- The payload of the standard formatter for a tree and its flat form. -/
def standardPayload (tree : ErrorTree) (flat : Entries) : Value :=
  .dict [(.text "message", .text "Validation failed"), (.text "errors", tree.toDict),
    (.text "errors_flat", .dict flat)]

theorem build_standard_eq_ok_iff {a : Aggregator} (hformatter : a.formatter = Formatter.standard)
    {children : List (Value × ErrorTree)} {payload : Value} :
    a.build (.node children) = .ok payload ↔
      ∃ tree flat, a.translate (.node children) = .ok tree ∧ tree.flatten = .ok flat ∧
        payload = standardPayload tree flat := by
  simp only [Aggregator.build, Aggregator.layOut, hformatter, Formatter.standard, Attempt.bind_eq_ok_iff,
    pure_bind, if_true, Attempt.pure_eq_ok_iff]
  constructor
  · rintro ⟨tree, htree, flat, hflat, rfl⟩
    obtain ⟨others, rfl⟩ := Aggregator.exists_node_of_translate htree
    exact ⟨_, flat, htree, flattenValue_toDict others ▸ hflat, rfl⟩
  · rintro ⟨tree, flat, htree, hflat, rfl⟩
    obtain ⟨others, rfl⟩ := Aggregator.exists_node_of_translate htree
    exact ⟨_, htree, flat, (flattenValue_toDict others).trans hflat, rfl⟩

section

variable {convert : Bool} {data : Entries}

/-- Whether no leaf of a tree is empty. -/
def Tree.IsFilled (t : ErrorTree) : Prop := ∀ l ∈ t.leaves, l.2 ≠ []

theorem Tree.isFilled_leaf {entries : List Entry} (h : entries ≠ []) : Tree.IsFilled (.leaf entries) := by
  intro l hl
  obtain rfl := List.mem_singleton.mp hl
  exact h

theorem Tree.isFilled_node {children : List (Value × ErrorTree)} (h : ∀ c ∈ children, Tree.IsFilled c.2) :
    Tree.IsFilled (.node children) := by
  intro l hl
  obtain ⟨c, hc, own, hown, rfl⟩ := Tree.mem_leavesBelow_iff.mp hl
  exact h c hc own hown

/-- No leaf of the errors of a field is empty if none is under its rule. -/
theorem isFilled_of_fieldFits {fields : List (Value × Rule)} {name : Value} {errors : ErrorTree}
    (hrules : ∀ rule value, TreeFits convert data rule value errors → errors.IsFilled)
    (h : FieldFits convert data fields name errors) : errors.IsFilled := by
  cases h with
  | missing isField absent filled => exact Tree.isFilled_leaf filled
  | present isField found fits => exact hrules _ _ fits

/-- No leaf of the errors of a value under a rule is empty. -/
theorem isFilled_of_treeFits {errors : ErrorTree} {rule : Rule} {value : Value}
    (h : TreeFits convert data rule value errors) : errors.IsFilled := by
  induction errors using Tree.induction generalizing data rule value with
  | leaf content =>
    cases h with
    | leaf filled => exact Tree.isFilled_leaf filled
  | node children ih =>
    refine Tree.isFilled_node fun c hc => ?_
    cases h with
    | object selected fits =>
      obtain ⟨-, -, heach⟩ := fits
      exact isFilled_of_fieldFits (fun rule value => ih c hc) (heach c hc)
    | array selected given filled increasing keys each =>
      have hfits := each c hc
      obtain ⟨key, errors⟩ := c
      cases hfits with
      | intro isItem fits => exact ih _ hc fits

/-- No leaf of the errors of an outcome is empty. -/
theorem isFilled_of_isShaped {schema : Schema} {value rejected : Value} {errors : ErrorTree}
    (h : (Outcome.rejected rejected errors).IsShaped convert schema value) : errors.IsFilled := by
  rcases h.of_rejected with rfl | ⟨entries, children, rfl, -, -, heach⟩
  · refine Tree.isFilled_node fun c hc => ?_
    obtain rfl := List.mem_singleton.mp hc
    exact Tree.isFilled_leaf (List.cons_ne_nil _ _)
  · exact Tree.isFilled_node fun c hc => isFilled_of_fieldFits (fun _ _ => isFilled_of_treeFits) (heach c hc)

/-- The errors of an outcome are those of fields. -/
theorem exists_node_of_isShaped {schema : Schema} {value rejected : Value} {errors : ErrorTree}
    (h : (Outcome.rejected rejected errors).IsShaped convert schema value) :
    ∃ children, errors = .node children := by
  rcases h.of_rejected with rfl | ⟨entries, children, rfl, -⟩
  · exact ⟨_, rfl⟩
  · exact ⟨children, rfl⟩

end

/-- Translating messages leaves every leaf as long as it is. -/
theorem isFilled_of_translate {a : Aggregator} {errors tree : ErrorTree} (hfilled : errors.IsFilled)
    (h : a.translate errors = .ok tree) : tree.IsFilled := by
  intro l hl
  obtain ⟨own, hown, -, hrender⟩ := Attempt.exists_mem_of_forall₂' (Tree.forall₂_of_traverse errors h) hl
  have hlength := (Attempt.mapM_eq_ok_iff.mp hrender).length_eq
  rintro hempty
  rw [hempty] at hlength
  exact hfilled own hown (List.length_eq_zero_iff.mp hlength)

/-- A validation that fails under the standard formatter reports, for every path, the messages of the last
leaf that has it; none is lost just when no two leaves have the same path. -/
theorem reports_of_validate {c : Configuration}
    (hformatter : Configuration.formatterOf c.formatter = Formatter.standard) {caller : Caller}
    {arguments : CallArguments} {schema : Schema} {value payload : Value}
    (h : (c.validate caller arguments schema value).verdict = some (.ok (.failed payload))) :
    ∃ tree found flat, payload = standardPayload tree flat ∧
      Tree.ReportsLastOfEachPath found flat tree := by
  obtain ⟨settings, context, o, -, hshaped, hverdict⟩ := Parallel.exists_verdictOf_of_validate h
  cases o with
  | accepted record notes => cases hverdict
  | rejected rejected errors =>
    obtain ⟨built, hbuild, hpayload⟩ := Attempt.map_eq_ok_iff.mp hverdict
    cases hpayload
    obtain ⟨children, rfl⟩ := exists_node_of_isShaped hshaped
    obtain ⟨tree, flat, htree, hflat, rfl⟩ := (build_standard_eq_ok_iff hformatter).mp hbuild
    obtain ⟨found, hreports⟩ :=
      Tree.exists_reports_of_flatten (isFilled_of_translate (isFilled_of_isShaped hshaped) htree) hflat
    exact ⟨tree, found, flat, rfl, hreports⟩

namespace Sample

/-- A schema with a nested field, and a field of the name that is the path of the nested one. -/
def dottedSchema : Schema :=
  ⟨[(.text "a", .object (unhooked false) [(.text "b", anyText true)] []),
    (.text "a.b", .number (unhooked false) ⟨.null, .null, .null⟩)], []⟩

/-- A record with errors in both fields. -/
def dottedRecord : Value := .dict [(.text "a", .dict []), (.text "a.b", .text "x")]

/-- The error of a missing value. -/
def missing : Entry := ⟨.text "required", .text "is required", []⟩

/-- The error of a value that is no number. -/
def notNumber : Entry := ⟨.text "number", .text "must be a number", []⟩

/-- The errors of the record. -/
def dottedErrors : ErrorTree :=
  .node [(.text "a", .node [(.text "b", .leaf [missing])]), (.text "a.b", .leaf [notNumber])]

/-- The flat form of the errors. -/
def dottedFlat : Entries := [(.text "a.b", .list [.text "must be a number"])]

theorem validate_dottedRecord :
    (Configuration.standard.validate .blocking ⟨[], .null⟩ dottedSchema dottedRecord).verdict =
      some (.ok (.failed (standardPayload dottedErrors dottedFlat))) := by
  rfl

end Sample

open Sample in
/-- Two leaves with the same path are reported by one entry. -/
theorem reports_of_validate_sample :
    ∃ payload, (Configuration.standard.validate .blocking ⟨[], .null⟩ dottedSchema dottedRecord).verdict =
        some (.ok (.failed payload)) ∧
      ∃ tree found flat, payload = standardPayload tree flat ∧
        Tree.ReportsLastOfEachPath found flat tree :=
  ⟨_, validate_dottedRecord, reports_of_validate rfl validate_dottedRecord⟩

open Sample in
/-- Where a name of a field has a point in it, the message of another field may be lost. -/
theorem not_reports_every_message :
    ¬ ∀ (c : Configuration) (caller : Caller) (arguments : CallArguments) (schema : Schema) (value : Value)
      (tree : ErrorTree) (flat : Entries),
      Configuration.formatterOf c.formatter = Formatter.standard →
      (∀ f ∈ schema.fields, f.1.isText = true) →
      (c.validate caller arguments schema value).verdict = some (.ok (.failed (standardPayload tree flat))) →
        (∀ l ∈ tree.leaves, ∀ e ∈ l.2, ∃ f ∈ flat, ∃ messages, f.2 = .list messages ∧ e.message ∈ messages) ∧
          messageCount flat = tree.entryCount := by
  intro hall
  obtain ⟨-, hcount⟩ := hall Configuration.standard .blocking ⟨[], .null⟩ dottedSchema dottedRecord dottedErrors
    dottedFlat rfl (by decide) validate_dottedRecord
  cases hcount

end RecordCheck
