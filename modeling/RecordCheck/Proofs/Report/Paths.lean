import RecordCheck.Proofs.Parallel.ErrorTree
import RecordCheck.Proofs.Report.Leaves
import RecordCheck.Proofs.Soundness
import RecordCheck.Proofs.Text

/-!
# The paths of errors

Where no name of a field is empty or has a point in it, the flat form of an error tree addresses the leaves
of the tree one to one.  The path of a leaf, split at the points, is what the keys on the way to the leaf
say, names as they are and indices in decimal, so that no two leaves have the same path.
-/

set_option autoImplicit false

namespace RecordCheck

/-! ## Keys in paths -/

/-- What a key says in a path: a name itself, an index its decimal digits. -/
def Value.segment : Value → List Char
  | .text name => name.toList
  | .number (.int index) => (toString index).toList
  | _ => []

/-- Whether a key is written as it is said in a path, and can be told from what stands around it there. -/
structure Value.IsPlainKey (key : Value) : Prop where
  text : key.textOf = .ok (String.ofList key.segment)
  filled : key.segment ≠ []
  whole : '.' ∉ key.segment

/-- Whether a key is no integer, or one that has not too many digits to be written. -/
def Value.CanBeWritten (key : Value) : Prop := ∀ index, key = .int index → Number.fitsText index = true

namespace Value

theorem isPlainKey_text {name : String} (hfilled : name ≠ "") (hwhole : '.' ∉ name.toList) :
    (text name).IsPlainKey where
  text := rfl
  filled := by simpa [segment] using hfilled
  whole := hwhole

theorem segment_int (index : Nat) : (int index).segment = Text.digits index := Text.toList_toString index

theorem isPlainKey_int {index : Nat} (h : (int index).CanBeWritten) : (int index).IsPlainKey where
  text := by
    rw [segment_int, ← Text.integerText_natCast]
    simp [int, textOf, textChars, numberText, Number.text?, h index rfl]
  filled := by
    rw [segment_int]
    exact Text.digits_ne_nil index
  whole := by
    rw [segment_int]
    intro hpoint
    cases Text.isDigit_of_mem_digits hpoint

end Value

namespace Tree

variable {α : Type}

/-! ## Paths of plain keys -/

section

variable {keys : List Value} {path : String}

/-- Keys are added to a path one by one, each after a point. -/
theorem toList_of_pathUnder {parent : String} (hparent : parent ≠ "")
    (hkeys : ∀ key ∈ keys, key.IsPlainKey) (h : pathUnder parent keys = .ok path) :
    path.toList = ['.'].intercalate (parent.toList :: keys.map Value.segment) := by
  induction keys generalizing parent with
  | nil =>
    cases Attempt.pure_eq_ok_iff.mp h
    rw [List.map_nil, List.intercalate_singleton]
  | cons key rest ih =>
    obtain ⟨hkey, hrest⟩ := List.forall_mem_cons.mp hkeys
    have hbelow : childPath parent key = .ok (parent ++ "." ++ String.ofList key.segment) := by
      rw [childPath, hkey.text, Attempt.ok_bind, if_neg hparent]
      rfl
    rw [pathUnder, hbelow, Attempt.ok_bind] at h
    rw [ih (by simp [hparent]) hrest h, List.map_cons, ← Text.intercalate_append]
    simp

/-- A path of plain keys, split at the points, is what the keys say. -/
theorem splitOn_of_pathUnder (hfilled : keys ≠ []) (hkeys : ∀ key ∈ keys, key.IsPlainKey)
    (h : pathUnder "" keys = .ok path) : path.toList.splitOn '.' = keys.map Value.segment := by
  cases keys with
  | nil => exact absurd rfl hfilled
  | cons key rest =>
    obtain ⟨hkey, hrest⟩ := List.forall_mem_cons.mp hkeys
    have hbelow : childPath "" key = .ok (String.ofList key.segment) := by
      rw [childPath, hkey.text, Attempt.ok_bind, if_pos rfl]
      rfl
    rw [pathUnder, hbelow, Attempt.ok_bind] at h
    have hpath := toList_of_pathUnder (by simpa using hkey.filled) hrest h
    rw [String.toList_ofList, ← List.map_cons] at hpath
    rw [hpath]
    refine List.splitOn_intercalate '.' (fun segment hsegment => ?_) (by simp)
    obtain ⟨other, hother, rfl⟩ := List.mem_map.mp hsegment
    exact (hkeys other hother).whole

end

/-! ## Trees of plain keys -/

mutual

/-- Whether no two children of a node say the same in a path. -/
def SiblingsDiffer : Tree α → Prop
  | leaf _ => True
  | node children => (children.map fun c => c.1.segment).Nodup ∧ SiblingsDifferBelow children

/-- Whether no two children of a node below some children say the same in a path. -/
def SiblingsDifferBelow : List (Value × Tree α) → Prop
  | [] => True
  | (_, t) :: rest => SiblingsDiffer t ∧ SiblingsDifferBelow rest

end

theorem siblingsDifferBelow_iff {children : List (Value × Tree α)} :
    SiblingsDifferBelow children ↔ ∀ c ∈ children, c.2.SiblingsDiffer := by
  induction children with
  | nil => simp [SiblingsDifferBelow]
  | cons c rest ih => rw [SiblingsDifferBelow, ih, List.forall_mem_cons]

/-- Whether every key in a tree is plain, and no two children of a node say the same in a path. -/
structure IsAddressable (t : Tree α) : Prop where
  keys : t.EveryKey Value.IsPlainKey
  siblings : t.SiblingsDiffer

theorem isAddressable_node_iff {children : List (Value × Tree α)} :
    (node children).IsAddressable ↔
      (children.map fun c => c.1.segment).Nodup ∧
        ∀ c ∈ children, c.1.IsPlainKey ∧ c.2.IsAddressable := by
  constructor
  · rintro ⟨hkeys, hdiffer, hbelow⟩
    have hkeys := everyKeyBelow_iff.mp hkeys
    have hbelow := siblingsDifferBelow_iff.mp hbelow
    exact ⟨hdiffer, fun c hc => ⟨(hkeys c hc).1, (hkeys c hc).2, hbelow c hc⟩⟩
  · rintro ⟨hdiffer, hbelow⟩
    exact ⟨everyKeyBelow_iff.mpr fun c hc => ⟨(hbelow c hc).1, (hbelow c hc).2.keys⟩, hdiffer,
      siblingsDifferBelow_iff.mpr fun c hc => (hbelow c hc).2.siblings⟩

/-- No two leaves below children are reached by keys that say the same. -/
theorem nodup_segments_leavesBelow {children : List (Value × Tree α)}
    (hdiffer : (children.map fun c => c.1.segment).Nodup)
    (hbelow : ∀ c ∈ children, (c.2.leaves.map fun l => l.1.map Value.segment).Nodup) :
    ((leavesBelow children).map fun l => l.1.map Value.segment).Nodup := by
  induction children with
  | nil => exact List.nodup_nil
  | cons c rest ih =>
    obtain ⟨hnot, hrest⟩ := List.nodup_cons.mp hdiffer
    obtain ⟨hfirst, hothers⟩ := List.forall_mem_cons.mp hbelow
    have hown : ((c.2.leaves.map fun l => (c.1 :: l.1, l.2)).map fun l => l.1.map Value.segment) =
        (c.2.leaves.map fun l => l.1.map Value.segment).map (c.1.segment :: ·) := by
      rw [List.map_map, List.map_map]
      rfl
    rw [leavesBelow, List.map_append, hown]
    refine (hfirst.map fun _ _ h => List.tail_eq_of_cons_eq h).append (ih hrest hothers) ?_
    intro segments hown hother
    obtain ⟨tail, -, rfl⟩ := List.mem_map.mp hown
    obtain ⟨l, hl, hsegments⟩ := List.mem_map.mp hother
    obtain ⟨other, hmem, own, -, rfl⟩ := mem_leavesBelow_iff.mp hl
    exact hnot (List.mem_map.mpr ⟨other, hmem, List.head_eq_of_cons_eq hsegments⟩)

/-- No two leaves of a tree are reached by keys that say the same. -/
theorem nodup_segments_leaves {t : Tree α} (h : t.IsAddressable) :
    (t.leaves.map fun l => l.1.map Value.segment).Nodup := by
  induction t using Tree.induction with
  | leaf content => exact List.nodup_singleton _
  | node children ih =>
    obtain ⟨hdiffer, hbelow⟩ := isAddressable_node_iff.mp h
    exact nodup_segments_leavesBelow hdiffer fun c hc => ih c hc (hbelow c hc).2

/-- The keys on the way to a leaf are keys of the tree. -/
theorem EveryKey.of_mem_leaves {P : Value → Prop} {t : Tree α} (h : t.EveryKey P) :
    ∀ l ∈ t.leaves, ∀ key ∈ l.1, P key := by
  induction t using Tree.induction with
  | leaf content =>
    intro l hl key hkey
    obtain rfl := List.mem_singleton.mp hl
    cases hkey
  | node children ih =>
    intro l hl key hkey
    obtain ⟨c, hc, own, hown, rfl⟩ := mem_leavesBelow_iff.mp hl
    obtain ⟨hself, hbelow⟩ := everyKeyBelow_iff.mp h c hc
    rcases List.mem_cons.mp hkey with rfl | hrest
    · exact hself
    · exact ih c hc hbelow own hown key hrest

/-! ## Addresses -/

/-- Whether a flat mapping has an entry for every leaf of a tree, depth first, whose key, split at the
points, is what the keys on the way to the leaf say, and whose value are the messages of the leaf in order;
and no key twice. -/
structure Addresses (flat : Entries) (t : ErrorTree) : Prop where
  each : List.Forall₂ (fun e l =>
    (∃ path : String, e.1 = .text path ∧ path.toList.splitOn '.' = l.1.map Value.segment) ∧
      e.2 = .list (l.2.map (·.message))) flat t.leaves
  distinct : flat.keys.Nodup

section

variable {children : List (Value × ErrorTree)} {found : List (String × Value)}

/-- The paths of the leaves below a node of plain keys, split at the points, are what the keys say. -/
theorem forall₂_paths_of_isAddressable (h : (node children).IsAddressable)
    (hfound : leavesUnder (fun entries => pure (messages entries)) "" (node children) = .ok found) :
    List.Forall₂ (fun p l => p.1.toList.splitOn '.' = l.1.map Value.segment ∧ p.2 = messages l.2) found
      (node children).leaves := by
  have hmem := (List.forall₂_and_left _ _).mpr
    ⟨fun l (hl : l ∈ (node children).leaves) => hl, forall₂_of_leavesUnder _ hfound⟩
  refine hmem.flip.imp fun p l ⟨hl, hpath, hread⟩ => ⟨?_, (Attempt.pure_eq_ok_iff.mp hread).symm⟩
  refine splitOn_of_pathUnder ?_ (h.keys.of_mem_leaves l hl) hpath
  obtain ⟨c, -, own, -, rfl⟩ := mem_leavesBelow_iff.mp hl
  exact List.cons_ne_nil _ _

/-- No two leaves below a node of plain keys have the same path. -/
theorem nodup_paths_of_isAddressable (h : (node children).IsAddressable)
    (hfound : leavesUnder (fun entries => pure (messages entries)) "" (node children) = .ok found) :
    (found.map (·.1)).Nodup := by
  have hsegments : ((found.map (·.1)).map fun path : String => path.toList.splitOn '.') =
      (node children).leaves.map fun l => l.1.map Value.segment := by
    rw [List.map_map]
    exact Attempt.map_eq_map_of_forall₂
      ((forall₂_paths_of_isAddressable h hfound).imp fun p l hp => hp.1)
  have hnodup := nodup_segments_leaves h
  rw [← hsegments] at hnodup
  exact hnodup.of_map _

/-- A node of plain keys is flattened to a mapping that addresses its leaves. -/
theorem exists_addresses_of_isAddressable (h : (node children).IsAddressable) :
    ∃ flat, (node children).flatten = .ok flat ∧ Addresses flat (node children) := by
  have hread (entries : List Entry) : ∃ found, (pure (messages entries) : Attempt Value) = .ok found :=
    ⟨_, rfl⟩
  obtain ⟨found, hfound⟩ := exists_leavesUnder hread (node children) ""
    (h.keys.imp fun key hkey => ⟨_, hkey.text⟩)
  have hdistinct := nodup_paths_of_isAddressable h hfound
  refine ⟨_, flatten_eq_ok_iff.mpr ⟨found, hfound, flatMap_eq_map hdistinct⟩, ?_, ?_⟩
  · rw [List.forall₂_map_left_iff]
    exact (forall₂_paths_of_isAddressable h hfound).imp fun p l ⟨hpath, hread⟩ => ⟨⟨p.1, rfl, hpath⟩, hread⟩
  · have htexts : Entries.keys (found.map pathEntry) = (found.map (·.1)).map .text := by
      rw [Entries.keys, List.map_map, List.map_map]
      rfl
    rw [htexts]
    exact hdistinct.map fun _ _ => Value.text.inj

end

end Tree

/-! ## Trees of errors under rules -/

/-- Whether fields have plain texts as names, none of them empty or with a point in it, and no two the
same. -/
def HasPathNames {α : Type} (fields : List (Value × α)) : Prop :=
  ∃ names : List String, names.Nodup ∧ (∀ name ∈ names, name ≠ "" ∧ '.' ∉ name.toList) ∧
    fields.map (·.1) = names.map .text

/-- Whether the names of a nested record's fields can stand in paths. -/
def Rule.HasPathNames : Rule → Prop
  | .object _ fields _ => RecordCheck.HasPathNames fields
  | _ => True

/-- Whether the names of fields can stand in paths, at every level of a schema. -/
structure Schema.HasPathNames (schema : Schema) : Prop where
  names : RecordCheck.HasPathNames schema.fields
  rules : ∀ f ∈ schema.fields, f.2.Everywhere Rule.HasPathNames

section

variable {convert : Bool} {data : Entries}

/-- The errors of fields are addressable if their names can stand in paths. -/
theorem isAddressable_of_childrenFit {fields : List (Value × Rule)} {children : List (Value × ErrorTree)}
    (hnames : HasPathNames fields) (h : ChildrenFit convert data fields children)
    (hbelow : ∀ c ∈ children, c.2.IsAddressable) : (Tree.node children).IsAddressable := by
  obtain ⟨names, hnodup, hplain, hfields⟩ := hnames
  obtain ⟨-, horder, -⟩ := h
  rw [hfields] at horder
  refine Tree.isAddressable_node_iff.mpr ⟨?_, fun c hc => ⟨?_, hbelow c hc⟩⟩
  · have hsegments := horder.map Value.segment
    rw [List.map_map, List.map_map] at hsegments
    exact hsegments.nodup (hnodup.map fun _ _ => String.toList_inj.mp)
  · obtain ⟨name, hname, hkey⟩ := List.mem_map.mp (horder.subset (List.mem_map_of_mem hc))
    rw [← hkey]
    exact Value.isPlainKey_text (hplain name hname).1 (hplain name hname).2

/-- The errors of items are addressable if their indices can be written. -/
theorem isAddressable_of_indices {indices : List Nat} {children : List (Value × ErrorTree)}
    (hincreasing : indices.Pairwise (· < ·)) (hindices : children.map (·.1) = indices.map fun i : Nat => .int i)
    (hwritten : ∀ c ∈ children, c.1.CanBeWritten) (hbelow : ∀ c ∈ children, c.2.IsAddressable) :
    (Tree.node children).IsAddressable := by
  refine Tree.isAddressable_node_iff.mpr ⟨?_, fun c hc => ⟨?_, hbelow c hc⟩⟩
  · have hsegments := congrArg (List.map Value.segment) hindices
    rw [List.map_map, List.map_map] at hsegments
    have hdigits : (Value.segment ∘ fun i : Nat => Value.int i) = Text.digits := funext Value.segment_int
    rw [hdigits] at hsegments
    exact hsegments ▸ (hincreasing.imp fun hlt => Nat.ne_of_lt hlt).map _ fun _ _ hne hsame =>
      hne (Text.digits_injective hsame)
  · have hkey : c.1 ∈ indices.map fun i : Nat => Value.int i := hindices ▸ List.mem_map_of_mem hc
    obtain ⟨i, -, hi⟩ := List.mem_map.mp hkey
    have hwrites := hwritten c hc
    rw [← hi] at hwrites ⊢
    exact Value.isPlainKey_int hwrites

/-- The errors of a field are addressable if they are so under its rule. -/
theorem isAddressable_of_fieldFits {fields : List (Value × Rule)} {name : Value} {errors : ErrorTree}
    (hrules : ∀ f ∈ fields, ∀ value, TreeFits convert data f.2 value errors → errors.IsAddressable)
    (h : FieldFits convert data fields name errors) : errors.IsAddressable := by
  cases h with
  | missing => exact ⟨trivial, trivial⟩
  | present isField found fits => exact hrules _ isField _ fits

/-- The errors of a value under a rule are addressable if the names of fields can stand in paths and the
indices can be written. -/
theorem isAddressable_of_treeFits {errors : ErrorTree} {rule : Rule} {value : Value}
    (hrule : rule.Everywhere Rule.HasPathNames) (hwritten : errors.EveryKey Value.CanBeWritten)
    (h : TreeFits convert data rule value errors) : errors.IsAddressable := by
  induction errors using Tree.induction generalizing data rule value with
  | leaf content => exact ⟨trivial, trivial⟩
  | node children ih =>
    rw [Tree.EveryKey, Tree.everyKeyBelow_iff] at hwritten
    cases h with
    | object selected fits =>
      obtain ⟨hnames, hfields⟩ := hrule.of_activate selected
      rw [Rule.everywhereInFields_iff] at hfields
      obtain ⟨-, -, heach⟩ := id fits
      refine isAddressable_of_childrenFit hnames fits fun c hc => ?_
      exact isAddressable_of_fieldFits (fun f hf value => ih c hc (hfields f hf) (hwritten c hc).2) (heach c hc)
    | array selected given filled increasing keys each =>
      obtain ⟨-, helement⟩ := hrule.of_activate selected
      refine isAddressable_of_indices increasing keys (fun c hc => (hwritten c hc).1) fun c hc => ?_
      have hfits := each c hc
      obtain ⟨key, errors⟩ := c
      cases hfits with
      | intro isItem fits => exact ih _ hc helement (hwritten _ hc).2 fits

/-- The errors of an outcome are addressable if the names of fields can stand in paths and the indices can
be written. -/
theorem exists_addresses_of_isShaped {schema : Schema} {value rejected : Value} {errors : ErrorTree}
    (hnames : schema.HasPathNames) (hwritten : errors.EveryKey Value.CanBeWritten)
    (h : (Outcome.rejected rejected errors).IsShaped convert schema value) :
    ∃ flat, errors.flatten = .ok flat ∧ Tree.Addresses flat errors := by
  rcases h.of_rejected with rfl | ⟨entries, children, rfl, hchildren⟩
  · refine Tree.exists_addresses_of_isAddressable (Tree.isAddressable_node_iff.mpr ⟨by simp, fun c hc => ?_⟩)
    obtain rfl := List.mem_singleton.mp hc
    exact ⟨Value.isPlainKey_text (by decide) (by decide), trivial, trivial⟩
  · rw [Tree.EveryKey, Tree.everyKeyBelow_iff] at hwritten
    obtain ⟨-, -, heach⟩ := id hchildren
    refine Tree.exists_addresses_of_isAddressable (isAddressable_of_childrenFit hnames.names hchildren ?_)
    intro c hc
    exact isAddressable_of_fieldFits
      (fun f hf value => isAddressable_of_treeFits (hnames.rules f hf) (hwritten c hc).2) (heach c hc)

end

/-! ## Schemas -/

open Parallel in
/-- Whatever a value is rejected for under a schema whose names can stand in paths, in order and in every
run in parallel: flattening the errors yields a mapping that addresses their leaves one to one, unless an
array is so long that an index in it has too many digits to be written. -/
theorem addresses_of_validations {schema : Schema} (hnames : schema.HasPathNames) (value : Value) :
    (∀ registry context rejected errors,
      schema.validate registry context value = .ok (.rejected rejected errors) →
      errors.EveryKey Value.CanBeWritten →
        ∃ flat, errors.flatten = .ok flat ∧ Tree.Addresses flat errors) ∧
    (∀ registry standard context slots schedule s rejected errors,
      (State.start slots (planRecord registry standard context schema value)).follow schedule = some s →
      s.result? = some (.ok (.rejected rejected errors)) → errors.EveryKey Value.CanBeWritten →
        ∃ flat, errors.flatten = .ok flat ∧ Tree.Addresses flat errors) := by
  constructor
  · intro registry context rejected errors h hwritten
    exact exists_addresses_of_isShaped hnames hwritten (isShaped_of_validate registry context schema value _ h)
  · intro registry standard context slots schedule s rejected errors h hresult hwritten
    exact exists_addresses_of_isShaped hnames hwritten (isShaped_of_follow h hresult _ rfl)

namespace Sample

/-- A schema with a name and a home with gates. -/
def gatedSchema : Schema :=
  ⟨[(.text "name", anyText true),
    (.text "home", .object (unhooked false)
      [(.text "gates", .array (unhooked false) (some (anyText false)) ⟨.null, .null, .null, .text ","⟩)] [])],
    []⟩

/-- A record without a name, and with numbers for two of the gates. -/
def gatedRecord : Value :=
  .dict [(.text "home", .dict [(.text "gates", .list [.int 7, .text "north", .int 8])])]

/-- The error of a value that is no text. -/
def notText : Entry := ⟨.text "string", .text "must be a string", []⟩

/-- The errors of the record. -/
def gatedErrors : ErrorTree :=
  .node [(.text "name", .leaf [⟨.text "required", .text "is required", []⟩]),
    (.text "home", .node [(.text "gates", .node [(.int 0, .leaf [notText]), (.int 2, .leaf [notText])])])]

theorem hasPathNames_gatedSchema : gatedSchema.HasPathNames := by
  refine ⟨⟨["name", "home"], by decide, by decide, rfl⟩, ?_⟩
  rw [← Rule.everywhereInFields_iff]
  exact ⟨trivial, ⟨⟨["gates"], by decide, by decide, rfl⟩, ⟨trivial, trivial⟩, trivial⟩, trivial⟩

theorem canBeWritten_gatedErrors : gatedErrors.EveryKey Value.CanBeWritten := by
  refine ⟨nofun, trivial, nofun, ⟨nofun, ⟨?_, trivial, ?_, trivial, trivial⟩, trivial⟩, trivial⟩ <;>
    · rintro index ⟨⟩
      decide +kernel

/-- Whether a value is rejected for errors of a single field. -/
def isRejectedForField : Outcome → Bool
  | .rejected _ (.node [(.text _, .leaf _)]) => true
  | _ => false

end Sample

open Sample Parallel in
/-- The errors of nested records and arrays in a validation in order, and those of a field in one in
parallel. -/
theorem addresses_of_validations_sample :
    (∃ rejected flat, gatedSchema.validate (.empty "none") ⟨[], false, []⟩ gatedRecord =
        .ok (.rejected rejected gatedErrors) ∧
      gatedErrors.flatten = .ok flat ∧ Tree.Addresses flat gatedErrors ∧
      flat.length = 3) ∧
    ∃ s rejected errors flat,
      (State.start 1 (Parallel.Sample.plan Parallel.Sample.rejection)).follow Parallel.Sample.inTurn = some s ∧
        s.result? = some (.ok (.rejected rejected errors)) ∧ errors.flatten = .ok flat ∧
          Tree.Addresses flat errors := by
  constructor
  · have h : gatedSchema.validate (.empty "none") ⟨[], false, []⟩ gatedRecord =
        .ok (.rejected gatedRecord gatedErrors) := rfl
    obtain ⟨flat, hflat, haddresses⟩ := (addresses_of_validations hasPathNames_gatedSchema gatedRecord).1
      _ _ _ _ h canBeWritten_gatedErrors
    exact ⟨_, flat, h, hflat, haddresses, haddresses.each.length_eq⟩
  · have hrejected : ((State.start 1 (Parallel.Sample.plan Parallel.Sample.rejection)).follow
        Parallel.Sample.inTurn).any
          (fun s => s.result?.any fun result => result.toOption.any isRejectedForField) = true := by
      decide +kernel
    obtain ⟨s, o, hs, hresult, hfield⟩ := State.exists_outcome_of_any hrejected
    have hnames : (Parallel.Sample.schema Parallel.Sample.rejection).HasPathNames := by
      refine ⟨⟨["name", "mail"], by decide, by decide, rfl⟩, ?_⟩
      rw [← Rule.everywhereInFields_iff]
      exact ⟨trivial, trivial, trivial⟩
    unfold isRejectedForField at hfield
    split at hfield
    · obtain ⟨flat, hflat, haddresses⟩ := (addresses_of_validations hnames Parallel.Sample.record).2
        _ _ _ _ _ _ _ _ hs hresult ⟨nofun, trivial, trivial⟩
      exact ⟨s, _, _, flat, hs, hresult, hflat, haddresses⟩
    · cases hfield

end RecordCheck
