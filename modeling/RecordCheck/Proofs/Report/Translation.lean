import RecordCheck.Proofs.Report.Arrangement
import RecordCheck.Proofs.Report.Injection
import RecordCheck.Proofs.Report.Losses
import RecordCheck.Proofs.Value.Writing

/-!
# Translated reports

The messages of a tree of errors are translated before the tree is handed out.  That leaves every leaf where it
is, so the flat form of the translated tree has the keys that the flat form of the tree has, in the same order.
Where several leaves have the same path it is the same one of them that both list, and each message in the one is
the translation of the message that stands in its place in the other.
-/

set_option autoImplicit false

namespace RecordCheck

namespace Tree

variable {α β γ : Type}

/-! ## Replacing leaves -/

mutual

/-- A tree with every leaf replaced by what a function gives for it. -/
def map (g : α → β) : Tree α → Tree β
  | leaf content => leaf (g content)
  | node children => node (mapChildren g children)

/-- Children with every leaf replaced by what a function gives for it. -/
def mapChildren (g : α → β) : List (Value × Tree α) → List (Value × Tree β)
  | [] => []
  | (key, t) :: rest => (key, map g t) :: mapChildren g rest

end

section

variable {f : α → Attempt β} {g : α → β}

mutual

/-- A tree is traversed to what a function makes of it if each leaf is replaced as by the function. -/
theorem traverse_eq_map : ∀ t : Tree α, (∀ l ∈ t.leaves, f l.2 = .ok (g l.2)) →
    traverse f t = .ok (t.map g)
  | leaf content, h => by
    rw [traverse, h ([], content) (List.mem_singleton_self _)]
    rfl
  | node children, h => by
    rw [traverse, traverseChildren_eq_mapChildren children h]
    rfl

theorem traverseChildren_eq_mapChildren : ∀ children : List (Value × Tree α),
    (∀ l ∈ leavesBelow children, f l.2 = .ok (g l.2)) →
      traverseChildren f children = .ok (mapChildren g children)
  | [], _ => rfl
  | (key, t) :: rest, h => by
    obtain ⟨hown, hrest⟩ := List.forall_mem_append.mp h
    rw [List.forall_mem_map] at hown
    rw [traverseChildren, traverse_eq_map t hown, traverseChildren_eq_mapChildren rest hrest]
    rfl

end

mutual

/-- Reading the leaves of a tree that were replaced is reading those that replace them, under the same paths. -/
theorem leavesUnder_map (read : β → Attempt γ) (path : String) : ∀ t : Tree α,
    leavesUnder read path (t.map g) = leavesUnder (fun a => read (g a)) path t
  | leaf _ => rfl
  | node children => leavesOf_mapChildren read path children

theorem leavesOf_mapChildren (read : β → Attempt γ) (path : String) : ∀ children : List (Value × Tree α),
    leavesOf read path (mapChildren g children) = leavesOf (fun a => read (g a)) path children
  | [] => rfl
  | (key, t) :: rest => by
    rw [mapChildren, leavesOf, leavesOf, leavesOf_mapChildren read path rest]
    congr 1
    funext below
    rw [leavesUnder_map read below t]

end

mutual

/-- What is read of every leaf may as well be read after all leaves are found. -/
theorem leavesUnder_pure (path : String) : ∀ t : Tree α,
    leavesUnder (fun a => pure (g a)) path t = List.map (Prod.map id g) <$> leavesUnder pure path t
  | leaf _ => rfl
  | node children => leavesOf_pure path children

theorem leavesOf_pure (path : String) : ∀ children : List (Value × Tree α),
    leavesOf (fun a => pure (g a)) path children = List.map (Prod.map id g) <$> leavesOf pure path children
  | [] => rfl
  | (key, t) :: rest => by
    rw [leavesOf, leavesOf, map_bind]
    congr 1
    funext below
    rw [leavesUnder_pure below t, leavesOf_pure path rest, map_bind, bind_map_left]
    congr 1
    funext own
    rw [map_bind, bind_map_left]
    congr 1
    funext others
    rw [map_pure, List.map_append]

end

end

/-! ## Flattening -/

/-- A flat form lists what is read of the last leaf of each path. -/
theorem flattenWith_pure (read : α → List Value) (path : String) (t : Tree α) :
    flattenWith (fun a => pure (read a)) path t =
      (fun found => (arranged found).map fun l => (.text l.1, .list (read l.2))) <$> leavesUnder pure path t := by
  have hlist : leavesUnder (fun a => return .list (← pure (read a))) path t =
      List.map (Prod.map id fun a => Value.list (read a)) <$> leavesUnder pure path t :=
    leavesUnder_pure path t
  rw [flattenWith, hlist, bind_pure_comp, Functor.map_map]
  congr 1
  funext found
  exact flatMap_map (fun a => .list (read a)) found

theorem flattenWith_map {g : α → β} (read : β → Attempt (List Value)) (path : String) (t : Tree α) :
    flattenWith read path (t.map g) = flattenWith (fun a => read (g a)) path t := by
  rw [flattenWith, leavesUnder_map, flattenWith]

mutual

/-- No leaf is found where there is a key without a text. -/
theorem leavesUnder_eq_error : ∀ (t : Tree α) (path : String), ¬ t.EveryKey (·.hasText = true) →
    leavesUnder pure path t = .error (.operation .longInteger)
  | leaf _, _, h => absurd trivial h
  | node children, path, h => leavesOf_eq_error children path h

theorem leavesOf_eq_error : ∀ (children : List (Value × Tree α)) (path : String),
    ¬ EveryKeyBelow (·.hasText = true) children → leavesOf pure path children = .error (.operation .longInteger)
  | [], _, h => absurd trivial h
  | (key, t) :: rest, path, h => by
    rw [leavesOf]
    cases hkey : key.textOf with
    | error fault =>
      rw [childPath, hkey, (Value.textOf_eq_error_iff.mp hkey).2]
      rfl
    | ok s =>
      obtain ⟨below, hbelow⟩ : ∃ below, childPath path key = .ok below := by
        rw [childPath, hkey]
        exact ⟨_, rfl⟩
      rw [hbelow, Attempt.ok_bind]
      by_cases ht : t.EveryKey (·.hasText = true)
      · have hrest : ¬ EveryKeyBelow (·.hasText = true) rest := fun hrest =>
          h ⟨Value.exists_textOf_iff.mp ⟨s, hkey⟩, ht, hrest⟩
        have hread : ∀ a : α, ∃ b, (pure a : Attempt α) = .ok b := fun a => ⟨a, rfl⟩
        obtain ⟨own, hown⟩ := exists_leavesUnder hread t below (ht.imp fun _ => Value.exists_textOf_iff.mpr)
        rw [hown, Attempt.ok_bind, leavesOf_eq_error rest path hrest]
        rfl
      · rw [leavesUnder_eq_error t below ht]
        rfl

end

end Tree

/-! ## Translating -/

/-- Whether a translator gives a message for every entry of a tree, and which. -/
def Aggregator.Gives (a : Aggregator) (t : ErrorTree) (message : Entry → Value) : Prop :=
  ∀ l ∈ t.leaves, ∀ e ∈ l.2, a.translator e.code e.message e.details = .ok (message e)

/-- An entry with another message. -/
def Entry.saying (message : Entry → Value) (e : Entry) : Entry := { e with message := message e }

/-- A tree with its entries written as they are. -/
def ErrorTree.toEntries (t : ErrorTree) : Value :=
  t.toValue fun entries => .list (entries.map Entry.toValue)

section

variable {a : Aggregator} {t : ErrorTree} {message : Entry → Value}

/-- A translated tree is the tree with other messages in its entries. -/
theorem Aggregator.Gives.translate_eq (h : a.Gives t message) :
    a.translate t = .ok (t.map (List.map (Entry.saying message))) := by
  refine Tree.traverse_eq_map t fun l hl => Attempt.mapM_eq_ok_iff.mpr ?_
  rw [List.forall₂_map_right_iff, List.forall₂_same]
  exact fun e he => render_eq_ok_iff.mpr ⟨rfl, rfl, h l hl e he⟩

/-- The flat form of a tree that is written as it is lists the messages of its leaves. -/
theorem flattenValue_toEntries (path : String) (children : List (Value × ErrorTree)) :
    flattenValue path (ErrorTree.toEntries (.node children)) =
      (fun found => (arranged found).map fun l => (.text l.1, .list (l.2.map (·.message)))) <$>
        Tree.leavesUnder pure path (.node children) := by
  rw [ErrorTree.toEntries, Tree.flattenValue_toValue fun _ => rfl, Tree.flattenWith_pure]

/-- The flat form of a tree with other messages lists those messages instead. -/
theorem flattenValue_toDict_map (message : Entry → Value) (path : String) (children : List (Value × ErrorTree)) :
    flattenValue path (ErrorTree.toDict ((Tree.node children).map (List.map (Entry.saying message)))) =
      (fun found => (arranged found).map fun l => (.text l.1, .list (l.2.map message))) <$>
        Tree.leavesUnder pure path (.node children) := by
  have hflatten : flattenValue path (ErrorTree.toDict ((Tree.node children).map (List.map (Entry.saying message)))) =
      Tree.flattenWith (fun entries => pure (entries.map (·.message))) path
        ((Tree.node children).map (List.map (Entry.saying message))) :=
    Tree.flattenValue_toValue (fun _ => rfl) path _
  rw [hflatten, Tree.flattenWith_map, ← Tree.flattenWith_pure]
  simp only [List.map_map, Function.comp_def, Entry.saying]

end

/-! ## Flat forms before and after -/

/-- The flat forms of a tree and of the tree translated have the same keys in the same order: both list, for each path,
the last leaf that has it, the one with the messages of its entries and the other with what the translator gives for
each of them.  If there is a key that has no text neither can be made, and if the translator keeps every message the
two are equal. -/
theorem flatten_translate {a : Aggregator} {children : List (Value × ErrorTree)} {message : Entry → Value}
    (hgives : a.Gives (.node children) message) (path : String) :
    ∃ others, a.translate (.node children) = .ok (.node others) ∧
      ((¬ (Tree.node children).EveryKey (·.hasText = true) ∧
          flattenValue path (ErrorTree.toEntries (.node children)) = .error (.operation .longInteger) ∧
          flattenValue path (ErrorTree.toDict (.node others)) = .error (.operation .longInteger)) ∨
        ∃ found listed,
          List.Forall₂ (fun l p => Tree.pathUnder path l.1 = .ok p.1 ∧ l.2 = p.2) (Tree.node children).leaves found ∧
          ListsLastOfEachPath found listed ∧
          flattenValue path (ErrorTree.toEntries (.node children)) =
            .ok (listed.map fun l => (.text l.1, .list (l.2.map (·.message)))) ∧
          flattenValue path (ErrorTree.toDict (.node others)) =
            .ok (listed.map fun l => (.text l.1, .list (l.2.map message)))) ∧
      (a.translator = Translator.identity →
        flattenValue path (ErrorTree.toDict (.node others)) =
          flattenValue path (ErrorTree.toEntries (.node children))) := by
  have hraw := flattenValue_toEntries path children
  have hrendered := flattenValue_toDict_map message path children
  refine ⟨_, hgives.translate_eq, ?_, fun hidentity => ?_⟩
  · by_cases hkeys : (Tree.node children).EveryKey (·.hasText = true)
    · have hread : ∀ entries : List Entry, ∃ b, (pure entries : Attempt (List Entry)) = .ok b :=
        fun entries => ⟨entries, rfl⟩
      obtain ⟨found, hfound⟩ := Tree.exists_leavesUnder hread (.node children) path
        (hkeys.imp fun _ => Value.exists_textOf_iff.mpr)
      rw [hfound] at hraw hrendered
      refine .inr ⟨found, arranged found, ?_, listsLastOfEachPath_arranged found, hraw, hrendered⟩
      exact (Tree.forall₂_of_leavesUnder _ hfound).imp fun l p ⟨hpath, hread⟩ =>
        ⟨hpath, Attempt.pure_eq_ok_iff.mp hread⟩
    · rw [Tree.leavesUnder_eq_error _ path hkeys] at hraw hrendered
      exact .inl ⟨hkeys, hraw, hrendered⟩
  · have hsame : a.Gives (.node children) (·.message) := fun l _ e _ => by
      rw [hidentity]
      rfl
    have htranslated : (Tree.node children).map (List.map (Entry.saying message)) =
        (Tree.node children).map (List.map (Entry.saying (·.message))) :=
      Except.ok.inj (hgives.translate_eq.symm.trans hsame.translate_eq)
    exact (congrArg (fun t => flattenValue path (ErrorTree.toDict t)) htranslated).trans
      ((flattenValue_toDict_map (·.message) path children).trans hraw.symm)

namespace Sample

/-- An aggregator that has every message replaced by its code. -/
def givesCodes : Aggregator := ⟨Formatter.standard, fun code _ _ => pure code⟩

end Sample

open Sample in
/-- Two leaves with the same path are listed by one entry before and after. -/
theorem flatten_translate_dottedErrors :
    givesCodes.Gives dottedErrors (·.code) ∧
      ∃ others, ∃ listed : List (String × List Entry), givesCodes.translate dottedErrors = .ok (.node others) ∧
        flattenValue "" (ErrorTree.toDict (.node others)) =
          .ok (listed.map fun l => (.text l.1, .list (l.2.map (·.code)))) ∧
        listed.length = 1 := by
  have hgives : givesCodes.Gives dottedErrors (·.code) := fun _ _ _ _ => rfl
  have hraw : flattenValue "" (ErrorTree.toEntries dottedErrors) = .ok dottedFlat := rfl
  obtain ⟨others, htranslate, hflat, -⟩ := flatten_translate hgives ""
  rcases hflat with ⟨-, hfault, -⟩ | ⟨found, listed, -, -, hmessages, hcodes⟩
  · cases hraw.symm.trans hfault
  · have hlisted := congrArg List.length (Except.ok.inj (hraw.symm.trans hmessages))
    rw [List.length_map] at hlisted
    exact ⟨hgives, others, listed, htranslate, hcodes, hlisted.symm⟩

end RecordCheck
