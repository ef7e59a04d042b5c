import RecordCheck.Proofs.Report.Leaves
import RecordCheck.Report.Payload

/-!
# Written trees

A tree of errors is handed out as a value: a node as a mapping, a leaf as a list of its entries, which may be
written in one way or another.  Flattening the value yields what flattening the tree does, because all that
is read of a leaf are the messages in it.
-/

set_option autoImplicit false

namespace RecordCheck

namespace Tree

section

variable {write : Entry → Value}

/-- The messages of a leaf are read off the list that it is written as. -/
theorem messagesOfLeaf_list (hwrite : ∀ e, messageOfItem (write e) = pure e.message)
    (entries : List Entry) :
    messagesOfLeaf (.list (entries.map write)) = pure (entries.map (·.message)) := by
  rw [messagesOfLeaf, Value.items, pure_bind, List.mapM_map]
  simp only [Function.comp_def, hwrite]
  exact List.mapM_pure

mutual

/-- The leaves of a written tree are those of the tree. -/
theorem leavesUnder_ofValue_toValue (hwrite : ∀ e, messageOfItem (write e) = pure e.message)
    (path : String) : ∀ t : ErrorTree,
    leavesUnder (fun leaf => return .list (← messagesOfLeaf leaf)) path
        (ofValue (t.toValue fun entries => .list (entries.map write))) =
      leavesUnder (fun entries => pure (messages entries)) path t
  | leaf entries => by
    rw [toValue, ofValue, leavesUnder, leavesUnder, messagesOfLeaf_list hwrite]
    · rfl
    · nofun
  | node children => leavesOf_childrenOf_childrenToEntries hwrite path children

/-- The leaves under written children are those under the children. -/
theorem leavesOf_childrenOf_childrenToEntries (hwrite : ∀ e, messageOfItem (write e) = pure e.message)
    (path : String) : ∀ children : List (Value × ErrorTree),
    leavesOf (fun leaf => return .list (← messagesOfLeaf leaf)) path
        (childrenOf (childrenToEntries (fun entries => .list (entries.map write)) children)) =
      leavesOf (fun entries => pure (messages entries)) path children
  | [] => rfl
  | (key, t) :: rest => by
    rw [childrenToEntries, childrenOf, leavesOf, leavesOf, leavesOf_childrenOf_childrenToEntries hwrite path rest]
    congr 1
    funext below
    rw [leavesUnder_ofValue_toValue hwrite below t]

end

/-- A written node is flattened like the node. -/
theorem flattenValue_toValue (hwrite : ∀ e, messageOfItem (write e) = pure e.message) (path : String)
    (children : List (Value × ErrorTree)) :
    flattenValue path ((node children).toValue fun entries => .list (entries.map write)) =
      flattenWith (fun entries => pure (entries.map (·.message))) path (node children) := by
  have hleaves := leavesUnder_ofValue_toValue hwrite path (node children)
  rw [toValue] at hleaves ⊢
  rw [flattenValue, treeEntries, pure_bind, flattenWith, hleaves]
  rfl

end

end Tree

/-- A node whose entries are written as mappings is flattened like the node. -/
theorem flattenValue_toDict (children : List (Value × ErrorTree)) :
    flattenValue "" (ErrorTree.toDict (.node children)) = Tree.flatten (.node children) :=
  Tree.flattenValue_toValue (fun _ => rfl) "" children

/-- Translating leaves a node a node. -/
theorem Aggregator.exists_node_of_translate {a : Aggregator} {children : List (Value × ErrorTree)}
    {tree : ErrorTree} (h : a.translate (.node children) = .ok tree) : ∃ others, tree = .node others := by
  obtain ⟨others, -, h⟩ := Attempt.bind_eq_ok_iff.mp h
  exact ⟨others, (Attempt.pure_eq_ok_iff.mp h).symm⟩

end RecordCheck
