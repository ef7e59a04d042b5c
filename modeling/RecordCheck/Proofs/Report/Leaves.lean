import RecordCheck.Proofs.Attempt
import RecordCheck.Proofs.Record
import RecordCheck.Report.Tree

/-!
# The leaves of a tree

A leaf is reached by the keys on the way to it.  Flattening a tree makes a path of these keys for every leaf
and reads the leaf, depth first, and puts what it has read into a mapping.
-/

set_option autoImplicit false

namespace RecordCheck

namespace Tree

variable {α β : Type}

/-- What holds of a tree when it holds of its children holds of every tree. -/
theorem induction {motive : Tree α → Prop} (leaf : ∀ content, motive (.leaf content))
    (node : ∀ children, (∀ c ∈ children, motive c.2) → motive (.node children)) (t : Tree α) : motive t :=
  @Tree.rec α motive (fun children => ∀ c ∈ children, motive c.2) (fun c => motive c.2) leaf node (by simp)
    (fun _ _ hfirst hrest => List.forall_mem_cons.mpr ⟨hfirst, hrest⟩) (fun _ _ h => h) t

/-! ## Leaves -/

mutual

/-- Every leaf with the keys on the way to it, depth first. -/
def leaves : Tree α → List (List Value × α)
  | leaf content => [([], content)]
  | node children => leavesBelow children

/-- Every leaf under children with the keys on the way to it, depth first. -/
def leavesBelow : List (Value × Tree α) → List (List Value × α)
  | [] => []
  | (key, t) :: rest => (leaves t).map (fun l => (key :: l.1, l.2)) ++ leavesBelow rest

end

theorem mem_leavesBelow_iff {children : List (Value × Tree α)} {l : List Value × α} :
    l ∈ leavesBelow children ↔ ∃ c ∈ children, ∃ own ∈ c.2.leaves, l = (c.1 :: own.1, own.2) := by
  induction children with
  | nil => simp [leavesBelow]
  | cons c rest ih => simp [leavesBelow, ih, eq_comm]

section

variable {f : α → Attempt β}

mutual

/-- Where every leaf of a tree is replaced, it is so under the same keys. -/
theorem forall₂_of_traverse : ∀ (t : Tree α) {u : Tree β}, traverse f t = .ok u →
    List.Forall₂ (fun l m => m.1 = l.1 ∧ f l.2 = .ok m.2) t.leaves u.leaves
  | leaf content, u, h => by
    obtain ⟨b, hb, h⟩ := Attempt.bind_eq_ok_iff.mp h
    cases Attempt.pure_eq_ok_iff.mp h
    exact .cons ⟨rfl, hb⟩ .nil
  | node children, u, h => by
    obtain ⟨others, hothers, h⟩ := Attempt.bind_eq_ok_iff.mp h
    cases Attempt.pure_eq_ok_iff.mp h
    exact forall₂_of_traverseChildren children hothers

/-- Where every leaf under children is replaced, it is so under the same keys. -/
theorem forall₂_of_traverseChildren : ∀ (children : List (Value × Tree α)) {others : List (Value × Tree β)},
    traverseChildren f children = .ok others →
      List.Forall₂ (fun l m => m.1 = l.1 ∧ f l.2 = .ok m.2) (leavesBelow children) (leavesBelow others)
  | [], others, h => by
    cases Attempt.pure_eq_ok_iff.mp h
    exact .nil
  | (key, t) :: rest, others, h => by
    obtain ⟨own, hown, h⟩ := Attempt.bind_eq_ok_iff.mp h
    obtain ⟨others, hothers, h⟩ := Attempt.bind_eq_ok_iff.mp h
    cases Attempt.pure_eq_ok_iff.mp h
    refine List.rel_append ?_ (forall₂_of_traverseChildren rest hothers)
    rw [List.forall₂_map_left_iff, List.forall₂_map_right_iff]
    exact (forall₂_of_traverse t hown).imp fun l m hm => ⟨congrArg (key :: ·) hm.1, hm.2⟩

end

end

/-! ## Keys -/

mutual

/-- Whether something holds of every key in a tree. -/
def EveryKey (P : Value → Prop) : Tree α → Prop
  | leaf _ => True
  | node children => EveryKeyBelow P children

/-- Whether something holds of the keys of children and of every key below them. -/
def EveryKeyBelow (P : Value → Prop) : List (Value × Tree α) → Prop
  | [] => True
  | (key, t) :: rest => P key ∧ EveryKey P t ∧ EveryKeyBelow P rest

end

theorem everyKeyBelow_iff {P : Value → Prop} {children : List (Value × Tree α)} :
    EveryKeyBelow P children ↔ ∀ c ∈ children, P c.1 ∧ c.2.EveryKey P := by
  induction children with
  | nil => simp [EveryKeyBelow]
  | cons c rest ih => rw [EveryKeyBelow, ih, List.forall_mem_cons, and_assoc]

theorem EveryKey.imp {P Q : Value → Prop} (h : ∀ key, P key → Q key) {t : Tree α} (ht : t.EveryKey P) :
    t.EveryKey Q := by
  induction t using Tree.induction with
  | leaf content => trivial
  | node children ih =>
    have hchildren := everyKeyBelow_iff.mp ht
    exact everyKeyBelow_iff.mpr fun c hc => ⟨h _ (hchildren c hc).1, ih c hc (hchildren c hc).2⟩

/-! ## Paths -/

/-- The path of what is reached by some keys from where another path leads. -/
def pathUnder (path : String) : List Value → Attempt String
  | [] => pure path
  | key :: rest => do pathUnder (← childPath path key) rest

section

variable {read : α → Attempt β}

mutual

/-- What is found under a tree: the path and what was read for every leaf. -/
theorem forall₂_of_leavesUnder : ∀ (t : Tree α) {path : String} {found : List (String × β)},
    leavesUnder read path t = .ok found →
      List.Forall₂ (fun l p => pathUnder path l.1 = .ok p.1 ∧ read l.2 = .ok p.2) t.leaves found
  | leaf content, path, found, h => by
    obtain ⟨b, hb, h⟩ := Attempt.bind_eq_ok_iff.mp h
    cases Attempt.pure_eq_ok_iff.mp h
    exact .cons ⟨rfl, hb⟩ .nil
  | node children, path, found, h => forall₂_of_leavesOf children h

/-- What is found under children: the path and what was read for every leaf. -/
theorem forall₂_of_leavesOf : ∀ (children : List (Value × Tree α)) {path : String}
    {found : List (String × β)}, leavesOf read path children = .ok found →
      List.Forall₂ (fun l p => pathUnder path l.1 = .ok p.1 ∧ read l.2 = .ok p.2) (leavesBelow children)
        found
  | [], path, found, h => by
    cases Attempt.pure_eq_ok_iff.mp h
    exact .nil
  | (key, t) :: rest, path, found, h => by
    obtain ⟨below, hbelow, h⟩ := Attempt.bind_eq_ok_iff.mp h
    obtain ⟨own, hown, h⟩ := Attempt.bind_eq_ok_iff.mp h
    obtain ⟨others, hothers, h⟩ := Attempt.bind_eq_ok_iff.mp h
    cases Attempt.pure_eq_ok_iff.mp h
    refine List.rel_append (List.forall₂_map_left_iff.mpr ?_) (forall₂_of_leavesOf rest hothers)
    refine (forall₂_of_leavesUnder t hown).imp fun l p ⟨hpath, hread⟩ => ⟨?_, hread⟩
    rw [pathUnder, hbelow]
    exact hpath

end

mutual

/-- The leaves of a tree are found if every key in it can be written and every leaf can be read. -/
theorem exists_leavesUnder (hread : ∀ a, ∃ b, read a = .ok b) : ∀ (t : Tree α) (path : String),
    t.EveryKey (fun key => ∃ s, key.textOf = .ok s) → ∃ found, leavesUnder read path t = .ok found
  | leaf content, path, _ => by
    obtain ⟨b, hb⟩ := hread content
    exact ⟨_, Attempt.bind_eq_ok_iff.mpr ⟨b, hb, rfl⟩⟩
  | node children, path, h => exists_leavesOf hread children path h

/-- The leaves under children are found if every key can be written and every leaf can be read. -/
theorem exists_leavesOf (hread : ∀ a, ∃ b, read a = .ok b) : ∀ (children : List (Value × Tree α))
    (path : String), EveryKeyBelow (fun key => ∃ s, key.textOf = .ok s) children →
      ∃ found, leavesOf read path children = .ok found
  | [], path, _ => ⟨[], rfl⟩
  | (key, t) :: rest, path, ⟨⟨s, hs⟩, ht, hrest⟩ => by
    have hpath : ∃ below, childPath path key = .ok below := ⟨_, Attempt.bind_eq_ok_iff.mpr ⟨s, hs, rfl⟩⟩
    obtain ⟨below, hbelow⟩ := hpath
    obtain ⟨own, hown⟩ := exists_leavesUnder hread t below ht
    obtain ⟨others, hothers⟩ := exists_leavesOf hread rest path hrest
    exact ⟨own ++ others, Attempt.bind_eq_ok_iff.mpr ⟨below, hbelow, Attempt.bind_eq_ok_iff.mpr
      ⟨own, hown, Attempt.bind_eq_ok_iff.mpr ⟨others, hothers, rfl⟩⟩⟩⟩

end

end

/-! ## Flat mappings -/

/-- The messages of a leaf. -/
def messages (entries : List Entry) : Value := .list (entries.map (·.message))

/-- The entry of a flat mapping for what was found under a path. -/
def pathEntry (l : String × Value) : Value × Value := (.text l.1, l.2)

/-- Paths that are different have an entry each, in order. -/
theorem flatMap_eq_map {found : List (String × Value)} (h : (found.map (·.1)).Nodup) :
    flatMap found = found.map pathEntry := by
  have step {all : Entries} (hnew : ∀ l ∈ found, ∀ e ∈ all, e.1.sameKey (.text l.1) = false) :
      found.foldl (fun all l => Entries.put all (.text l.1) l.2) all =
        all ++ found.map pathEntry := by
    induction found generalizing all with
    | nil => exact (List.append_nil all).symm
    | cons l rest ih =>
      obtain ⟨hnot, hrest⟩ := List.nodup_cons.mp h
      obtain ⟨hfirst, hothers⟩ := List.forall_mem_cons.mp hnew
      rw [List.foldl_cons, Entries.put_eq_append hfirst, ih hrest, List.append_assoc]
      · rfl
      · intro other hother e he
        rcases List.mem_append.mp he with hold | hlast
        · exact hothers other hother e hold
        · obtain rfl := List.mem_singleton.mp hlast
          rw [Bool.eq_false_iff]
          intro hsame
          have hpath : l.1 = other.1 := Value.text_sameKey_text_iff.mp hsame
          exact hnot (List.mem_map.mpr ⟨other, hother, hpath.symm⟩)
  exact step (by simp)

/-- Flattening a tree puts the messages of every leaf under its path. -/
theorem flatten_eq_ok_iff {t : ErrorTree} {flat : Entries} :
    t.flatten = .ok flat ↔
      ∃ found, leavesUnder (fun entries => pure (messages entries)) "" t = .ok found ∧
        flatMap found = flat := by
  simp only [flatten, flattenWith, messages, Attempt.bind_eq_ok_iff, Attempt.pure_eq_ok_iff, pure_bind]

end Tree

end RecordCheck
