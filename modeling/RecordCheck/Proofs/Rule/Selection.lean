import Mathlib.Data.List.Chain
import RecordCheck.Proofs.Rule.Structure

/-!
# Selecting a rule

A conditional rule gives way to one of its branches, and that to one of its own if it is conditional too.  The
branches are nested, so that there is an end to this.  The rules that are taken on the way are determined by the
record, and the last of them says what is required: it is not conditional, or it has no branch to offer.
-/

set_option autoImplicit false

namespace RecordCheck.Rule

open Relation

variable {data : Entries} {rule next last : Rule} {chain : List Rule}

/-! ## Steps -/

/-- Whether a conditional rule takes a branch for a record: the consequent if its conditions hold, or else the
alternative, or else the base. -/
inductive Takes (data : Entries) : Rule → Rule → Prop
  | consequent {common : Common} {field : Value} {conditions : Conditions} {consequent : Rule}
      {otherwise base : Option Rule} (met : conditions.holdIn field data = .ok true) :
      Takes data (conditional common field conditions consequent otherwise base) consequent
  | otherwise {common : Common} {field : Value} {conditions : Conditions} {consequent r : Rule}
      {base : Option Rule} (unmet : conditions.holdIn field data = .ok false) :
      Takes data (conditional common field conditions consequent (some r) base) r
  | base {common : Common} {field : Value} {conditions : Conditions} {consequent r : Rule}
      (unmet : conditions.holdIn field data = .ok false) :
      Takes data (conditional common field conditions consequent none (some r)) r

/-- Whether selection ends with a rule for a record: it is not conditional, or it has no branch to offer. -/
inductive Rests (data : Entries) : Rule → Prop
  | plain {r : Rule} (plain : r.isConditional = false) : Rests data r
  | offersNone {common : Common} {field : Value} {conditions : Conditions} {consequent : Rule}
      (unmet : conditions.holdIn field data = .ok false) :
      Rests data (conditional common field conditions consequent none none)

/-- Whether the conditions of a rule come out for a record, if it has any. -/
def Matches (data : Entries) : Rule → Prop
  | conditional _ field conditions _ _ _ => ∃ holds, conditions.holdIn field data = .ok holds
  | _ => True

/-- The rules that are taken from a rule on, one after the other, and the last of them, with which selection
ends; it is the rule itself if none is taken. -/
inductive Selection (data : Entries) : Rule → List Rule → Rule → Prop
  | ends {rule : Rule} (rests : Rests data rule) : Selection data rule [] rule
  | takes {rule next last : Rule} {chain : List Rule} (first : Takes data rule next)
      (others : Selection data next chain last) : Selection data rule (next :: chain) last

/-- What is active and what is required when selection ends with a rule. -/
def conclusion (last : Rule) : Option Rule × Value :=
  (if last.isConditional then none else some last, last.common.required)

/-- A round of the loop that selects: the rule so far, if it is conditional, gives way to the one that it
selects, and what was required so far to what is then. -/
inductive Round (data : Entries) : Option Rule × Value → Option Rule × Value → Prop
  | select {common : Common} {field : Value} {conditions : Conditions} {consequent : Rule}
      {otherwise base : Option Rule} {required : Value} {selected : Option Rule × Value}
      (selects : Rule.select field conditions consequent otherwise base common.required data = .ok selected) :
      Round data (some (conditional common field conditions consequent otherwise base), required) selected

theorem Takes.isConditional (h : Takes data rule next) : rule.isConditional = true := by
  cases h <;> rfl

/-- One branch is taken at most. -/
theorem Takes.unique {other : Rule} (h : Takes data rule next) (hother : Takes data rule other) :
    other = next := by
  cases h with
  | consequent met =>
    cases hother with
    | consequent _ => rfl
    | otherwise unmet | base unmet => cases met.symm.trans unmet
  | otherwise unmet =>
    cases hother with
    | consequent met => cases met.symm.trans unmet
    | otherwise _ => rfl
  | base unmet =>
    cases hother with
    | consequent met => cases met.symm.trans unmet
    | base _ => rfl

/-- Where selection ends, nothing is taken. -/
theorem Rests.not_takes (h : Rests data rule) : ¬ Takes data rule next := by
  intro htakes
  cases h with
  | plain hplain => cases htakes.isConditional.symm.trans hplain
  | offersNone unmet =>
    cases htakes with
    | consequent met => cases met.symm.trans unmet

/-- If the conditions of a rule come out, a branch is taken or selection ends. -/
theorem Matches.takes_or_rests (h : Matches data rule) : (∃ next, Takes data rule next) ∨ Rests data rule := by
  cases rule with
  | conditional common field conditions consequent otherwise base =>
    obtain ⟨holds, hholds⟩ := h
    cases holds with
    | true => exact .inl ⟨consequent, .consequent hholds⟩
    | false =>
      cases otherwise with
      | some r => exact .inl ⟨r, .otherwise hholds⟩
      | none =>
        cases base with
        | some r => exact .inl ⟨r, .base hholds⟩
        | none => exact .inr (.offersNone hholds)
  | _ => exact .inr (.plain rfl)

/-! ## Nesting -/

mutual

/-- How many conditional rules are nested in each other as branches, from a rule on. -/
def depth : Rule → Nat
  | conditional _ _ _ consequent otherwise base =>
    max consequent.depth (max (branchDepth otherwise) (branchDepth base)) + 1
  | _ => 0

/-- How many there are from a branch on, none if there is no branch. -/
def branchDepth : Option Rule → Nat
  | none => 0
  | some r => r.depth

end

/-- A branch has fewer conditional rules nested in it. -/
theorem Takes.depth_lt (h : Takes data rule next) : next.depth < rule.depth := by
  cases h <;> simp only [depth, branchDepth] <;> omega

/-- No more branches are taken one after the other than there are conditional rules nested in each other. -/
theorem length_le_depth (h : List.IsChain (Takes data) (rule :: chain)) : chain.length ≤ rule.depth := by
  induction chain generalizing rule with
  | nil => exact Nat.zero_le _
  | cons next rest ih =>
    obtain ⟨hfirst, hrest⟩ := List.isChain_cons_cons.mp h
    exact Nat.lt_of_le_of_lt (ih hrest) hfirst.depth_lt

/-! ## Selections -/

/-- What is selected is taken one after the other. -/
theorem Selection.isChain (h : Selection data rule chain last) : List.IsChain (Takes data) (rule :: chain) := by
  induction h with
  | ends _ => exact .singleton _
  | takes hfirst _ ih => exact .cons_cons hfirst ih

theorem Selection.rests (h : Selection data rule chain last) : Rests data last := by
  induction h with
  | ends hrests => exact hrests
  | takes _ _ ih => exact ih

/-- There is one selection at most. -/
theorem Selection.unique {chain' : List Rule} {last' : Rule} (h : Selection data rule chain last)
    (h' : Selection data rule chain' last') : chain' = chain ∧ last' = last := by
  induction h generalizing chain' with
  | ends hrests =>
    cases h' with
    | ends _ => exact ⟨rfl, rfl⟩
    | takes hfirst _ => exact absurd hfirst hrests.not_takes
  | takes hfirst _ ih =>
    cases h' with
    | ends hrests => exact absurd hfirst hrests.not_takes
    | takes hfirst' hothers' =>
      obtain rfl := hfirst.unique hfirst'
      obtain ⟨rfl, rfl⟩ := ih hothers'
      exact ⟨rfl, rfl⟩

/-- There is a selection if all conditions come out that are asked for on the way. -/
theorem exists_selection (hmatches : ∀ r, ReflTransGen (Takes data) rule r → r.Matches data) :
    ∃ chain last, Selection data rule chain last := by
  -- Every branch that is taken has fewer rules nested in it.
  induction hdepth : rule.depth using Nat.strong_induction_on generalizing rule with
  | _ n ih =>
    obtain rfl := hdepth
    rcases (hmatches rule .refl).takes_or_rests with ⟨next, hnext⟩ | hrests
    · obtain ⟨chain, last, hothers⟩ :=
        ih next.depth hnext.depth_lt (fun r hr => hmatches r (.head hnext hr)) rfl
      exact ⟨next :: chain, last, .takes hnext hothers⟩
    · exact ⟨[], rule, .ends hrests⟩

/-- What passes from a rule to the branch that it takes passes to the end of the selection. -/
theorem Selection.of_step {P : Rule → Prop} (h : Selection data rule chain last) (hrule : P rule)
    (hstep : ∀ {r next}, P r → Takes data r next → P next) : P last := by
  induction h with
  | ends _ => exact hrule
  | takes hfirst _ ih => exact ih (hstep hrule hfirst)

/-! ## The loop -/

/-- A conditional rule selects the branch that it takes, with what that requires. -/
theorem Takes.round {required : Value} (h : Takes data rule next) :
    Round data (some rule, required) (some next, next.common.required) := by
  cases h with
  | consequent met => exact .select (by rw [select, met]; rfl)
  | otherwise unmet | base unmet => exact .select (by rw [select, unmet]; rfl)

/-- A conditional rule without a branch to offer selects none, and says itself what is required. -/
theorem Rests.rounds (h : Rests data rule) :
    ReflTransGen (Round data) (some rule, rule.common.required) (conclusion rule) := by
  cases h with
  | plain hplain => rw [conclusion, hplain]; exact .refl
  | offersNone unmet => exact .single (.select (by rw [select, unmet]; rfl))

/-- The loop goes from a rule to what the end of its selection says. -/
theorem Selection.rounds (h : Selection data rule chain last) :
    ReflTransGen (Round data) (some rule, rule.common.required) (conclusion last) := by
  induction h with
  | ends hrests => exact hrests.rounds
  | takes hfirst _ ih => exact .head hfirst.round ih

/-- The loop goes on with a conditional rule only. -/
theorem not_round_conclusion {selected : Option Rule × Value} : ¬ Round data (conclusion last) selected := by
  intro h
  cases hlast : last.isConditional with
  | true =>
    rw [conclusion, hlast] at h
    cases h
  | false =>
    rw [conclusion, hlast] at h
    cases h
    cases hlast

/-- The branch of a conditional rule whose conditions come out is the one that it takes. -/
theorem takes_of_branch {common : Common} {field : Value} {conditions : Conditions} {consequent : Rule}
    {otherwise base : Option Rule} {holds : Bool} (hholds : conditions.holdIn field data = .ok holds)
    (hbranch : branch holds consequent otherwise base = some next) :
    Takes data (conditional common field conditions consequent otherwise base) next := by
  cases holds with
  | true =>
    cases hbranch
    exact .consequent hholds
  | false =>
    cases otherwise with
    | some _ =>
      cases hbranch
      exact .otherwise hholds
    | none =>
      cases hbranch
      exact .base hholds

/-- The number of conditional rules nested in what a loop has come to. -/
def depthOf (selected : Option Rule × Value) : Nat := branchDepth selected.1

/-- Every round leaves fewer conditional rules nested in each other. -/
theorem Round.depthOf_lt {state selected : Option Rule × Value} (h : Round data state selected) :
    depthOf selected < depthOf state := by
  cases h with
  | @select common field conditions consequent otherwise base required selected hselects =>
    obtain ⟨holds, hholds, hbranch⟩ := Attempt.bind_eq_ok_iff.mp hselects
    cases hnext : branch holds consequent otherwise base with
    | none =>
      rw [hnext] at hbranch
      cases hbranch
      exact Nat.succ_pos _
    | some r =>
      rw [hnext] at hbranch
      cases hbranch
      have htakes : Takes data (conditional common field conditions consequent otherwise base) r :=
        takes_of_branch hholds hnext
      exact htakes.depth_lt

/-- The loop ends, whatever it starts from. -/
theorem wellFounded_round (data : Entries) : WellFounded fun selected state => Round data state selected :=
  Subrelation.wf Round.depthOf_lt (measure depthOf).wf

/-! ## The active rule -/

theorem Takes.activate_eq (h : Takes data rule next) : rule.activate data = next.activate data := by
  cases h with
  | consequent met => rw [activate_conditional_of_branch met rfl]
  | otherwise unmet | base unmet => rw [activate_conditional_of_branch unmet rfl]

theorem Rests.activate_eq (h : Rests data rule) : rule.activate data = .ok (conclusion rule) := by
  cases h with
  | plain hplain =>
    rw [activate_of_not_isConditional hplain, conclusion, hplain]
    rfl
  | offersNone unmet =>
    rw [activate_conditional, unmet]
    rfl

/-- What is active is what the end of the selection says. -/
theorem Selection.activate_eq (h : Selection data rule chain last) :
    rule.activate data = .ok (conclusion last) := by
  induction h with
  | ends hrests => exact hrests.activate_eq
  | takes hfirst _ ih => exact hfirst.activate_eq.trans ih

/-! ## Hooks -/

/-- There is no hook under a rule just when neither it nor any rule nested under it has one. -/
theorem hasHook_eq_false_iff : rule.hasHook = false ↔ rule.Everywhere fun r => r.common.hook = none := by
  have hself (hook : Option Hook) : hook.isSome = false ↔ hook = none := by cases hook <;> simp
  induction rule using Rule.induction with
  | object common fields defaults ih =>
    rw [hasHook, Bool.or_eq_false_iff, fieldsHaveHook_eq_false_iff, hself, Everywhere, everywhereInFields_iff]
    exact and_congr_right fun _ => forall₂_congr ih
  | array common element checks ih =>
    rw [hasHook, Bool.or_eq_false_iff, branchHasHook_eq_false_iff, hself, Everywhere, everywhereInBranch_iff]
    exact and_congr_right fun _ => forall₂_congr ih
  | conditional common field conditions consequent otherwise base hconsequent hotherwise hbase =>
    rw [hasHook, Bool.or_eq_false_iff, Bool.or_eq_false_iff, Bool.or_eq_false_iff, branchHasHook_eq_false_iff,
      branchHasHook_eq_false_iff, hself, Everywhere, everywhereInBranch_iff, everywhereInBranch_iff, and_assoc,
      and_assoc]
    exact and_congr_right fun _ =>
      and_congr hconsequent (and_congr (forall₂_congr hotherwise) (forall₂_congr hbase))
  | _ => exact hself _

/-- A branch of a rule under which there is no hook has none under it. -/
theorem Takes.hasHook_eq_false (h : rule.hasHook = false) (htakes : Takes data rule next) :
    next.hasHook = false := by
  cases htakes <;>
    simp only [hasHook, branchHasHook, Bool.or_eq_false_iff] at h <;>
    simp [h]

/-! ## Activation -/

/-- How a rule comes to the one that is active: by a chain of rules to the last one, with which selection ends. -/
structure Activates (data : Entries) (rule : Rule) (chain : List Rule) (last : Rule) : Prop where
  /-- every rule of the chain is the branch that the one before it takes, and the last one takes none -/
  selection : Selection data rule chain last
  /-- there is no other such chain -/
  unique : ∀ chain' last', Selection data rule chain' last' → chain' = chain ∧ last' = last
  /-- the last rule is not conditional, or its conditions do not hold and it has no other branch -/
  rests : Rests data last
  /-- the last rule is active unless it is conditional, and says what is required -/
  active : rule.activate data = .ok (conclusion last)
  /-- the loop comes to that, from the rule and what it requires itself, and goes no further -/
  loops : ReflTransGen (Round data) (some rule, rule.common.required) (conclusion last) ∧
    ∀ selected, ¬ Round data (conclusion last) selected
  /-- the chain is made of steps to a branch, of which no more can be made, with or without an end, than there are
  conditional rules nested in each other -/
  bounded : List.IsChain (Takes data) (rule :: chain) ∧
    ∀ steps, List.IsChain (Takes data) (rule :: steps) → steps.length ≤ rule.depth
  /-- no loop over selections goes on forever -/
  terminates : WellFounded fun selected state => Round data state selected
  /-- no hook is come to that was not under the rule from the beginning -/
  unhooked : rule.hasHook = false → last.Everywhere fun r => r.common.hook = none

/-- If the conditions come out that are asked for on the way, a rule leads to the one that is active by exactly one
chain, and to no rule if the last one has no branch to offer. -/
theorem activate_selects (hmatches : ∀ r, ReflTransGen (Takes data) rule r → r.Matches data) :
    ∃ chain last, Activates data rule chain last := by
  obtain ⟨chain, last, h⟩ := exists_selection hmatches
  have hunhooked (hnone : rule.hasHook = false) : last.hasHook = false :=
    h.of_step (P := fun r => r.hasHook = false) hnone fun hr htakes => htakes.hasHook_eq_false hr
  exact ⟨chain, last, {
    selection := h
    unique := fun _ _ h' => h.unique h'
    rests := h.rests
    active := h.activate_eq
    loops := ⟨h.rounds, fun _ => not_round_conclusion⟩
    bounded := ⟨h.isChain, fun _ hsteps => length_le_depth hsteps⟩
    terminates := wellFounded_round data
    unhooked := fun hnone => hasHook_eq_false_iff.mp (hunhooked hnone) }⟩

namespace Sample

/-- Conditions that hold for a single number. -/
def isNumber (n : Int) : Conditions := ⟨some (.int n), none, .null, .null, .null⟩

/-- A rule that offers a branch only if the rank is two, and requires a value itself. -/
def ranked : Rule :=
  .conditional ⟨.bool true, none, .null⟩ (.text "rank") (isNumber 2) (.date ⟨.bool false, none, .null⟩) none none

/-- A rule that asks for the kind first, and then for the rank. -/
def kinded : Rule :=
  .conditional ⟨.bool false, none, .null⟩ (.text "kind") (isNumber 1) (.date ⟨.bool false, none, .null⟩)
    (some ranked) none

/-- A record of another kind and rank. -/
def unranked : Entries := [(.bytes [107, 105, 110, 100], .int 7), (.text "rank", .int 3)]

theorem takes_kinded : Takes unranked kinded ranked := .otherwise rfl

theorem rests_ranked : Rests unranked ranked := .offersNone rfl

theorem matches_kinded (r : Rule) (h : ReflTransGen (Takes unranked) kinded r) : r.Matches unranked := by
  rcases h.cases_head with rfl | ⟨next, hnext, hrest⟩
  · exact ⟨false, rfl⟩
  · obtain rfl := takes_kinded.unique hnext
    rcases hrest.cases_head with rfl | ⟨_, htakes, -⟩
    · exact ⟨false, rfl⟩
    · exact absurd htakes rests_ranked.not_takes

end Sample

open RecordCheck.Rule.Sample in
/-- The kind leads on to the rank, which leads to nothing; a value is required, because the latter requires it. -/
theorem activate_selects_sample :
    (∀ r, ReflTransGen (Takes unranked) kinded r → r.Matches unranked) ∧
      Activates unranked kinded [ranked] ranked ∧ kinded.activate unranked = .ok (none, .bool true) := by
  obtain ⟨chain, last, h⟩ := activate_selects matches_kinded
  obtain ⟨rfl, rfl⟩ := h.unique [ranked] ranked (.takes takes_kinded (.ends rests_ranked))
  exact ⟨matches_kinded, h, h.active⟩

end RecordCheck.Rule
