import RecordCheck.Proofs.Soundness

/-!
# Validation without conversion

Where nothing is converted and nothing is added, a record that is accepted comes back as it was given: the
same keys in the same order, with the same values, at every level.  A field is put back under the key under
which it was found, and what is blank, missing or under no active rule is left alone.  The one thing that is
rewritten all the same is a tuple under an array rule, which becomes a list.
-/

set_option autoImplicit false

namespace RecordCheck

open Coercion

/-- Whether an array rule comes upon a tuple when a value is validated in a record that holds some data: the
value itself, an item of it, or a field of it. -/
inductive Rule.MeetsTuple : Entries → Rule → Value → Prop
  /-- the value is a tuple, and the active rule is one for arrays -/
  | here {data : Entries} {rule : Rule} {common : Common} {element : Option Rule} {checks : ArrayChecks}
      {required : Value} {items : List Value}
      (selected : rule.activate data = .ok (some (.array common element checks), required)) :
      Rule.MeetsTuple data rule (.tuple items)
  /-- the value is a list with an item in which a tuple is met -/
  | item {data : Entries} {rule element : Rule} {common : Common} {checks : ArrayChecks}
      {required item : Value} {items : List Value}
      (selected : rule.activate data = .ok (some (.array common (some element) checks), required))
      (mem : item ∈ items) (met : Rule.MeetsTuple data element item) : Rule.MeetsTuple data rule (.list items)
  /-- the value is a record with a field in which a tuple is met -/
  | field {data : Entries} {rule : Rule} {common : Common} {fields : List (Value × Rule)}
      {defaults entries : Entries} {required name key value : Value} {fieldRule : Rule}
      (selected : rule.activate data = .ok (some (.object common fields defaults), required))
      (mem : (name, fieldRule) ∈ fields)
      (found : (Entries.withDefaults entries defaults).resolve name = some (key, value))
      (met : Rule.MeetsTuple (Entries.withDefaults entries defaults) fieldRule value) :
      Rule.MeetsTuple data rule (.dict entries)

/-- A conditional rule meets what the branch meets that it takes. -/
theorem Rule.MeetsTuple.of_branch {data : Entries} {rule branch : Rule} {value : Value}
    (h : Rule.MeetsTuple data branch value) (hbranch : rule.activate data = branch.activate data) :
    Rule.MeetsTuple data rule value := by
  cases h with
  | here selected => exact .here (hbranch.trans selected)
  | item selected mem met => exact .item (hbranch.trans selected) mem met
  | field selected mem found met => exact .field (hbranch.trans selected) mem found met

/-- Whether an array rule of a schema comes upon a tuple in a record. -/
def Schema.MeetsTuple (schema : Schema) (entries : Entries) : Prop :=
  ∃ name rule key value, (name, rule) ∈ schema.fields ∧
    (Entries.withDefaults entries schema.defaults).resolve name = some (key, value) ∧
      Rule.MeetsTuple (Entries.withDefaults entries schema.defaults) rule value

/-- Whether a rule is of one of the library's own types, and its fields have texts as names and no
defaults. -/
def Rule.IsBare : Rule → Prop
  | .object _ fields defaults => HasTextNames fields ∧ defaults = []
  | .custom .. => False
  | _ => True

/-- Whether a schema has texts as names of its fields, no defaults, and no custom rules. -/
structure Schema.IsBare (schema : Schema) : Prop where
  names : HasTextNames schema.fields
  defaults : schema.defaults = []
  rules : ∀ f ∈ schema.fields, f.2.Everywhere Rule.IsBare

variable {registry : Custom.Registry} {context : Context}

/-- A record is left as it is if every value that is found for a field is accepted as it is. -/
theorem recordOfFields_of_forall_resolve {data : Entries} {fields : List (Value × Rule)}
    {outcomes : List (Value × Outcome)} (hnames : HasTextNames fields)
    (hsame : ∀ f ∈ fields, ∀ key value accepted notes, data.resolve f.1 = some (key, value) →
      f.2.validate registry context true value = .ok (.accepted accepted notes) → accepted = value)
    (h : Rule.validateFields registry context data fields = .ok outcomes) :
    recordOfFields data outcomes = data := by
  refine recordOfFields_eq_self fun found hfound => ?_
  obtain ⟨f, hf, hname, hvalidate⟩ :=
    Attempt.exists_mem_of_forall₂' (Rule.validateFields_eq_ok_iff.mp h) hfound
  obtain ⟨s, hs⟩ := hnames.exists_text hf
  obtain ⟨active, required, -, hfield⟩ := validateField_eq_ok_iff.mp hvalidate
  rw [← hname]
  unfold recordWithField
  rcases hfield with ⟨hresolve, -⟩ | ⟨key, value, hresolve, hvalue⟩
  · rw [hresolve]
  · rw [hresolve]
    cases ho : found.2 with
    | rejected other errors => rfl
    | accepted other notes =>
      rw [ho] at hvalue
      obtain rfl := hsame f hf key value other notes hresolve hvalue
      exact Entries.put_eq_self (Entries.get?_of_lookup hs (Entries.resolve_eq_some_iff.mp hresolve).1)

/-- What the induction over rules shows: without conversion, a value that is accepted and in which no array
rule meets a tuple is accepted as it is. -/
def Strict (registry : Custom.Registry) (rule : Rule) : Prop :=
  ∀ {context : Context} {value accepted notes : Value}, context.convert = false →
    ¬ Rule.MeetsTuple context.data rule value →
      rule.validate registry context true value = .ok (.accepted accepted notes) → accepted = value

/-- Blank values are accepted as they are, so that it is left to show it for others. -/
theorem strict_of_step {rule : Rule} (hconditional : rule.isConditional = false)
    (step : ∀ {context : Context} {value accepted notes : Value}, context.convert = false →
      ¬ Rule.MeetsTuple context.data rule value → value.isBlank = false →
        rule.validate registry context true value = .ok (.accepted accepted notes) →
          accepted = value) : Strict registry rule := by
  intro context value accepted notes hconvert htuples h
  cases hvalue : value.isBlank with
  | true =>
    rw [Rule.validate_of_isBlank hvalue hconditional] at h
    exact (unchecked_eq_accepted_iff.mp h).1
  | false => exact step hconvert htuples hvalue h

/-- A conditional rule is validated as the branch that it takes, or looks at nothing. -/
theorem strict_of_branches {common : Common} {field : Value} {conditions : Conditions}
    {consequent : Rule} {otherwise base : Option Rule} (hconsequent : Strict registry consequent)
    (hotherwise : ∀ r ∈ otherwise, Strict registry r) (hbase : ∀ r ∈ base, Strict registry r) :
    Strict registry (.conditional common field conditions consequent otherwise base) := by
  intro context value accepted notes hconvert htuples h
  rw [Rule.validate_conditional] at h
  obtain ⟨holds, hholds, h⟩ := Attempt.bind_eq_ok_iff.mp h
  cases hbranch : Rule.branch holds consequent otherwise base with
  | none =>
    rw [hbranch] at h
    exact (unchecked_eq_accepted_iff.mp h).1
  | some r =>
    rw [hbranch] at h
    have hselected : (Rule.conditional common field conditions consequent otherwise base).activate
        context.data = r.activate context.data := Rule.activate_conditional_of_branch hholds hbranch
    exact Rule.forall_branch (motive := Strict registry) hconsequent hotherwise hbase holds r hbranch
      hconvert (fun hmet => htuples (hmet.of_branch hselected)) h

/-- Every bare rule leaves a value that it accepts as it is. -/
theorem Rule.strict_of_isBare {rule : Rule} (hbare : rule.Everywhere Rule.IsBare) :
    Strict registry rule := by
  induction rule using Rule.induction with
  | text common checks =>
    apply strict_of_step rfl
    intro context value accepted notes hconvert htuples hvalue h
    simp only [Rule.validate, hvalue, Bool.and_false, coerce, hconvert] at h
    exact eq_of_coerceText_false h
  | number common checks =>
    apply strict_of_step rfl
    intro context value accepted notes hconvert htuples hvalue h
    simp only [Rule.validate, hvalue, Bool.and_false, coerce, hconvert] at h
    exact eq_of_coerceNumber_false h
  | boolean common words =>
    apply strict_of_step rfl
    intro context value accepted notes hconvert htuples hvalue h
    simp only [Rule.validate, hvalue, Bool.and_false, coerce, hconvert] at h
    exact eq_of_ensureBoolean_false h
  | date common =>
    apply strict_of_step rfl
    intro context value accepted notes hconvert htuples hvalue h
    simp only [Rule.validate, hvalue, Bool.and_false, coerce, hconvert] at h
    exact eq_of_ensureDate_false h
  | object common fields defaults ih =>
    obtain ⟨⟨hnames, rfl⟩, hfields⟩ := hbare
    rw [Rule.everywhereInFields_iff] at hfields
    apply strict_of_step rfl
    intro context value accepted notes hconvert htuples hvalue h
    obtain ⟨entries, outcomes, rfl, houtcomes, -, rfl⟩ :=
      Rule.exists_outcomes_of_validate_object hvalue h
    refine congrArg Value.dict (recordOfFields_of_forall_resolve hnames ?_ houtcomes)
    intro f hf key value accepted notes hfound haccepted
    refine ih f hf (hfields f hf) (by exact hconvert) (fun hmet => htuples ?_) haccepted
    exact .field (Rule.activate_of_not_isConditional rfl) hf hfound hmet
  | array common element checks ih =>
    apply strict_of_step rfl
    intro context value accepted notes hconvert htuples hvalue h
    have hselected : (Rule.array common element checks).activate context.data =
        .ok (some (.array common element checks), common.required) :=
      Rule.activate_of_not_isConditional rfl
    have hlist {items : List Value}
        (hitems : ensureArray checks.delimiter context.convert value = .ok (.accept (.list items))) :
        value = .list items := by
      rw [hconvert] at hitems
      rcases eq_of_ensureArray_false hitems with hlist | rfl
      · exact hlist
      · exact absurd (.here hselected) htuples
    cases element with
    | none =>
      rw [Rule.validate_array_none_iff hvalue] at h
      obtain ⟨items, rfl, hgiven, -⟩ := coerceArray_spec h
      exact (hlist hgiven).symm
    | some r =>
      obtain ⟨items, elements, hgiven, -, -, helements, rfl⟩ :=
        Rule.exists_elements_of_validate_array hvalue h
      obtain rfl := hlist hgiven
      refine congrArg Value.list (Attempt.eq_of_forall₂ helements fun item hitem e haccepted => ?_)
      obtain ⟨notes, haccepted⟩ := haccepted
      exact ih r rfl hbare.2 hconvert (fun hmet => htuples (.item hselected hitem hmet)) haccepted
  | conditional common field conditions consequent otherwise base ihc iho ihb =>
    obtain ⟨-, hconsequent, hotherwise, hbase⟩ := hbare
    rw [Rule.everywhereInBranch_iff] at hotherwise hbase
    exact strict_of_branches (ihc hconsequent) (fun r hr => iho r hr (hotherwise r hr))
      (fun r hr => ihb r hr (hbase r hr))
  | custom common typeName options => exact hbare.elim

/-- A record that is accepted without conversion under a schema without custom rules and defaults is what
was given, with the same keys in the same order at every level, if no array rule comes upon a tuple. -/
theorem Schema.validate_strict {schema : Schema} (hbare : schema.IsBare)
    (hconvert : context.convert = false) {entries : Entries} (htuples : ¬ schema.MeetsTuple entries)
    {accepted notes : Value}
    (h : schema.validate registry context (.dict entries) = .ok (.accepted accepted notes)) :
    accepted = .dict entries := by
  obtain ⟨_, outcomes, hentries, houtcomes, -, rfl⟩ := exists_outcomes_of_validate h
  cases hentries
  have hdata : Entries.withDefaults entries schema.defaults = entries := by
    rw [hbare.defaults]
    rfl
  rw [hdata] at houtcomes ⊢
  refine congrArg Value.dict (recordOfFields_of_forall_resolve hbare.names ?_ houtcomes)
  intro f hf key value accepted notes hfound haccepted
  refine Rule.strict_of_isBare (hbare.rules f hf) (by exact hconvert) (fun hmet => htuples ?_)
    haccepted
  refine ⟨f.1, f.2, key, value, hf, ?_, ?_⟩
  · rw [hdata]
    exact hfound
  · rw [hdata]
    exact hmet

namespace Sample

/-- A rule for arrays of texts. -/
def anyTexts : Rule := .array (unhooked false) (some (anyText false)) ⟨.null, .null, .null, .text ","⟩

/-- The rule for the size of a box, which nothing else has. -/
def boxSize : Rule :=
  .conditional (unhooked false) (.text "kind") ⟨some (.text "box"), none, .null, .null, .null⟩ anyTexts
    none none

/-- A schema with a name, a size and a record with a town and its gates. -/
def strictSchema : Schema :=
  ⟨[(.text "name", anyText false), (.text "size", boxSize),
    (.text "home",
      .object (unhooked false) [(.text "town", anyText false), (.text "gates", anyTexts)] [])], []⟩

/-- A home whose town is named by bytes. -/
def strictHome : Entries :=
  [(.bytes [116, 111, 119, 110], .text " ur "), (.text "gates", .list [.text "north ", .null])]

/-- A record whose name is blank, and whose size is under no active rule. -/
def strictRecord : Entries :=
  [(.text "home", .dict strictHome), (.text "kind", .text "bag"), (.text "size", .tuple [.int 3]),
    (.textMember "name", .text "")]

/-- The only tuple stands where no rule is active. -/
theorem not_meetsTuple_strictRecord : ¬ strictSchema.MeetsTuple strictRecord := by
  rintro ⟨name, rule, key, value, hrule, hfound, hmet⟩
  simp only [strictSchema, List.mem_cons, Prod.mk.injEq, List.not_mem_nil, or_false] at hrule
  rcases hrule with ⟨rfl, rfl⟩ | ⟨rfl, rfl⟩ | ⟨rfl, rfl⟩
  · cases hfound
  · cases hfound
    cases hmet with
    | here selected => cases selected
  · cases hfound
    cases hmet with
    | field selected mem found met =>
      cases selected
      simp only [List.mem_cons, Prod.mk.injEq, List.not_mem_nil, or_false] at mem
      rcases mem with ⟨rfl, rfl⟩ | ⟨rfl, rfl⟩
      · cases found
        cases met
      · cases found
        cases met with
        | item selected mem met =>
          cases selected
          cases met with
          | here selected => cases selected
          | item selected mem met => cases selected
          | field selected mem found met => cases selected

theorem isBare_strictSchema : strictSchema.IsBare := by
  refine ⟨⟨["name", "size", "home"], by decide, rfl⟩, rfl, ?_⟩
  rw [← Rule.everywhereInFields_iff]
  exact ⟨trivial, ⟨trivial, ⟨trivial, trivial⟩, trivial, trivial⟩,
    ⟨⟨⟨["town", "gates"], by decide, rfl⟩, rfl⟩, trivial, ⟨trivial, trivial⟩, trivial⟩, trivial⟩

end Sample

open Sample in
/-- A record with another spelling of a field, blank values and an inactive rule comes back as it is. -/
theorem Schema.validate_strict_sample :
    ∃ accepted, strictSchema.validate (.empty "none") ⟨[], false, []⟩ (.dict strictRecord) =
        .ok (.accept accepted) ∧ accepted = .dict strictRecord := by
  have h : strictSchema.validate (.empty "none") ⟨[], false, []⟩ (.dict strictRecord) =
      .ok (.accept (.dict strictRecord)) := rfl
  exact ⟨_, h, Schema.validate_strict isBare_strictSchema rfl not_meetsTuple_strictRecord h⟩

end RecordCheck
