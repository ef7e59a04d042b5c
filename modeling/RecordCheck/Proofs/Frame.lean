import RecordCheck.Proofs.Parallel.Alone
import RecordCheck.Proofs.Parallel.Isolation

/-!
# What validation leaves alone

A record that is accepted is the record with the defaults, with new values under the keys that were found
for fields.  A field is put back under the key under which it was found, so that no key is added, dropped
or spelled otherwise, and what is not found for a field stays as it is: unknown keys, blank fields, and keys
that spell the name of a field that was found under another one.  Whether the record is validated in order
or in parallel makes no difference, since both put the outcomes of the fields together in the same way,
whatever custom validators and hooks have made of the values.
-/

set_option autoImplicit false

namespace RecordCheck

/-- Whether a record is another one with new values, at most, for the fields of some names: it has the same
keys in the same order, and every entry stays as it is whose key was not found for one of the fields. -/
structure KeepsFrame (names : List Value) (data record : Entries) : Prop where
  keys : record.keys = data.keys
  others : ∀ (i : Nat) (e : Value × Value), data[i]? = some e →
    (∀ name ∈ names, ∀ key value, data.resolve name = some (key, value) → e.1.sameKey key = false) →
      record[i]? = some e

section

variable {names : List Value} {data : Entries}

/-- Putting in the value of a field leaves everything else alone. -/
theorem KeepsFrame.recordWithField {record : Entries} {name : Value} (h : KeepsFrame names data record)
    (hmem : name ∈ names) (hname : name ≠ .null) (o : Outcome) :
    KeepsFrame names data (recordWithField data record name o) where
  keys := keys_recordWithField hname h.keys o
  others := by
    intro i e he hothers
    unfold RecordCheck.recordWithField
    split
    · rename_i key value accepted notes hresolve
      exact Entries.getElem?_put_of_not (h.others i e he hothers) (hothers name hmem key value hresolve)
    · exact h.others i e he hothers

/-- Putting in the values of fields leaves everything else alone. -/
theorem keepsFrame_recordOfFields {fields : List (Value × Outcome)} (hmem : ∀ f ∈ fields, f.1 ∈ names)
    (hnames : ∀ name ∈ names, name ≠ .null) : KeepsFrame names data (recordOfFields data fields) := by
  have step {record : Entries} (h : KeepsFrame names data record) :
      KeepsFrame names data (fields.foldl (fun record f => recordWithField data record f.1 f.2) record) := by
    induction fields generalizing record with
    | nil => exact h
    | cons f rest ih =>
      obtain ⟨hfirst, hrest⟩ := List.forall_mem_cons.mp hmem
      exact ih hrest (h.recordWithField hfirst (hnames f.1 hfirst) f.2)
  exact step ⟨rfl, fun i e he _ => he⟩

/-- A record whose fields are accepted, whatever they are accepted with, is left alone but for them. -/
theorem keepsFrame_of_mergeFields {fields : List (Value × Outcome)} {accepted notes : Value}
    (hmem : ∀ f ∈ fields, f.1 ∈ names) (hnames : ∀ name ∈ names, name ≠ .null)
    (h : mergeFields data fields = .accepted accepted notes) :
    ∃ record, accepted = .dict record ∧ KeepsFrame names data record := by
  obtain ⟨-, rfl, -⟩ := mergeFields_eq_accepted_iff.mp h
  exact ⟨_, rfl, keepsFrame_recordOfFields hmem hnames⟩

end

open Parallel in
/-- Of a record that is accepted under a schema, in order or in any run in parallel, nothing but the values
that were found for fields differs from the record that was given, with the defaults. -/
theorem keepsFrame_of_validations {schema : Schema} (hnames : ∀ f ∈ schema.fields, f.1 ≠ .null)
    (entries : Entries) :
    (∀ registry context accepted notes,
      schema.validate registry context (.dict entries) = .ok (.accepted accepted notes) →
        ∃ record, accepted = .dict record ∧
          KeepsFrame (namesOf schema.fields) (Entries.withDefaults entries schema.defaults) record) ∧
    (∀ registry standard context slots schedule s accepted notes,
      (State.start slots (planRecord registry standard context schema (.dict entries))).follow schedule =
        some s →
      s.result? = some (.ok (.accepted accepted notes)) →
        ∃ record, accepted = .dict record ∧
          KeepsFrame (namesOf schema.fields) (Entries.withDefaults entries schema.defaults) record) := by
  have hall : ∀ name ∈ namesOf schema.fields, name ≠ .null := by
    simpa [namesOf] using hnames
  constructor
  · intro registry context accepted notes h
    obtain ⟨outcomes, houtcomes, hmerge⟩ := Attempt.bind_eq_ok_iff.mp h
    refine keepsFrame_of_mergeFields (fun f hf => ?_) hall (Attempt.pure_eq_ok_iff.mp hmerge)
    rw [namesOf, Rule.names_of_validateFields houtcomes]
    exact List.mem_map_of_mem hf
  · intro registry standard context slots schedule s accepted notes h hresult
    have hplan : (planRecord registry standard context schema (.dict entries)).Ensures unrestricted
        fun result => ∀ accepted notes, result = .ok (.accepted accepted notes) →
          ∃ record, accepted = .dict record ∧
            KeepsFrame (namesOf schema.fields) (Entries.withDefaults entries schema.defaults) record := by
      refine Plan.ensures_fork (fun outcomes accepted notes hmerge => ?_) fun cause accepted notes => nofun
      exact keepsFrame_of_mergeFields (fun f hf => (List.of_mem_zip hf).1) hall
        (Attempt.pure_eq_ok_iff.mp hmerge)
    exact hplan.of_canComeTo ⟨schedule, s, h, hresult⟩ accepted notes rfl

namespace Sample

/-- A schema with two checked texts, whose second one is put in capitals, and a default. -/
def framedSchema : Schema :=
  ⟨(Parallel.Sample.schema fun _ => .result true (.text "A@B.C") .null).fields, [(.text "note", .int 7)]⟩

/-- A record with something unknown, and with a field that is spelled in two ways. -/
def framedEntries : Entries :=
  [(.int 1, .null), (.bytes [109, 97, 105, 108], .text "a@b.c"), (.text "name", .text "ann"),
    (.member (.text "mail"), .text " x ")]

theorem framedSchema_ne_null : ∀ f ∈ framedSchema.fields, f.1 ≠ .null := by
  simp [framedSchema, Parallel.Sample.schema]

end Sample

open Sample Parallel in
/-- In order, where the hook plays no part, and in parallel, where it gives the mail another value. -/
theorem keepsFrame_of_validations_sample :
    (∃ accepted record, framedSchema.validate (.empty "none") Sample.context (.dict framedEntries) =
        .ok (.accept accepted) ∧ accepted = .dict record ∧
      KeepsFrame (namesOf framedSchema.fields) (Entries.withDefaults framedEntries framedSchema.defaults)
        record) ∧
    ∃ s accepted notes record,
      (State.start 1 (planRecord (.empty "none") (.int 100) Sample.context framedSchema
        (.dict framedEntries))).follow Parallel.Sample.inTurn = some s ∧
      s.result? = some (.ok (.accepted accepted notes)) ∧ accepted = .dict record ∧
      KeepsFrame (namesOf framedSchema.fields) (Entries.withDefaults framedEntries framedSchema.defaults)
        record := by
  obtain ⟨hordered, hparallel⟩ := keepsFrame_of_validations framedSchema_ne_null framedEntries
  constructor
  · have haccepted : framedSchema.validate (.empty "none") Sample.context (.dict framedEntries) =
        .ok (.accept (.dict (Entries.withDefaults framedEntries framedSchema.defaults))) := rfl
    obtain ⟨record, hrecord, hkeeps⟩ := hordered _ _ _ _ haccepted
    exact ⟨_, record, haccepted, hrecord, hkeeps⟩
  · have haccepted : ((State.start 1 (planRecord (.empty "none") (.int 100) Sample.context framedSchema
        (.dict framedEntries))).follow Parallel.Sample.inTurn).any
          (fun s => s.result?.any fun result => result.toOption.any Outcome.isAccepted) = true := by
      decide +kernel
    obtain ⟨s, o, hs, hresult, hisAccepted⟩ := State.exists_outcome_of_any haccepted
    obtain ⟨accepted, notes, rfl⟩ := Outcome.isAccepted_iff.mp hisAccepted
    obtain ⟨record, hrecord, hkeeps⟩ := hparallel _ _ _ _ _ _ _ _ hs hresult
    exact ⟨s, accepted, notes, record, hs, hresult, hrecord, hkeeps⟩

end RecordCheck
