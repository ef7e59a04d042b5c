import RecordCheck.Proofs.Outcome

/-!
# Records with defaults

A name is present in a record if a key spells it, as a text, a member of an enumeration or bytes.  A default is
added for a name that is not.  It comes after everything that is in the record, under a key that spells no name
of the record, and so it hides nothing: what was found before is found as before.
-/

set_option autoImplicit false

namespace RecordCheck

namespace Value

/-- What a text is the same key as is that text. -/
theorem text?_of_sameKey {a b : Value} {s : String} (h : a.sameKey b = true) (ha : a.text? = some s) :
    b.text? = some s := by
  rw [sameKey_iff] at h
  cases a with
  | text t =>
    rw [same, Attempt.pure_eq_ok_iff, beq_iff_eq] at h
    exact h.trans ha
  | textMember t =>
    rw [same, Attempt.pure_eq_ok_iff, beq_iff_eq] at h
    exact h.trans ha
  | _ => cases ha

/-- Every text can be a key. -/
theorem checkKey_of_text? {name : Value} {s : String} (hname : name.text? = some s) : name.checkKey = .ok () := by
  cases name <;> first | rfl | cases hname

/-- Whatever is compared with a text, there is an answer. -/
theorem exists_same_text (key : Value) {name : Value} {s : String} (hname : name.text? = some s) :
    ∃ answer, key.same name = .ok answer := by
  have hnumeric : name.numeric? = none := by cases name <;> first | rfl | cases hname
  cases key with
  | bool b | number n => exact ⟨false, by rw [same, hnumeric]; rfl⟩
  | text t | textMember t => exact ⟨_, rfl⟩
  | _ => cases name <;> first | exact ⟨false, rfl⟩ | cases hname

end Value

namespace Entries

variable {record defaults merged : Entries} {name key value : Value} {s : String}

/-! ## Finding a name -/

/-- How a name is found in a record: under the text itself, however that is spelled, or else under the first key
that spells the name in another way. -/
structure Finds (record : Entries) (name : Value) (s : String) : Prop where
  /-- nothing fails: the name can be a key, and every key can be compared with it -/
  total : name.checkKey = .ok () ∧ ∀ e ∈ record, ∃ answer, e.1.same name = .ok answer
  /-- an entry under the text is preferred to all others -/
  declared : ∀ e, List.find? (fun e => e.1.text? == some s) record = some e →
    record.lookup name = some (name, e.2)
  /-- without one, the first entry under another spelling is found -/
  alternate : List.find? (fun e => e.1.text? == some s) record = none →
    record.lookup name = List.find? (fun e => e.1.spelling? == some s) record
  /-- what is found is an entry of the record, and its key spells the name -/
  spelled : ∀ key value, record.lookup name = some (key, value) → key.spelling? = some s ∧
    ∃ e ∈ record, e.1.spelling? = some s ∧ e.1.sameKey key = true ∧ e.2 = value
  /-- nothing is found only if no key spells the name -/
  missing : record.lookup name = none ↔ ∀ e ∈ record, e.1.spelling? ≠ some s

theorem sameKey_eq_text_beq (hname : name.text? = some s) :
    (fun e : Value × Value => e.1.sameKey name) = fun e => e.1.text? == some s := by
  funext e
  rw [Bool.eq_iff_iff, Value.sameKey_text_iff hname, beq_iff_eq]

theorem spelling_eq_beq (hname : name.text? = some s) :
    (fun e : Value × Value => e.1.spelling.sameKey name) = fun e => e.1.spelling? == some s := by
  funext e
  rw [Bool.eq_iff_iff, Value.spelling_sameKey_text_iff hname, beq_iff_eq]

/-- The first entry under a text, or else the first whose key spells it. -/
theorem lookup_of_text? (hname : name.text? = some s) :
    record.lookup name = match List.find? (fun e => e.1.text? == some s) record with
      | some e => some (name, e.2)
      | none => List.find? (fun e => e.1.spelling? == some s) record := by
  rw [lookup, get?, find?, sameKey_eq_text_beq hname, spelling_eq_beq hname]
  cases List.find? (fun e => e.1.text? == some s) record <;> rfl

theorem lookup_eq_none_iff (hname : name.text? = some s) :
    record.lookup name = none ↔ ∀ e ∈ record, e.1.spelling? ≠ some s := by
  rw [lookup_of_text? hname]
  cases hfind : List.find? (fun e => e.1.text? == some s) record with
  | none => simp
  | some e =>
    have htext : e.1.text? = some s := by simpa using List.find?_some hfind
    refine iff_of_false nofun fun hnone => ?_
    exact hnone e (List.mem_of_find?_eq_some hfind) (Value.spelling?_of_text? htext)

/-- What is found for a name is the value of an entry whose key is the one that it is found under. -/
theorem exists_mem_of_lookup (hname : name.text? = some s) (h : record.lookup name = some (key, value)) :
    ∃ e ∈ record, e.1.spelling? = some s ∧ e.1.sameKey key = true ∧ e.2 = value := by
  have hkey := spelling?_of_lookup hname h
  obtain ⟨e, he, rfl⟩ := Option.map_eq_some_iff.mp (get?_of_lookup hname h)
  have hsame : e.1.sameKey key = true := by simpa using List.find?_some he
  exact ⟨e, List.mem_of_find?_eq_some he, Value.spelling?_of_sameKey hsame hkey, hsame, rfl⟩

theorem finds (record : Entries) (hname : name.text? = some s) : Finds record name s where
  total := ⟨Value.checkKey_of_text? hname, fun e _ => e.1.exists_same_text hname⟩
  declared e he := by rw [lookup_of_text? hname, he]
  alternate hnone := by rw [lookup_of_text? hname, hnone]
  spelled _ _ h := ⟨spelling?_of_lookup hname h, exists_mem_of_lookup hname h⟩
  missing := lookup_eq_none_iff hname

/-- A name that is found is found as before once entries come after all others, unless one of their keys is the
name itself. -/
theorem lookup_append {more : Entries} (hfound : (record.lookup name).isSome = true)
    (hmore : ∀ e ∈ more, e.1.sameKey name = false) : (record ++ more).lookup name = record.lookup name := by
  have hget : (record ++ more).get? name = record.get? name := by
    have hnone : List.find? (fun e => e.1.sameKey name) more = none := by simpa using hmore
    rw [get?, find?, List.find?_append, hnone, Option.or_none, get?, find?]
  rw [lookup] at hfound ⊢
  rw [hget, lookup]
  cases hdeclared : record.get? name with
  | some v => rfl
  | none =>
    rw [hdeclared] at hfound
    obtain ⟨e, he⟩ := Option.isSome_iff_exists.mp hfound
    dsimp only at he ⊢
    rw [List.find?_append, he, Option.some_or]

/-! ## Adding defaults -/

/-- The defaults for names that a record does not hold, in their order. -/
def missingFrom (record defaults : Entries) : Entries := defaults.filter fun d => (record.lookup d.1).isNone

/-- If no key is the name of a default that is to be added, the defaults that are come last. -/
theorem addDefaults_eq_append (hnames : HasTextNames defaults)
    (hfresh : ∀ d ∈ missingFrom record defaults, ∀ e ∈ merged, e.1.sameKey d.1 = false) :
    addDefaults record defaults merged = merged ++ missingFrom record defaults := by
  unfold addDefaults missingFrom at *
  induction defaults generalizing merged with
  | nil => simp
  | cons d rest ih =>
    obtain ⟨s, hs, hothers, hrest⟩ := hnames.of_cons
    rw [List.foldl_cons]
    cases hmissing : (record.lookup d.1).isNone with
    | false =>
      simp only [List.filter_cons, hmissing, Bool.false_eq_true, if_false] at hfresh ⊢
      exact ih hrest hfresh
    | true =>
      simp only [List.filter_cons, hmissing, if_true] at hfresh ⊢
      obtain ⟨hfirst, hlater⟩ := List.forall_mem_cons.mp hfresh
      rw [put_eq_append hfirst, ih hrest, List.append_assoc, List.singleton_append]
      -- The default that was just added is another text than those that follow.
      intro later hmem e he
      rcases List.mem_append.mp he with he | he
      · exact hlater later hmem e he
      · obtain rfl := List.mem_singleton.mp he
        obtain ⟨other, hother, hne⟩ := hothers later (List.mem_of_mem_filter hmem)
        rw [Bool.eq_false_iff, ne_eq, Value.sameKey_text_iff hother, hs, Option.some_inj]
        exact hne

/-- A record has its own entries, and after them the defaults that it lacked. -/
theorem withDefaults_eq_append (hnames : HasTextNames defaults) :
    record.withDefaults defaults = record ++ missingFrom record defaults := by
  refine addDefaults_eq_append hnames fun d hd e he => ?_
  obtain ⟨hmem, hmissing⟩ := List.mem_filter.mp hd
  obtain ⟨s, hs⟩ := hnames.exists_text hmem
  rw [Option.isNone_iff_eq_none, lookup_eq_none_iff hs] at hmissing
  rw [Bool.eq_false_iff, ne_eq, Value.sameKey_text_iff hs]
  exact fun htext => hmissing e he (Value.spelling?_of_text? htext)

/-- A default that is added has another key than every name that was found. -/
theorem sameKey_missingFrom (hnames : HasTextNames defaults) (hfound : (record.lookup name).isSome = true)
    {d : Value × Value} (hd : d ∈ missingFrom record defaults) : d.1.sameKey name = false := by
  obtain ⟨hmem, hmissing⟩ := List.mem_filter.mp hd
  obtain ⟨s, hs⟩ := hnames.exists_text hmem
  rw [Bool.eq_false_iff]
  intro hsame
  have hname := Value.text?_of_sameKey hsame hs
  rw [Option.isNone_iff_eq_none, lookup_eq_none_iff hs, ← lookup_eq_none_iff hname] at hmissing
  rw [hmissing] at hfound
  cases hfound

theorem lookup_withDefaults (hnames : HasTextNames defaults) (hfound : (record.lookup name).isSome = true) :
    (record.withDefaults defaults).lookup name = record.lookup name := by
  rw [withDefaults_eq_append hnames]
  exact lookup_append hfound fun _ => sameKey_missingFrom hnames hfound

theorem sameKey_self_of_mem (hnames : HasTextNames defaults) {d : Value × Value} (hd : d ∈ defaults) :
    d.1.sameKey d.1 = true := by
  obtain ⟨s, hs⟩ := hnames.exists_text hd
  exact Value.sameKey_self_of_spelling? (Value.spelling?_of_text? hs)

/-- Whether one record is another one to which the defaults were added that it lacked. -/
structure Completes (record defaults merged : Entries) : Prop where
  /-- all entries come first and are as they were, and just those defaults are added, in their order, whose names
  no key spells -/
  added : ∃ more, merged = record ++ more ∧ more.Sublist defaults ∧
    ∀ d ∈ defaults, d ∈ more ↔ ∀ s, d.1.text? = some s → ∀ e ∈ record, e.1.spelling? ≠ some s
  /-- every default is found -/
  found : ∀ d ∈ defaults, (merged.lookup d.1).isSome = true
  /-- nothing is left to add -/
  again : merged.withDefaults defaults = merged
  /-- what was found is found under the same key with the same value -/
  kept : ∀ name, (record.lookup name).isSome = true →
    merged.lookup name = record.lookup name ∧ merged.resolve name = record.resolve name ∧
      merged.peek name = record.peek name

/-- Defaults complete a record without a change to what it holds, and every name is found in a record under the
spelling that was declared or else under the first other one. -/
theorem withDefaults_completes (hnames : HasTextNames defaults) (record : Entries) :
    Completes record defaults (record.withDefaults defaults) ∧
      ∀ name s, name.text? = some s → Finds record name s := by
  have hfound : ∀ d ∈ defaults, ((record.withDefaults defaults).lookup d.1).isSome = true := fun d hd =>
    lookup_withDefaults_isSome record hd (sameKey_self_of_mem hnames hd)
  refine ⟨⟨⟨missingFrom record defaults, withDefaults_eq_append hnames, List.filter_sublist, fun d hd => ?_⟩,
    hfound, withDefaults_eq_self hfound, fun name h => ?_⟩, fun name s hname => finds record hname⟩
  · obtain ⟨s, hs⟩ := hnames.exists_text hd
    rw [missingFrom, List.mem_filter, Option.isNone_iff_eq_none, lookup_eq_none_iff hs, hs]
    simp [hd]
  · have hlookup := lookup_withDefaults hnames h
    exact ⟨hlookup, by rw [resolve, resolve, hlookup], by rw [peek, peek, hlookup]⟩

namespace Sample

/-- A record that spells its names in four ways, one of them twice, and has a key that spells none. -/
def mixedRecord : Entries :=
  [(.int 7, .null), (.bytes [116, 111, 119, 110], .text "Bonn"), (.member (.text "land"), .null),
    (.textMember "name", .text "ann"), (.text "zip", .int 53111), (.bytes [122, 105, 112], .int 0)]

/-- Defaults for all names in the record and for two that are not. -/
def allDefaults : Entries :=
  [(.text "town", .text "nowhere"), (.text "note", .text ""), (.text "name", .text "nobody"),
    (.text "land", .text "de"), (.textMember "zip", .int 1), (.text "7", .bool true)]

theorem hasTextNames_allDefaults : HasTextNames allDefaults :=
  ⟨["town", "note", "name", "land", "zip", "7"], by decide, rfl⟩

end Sample

open RecordCheck.Entries.Sample in
/-- Only what is spelled in no way is added, and bytes do not hide the text that they spell. -/
theorem withDefaults_completes_sample :
    HasTextNames allDefaults ∧
      mixedRecord.withDefaults allDefaults = mixedRecord ++ [(.text "note", .text ""), (.text "7", .bool true)] ∧
      Completes mixedRecord allDefaults (mixedRecord.withDefaults allDefaults) ∧
      Finds mixedRecord (.text "zip") "zip" ∧
      mixedRecord.lookup (.text "zip") = some (.text "zip", .int 53111) := by
  obtain ⟨hcompletes, hfinds⟩ := withDefaults_completes hasTextNames_allDefaults mixedRecord
  have hzip := hfinds (.text "zip") "zip" rfl
  exact ⟨hasTextNames_allDefaults, rfl, hcompletes, hzip, hzip.declared (.text "zip", .int 53111) rfl⟩

end Entries

end RecordCheck
