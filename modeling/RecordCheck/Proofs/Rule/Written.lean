import RecordCheck.Coercion.Text
import RecordCheck.Proofs.Record
import RecordCheck.Proofs.Rule.Building
import RecordCheck.Rule.Definition

/-!
# Rules written as definitions

A rule can be written down as a definition: its type, what every rule has, and the arguments of its own, with
definitions in the place of the rules under it.  Entries whose value is null may be left out.  What is read of
such entries is what was written.
-/

set_option autoImplicit false

namespace RecordCheck

namespace Definition

open Attempt

/-! ## Writing -/

/-- Entries under texts. -/
def named (values : List (String × Value)) : Entries := values.map fun e => (.text e.1, e.2)

/-- An entry that may be absent. -/
def optional {α : Type} (name : String) (v : Option α) : List (String × α) := v.toList.map fun v => (name, v)

/-- What is written for a value; null may be left out. -/
def shown (explicit : Bool) (v : Value) : Option Value := if v.isNull && !explicit then none else some v

/-- What is written for words of a boolean rule. -/
def wordsValue : Option (List Value) → Value
  | none => .null
  | some words => .list words

/-- What is written for default values; where there are none they may be left out. -/
def shownDefaults (explicit : Bool) (defaults : Entries) : Option Value :=
  if defaults.isEmpty && !explicit then none else some (.dict defaults)

/-- The entries for what every rule has, given what is written for its timeout. -/
def commonEntries (explicit : Bool) (required : Value) (timeout : Option Value) : List (String × Value) :=
  ("required", required) :: optional "async_hook" (shown explicit .null) ++ optional "timeout" timeout

/-- The entries for what every rule has, without a hook. -/
def ruleEntries (explicit : Bool) (common : Common) : List (String × Value) :=
  commonEntries explicit common.required (shown explicit common.timeout)

/-- The entries for the constraints on a text. -/
def textEntries (explicit : Bool) (c : TextChecks) : List (String × Value) :=
  optional "min" (shown explicit c.min) ++ optional "max" (shown explicit c.max) ++
    optional "pattern" (shown explicit (Coercion.patternSource c.pattern)) ++ [("email", c.email)]

/-- The entries for the constraints on a number. -/
def numberEntries (explicit : Bool) (c : NumberChecks) : List (String × Value) :=
  optional "min" (shown explicit c.min) ++ optional "max" (shown explicit c.max) ++ [("integer", c.integer)]

/-- The entries for the words of a boolean rule. -/
def wordEntries (explicit : Bool) (words : TruthWords) : List (String × Value) :=
  optional "truthy" (shown explicit (wordsValue words.truthy)) ++
    optional "falsy" (shown explicit (wordsValue words.falsy))

/-- The entries for the constraints on an array. -/
def arrayEntries (explicit : Bool) (c : ArrayChecks) : List (String × Value) :=
  optional "min_items" (shown explicit c.minItems) ++ optional "max_items" (shown explicit c.maxItems) ++
    [("unique", c.unique), ("delimiter", c.delimiter)]

/-- The entries for numbers and patterns that a conditional rule compares with. -/
def comparisonEntries (explicit : Bool) (c : Conditions) : List (String × Value) :=
  optional "matches" (shown explicit (Coercion.patternSource c.pattern)) ++
    optional "min" (shown explicit c.min) ++ optional "max" (shown explicit c.max)

/-- A definition from its type, what every rule has, and what is its own. -/
def typed (type : String) (common own : List (String × Value)) : Value :=
  .dict (named (("type", .text type) :: (common ++ own)))

mutual

/-- The definition of a rule. -/
def ofRule (explicit : Bool) : Rule → Value
  | .text common c => typed "string" (ruleEntries explicit common) (textEntries explicit c)
  | .number common c => typed "number" (ruleEntries explicit common) (numberEntries explicit c)
  | .boolean common words => typed "boolean" (ruleEntries explicit common) (wordEntries explicit words)
  | .date common => typed "date" (ruleEntries explicit common) []
  | .object common fields defaults =>
    typed "object" (ruleEntries explicit common)
      (("fields", .dict (ofFields explicit fields)) :: optional "defaults" (shownDefaults explicit defaults))
  | .array common element c =>
    typed "array" (ruleEntries explicit common) (arrayEntries explicit c ++ optional "of" (ofBranch explicit element))
  | .conditional common field c consequent otherwise base =>
    typed "when" (commonEntries false common.required none)
      (("field", field) :: ("then", ofRule explicit consequent) ::
        optional "otherwise" (ofBranch explicit otherwise) ++ optional "base" (ofBranch explicit base) ++
        optional "is" c.equals ++ optional "in" c.oneOf ++ comparisonEntries explicit c)
  | .custom common typeName options =>
    .dict (named (("type", .text "custom") :: (ruleEntries explicit common ++ [("name", typeName)])) ++ options)

/-- The definition of a rule that may be absent. -/
def ofBranch (explicit : Bool) : Option Rule → Option Value
  | none => shown explicit .null
  | some r => some (ofRule explicit r)

/-- The definitions of fields. -/
def ofFields (explicit : Bool) : List (Value × Rule) → Entries
  | [] => []
  | (name, r) :: rest => (name, ofRule explicit r) :: ofFields explicit rest

end

/-- The definition of a schema, under a name or without one. -/
def ofSchema (explicit : Bool) (name : Option String) (s : Schema) : Entries :=
  named (optional "name" (name.map .text) ++ ("fields", .dict (ofFields explicit s.fields)) ::
    optional "defaults" (shownDefaults explicit s.defaults))

/-! ## Entries of definitions -/

section

variable {α : Type} {explicit : Bool} {name other : String} {v : Value} {o : Option α}

@[simp] theorem lookup_optional : (optional name o).lookup other = if other = name then o else none := by
  cases o with
  | none => simp [optional]
  | some v =>
    rw [optional, Option.toList_some, List.map_singleton, List.lookup_cons]
    by_cases h : other = name <;> simp [h, beq_eq_false_iff_ne.mpr]

@[simp] theorem shown_false_null : shown false .null = none := rfl

@[simp] theorem getD_shown : (shown explicit v).getD .null = v := by
  unfold shown
  split
  · cases v <;> simp_all [Value.isNull]
  · rfl

end

/-! ## Names of entries -/

section

variable {α : Type} {P Q : String → Prop} {e : String × α} {l more : List (String × α)} {o : Option α}
  {name : String}

/-- Whether something holds of the names of all entries. -/
def AllNames (P : String → Prop) (l : List (String × α)) : Prop := ∀ e ∈ l, P e.1

theorem AllNames.imp (h : AllNames P l) (hPQ : ∀ name, P name → Q name) : AllNames Q l :=
  fun e he => hPQ e.1 (h e he)

theorem AllNames.ne_of_mem {names : List String} (h : AllNames (· ∉ names) l) (hname : name ∈ names) :
    AllNames (· ≠ name) l :=
  h.imp fun _ hfree heq => hfree (heq ▸ hname)

@[simp] theorem allNames_nil : AllNames P ([] : List (String × α)) := List.forall_mem_nil _

@[simp] theorem allNames_cons : AllNames P (e :: l) ↔ P e.1 ∧ AllNames P l := List.forall_mem_cons

@[simp] theorem allNames_append : AllNames P (l ++ more) ↔ AllNames P l ∧ AllNames P more :=
  List.forall_mem_append

@[simp] theorem allNames_optional : AllNames P (optional name o) ↔ (o.isSome → P name) := by
  cases o <;> simp [optional]

theorem lookup_eq_none_of_allNames (h : AllNames (· ≠ name) l) : l.lookup name = none := by
  rw [List.lookup_eq_none_iff]
  intro e he
  simpa using (h e he).symm

theorem lookup_eq_none_of_notMem {names : List String} (h : AllNames (· ∈ names) l) (hname : name ∉ names) :
    l.lookup name = none :=
  lookup_eq_none_of_allNames (h.imp fun _ hmem heq => hname (heq ▸ hmem))

theorem filter_eq_self_of_allNames (h : AllNames (· ≠ name) l) : l.filter (fun e => e.1 != name) = l :=
  List.filter_eq_self.mpr fun e he => by simpa using h e he

end

/-! ## Reading entries -/

theorem text_sameKey_text (a b : String) : (Value.text a).sameKey (.text b) = (a == b) := by
  rw [Bool.eq_iff_iff, Value.text_sameKey_text_iff, beq_iff_eq]

/-- Named arguments as they stand in a mapping. -/
def asTexts (k : Keywords) : List (Value × Argument) := k.map fun e => (.text e.1, e.2)

/-- Values as named arguments. -/
def given (l : List (String × Value)) : Keywords := l.map fun e => (e.1, .ofValue e.2)

theorem asTexts_append (k more : Keywords) : asTexts (k ++ more) = asTexts k ++ asTexts more := List.map_append

variable {catalogue : Catalogue}

/-- The part of a definition that a value is. -/
def partOf (catalogue : Catalogue) (v : Value) : Part :=
  ⟨.ofValue v, ruleOf catalogue (.ofValue v), fieldsOf catalogue (.ofValue v)⟩

/-- The parts of a definition that values under texts are. -/
def parts (catalogue : Catalogue) (l : List (String × Value)) : Parts :=
  l.map fun e => (.text e.1, partOf catalogue e.2)

theorem partsOf_named (l : List (String × Value)) :
    partsOf catalogue (Argument.ofEntries (named l)) = parts catalogue l := by
  induction l with
  | nil => rfl
  | cons e rest ih =>
    exact congrArg ((Value.text e.1, partOf catalogue e.2) :: ·) ih

/-- Among keys that are texts, the first that is the same as a text is the first that equals it. -/
theorem find?_texts {α β : Type} (f : α → β) (name : String) (l : List (String × α)) :
    ((l.map fun e => (Value.text e.1, f e.2)).find? fun p => p.1.sameKey (.text name)).map (·.2) =
      (l.lookup name).map f := by
  induction l with
  | nil => rfl
  | cons e rest ih =>
    rw [List.map_cons, List.find?_cons, List.lookup_cons, text_sameKey_text, BEq.comm]
    cases name == e.1 with
    | true => rfl
    | false => exact ih

theorem takePart_parts (name : String) (l : List (String × Value)) :
    takePart name (parts catalogue l) =
      ((l.lookup name).map (partOf catalogue), parts catalogue (l.filter fun e => e.1 != name)) := by
  rw [takePart, parts, find?_texts, parts, List.filter_map]
  simp only [Function.comp_def, text_sameKey_text, bne]

theorem keywordsOf_asTexts (k : Keywords) : keywordsOf (asTexts k) = .ok k := by
  have hread : keywordsOf (asTexts k) = .ok (k.map id) := mapM_map_eq_ok fun _ _ => rfl
  rwa [List.map_id] at hread

theorem remaining_parts (l : List (String × Value)) : remaining (parts catalogue l) = asTexts (given l) := by
  simp [remaining, parts, asTexts, given, partOf]

/-- What remains of a definition is given to a builder after what every rule has. -/
theorem keywordsOf_remaining (common own : List (String × Value)) :
    keywordsOf (asTexts (given common) ++ remaining (parts catalogue own)) = .ok (given common ++ given own) := by
  rw [remaining_parts, ← asTexts_append, keywordsOf_asTexts]

@[simp] theorem lookup_given (l : List (String × Value)) (name : String) :
    (given l).lookup name = (l.lookup name).map .ofValue := by
  induction l with
  | nil => rfl
  | cons e rest ih =>
    rw [given, List.map_cons, List.lookup_cons, List.lookup_cons]
    cases name == e.1 with
    | true => rfl
    | false => exact ih

@[simp] theorem allNames_given {P : String → Prop} {l : List (String × Value)} :
    AllNames P (given l) ↔ AllNames P l :=
  List.forall_mem_map

theorem value_of_lookup {k : Keywords} {name : String} {o : Option Value} (h : k.lookup name = o.map .ofValue)
    (default : Value) : k.value name default = .ok (o.getD default) := by
  rw [Keywords.value, h]
  cases o with
  | none => rfl
  | some v => exact Argument.needValue_ofValue v

theorem value_append {k more : Keywords} {name : String} (h : AllNames (· ≠ name) more) (default : Value) :
    (k ++ more).value name default = k.value name default := by
  rw [Keywords.value, List.lookup_append, lookup_eq_none_of_allNames h, Option.or_none, Keywords.value]

theorem value_given (l : List (String × Value)) (name : String) (default : Value) :
    (given l).value name default = .ok ((l.lookup name).getD default) :=
  value_of_lookup (lookup_given l name) default

/-- The names of the entries that are taken out of every definition. -/
def sharedNames : List String := "type" :: Build.commonNames

section

variable {name : String} {o : Option Value} {v : Value} {before l : List (String × Value)}

/-- An entry that may be absent is taken out from between others. -/
theorem takePart_between (hbefore : AllNames (· ≠ name) before) (hafter : AllNames (· ≠ name) l) :
    takePart name (parts catalogue (before ++ (optional name o ++ l))) =
      (o.map (partOf catalogue), parts catalogue (before ++ l)) := by
  have hgone : (optional name o).filter (fun e => e.1 != name) = [] := by
    cases o <;> simp [optional]
  rw [takePart_parts, List.lookup_append, List.lookup_append, lookup_optional, if_pos rfl,
    lookup_eq_none_of_allNames hbefore, lookup_eq_none_of_allNames hafter, List.filter_append,
    List.filter_append, filter_eq_self_of_allNames hbefore, filter_eq_self_of_allNames hafter, hgone,
    Option.none_or, Option.or_none, List.nil_append]

theorem takePart_optional (h : AllNames (· ≠ name) l) :
    takePart name (parts catalogue (optional name o ++ l)) = (o.map (partOf catalogue), parts catalogue l) :=
  takePart_between (allNames_nil : AllNames (· ≠ name) ([] : List (String × Value))) h

theorem takePart_cons (h : AllNames (· ≠ name) l) :
    takePart name (parts catalogue ((name, v) :: l)) = (some (partOf catalogue v), parts catalogue l) :=
  takePart_optional (o := some v) h

end

theorem takeCommon_parts {explicit : Bool} {required : Value} {timeout : Option Value}
    {own : List (String × Value)} (hown : AllNames (· ∉ sharedNames) own) :
    takeCommon catalogue (parts catalogue (commonEntries explicit required timeout ++ own)) =
      .ok (asTexts (given (commonEntries explicit required timeout)), parts catalogue own) := by
  have hrequired : AllNames (· ≠ "required") own := hown.ne_of_mem (by decide)
  have hhook : AllNames (· ≠ "async_hook") own := hown.ne_of_mem (by decide)
  have htimeout : AllNames (· ≠ "timeout") own := hown.ne_of_mem (by decide)
  unfold takeCommon commonEntries
  simp only [List.cons_append, List.append_assoc]
  rw [takePart_cons, takePart_optional, takePart_optional htimeout]
  · cases explicit <;> cases timeout <;> rfl
  · simpa using hhook
  · simpa using hrequired

/-- A definition of a type is read as the type says. -/
theorem ruleOf_typed {type path : String} {explicit : Bool} {required : Value} {timeout : Option Value}
    {own : List (String × Value)} {r : Rule} (htype : Text.lower type.toList = type.toList)
    (hown : AllNames (· ∉ sharedNames) own)
    (h : typedRule type (.text path) (asTexts (given (commonEntries explicit required timeout)))
      (parts catalogue own) = .ok r) :
    ruleOf catalogue (.ofValue (typed type (commonEntries explicit required timeout) own)) (.text path) = .ok r := by
  have htypes : AllNames (· ≠ "type") (commonEntries explicit required timeout ++ own) := by
    have hfree : AllNames (· ≠ "type") own := hown.ne_of_mem (by decide)
    simpa [commonEntries] using hfree
  rw [typed, Argument.ofValue, ruleOf, partsOf_named, ruleOfParts, takePart_cons htypes]
  simp only [typeOf, partOf, Argument.needValue_ofValue, Value.textChars, pure, Except.pure, ok_bind,
    takeCommon_parts hown, htype, String.ofList_toList, h]

section

variable {explicit : Bool} {common : Common} {name : String} {k k' : Keywords}

theorem lookup_ruleEntries (h : name ∉ Build.commonNames) :
    (given (ruleEntries explicit common) ++ k).lookup name = k.lookup name := by
  have hfree : AllNames (· ≠ name) (ruleEntries explicit common) := by
    simp only [Build.commonNames, List.mem_cons, List.not_mem_nil, or_false, not_or] at h
    simpa [ruleEntries, commonEntries] using ⟨Ne.symm h.1, fun _ => Ne.symm h.2.1, fun _ => Ne.symm h.2.2⟩
  rw [List.lookup_append, lookup_given, lookup_eq_none_of_allNames hfree]
  rfl

theorem value_ruleEntries (h : name ∉ Build.commonNames) (default : Value) :
    (given (ruleEntries explicit common) ++ k).value name default = k.value name default := by
  rw [Keywords.value, lookup_ruleEntries h, Keywords.value]

theorem get_ruleEntries (h : name ∉ Build.commonNames) :
    Keywords.get (given (ruleEntries explicit common) ++ k) name = k.get name := by
  rw [Keywords.get, lookup_ruleEntries h, Keywords.get]

/-- What every rule has is read back. -/
theorem commonOf_ruleEntries (hhook : common.hook = none) (hbuilt : Build.commonOf k' = .ok common)
    (hk : AllNames (· ∉ sharedNames) k) :
    Build.commonOf (given (ruleEntries explicit common) ++ k) = .ok common := by
  obtain ⟨-, -, -, hcheck⟩ := Build.commonOf_eq_ok_iff.mp hbuilt
  have hlookup : ∀ name ∈ sharedNames, (given (ruleEntries explicit common) ++ k).lookup name =
      ((ruleEntries explicit common).lookup name).map .ofValue := by
    intro name hname
    rw [List.lookup_append, lookup_given, lookup_eq_none_of_allNames (hk.ne_of_mem hname), Option.or_none]
  refine Build.commonOf_eq_ok_iff.mpr ⟨?_, ?_, ?_, hcheck⟩
  · exact value_of_lookup (o := some common.required) (hlookup "required" (by decide)) _
  · have hshown : (ruleEntries explicit common).lookup "async_hook" = shown explicit .null := by
      simp [ruleEntries, commonEntries, List.lookup_append, List.lookup_cons]
    rw [Build.hookOf, Keywords.get, hlookup "async_hook" (by decide), hshown, hhook]
    cases explicit <;> rfl
  · have hshown : (ruleEntries explicit common).lookup "timeout" = shown explicit common.timeout := by
      simp [ruleEntries, commonEntries, List.lookup_append, List.lookup_cons]
    rw [value_of_lookup (hlookup "timeout" (by decide)), hshown, getD_shown]

theorem check_ruleEntries {function : String} {position : Option String} {known : List String}
    (h : AllNames (· ∈ Build.commonNames ++ known) k) :
    Keywords.check (given (ruleEntries explicit common) ++ k) function position (Build.commonNames ++ known) =
      .ok () := by
  have hcommon : AllNames (· ∈ Build.commonNames ++ known) (ruleEntries explicit common) := by
    simp [ruleEntries, commonEntries, Build.commonNames]
  exact Keywords.check_eq_ok (allNames_append.mpr ⟨allNames_given.mpr hcommon, h⟩)

end

end Definition

end RecordCheck
