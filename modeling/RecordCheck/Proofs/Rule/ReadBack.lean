import RecordCheck.Proofs.Rule.Written

/-!
# Definitions that are read back

Reading the definition of a rule that was built gives the rule back, and so does reading the definition of a
schema, whether arguments that are null are written or left out.
-/

set_option autoImplicit false

namespace RecordCheck.Definition

open Attempt

variable {catalogue : Catalogue}

/-! ## Rules without parts -/

/-- Whether a rule is read back from its definition, whatever the path to it. -/
def ReadsBack (catalogue : Catalogue) (explicit : Bool) (r : Rule) : Prop :=
  ∀ path : String, ruleOf catalogue (.ofValue (ofRule explicit r)) (.text path) = .ok r

section

variable {explicit : Bool} {common : Common} {path : String} {k : Keywords}

/-- A definition of a type that has no parts is read by the builder of the type. -/
theorem ruleOf_plain {type : String} {build : Keywords → Attempt Rule} {own : List (String × Value)} {r : Rule}
    (htype : Text.lower type.toList = type.toList)
    (hplain : ∀ common parts, typedRule type (.text path) common parts =
      keywordsOf (common ++ remaining parts) >>= build)
    (hown : AllNames (· ∉ sharedNames) own)
    (hbuilt : build (given (ruleEntries explicit common) ++ given own) = .ok r) :
    ruleOf catalogue (.ofValue (typed type (ruleEntries explicit common) own)) (.text path) = .ok r := by
  refine ruleOf_typed htype hown ?_
  rw [hplain, ← ruleEntries, keywordsOf_remaining, ok_bind, hbuilt]

theorem source_compile {source : String} {flags : Regex.Flags} {p : Regex.Pattern}
    (h : Regex.Pattern.compile source flags = .ok p) : p.source = source := by
  simp only [Regex.Pattern.compile, bind, Except.bind] at h
  split at h
  · cases h
  · split at h <;> cases h
    rfl

/-- A pattern that is not given ready made is what its source stands for. -/
theorem compilePattern_patternSource {name : String} {source pattern : Value}
    (hgiven : k.GivesSource name) (hsource : k.value name .null = .ok source)
    (h : Build.compilePattern source = .ok pattern) :
    Build.compilePattern (Coercion.patternSource pattern) = .ok pattern := by
  unfold Build.compilePattern at h
  split at h
  · cases h
    cases source with
    | pattern p => exact absurd hsource (hgiven p)
    | _ => first | rfl | contradiction
  · split at h <;> cases h
    rename_i hcompile
    rw [Coercion.patternSource, source_compile hcompile, Build.compilePattern, Value.text?]
    simp only [hcompile]
    rfl

theorem readsBack_text {checks : TextChecks} (hhook : common.hook = none)
    (hpattern : k.GivesSource "pattern") (h : Build.text k = .ok (.text common checks)) :
    ReadsBack catalogue explicit (.text common checks) := by
  intro path
  obtain ⟨-, hcommon, -, -, hsizes, ⟨source, hsource, hcompiled⟩, -⟩ := Build.text_eq_ok_iff.mp h
  have hown : AllNames (· ∉ sharedNames) (textEntries explicit checks) := by
    simp [textEntries, sharedNames, Build.commonNames]
  refine ruleOf_plain (by decide) (fun _ _ => rfl) hown (Build.text_eq_ok_iff.mpr
    ⟨check_ruleEntries (allNames_given.mpr ?_), commonOf_ruleEntries hhook hcommon (allNames_given.mpr hown),
      ?_, ?_, hsizes, ⟨_, ?_, compilePattern_patternSource hpattern hsource hcompiled⟩, ?_⟩) <;>
    simp [textEntries, value_ruleEntries, value_given, Build.commonNames, List.lookup_append, List.lookup_cons]

theorem readsBack_number {checks : NumberChecks} (hhook : common.hook = none)
    (h : Build.number k = .ok (.number common checks)) :
    ReadsBack catalogue explicit (.number common checks) := by
  intro path
  obtain ⟨-, hcommon, -, -, horder, -⟩ := Build.number_eq_ok_iff.mp h
  have hown : AllNames (· ∉ sharedNames) (numberEntries explicit checks) := by
    simp [numberEntries, sharedNames, Build.commonNames]
  refine ruleOf_plain (by decide) (fun _ _ => rfl) hown (Build.number_eq_ok_iff.mpr
    ⟨check_ruleEntries (allNames_given.mpr ?_), commonOf_ruleEntries hhook hcommon (allNames_given.mpr hown),
      ?_, ?_, horder, ?_⟩) <;>
    simp [numberEntries, value_ruleEntries, value_given, Build.commonNames, List.lookup_append, List.lookup_cons]

theorem wordsOf_wordsValue (words : Option (List Value)) : Build.wordsOf (wordsValue words) = .ok words := by
  cases words <;> rfl

theorem readsBack_boolean {words : TruthWords} (hhook : common.hook = none)
    (h : Build.boolean k = .ok (.boolean common words)) :
    ReadsBack catalogue explicit (.boolean common words) := by
  intro path
  obtain ⟨-, hcommon, -, -⟩ := Build.boolean_eq_ok_iff.mp h
  have hown : AllNames (· ∉ sharedNames) (wordEntries explicit words) := by
    simp [wordEntries, sharedNames, Build.commonNames]
  refine ruleOf_plain (by decide) (fun _ _ => rfl) hown (Build.boolean_eq_ok_iff.mpr
    ⟨check_ruleEntries (allNames_given.mpr ?_), commonOf_ruleEntries hhook hcommon (allNames_given.mpr hown),
      ⟨_, ?_, wordsOf_wordsValue _⟩, ⟨_, ?_, wordsOf_wordsValue _⟩⟩) <;>
    simp [wordEntries, value_ruleEntries, value_given, Build.commonNames, List.lookup_append]

theorem readsBack_date (hhook : common.hook = none) (h : Build.date k = .ok (.date common)) :
    ReadsBack catalogue explicit (.date common) := by
  intro path
  obtain ⟨-, hcommon⟩ := Build.date_eq_ok_iff.mp h
  have hown : AllNames (· ∉ sharedNames) ([] : List (String × Value)) := allNames_nil
  have hnames : Keywords.check (given (ruleEntries explicit common) ++ given []) "date" none
      (Build.commonNames ++ []) = .ok () :=
    check_ruleEntries allNames_nil
  exact ruleOf_plain (by decide) (fun _ _ => rfl) hown (Build.date_eq_ok_iff.mpr
    ⟨hnames, commonOf_ruleEntries hhook hcommon allNames_nil⟩)

end

/-! ## Rules with parts -/

section

variable {explicit : Bool} {common : Common} {path : String} {k : Keywords} {fields : List (Value × Rule)}
  {defaults : Entries}

theorem textOf_text (s : String) : (Value.text s).textOf = .ok s := by
  simp only [Value.textOf, Value.textChars, pure, Except.pure, ok_bind, String.ofList_toList]

theorem pathOf_text (path more : String) : pathOf (.text path) more = .ok (.text (path ++ more)) := by
  rw [pathOf, textOf_text]
  rfl

theorem exists_textOf_of_text? {v : Value} (h : v.text?.isSome) : ∃ s, v.textOf = .ok s := by
  cases v with
  | text s => exact ⟨_, rfl⟩
  | textMember s => exact ⟨_, rfl⟩
  | _ => cases h

/-- Fields are read back in order. -/
theorem fieldsOf_ofFields (hnames : ∀ f ∈ fields, f.1.text?.isSome)
    (hrules : ∀ f ∈ fields, ReadsBack catalogue explicit f.2) :
    fieldsOf catalogue (.ofValue (.dict (ofFields explicit fields))) (.text path) = .ok fields := by
  rw [Argument.ofValue, fieldsOf]
  induction fields with
  | nil => rfl
  | cons f rest ih =>
    obtain ⟨hname, hnames⟩ := List.forall_mem_cons.mp hnames
    obtain ⟨hrule, hrules⟩ := List.forall_mem_cons.mp hrules
    obtain ⟨shown, hshown⟩ := exists_textOf_of_text? hname
    rw [ofFields, Argument.ofEntries, partsOf, List.mapM_cons, ih hnames hrules]
    simp only [hshown, pathOf_text, hrule _, pure, Except.pure, ok_bind]

theorem mapM_fieldRule (fields : List (Value × Rule)) :
    (fields.map fun f => (f.1, Argument.rule f.2)).mapM
      (fun e => do return (e.1, ← Build.fieldRule e.1 e.2)) = .ok fields := by
  have hkept : (fields.map fun f => (f.1, Argument.rule f.2)).mapM
      (fun e => do return (e.1, ← Build.fieldRule e.1 e.2)) = .ok (fields.map id) :=
    mapM_map_eq_ok fun _ _ => rfl
  rwa [List.map_id] at hkept

/-- A schema of rules that have been read has them and the default values. -/
theorem schema_rules {a : Argument} (h : Build.defaultsOf a = .ok defaults) :
    Build.schema (.mapping (fields.map fun f => (f.1, .rule f.2))) a = .ok ⟨fields, defaults⟩ := by
  simp only [Build.schema, Argument.entries?]
  rw [mapM_fieldRule, ok_bind, h]
  rfl

theorem argumentOf_partOf (o : Option Value) :
    argumentOf (o.map (partOf catalogue)) = (o.map .ofValue).getD .null := by
  cases o <;> rfl

/-- Default values are read back. -/
theorem defaultsOf_shownDefaults :
    Build.defaultsOf (((shownDefaults explicit defaults).map .ofValue).getD .null) = .ok defaults := by
  cases defaults with
  | nil => cases explicit <;> rfl
  | cons e rest =>
    have htruthy : (Argument.ofValue (.dict (e :: rest))).isTruthy = true := Argument.isTruthy_ofValue _
    simp [shownDefaults, Build.defaultsOf, htruthy, Value.toEntries]

theorem readsBack_object {first : Option Argument} (hhook : common.hook = none)
    (hnames : ∀ f ∈ fields, f.1.text?.isSome) (hrules : ∀ f ∈ fields, ReadsBack catalogue explicit f.2)
    (h : Build.object first k = .ok (.object common fields defaults)) :
    ReadsBack catalogue explicit (.object common fields defaults) := by
  intro path
  have hown : AllNames (· ∉ sharedNames)
      (("fields", .dict (ofFields explicit fields)) :: optional "defaults" (shownDefaults explicit defaults)) := by
    simp [sharedNames, Build.commonNames]
  refine ruleOf_typed (by decide) hown ?_
  have hfields : takePart "fields" (parts catalogue
      (("fields", .dict (ofFields explicit fields)) :: optional "defaults" (shownDefaults explicit defaults))) =
      (some (partOf catalogue (.dict (ofFields explicit fields))),
        parts catalogue (optional "defaults" (shownDefaults explicit defaults))) :=
    takePart_cons (by simp)
  have hdefaults : takePart "defaults" (parts catalogue (optional "defaults" (shownDefaults explicit defaults))) =
      ((shownDefaults explicit defaults).map (partOf catalogue), parts catalogue []) := by
    rw [← takePart_optional allNames_nil, List.append_nil]
  rw [← ruleEntries, typedRule, objectOf, hfields]
  simp only [hdefaults, argumentOf_partOf, partOf, fieldsOf_ofFields hnames hrules,
    schema_rules defaultsOf_shownDefaults, keywordsOf_remaining, ok_bind]
  exact Build.object_schema (check_ruleEntries allNames_nil) (lookup_ruleEntries (by decide))
    (commonOf_ruleEntries hhook (Build.commonOf_of_object h) allNames_nil)

theorem isNull_partOf_ofRule (r : Rule) : (partOf catalogue (ofRule explicit r)).argument.isNull = false := by
  cases r <;> rfl

theorem ReadsBack.rule_partOf {r : Rule} (h : ReadsBack catalogue explicit r) (path : String) :
    (partOf catalogue (ofRule explicit r)).rule (.text path) = .ok r := h path

/-- What is given to the builder of arrays for the rule of the elements. -/
def givenElement (explicit : Bool) : Option Rule → Option Argument
  | none => (shown explicit .null).map .ofValue
  | some r => some (.rule r)

theorem needRule_givenElement (element : Option Rule) :
    ((givenElement explicit element).getD .null).needRule = .ok element := by
  cases element with
  | none => cases explicit <;> rfl
  | some r => rfl

theorem mapM_elementArgument {own : List (String × Value)} (h : AllNames (· ≠ "of") own) :
    (parts catalogue own).mapM (fun e => do return (e.1, ← elementArgument (.text path) e.1 e.2)) =
      .ok (asTexts (given own)) := by
  rw [asTexts, given, List.map_map]
  refine mapM_map_eq_ok fun e he => ?_
  have hkept : elementArgument (.text path) (.text e.1) (partOf catalogue e.2) = .ok (.ofValue e.2) := by
    simp [elementArgument, text_sameKey_text, h e he, partOf]
  rw [hkept]
  rfl

theorem mapM_elementArgument_of {element : Option Rule}
    (hrules : ∀ r ∈ element, ReadsBack catalogue explicit r) :
    (parts catalogue (optional "of" (ofBranch explicit element))).mapM
        (fun e => do return (e.1, ← elementArgument (.text path) e.1 e.2)) =
      .ok (asTexts (optional "of" (givenElement explicit element))) := by
  cases element with
  | none => cases explicit <;> rfl
  | some r =>
    have hread : elementArgument (.text path) (.text "of") (partOf catalogue (ofRule explicit r)) =
        .ok (.rule r) := by
      rw [elementArgument, text_sameKey_text, isNull_partOf_ofRule, pathOf_text, ok_bind, (hrules r rfl).rule_partOf]
      rfl
    rw [ofBranch, optional, Option.toList_some, List.map_singleton, parts, List.map_singleton, List.mapM_cons, hread]
    rfl

/-- An array's definition gives the builder its entries, with the rule that is read for the elements. -/
theorem arrayOf_parts {element : Option Rule} {checks : ArrayChecks} (shared : List (String × Value))
    (hrules : ∀ r ∈ element, ReadsBack catalogue explicit r) :
    arrayOf (.text path) (asTexts (given shared))
        (parts catalogue (arrayEntries explicit checks ++ optional "of" (ofBranch explicit element))) =
      Build.array (given shared ++
        (given (arrayEntries explicit checks) ++ optional "of" (givenElement explicit element))) := by
  have hown : (parts catalogue (arrayEntries explicit checks)).mapM
      (fun e => do return (e.1, ← elementArgument (.text path) e.1 e.2)) =
        .ok (asTexts (given (arrayEntries explicit checks))) :=
    mapM_elementArgument (by simp [arrayEntries])
  have harguments :
      (parts catalogue (arrayEntries explicit checks ++ optional "of" (ofBranch explicit element))).mapM
        (fun e => do return (e.1, ← elementArgument (.text path) e.1 e.2)) =
          .ok (asTexts (given (arrayEntries explicit checks) ++ optional "of" (givenElement explicit element))) := by
    rw [parts, List.map_append, List.mapM_append, ← parts, ← parts, hown, mapM_elementArgument_of hrules,
      asTexts_append]
    rfl
  rw [arrayOf, harguments, ok_bind, ← asTexts_append, keywordsOf_asTexts, ok_bind]

theorem array_givenElement {element : Option Rule} {checks : ArrayChecks} (hhook : common.hook = none)
    (h : Build.array k = .ok (.array common element checks)) :
    Build.array (given (ruleEntries explicit common) ++
        (given (arrayEntries explicit checks) ++ optional "of" (givenElement explicit element))) =
      .ok (.array common element checks) := by
  obtain ⟨-, hcommon, -, -, hsizes, -, htruthy, -, -⟩ := Build.array_eq_ok_iff.mp h
  have hknown : AllNames
      (· ∈ Build.commonNames ++ ["of", "min_items", "max_items", "min", "max", "unique", "delimiter"])
      (given (arrayEntries explicit checks) ++ optional "of" (givenElement explicit element)) := by
    simp [arrayEntries]
  have hfree : AllNames (· ∉ sharedNames)
      (given (arrayEntries explicit checks) ++ optional "of" (givenElement explicit element)) := by
    simp [arrayEntries, sharedNames, Build.commonNames]
  -- the rule of the elements stands under its own name, which hides no other argument
  have hvalue : ∀ name default, name ∉ "of" :: Build.commonNames →
      Keywords.value (given (ruleEntries explicit common) ++
          (given (arrayEntries explicit checks) ++ optional "of" (givenElement explicit element))) name default =
        .ok (((arrayEntries explicit checks).lookup name).getD default) := by
    intro name default hname
    obtain ⟨hof, hcommon⟩ : name ≠ "of" ∧ name ∉ Build.commonNames := by simpa using hname
    rw [value_ruleEntries hcommon, value_append (allNames_optional.mpr fun _ => Ne.symm hof), value_given]
  have helement : (given (arrayEntries explicit checks)).lookup "of" = none :=
    lookup_eq_none_of_allNames (allNames_given.mpr (by simp [arrayEntries]))
  refine Build.array_eq_ok_iff.mpr ⟨check_ruleEntries hknown, commonOf_ruleEntries hhook hcommon hfree,
    Build.boundOf_of_value ?_ ?_, Build.boundOf_of_value ?_ ?_, hsizes, ?_, htruthy, ?_, ?_⟩
  case refine_7 =>
    rw [get_ruleEntries (by decide), Keywords.get, List.lookup_append, helement, lookup_optional, if_pos rfl]
    exact needRule_givenElement element
  all_goals
    rw [hvalue _ _ (by decide)]
    simp [arrayEntries, List.lookup_append, List.lookup_cons]

theorem readsBack_array {element : Option Rule} {checks : ArrayChecks} (hhook : common.hook = none)
    (hrules : ∀ r ∈ element, ReadsBack catalogue explicit r)
    (h : Build.array k = .ok (.array common element checks)) :
    ReadsBack catalogue explicit (.array common element checks) := by
  intro path
  have hown : AllNames (· ∉ sharedNames)
      (arrayEntries explicit checks ++ optional "of" (ofBranch explicit element)) := by
    simp [arrayEntries, sharedNames, Build.commonNames]
  refine ruleOf_typed (by decide) hown ?_
  rw [typedRule, arrayOf_parts _ hrules]
  exact array_givenElement hhook h

/-- What stays of the entry for a branch when the branch is taken out: null, if it is written. -/
def leftOver (explicit : Bool) : Option Rule → Option Value
  | none => shown explicit .null
  | some _ => none

theorem takeBranch_parts {name : String} {branch : Option Rule} {before l : List (String × Value)}
    (hbefore : AllNames (· ≠ name) before) (hafter : AllNames (· ≠ name) l)
    (hrules : ∀ r ∈ branch, ReadsBack catalogue explicit r) :
    takeBranch (.text path) name
        (parts catalogue (before ++ (optional name (ofBranch explicit branch) ++ l))) =
      .ok (asTexts (optional name (branch.map .rule)),
        parts catalogue (before ++ (optional name (leftOver explicit branch) ++ l))) := by
  unfold takeBranch
  rw [takePart_between hbefore hafter]
  cases branch with
  | none => cases explicit <;> rfl
  | some r =>
    simp only [ofBranch, Option.map_some, isNull_partOf_ofRule, pathOf_text, ok_bind, (hrules r rfl).rule_partOf]
    rfl

theorem takeBranch_optional {name : String} {branch : Option Rule} {l : List (String × Value)}
    (h : AllNames (· ≠ name) l) (hrules : ∀ r ∈ branch, ReadsBack catalogue explicit r) :
    takeBranch (.text path) name (parts catalogue (optional name (ofBranch explicit branch) ++ l)) =
      .ok (asTexts (optional name (branch.map .rule)),
        parts catalogue (optional name (leftOver explicit branch) ++ l)) :=
  takeBranch_parts (allNames_nil : AllNames (· ≠ name) ([] : List (String × Value))) h hrules

theorem takeBranch_cons {name : String} {r : Rule} {l : List (String × Value)}
    (h : AllNames (· ≠ name) l) (hrule : ReadsBack catalogue explicit r) :
    takeBranch (.text path) name (parts catalogue ((name, ofRule explicit r) :: l)) =
      .ok (asTexts (optional name (some (.rule r))), parts catalogue l) := by
  have hbranch : ∀ s ∈ some r, ReadsBack catalogue explicit s := by simpa using hrule
  exact takeBranch_optional h hbranch

theorem needRule_branch {branch : Option Rule} :
    ((branch.map Argument.rule).getD (((leftOver explicit branch).map .ofValue).getD .null)).needRule =
      .ok branch := by
  cases branch with
  | none => cases explicit <;> rfl
  | some r => rfl

/-- The arguments of a conditional rule that are read from its definition. -/
def wheneverArguments (explicit : Bool) (required : Value) (c : Conditions) (consequent : Rule)
    (otherwise base : Option Rule) : Keywords :=
  given (optional "is_" c.equals) ++ given (optional "in_" c.oneOf) ++ optional "then" (some (.rule consequent)) ++
    optional "otherwise" (otherwise.map .rule) ++ optional "base" (base.map .rule) ++
    given (commonEntries false required none) ++
    given (optional "otherwise" (leftOver explicit otherwise) ++
      (optional "base" (leftOver explicit base) ++ comparisonEntries explicit c))

section

variable {required : Value} {c : Conditions} {consequent : Rule} {otherwise base : Option Rule}

theorem value?_of_lookup {k : Keywords} {name : String} {o : Option Value} (h : k.lookup name = o.map .ofValue) :
    k.value? name = .ok o := by
  rw [Keywords.value?, h]
  cases o with
  | none => rfl
  | some v => simp

theorem allNames_wheneverArguments : AllNames
    (· ∈ ["then", "otherwise", "is_", "in_", "matches", "min", "max", "required", "base"])
    (wheneverArguments explicit required c consequent otherwise base) := by
  simp [wheneverArguments, commonEntries, comparisonEntries]

/-- The arguments that compare the field are those of the conditions. -/
theorem conditions_wheneverArguments
    (hcompiled : Build.compilePattern (Coercion.patternSource c.pattern) = .ok c.pattern) :
    Build.conditions (wheneverArguments explicit required c consequent otherwise base) = .ok c := by
  have hcomparison : ∀ name ∈ ["matches", "min", "max"],
      (wheneverArguments explicit required c consequent otherwise base).lookup name =
        ((comparisonEntries explicit c).lookup name).map .ofValue := by
    intro name hname
    simp only [List.mem_cons, List.not_mem_nil, or_false] at hname
    rcases hname with rfl | rfl | rfl <;>
      simp [wheneverArguments, commonEntries, List.lookup_append, List.lookup_cons]
  refine Build.conditions_eq_ok_iff.mpr ⟨value?_of_lookup ?_, value?_of_lookup ?_, ⟨_, ?_, hcompiled⟩, ?_, ?_⟩
  · simp [wheneverArguments, commonEntries, comparisonEntries, List.lookup_append, List.lookup_cons]
  · simp [wheneverArguments, commonEntries, comparisonEntries, List.lookup_append, List.lookup_cons]
  · rw [value_of_lookup (hcomparison _ (by decide))]
    simp [comparisonEntries, List.lookup_append]
  · rw [value_of_lookup (hcomparison _ (by decide))]
    simp [comparisonEntries, List.lookup_append]
  · rw [value_of_lookup (hcomparison _ (by decide))]
    simp [comparisonEntries, List.lookup_append]

end

theorem whenever_wheneverArguments {first : Option Argument} {field : Value} {c : Conditions} {consequent : Rule}
    {otherwise base : Option Rule} (hhook : common.hook = none) (hpattern : k.GivesSource "matches")
    (h : Build.whenever first k = .ok (.conditional common field c consequent otherwise base)) :
    Build.whenever (some (.ofValue field))
        (wheneverArguments explicit common.required c consequent otherwise base) =
      .ok (.conditional common field c consequent otherwise base) := by
  obtain ⟨hnames, -, hconditions, hconfigured, hcommon, -, -, -⟩ := Build.whenever_eq_ok_iff.mp h
  obtain ⟨-, -, ⟨source, hsource, hcompiled⟩, -, -⟩ := Build.conditions_eq_ok_iff.mp hconditions
  obtain ⟨-, -, htimeout, hcheck⟩ := Build.commonOf_eq_ok_iff.mp hcommon
  -- the builder takes no timeout, so none is lost where none is written
  have hnull : common.timeout = .null := by
    rw [value_of_lookup (o := none) (Keywords.lookup_eq_none_of_check hnames (by decide))] at htimeout
    exact (Except.ok.inj htimeout).symm
  refine Build.whenever_eq_ok_iff.mpr ⟨Keywords.check_eq_ok allNames_wheneverArguments,
    ⟨_, rfl, Argument.needValue_ofValue field⟩,
    conditions_wheneverArguments (compilePattern_patternSource hpattern hsource hcompiled), hconfigured,
    Build.commonOf_eq_ok_iff.mpr ⟨?_, ?_, ?_, hcheck⟩, ?_, ?_, ?_⟩
  · refine value_of_lookup (o := some common.required) ?_ _
    simp [wheneverArguments, commonEntries, List.lookup_append]
  · rw [Build.hookOf, Keywords.get, lookup_eq_none_of_notMem allNames_wheneverArguments (by decide), hhook]
    rfl
  · rw [hnull]
    exact value_of_lookup (o := none) (lookup_eq_none_of_notMem allNames_wheneverArguments (by decide)) _
  · simp [wheneverArguments, Keywords.get, List.lookup_append]
  · simpa [wheneverArguments, commonEntries, comparisonEntries, Keywords.get, List.lookup_append, List.lookup_cons]
      using needRule_branch
  · simpa [wheneverArguments, commonEntries, comparisonEntries, Keywords.get, List.lookup_append, List.lookup_cons]
      using needRule_branch

theorem checkRepeated_parts {function : String} {names : List String} {l : List (String × Value)}
    (h : AllNames (· ∉ names) l) : checkRepeated function names (parts catalogue l) = .ok () := by
  have hnone : (parts catalogue l).findSome? (fun p => p.1.text?.filter names.contains) = none := by
    rw [List.findSome?_eq_none_iff]
    exact List.forall_mem_map.mpr fun e he => by simp [Value.text?, h e he]
  rw [checkRepeated, hnone]
  rfl

theorem map_partOf (name : String) (o : Option Value) :
    ((o.map (partOf catalogue)).toList.map fun p => (Value.text name, p.argument)) =
      asTexts (given (optional name o)) := by
  cases o <;> rfl

theorem wheneverOf_parts {field : Value} {c : Conditions} {consequent : Rule} {otherwise base : Option Rule}
    (hfield : field.isTruthy = true) (hthen : ReadsBack catalogue explicit consequent)
    (hotherwise : ∀ r ∈ otherwise, ReadsBack catalogue explicit r)
    (hbase : ∀ r ∈ base, ReadsBack catalogue explicit r) :
    wheneverOf (.text path) (asTexts (given (commonEntries false common.required none)))
        (parts catalogue (("field", field) :: ("then", ofRule explicit consequent) ::
          optional "otherwise" (ofBranch explicit otherwise) ++ optional "base" (ofBranch explicit base) ++
          optional "is" c.equals ++ optional "in" c.oneOf ++ comparisonEntries explicit c)) =
      Build.whenever (some (.ofValue field))
        (wheneverArguments explicit common.required c consequent otherwise base) := by
  have htruthy : (argumentOf (some (partOf catalogue field))).isTruthy = true :=
    (Argument.isTruthy_ofValue field).trans hfield
  simp only [List.cons_append, List.append_assoc, wheneverOf]
  -- entries are taken out from the front, but a branch that is written as null stays where it is
  rw [takePart_cons]
  simp only [htruthy, Bool.not_true, Bool.false_eq_true, if_false]
  rw [takeBranch_cons, ok_bind, takeBranch_optional _ hotherwise, ok_bind, takeBranch_parts _ _ hbase, ok_bind]
  · dsimp only
    rw [← List.append_assoc (optional "otherwise" _) (optional "base" _), takePart_between, takePart_between]
    · rw [checkRepeated_parts, ok_bind, map_partOf, map_partOf, remaining_parts]
      · simp only [← asTexts_append, keywordsOf_asTexts, ok_bind]
        simp only [argumentOf, wheneverArguments, List.append_assoc]
        rfl
      · simp [comparisonEntries]
    all_goals simp [comparisonEntries]
  all_goals simp [comparisonEntries, hthen]

theorem readsBack_whenever {first : Option Argument} {field : Value} {c : Conditions} {consequent : Rule}
    {otherwise base : Option Rule} (hhook : common.hook = none) (hfield : field.isTruthy = true)
    (hpattern : k.GivesSource "matches") (hthen : ReadsBack catalogue explicit consequent)
    (hotherwise : ∀ r ∈ otherwise, ReadsBack catalogue explicit r)
    (hbase : ∀ r ∈ base, ReadsBack catalogue explicit r)
    (h : Build.whenever first k = .ok (.conditional common field c consequent otherwise base)) :
    ReadsBack catalogue explicit (.conditional common field c consequent otherwise base) := by
  intro path
  have hown : AllNames (· ∉ sharedNames)
      (("field", field) :: ("then", ofRule explicit consequent) ::
        optional "otherwise" (ofBranch explicit otherwise) ++ optional "base" (ofBranch explicit base) ++
        optional "is" c.equals ++ optional "in" c.oneOf ++ comparisonEntries explicit c) := by
    simp [comparisonEntries, sharedNames, Build.commonNames]
  refine ruleOf_typed (by decide) hown ?_
  rw [typedRule, wheneverOf_parts hfield hthen hotherwise hbase]
  exact whenever_wheneverArguments hhook hpattern h

/-- Options are entries under the names of the arguments that they are given by. -/
theorem exists_named_of_mapM {options : Entries}
    (h : k.mapM (fun e => do return (Value.text e.1, ← e.2.needValue)) = .ok options) :
    ∃ l : List (String × Value), options = named l ∧ l.map (·.1) = k.map (·.1) := by
  rw [mapM_eq_ok_iff] at h
  induction h with
  | nil => exact ⟨[], rfl, rfl⟩
  | cons hfirst _ ih =>
    obtain ⟨l, rfl, hl⟩ := ih
    obtain ⟨v, -, hv⟩ := bind_eq_ok_iff.mp hfirst
    cases hv
    exact ⟨(_, v) :: l, rfl, congrArg (_ :: ·) hl⟩

theorem mapM_given (l : List (String × Value)) :
    (given l).mapM (fun e => do return (Value.text e.1, ← e.2.needValue)) = .ok (named l) := by
  refine mapM_map_eq_ok fun e _ => ?_
  rw [Argument.needValue_ofValue]
  rfl

/-- What every rule has is no option. -/
theorem filter_ruleEntries {l : List (String × Value)} (h : AllNames (· ∉ sharedNames) l) :
    (given (ruleEntries explicit common) ++ given l).filter (fun e => !Build.commonNames.contains e.1) = given l := by
  have hcommon : AllNames (· ∈ Build.commonNames) (given (ruleEntries explicit common)) := by
    simp [ruleEntries, commonEntries, Build.commonNames]
  have hfree : AllNames (· ∉ Build.commonNames) (given l) :=
    allNames_given.mpr (h.imp fun _ hname hmem => hname (List.mem_cons_of_mem _ hmem))
  rw [List.filter_append, List.filter_eq_nil_iff.mpr fun e he => by simpa using hcommon e he,
    List.filter_eq_self.mpr fun e he => by simpa using hfree e he, List.nil_append]

theorem readsBack_custom {first : Option Argument} {typeName : Value} {options : Entries}
    (hhook : common.hook = none) (hname : typeName.isTruthy = true) (hfree : ∀ e ∈ k, e.1 ∉ ["type", "name"])
    (h : Build.custom first k = .ok (.custom common typeName options)) :
    ReadsBack catalogue explicit (.custom common typeName options) := by
  intro path
  obtain ⟨hposition, -, hcommon, hoptions⟩ := Build.custom_eq_ok_iff.mp h
  obtain ⟨l, rfl, hnames⟩ := exists_named_of_mapM hoptions
  -- the options stand under names of arguments that are neither taken out nor refused
  have hl : AllNames (fun name => name ∉ sharedNames ∧ name ≠ "name" ∧ name ≠ "type_name") l := by
    intro e he
    obtain ⟨a, ha, heq⟩ := List.mem_map.mp (hnames ▸ List.mem_map_of_mem he)
    obtain ⟨hak, hacommon⟩ := List.mem_filter.mp ha
    have hnotCommon : a.1 ∉ Build.commonNames := by simpa using hacommon
    have hnotPosition : a.1 ≠ "type_name" :=
      Ne.symm (by simpa using List.lookup_eq_none_iff.mp hposition a hak)
    obtain ⟨hnotType, hnotName⟩ : a.1 ≠ "type" ∧ a.1 ≠ "name" := by simpa using hfree a hak
    rw [← heq]
    exact ⟨List.not_mem_cons_of_ne_of_not_mem hnotType hnotCommon, hnotName, hnotPosition⟩
  have hshared : AllNames (· ∉ sharedNames) l := hl.imp fun _ h => h.1
  have hdefinition : ofRule explicit (.custom common typeName (named l)) =
      typed "custom" (ruleEntries explicit common) (("name", typeName) :: l) := by
    simp [ofRule, typed, named]
  have htruthy : (argumentOf (some (partOf catalogue typeName))).isTruthy = true :=
    (Argument.isTruthy_ofValue typeName).trans hname
  rw [hdefinition]
  refine ruleOf_typed (by decide) (allNames_cons.mpr ⟨(by decide : "name" ∉ sharedNames), hshared⟩) ?_
  rw [← ruleEntries, typedRule, customOf, takePart_cons (hl.imp fun _ h => h.2.1)]
  simp only [htruthy, Bool.not_true, Bool.false_eq_true, if_false]
  rw [keywordsOf_remaining, ok_bind]
  refine Build.custom_eq_ok_iff.mpr ⟨?_, ⟨_, rfl, Argument.needValue_ofValue typeName⟩,
    commonOf_ruleEntries hhook hcommon (allNames_given.mpr hshared), ?_⟩
  · rw [lookup_ruleEntries (by decide), lookup_given, lookup_eq_none_of_allNames (hl.imp fun _ h => h.2.2)]
    rfl
  · rw [filter_ruleEntries hshared, mapM_given]

end

/-- A rule that was built is read back from its definition. -/
theorem readsBack_of_isBuilt {explicit : Bool} {r : Rule} (h : r.IsBuilt) : ReadsBack catalogue explicit r := by
  induction h with
  | text hook pattern built => exact readsBack_text hook pattern built
  | number hook built => exact readsBack_number hook built
  | boolean hook built => exact readsBack_boolean hook built
  | date hook built => exact readsBack_date hook built
  | object hook names _ built ih => exact readsBack_object hook names ih built
  | array hook _ built ih => exact readsBack_array hook ih built
  | whenever hook name pattern _ _ _ built ihThen ihOtherwise ihBase =>
    exact readsBack_whenever hook name pattern ihThen ihOtherwise ihBase built
  | custom hook name free built => exact readsBack_custom hook name free built

/-! ## Schemas -/

theorem ofEntries_named (l : List (String × Value)) : Argument.ofEntries (named l) = asTexts (given l) := by
  induction l with
  | nil => rfl
  | cons e rest ih => exact congrArg ((Value.text e.1, Argument.ofValue e.2) :: ·) ih

theorem entryOf_asTexts (k : Keywords) (name : String) : entryOf (asTexts k) name = k.lookup name :=
  (find?_texts id name k).trans Option.map_id_apply

section

variable {explicit : Bool} {s : Schema}

theorem isTruthy_ofFields (fields : List (Value × Rule)) :
    (Argument.ofValue (.dict (ofFields explicit fields))).isTruthy = !fields.isEmpty := by
  cases fields <;> rfl

theorem schemaOf_ofSchema (name : Option String) (hnames : ∀ f ∈ s.fields, f.1.text?.isSome)
    (hrules : ∀ f ∈ s.fields, ReadsBack catalogue explicit f.2) :
    schemaOf catalogue (Argument.ofEntries (ofSchema explicit name s)) = .ok s := by
  let l := optional "name" (name.map .text) ++ ("fields", Value.dict (ofFields explicit s.fields)) ::
    optional "defaults" (shownDefaults explicit s.defaults)
  have hself : (given l).lookup "self" = none :=
    lookup_eq_none_of_allNames (allNames_given.mpr (by simp [l]))
  have hname : (given l).lookup "name" = (name.map Value.text).map .ofValue := by
    simp [l, List.lookup_append, List.lookup_cons]
  have hfields : (given l).lookup "fields" = some (.ofValue (.dict (ofFields explicit s.fields))) := by
    simp [l, List.lookup_append]
  have hdefaults : (given l).lookup "defaults" = (shownDefaults explicit s.defaults).map .ofValue := by
    simp [l, List.lookup_append, List.lookup_cons]
  have htext : (((name.map Value.text).map Argument.ofValue).getD (.value defaultName)).needValue =
      .ok (.text (name.getD "unnamed_schema")) := by
    cases name <;> rfl
  have hwritten : Argument.ofEntries (ofSchema explicit name s) = asTexts (given l) := ofEntries_named l
  simp only [schemaOf, hwritten, keywordsOf_asTexts, entryOf_asTexts, hself, hname, hfields, hdefaults, htext,
    Option.isSome_none, Bool.false_eq_true, if_false, Option.getD_some, textOf_text, ok_bind, isTruthy_ofFields,
    fieldsOf_ofFields hnames hrules, schema_rules defaultsOf_shownDefaults]
  -- where there are no fields nothing is read
  split
  · rfl
  · rename_i hempty
    have hnone : s.fields = [] := by simpa using hempty
    rw [← hnone]
    rfl

end

/-- A rule that was built equals the one that is read from its definition, whatever can be imported and
whatever the path to the definition; a schema of such rules equals the one that is read from its definition,
with the fields and the default values in the same order.  Either way, null may be written or left out. -/
theorem read_written (catalogue : Catalogue) (explicit : Bool) :
    (∀ r : Rule, r.IsBuilt → ∀ path : String,
      ruleOf catalogue (.ofValue (ofRule explicit r)) (.text path) = .ok r) ∧
    ∀ (s : Schema) (name : Option String), s.IsBuilt →
      schemaOf catalogue (Argument.ofEntries (ofSchema explicit name s)) = .ok s :=
  ⟨fun _ h => readsBack_of_isBuilt h, fun _ name h =>
    schemaOf_ofSchema name h.names fun f hf => readsBack_of_isBuilt (h.rules f hf)⟩

/-- A rule for a text that starts with the letter a. -/
def handleRule : Rule :=
  .text ⟨.bool true, none, .null⟩
    ⟨.int 1, .null, .pattern ⟨"^a", [], [.anchor .lineStart, .code 97 false]⟩, .bool false⟩

/-- A rule for at least one integer, written with semicolons between them. -/
def gradesRule : Rule :=
  .array ⟨.bool false, none, .null⟩ (some (.number ⟨.bool false, none, .null⟩ ⟨.null, .null, .bool true⟩))
    ⟨.int 1, .null, .bool false, .text ";"⟩

/-- A rule of a custom type with an option and a timeout. -/
def badgeRule : Rule := .custom ⟨.bool false, none, .int 50⟩ (.text "badge") [(.text "strict", .bool true)]

/-- A rule for records that has all the others under it. -/
def memberRule : Rule :=
  .object ⟨.bool true, none, .null⟩
    [(.text "handle", handleRule), (.text "grades", .conditional ⟨.bool false, none, .null⟩ (.text "handle")
      ⟨none, some (.list [.text "ada", .null]), .null, .null, .null⟩ gradesRule (some badgeRule) none)]
    [(.text "grades", .list [])]

example : ofRule false gradesRule =
    .dict [(.text "type", .text "array"), (.text "required", .bool false), (.text "min_items", .int 1),
      (.text "unique", .bool false), (.text "delimiter", .text ";"),
      (.text "of", .dict [(.text "type", .text "number"), (.text "required", .bool false),
        (.text "integer", .bool true)])] := rfl

theorem isBuilt_handleRule : handleRule.IsBuilt :=
  .text (k := [("min", .value (.int 1)), ("required", .value (.bool true)), ("pattern", .value (.text "^a"))])
    rfl nofun rfl

/-- The bound of an array may be given by its shorter name. -/
theorem isBuilt_gradesRule : gradesRule.IsBuilt :=
  .array (k := [("of", .rule (.number ⟨.bool false, none, .null⟩ ⟨.null, .null, .bool true⟩)),
      ("min", .value (.int 1)), ("delimiter", .value (.text ";"))])
    rfl (by rintro _ ⟨⟩; exact .number (k := [("integer", .value (.bool true))]) rfl rfl) rfl

theorem isBuilt_badgeRule : badgeRule.IsBuilt := by
  have built : Build.custom (some (.value (.text "badge")))
      [("timeout", .value (.int 50)), ("strict", .value (.bool true))] = .ok badgeRule := rfl
  exact .custom rfl rfl (by decide) built

theorem isBuilt_memberRule : memberRule.IsBuilt := by
  have builtGrades : Build.whenever (some (.value (.text "handle")))
      [("in_", .value (.list [.text "ada", .null])), ("then", .rule gradesRule), ("otherwise", .rule badgeRule)] =
        .ok (.conditional ⟨.bool false, none, .null⟩ (.text "handle")
          ⟨none, some (.list [.text "ada", .null]), .null, .null, .null⟩ gradesRule (some badgeRule) none) := rfl
  have hgrades := Rule.IsBuilt.whenever rfl rfl (by rintro _ ⟨⟩) isBuilt_gradesRule
    (by rintro _ ⟨⟩; exact isBuilt_badgeRule) (by simp) builtGrades
  have built : Build.object (some (.mapping [(.text "handle", .rule handleRule), (.text "grades", .rule _)]))
      [("required", .value (.bool true)), ("defaults", .mapping [(.text "grades", .value (.list []))])] =
        .ok memberRule := rfl
  exact .object rfl (by simp [Value.text?]) (by simpa using ⟨isBuilt_handleRule, hgrades⟩) built

theorem read_written_members :
    memberRule.IsBuilt ∧ Schema.IsBuilt ⟨[(.text "member", memberRule)], []⟩ ∧
      ruleOf [] (.ofValue (ofRule true memberRule)) defaultPath = .ok memberRule ∧
      schemaOf [] (Argument.ofEntries (ofSchema false (some "team") ⟨[(.text "member", memberRule)], []⟩)) =
        .ok ⟨[(.text "member", memberRule)], []⟩ := by
  have hschema : Schema.IsBuilt ⟨[(.text "member", memberRule)], []⟩ :=
    ⟨by simp [Value.text?], by simpa using isBuilt_memberRule⟩
  exact ⟨isBuilt_memberRule, hschema, (read_written [] true).1 _ isBuilt_memberRule "rule",
    (read_written [] false).2 _ (some "team") hschema⟩

end RecordCheck.Definition
