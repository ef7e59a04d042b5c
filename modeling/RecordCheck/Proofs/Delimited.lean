import RecordCheck.Coercion.Array
import RecordCheck.Proofs.Attempt
import RecordCheck.Proofs.Text

/-!
# Arrays written as texts

Where values are converted, a text is an array of its parts between delimiters.  Items that are joined with a
character that is in none of them are the items of the array again, whatever blanks and empty parts are put around and
between them: even if the delimiter is a blank itself, what is added makes no items.
-/

set_option autoImplicit false

namespace RecordCheck.Coercion

open Text

/-! ## Parts of a text -/

section

variable {d : Char} {before s after : List Char}

/-- The empty text has no parts. -/
theorem splitParts_nil (delimiter : List Char) : splitParts delimiter [] = [] := by
  unfold splitParts splitOn
  split <;> simp [splitFrom, trim, trimLeft]

/-- The parts on both sides of a delimiter are those of the text. -/
theorem splitParts_append_cons (d : Char) (s t : List Char) :
    splitParts [d] (s ++ d :: t) = splitParts [d] s ++ splitParts [d] t := by
  simp only [splitParts, splitOn_singleton, List.splitOn_append_cons_self, List.map_append, List.filter_append]

/-- A text without a delimiter is one part, or none if it is blank. -/
theorem splitParts_of_not_mem (h : d ∉ s) :
    splitParts [d] s = if (trim s).isEmpty then [] else [.ofChars (trim s)] := by
  rw [splitParts, splitOn_singleton, List.splitOn_eq_singleton h, List.map_singleton]
  cases htrim : (trim s).isEmpty <;> simp [htrim]

/-- A blank before a text adds no part. -/
theorem splitParts_cons_of_isBlank {c : Char} (hc : isBlank c = true) (s : List Char) :
    splitParts [d] (c :: s) = splitParts [d] s := by
  by_cases hsame : c = d
  · subst hsame
    have hparts := splitParts_append_cons c [] s
    rwa [splitParts_nil, List.nil_append, List.nil_append] at hparts
  · obtain ⟨first, others, hsplit⟩ := List.exists_cons_of_ne_nil (List.splitOn_ne_nil d s)
    have htrim : trim (c :: first) = trim first := by
      have happend : trim ([c] ++ first ++ []) = trim first := trim_append (by simpa using hc) (by simp)
      rwa [List.append_nil] at happend
    simp only [splitParts, splitOn_singleton, List.splitOn_cons_eq_if_modifyHead, beq_iff_eq, hsame, if_false,
      hsplit, List.modifyHead_cons, List.map_cons, htrim]

/-- Blanks before a text add no part. -/
theorem splitParts_append_of_blank (hbefore : ∀ c ∈ before, isBlank c = true) (s : List Char) :
    splitParts [d] (before ++ s) = splitParts [d] s := by
  induction before with
  | nil => rfl
  | cons c rest ih =>
    obtain ⟨hc, hrest⟩ := List.forall_mem_cons.mp hbefore
    rw [List.cons_append, splitParts_cons_of_isBlank hc, ih hrest]

/-- A blank text has no parts. -/
theorem splitParts_of_blank (h : ∀ c ∈ s, isBlank c = true) : splitParts [d] s = [] := by
  have hparts := splitParts_append_of_blank (d := d) h []
  rwa [List.append_nil, splitParts_nil] at hparts

/-- Blanks after a text without a delimiter add no part, even if there are delimiters among them. -/
theorem splitParts_append_blank (hs : d ∉ s) (hafter : ∀ c ∈ after, isBlank c = true) :
    splitParts [d] (s ++ after) = splitParts [d] s := by
  have hwhole {blanks : List Char} (hblanks : ∀ c ∈ blanks, isBlank c = true) (hd : d ∉ blanks) :
      splitParts [d] (s ++ blanks) = splitParts [d] s := by
    have htrim : trim ([] ++ s ++ blanks) = trim s := trim_append nofun hblanks
    rw [splitParts_of_not_mem (by simp [hs, hd]), splitParts_of_not_mem hs]
    rw [List.nil_append] at htrim
    rw [htrim]
  by_cases hd : d ∈ after
  · obtain ⟨blanks, rest, rfl, hnot⟩ := List.eq_append_cons_of_mem hd
    obtain ⟨hblanks, hrest⟩ := List.forall_mem_append.mp hafter
    rw [← List.append_assoc, splitParts_append_cons, hwhole hblanks hnot,
      splitParts_of_blank (List.forall_mem_cons.mp hrest).2, List.append_nil]
  · exact hwhole hafter hd

/-- The parts of joined segments are those of each. -/
theorem splitParts_intercalate (d : Char) (segments : List (List Char)) :
    splitParts [d] ([d].intercalate segments) = segments.flatMap (splitParts [d]) := by
  induction segments with
  | nil => exact splitParts_nil [d]
  | cons segment rest ih =>
    rw [List.flatMap_cons, ← ih]
    cases rest with
    | nil => rw [List.intercalate_singleton, List.intercalate_nil, splitParts_nil, List.append_nil]
    | cons next others =>
      rw [List.intercalate_cons_cons, List.append_assoc, List.singleton_append, splitParts_append_cons]

end

/-! ## Items -/

/-- Whether a text is not empty, and neither begins nor ends with a blank. -/
structure IsTrimmed (s : String) : Prop where
  filled : s ≠ ""
  first : ∀ c ∈ s.toList.head?, isBlank c = false
  last : ∀ c ∈ s.toList.getLast?, isBlank c = false

/-- Whether segments are items in order, each with any blanks around it, and any number of blank segments among
them. -/
inductive Spreads : List String → List String → Prop
  | nil : Spreads [] []
  | blank {items segments : List String} {segment : String} (blankSegment : ∀ c ∈ segment.toList, isBlank c = true)
      (rest : Spreads items segments) : Spreads items (segment :: segments)
  | item {items segments : List String} {before item after : String}
      (blankBefore : ∀ c ∈ before.toList, isBlank c = true) (blankAfter : ∀ c ∈ after.toList, isBlank c = true)
      (rest : Spreads items segments) : Spreads (item :: items) ((before ++ item ++ after) :: segments)

/-- Items with nothing around and between them. -/
theorem spreads_self (items : List String) : Spreads items items := by
  induction items with
  | nil => exact .nil
  | cons item rest ih =>
    have hitem : Spreads (item :: rest) (("" ++ item ++ "") :: rest) := .item nofun nofun ih
    rwa [String.empty_append, String.append_empty] at hitem

section

variable {d : Char}

/-- An item is the one part of it, whatever blanks are around it. -/
theorem splitParts_item {before item after : String} (hitem : IsTrimmed item) (hd : d ∉ item.toList)
    (hbefore : ∀ c ∈ before.toList, isBlank c = true) (hafter : ∀ c ∈ after.toList, isBlank c = true) :
    splitParts [d] (before ++ item ++ after).toList = [.text item] := by
  have hne : item.toList ≠ [] := fun hnil => hitem.filled (String.toList_eq_nil_iff.mp hnil)
  rw [String.toList_append, String.toList_append, List.append_assoc, splitParts_append_of_blank hbefore,
    splitParts_append_blank hd hafter, splitParts_of_not_mem hd, trim_eq_self hitem.first hitem.last,
    if_neg (by simpa using hne), Value.ofChars, String.ofList_toList]

/-- The parts of joined segments are the items that are spread over them. -/
theorem splitParts_of_spreads {items segments : List String} (hspreads : Spreads items segments)
    (hitems : ∀ item ∈ items, IsTrimmed item ∧ d ∉ item.toList) :
    splitParts [d] ((String.singleton d).intercalate segments).toList = items.map .text := by
  rw [String.toList_intercalate, String.toList_singleton, splitParts_intercalate]
  induction hspreads with
  | nil => rfl
  | blank blankSegment rest ih =>
    rw [List.map_cons, List.flatMap_cons, splitParts_of_blank blankSegment, List.nil_append, ih hitems]
  | item blankBefore blankAfter rest ih =>
    obtain ⟨⟨htrimmed, hd⟩, hothers⟩ := List.forall_mem_cons.mp hitems
    rw [List.map_cons, List.flatMap_cons, splitParts_item htrimmed hd blankBefore blankAfter, ih hothers]
    rfl

end

/-- What is joined is found in what it is joined to. -/
theorem infix_intercalate_of_mem {sep l : List Char} {ls : List (List Char)} (h : l ∈ ls) :
    l <:+: sep.intercalate ls := by
  induction ls with
  | nil => cases h
  | cons first rest ih =>
    cases rest with
    | nil =>
      obtain rfl := List.mem_singleton.mp h
      have hwhole : sep.intercalate [l] = l := List.intercalate_singleton
      exact hwhole.symm ▸ List.infix_rfl
    | cons next others =>
      rw [List.intercalate_cons_cons, List.append_assoc]
      rcases List.mem_cons.mp h with rfl | hrest
      · exact (List.prefix_append l _).isInfix
      · exact (ih hrest).trans ((List.suffix_append sep _).trans (List.suffix_append first _)).isInfix

/-- What a text is trimmed to is found in it. -/
theorem isInfix_trim (s : List Char) : trim s <:+: s := by
  have hend : trim s <+: trimLeft s := by
    rw [trim, ← List.reverse_suffix, List.reverse_reverse]
    exact List.dropWhile_suffix isBlank
  exact hend.isInfix.trans (List.dropWhile_suffix isBlank).isInfix

/-- The parts of a text are trimmed pieces of it. -/
theorem exists_splitParts (delimiter : List Char) (s : List Char) :
    ∃ items : List String, splitParts delimiter s = items.map .text ∧
      ∀ item ∈ items, IsTrimmed item ∧ item.toList <:+: s := by
  refine ⟨(((splitOn delimiter s).map trim).filter (!·.isEmpty)).map String.ofList, ?_, fun item hitem => ?_⟩
  · rw [splitParts, List.map_map]
    rfl
  · obtain ⟨part, hpart, rfl⟩ := List.mem_map.mp hitem
    obtain ⟨hmem, hfilled⟩ := List.mem_filter.mp hpart
    obtain ⟨segment, hsegment, rfl⟩ := List.mem_map.mp hmem
    rw [String.toList_ofList]
    refine ⟨⟨?_, ?_, ?_⟩, (isInfix_trim segment).trans ?_⟩
    · rintro hempty
      rw [String.ofList_eq_empty_iff.mp hempty] at hfilled
      cases hfilled
    · rw [String.toList_ofList]
      exact isBlank_of_mem_head?_trim
    · rw [String.toList_ofList]
      exact isBlank_of_mem_getLast?_trim
    · have hwhole : segment <:+: delimiter.intercalate (splitOn delimiter s) := infix_intercalate_of_mem hsegment
      rwa [intercalate_splitOn] at hwhole

/-! ## Texts under an array rule -/

theorem ensureArray_of_text {delimiter value : Value} {separator text : String}
    (hdelimiter : delimiter.text? = some separator) (hvalue : value.text? = some text) :
    ensureArray delimiter true value =
      .ok (.accept (.list (splitParts separator.toList text.toList))) := by
  cases value with
  | text s | textMember s =>
    cases hvalue
    simp only [ensureArray, hdelimiter]
    rfl
  | _ => cases hvalue

/-- Items that are joined with a character which is in none of them are the items of the text where values are
converted, whatever blanks and blank segments are put around and between them.  Whatever a text is split at, its items
are trimmed pieces of it. -/
theorem ensureArray_delimited :
    (∀ (d : Char) (items segments : List String) (delimiter value : Value),
      (∀ item ∈ items, IsTrimmed item ∧ d ∉ item.toList) → Spreads items segments →
      delimiter.text? = some (String.singleton d) →
      value.text? = some ((String.singleton d).intercalate segments) →
        ensureArray delimiter true value = .ok (.accept (.list (items.map .text)))) ∧
    ∀ (delimiter value : Value) (separator text : String), delimiter.text? = some separator → separator ≠ "" →
      value.text? = some text →
        ∃ items : List String, ensureArray delimiter true value = .ok (.accept (.list (items.map .text))) ∧
          ∀ item ∈ items, IsTrimmed item ∧ item.toList <:+: text.toList := by
  constructor
  · intro d items segments delimiter value hitems hspreads hdelimiter hvalue
    rw [ensureArray_of_text hdelimiter hvalue, String.toList_singleton, splitParts_of_spreads hspreads hitems]
  · intro delimiter value separator text hdelimiter _ hvalue
    obtain ⟨items, hparts, hitems⟩ := exists_splitParts separator.toList text.toList
    exact ⟨items, by rw [ensureArray_of_text hdelimiter hvalue, hparts], hitems⟩

/-- Items with a blank in them, joined with a blank of another kind that stands around and between them too, and a
text that is split at two characters. -/
theorem ensureArray_delimited_tabs :
    ensureArray (.text "\t") true (.text "\t a b\t\t\t \tc") = .ok (.accept (.list [.text "a b", .text "c"])) ∧
    ∃ items : List String, ensureArray (.text ", ") true (.text "x, , y") =
        .ok (.accept (.list (items.map .text))) ∧
      ∀ item ∈ items, IsTrimmed item ∧ item.toList <:+: "x, , y".toList := by
  obtain ⟨hjoined, hsplit⟩ := ensureArray_delimited
  have hblank {blanks : String} (h : blanks.toList.all isBlank = true) : ∀ c ∈ blanks.toList, isBlank c = true :=
    List.all_eq_true.mp h
  have hlast : Spreads ["c"] ["\t ", "c"] := .blank (hblank (by decide)) (spreads_self ["c"])
  have hspreads : Spreads ["a b", "c"] ["", " " ++ "a b" ++ "\t", "\t ", "c"] :=
    .blank (hblank (by decide)) (.item (hblank (by decide)) (hblank (by decide)) hlast)
  have hitems : ∀ item ∈ ["a b", "c"], IsTrimmed item ∧ '\t' ∉ item.toList := by
    simp only [List.forall_mem_cons, List.not_mem_nil, false_implies, implies_true, and_true]
    refine ⟨⟨⟨by decide, ?_, ?_⟩, by decide⟩, ⟨by decide, ?_, ?_⟩, by decide⟩ <;>
      rintro c ⟨⟩ <;> decide
  exact ⟨hjoined '\t' _ _ _ _ hitems hspreads rfl (by decide), hsplit _ _ ", " _ rfl (by decide) rfl⟩

end RecordCheck.Coercion
