import RecordCheck.Coercion.Text
import RecordCheck.Proofs.Coercion
import RecordCheck.Proofs.Regex.Repetition

/-!
# Email addresses

An email address has no blanks and one at sign, something before that, and a point with something on either side
after it.  The pattern of addresses is found in just these texts, and in those that are one with a line feed at
the end: the end of a line, where the pattern ends, is also the place before that.
-/

set_option autoImplicit false

namespace RecordCheck.Coercion

open Text Regex

/-- Whether a text has the form of an email address. -/
structure IsAddress (s : List Char) : Prop where
  /-- no character is blank -/
  unblank : ∀ c ∈ s, isBlank c = false
  /-- there is one at sign -/
  single : s.count '@' = 1
  /-- something is before it, and after it a point with something on either side -/
  parts : ∃ name domain zone, name ≠ [] ∧ domain ≠ [] ∧ zone ≠ [] ∧
    s = name ++ '@' :: (domain ++ '.' :: zone)

/-! ## The pattern -/

/-- Whether some characters can be a part of an address. -/
structure IsPart (part : List Char) : Prop where
  filled : part ≠ []
  plain : ∀ c ∈ part, isBlank c = false ∧ c ≠ '@'

section

variable {next : Continuation} {s : Regex.State}

/-- Without flags a character stands for itself alone. -/
theorem mem_variants_iff {c d : Char} : d.toNat ∈ variants [] c ↔ c = d := by
  have hvariants : variants [] c = [c.toNat] := rfl
  rw [hvariants, List.mem_singleton, Char.toNat_inj, eq_comm]

theorem inSet_emailPart {c : Char} :
    inSet [] [.category .space false, .code '@'.toNat] true c = true ↔ isBlank c = false ∧ c ≠ '@' := by
  have hspace : SetItem.contains [] c (.category .space false) = isBlank c := by
    simp [SetItem.contains, Category.contains, Flags.has]
  rw [ne_eq, ← mem_variants_iff, ← List.contains_iff_mem, inSet, List.any_cons, List.any_cons, List.any_nil, hspace,
    SetItem.contains]
  cases isBlank c <;> cases (variants [] c).contains '@'.toNat <;> simp

theorem isSome_run_emailPart_iff :
    (emailPart.run [] next s).isSome = true ↔
      ∃ part rest, IsPart part ∧ s.after = part ++ rest ∧ (next (s.past part rest)).isSome = true := by
  rw [emailPart, isSome_run_repetition_iff]
  constructor
  · rintro ⟨part, rest, hafter, hpart, hleast, hnext⟩
    exact ⟨part, rest, ⟨List.ne_nil_of_length_pos hleast, fun c hc => inSet_emailPart.mp (hpart c hc)⟩,
      hafter, hnext⟩
  · rintro ⟨part, rest, ⟨hfilled, hplain⟩, hafter, hnext⟩
    exact ⟨part, rest, hafter, fun c hc => inSet_emailPart.mpr (hplain c hc), List.length_pos_iff.mpr hfilled,
      hnext⟩

theorem isSome_run_code_iff (c : Char) :
    ((Node.code c.toNat false).run [] next s).isSome = true ↔
      ∃ rest, s.after = c :: rest ∧ (next (s.past [c] rest)).isSome = true := by
  rw [(takesOne_code [] c.toNat false).isSome_iff]
  simp [mem_variants_iff]

theorem isSome_run_lineEnd_iff :
    ((Node.anchor .lineEnd).run [] some s).isSome = true ↔ s.after = [] ∨ s.after = ['\n'] := by
  simp [Node.run, Regex.State.isAt, Flags.has]

end

/-- The pattern is found in a text of three parts, an at sign after the first and a point after the second,
perhaps with a line feed at the end. -/
theorem isEmail_iff_parts {s : List Char} :
    isEmail s = true ↔ ∃ name domain zone tail, IsPart name ∧ IsPart domain ∧ IsPart zone ∧
      (tail = [] ∨ tail = ['\n']) ∧ s = name ++ '@' :: (domain ++ '.' :: (zone ++ tail)) := by
  have hstart : isEmail s = (runSequence [] some (emailPattern.body.drop 1) (.start s)).isSome := rfl
  rw [hstart]
  simp only [emailPattern, List.drop, runSequence, isSome_run_emailPart_iff, isSome_run_code_iff,
    isSome_run_lineEnd_iff, Regex.State.past, Regex.State.start]
  constructor
  · rintro ⟨name, _, hname, rfl, _, rfl, domain, _, hdomain, rfl, _, rfl, zone, tail, hzone, rfl, htail⟩
    exact ⟨name, domain, zone, tail, hname, hdomain, hzone, htail, rfl⟩
  · rintro ⟨name, domain, zone, tail, hname, hdomain, hzone, htail, rfl⟩
    exact ⟨name, _, hname, rfl, _, rfl, domain, _, hdomain, rfl, _, rfl, zone, tail, hzone, rfl, htail⟩

/-- Three parts with an at sign and a point between them make an address. -/
theorem isAddress_of_parts {name domain zone : List Char} (hname : IsPart name) (hdomain : IsPart domain)
    (hzone : IsPart zone) : IsAddress (name ++ '@' :: (domain ++ '.' :: zone)) where
  unblank := by
    have hat : isBlank '@' = false := by decide
    have hpoint : isBlank '.' = false := by decide
    simp only [List.forall_mem_append, List.forall_mem_cons, hat, hpoint, true_and]
    exact ⟨fun c hc => (hname.plain c hc).1, fun c hc => (hdomain.plain c hc).1,
      fun c hc => (hzone.plain c hc).1⟩
  single := by
    have hnone {part : List Char} (hpart : IsPart part) : part.count '@' = 0 :=
      List.count_eq_zero.mpr fun hmem => (hpart.plain _ hmem).2 rfl
    simp [hnone hname, hnone hdomain, hnone hzone]
  parts := ⟨name, domain, zone, hname.filled, hdomain.filled, hzone.filled, rfl⟩

/-- An address has three parts with an at sign and a point between them. -/
theorem IsAddress.exists_parts {s : List Char} (h : IsAddress s) :
    ∃ name domain zone, IsPart name ∧ IsPart domain ∧ IsPart zone ∧
      s = name ++ '@' :: (domain ++ '.' :: zone) := by
  obtain ⟨hunblank, hsingle, name, domain, zone, hname, hdomain, hzone, rfl⟩ := h
  simp only [List.count_append, List.count_cons_self, List.count_cons] at hsingle
  have hpart {part : List Char} (hfilled : part ≠ []) (hnone : part.count '@' = 0)
      (hmem : ∀ c ∈ part, isBlank c = false) : IsPart part :=
    ⟨hfilled, fun c hc => ⟨hmem c hc, fun heq => List.count_eq_zero.mp hnone (heq ▸ hc)⟩⟩
  simp only [List.forall_mem_append, List.forall_mem_cons] at hunblank
  obtain ⟨hfirst, -, hsecond, -, hthird⟩ := hunblank
  exact ⟨name, domain, zone, hpart hname (by omega) hfirst, hpart hdomain (by omega) hsecond,
    hpart hzone (by omega) hthird, rfl⟩

/-- A text is taken for an email address just when it is one, or is one with a line feed at the end. -/
theorem isEmail_iff {s : List Char} :
    isEmail s = true ↔ IsAddress s ∨ ∃ address, IsAddress address ∧ s = address ++ ['\n'] := by
  rw [isEmail_iff_parts]
  constructor
  · rintro ⟨name, domain, zone, tail, hname, hdomain, hzone, rfl | rfl, rfl⟩
    · rw [List.append_nil]
      exact .inl (isAddress_of_parts hname hdomain hzone)
    · exact .inr ⟨_, isAddress_of_parts hname hdomain hzone, by simp⟩
  · rintro (h | ⟨address, h, rfl⟩)
    · obtain ⟨name, domain, zone, hname, hdomain, hzone, rfl⟩ := h.exists_parts
      exact ⟨name, domain, zone, [], hname, hdomain, hzone, .inl rfl, by simp⟩
    · obtain ⟨name, domain, zone, hname, hdomain, hzone, rfl⟩ := h.exists_parts
      exact ⟨name, domain, zone, ['\n'], hname, hdomain, hzone, .inr rfl, by simp⟩

/-! ## The check -/

/-- The error of a text that is no email address. -/
def addressError : Entry := ⟨.text "string_email", .text "must be a valid email", []⟩

/-- Whether none of some entries is for a text that is no email address. -/
def LacksAddressError (entries : List Entry) : Prop := ∀ e ∈ entries, e.code ≠ .text "string_email"

theorem emailEntry_true (text : String) :
    emailEntry (.bool true) text = .ok (if isEmail text.toList then [] else [addressError]) := by
  unfold emailEntry
  cases isEmail text.toList <;> rfl

/-- An entry for another constraint is none for an email address. -/
theorem lacksAddressError_ofCode {code : Code} (h : code ≠ .stringEmail) (details : Entries) :
    Attempt.YieldsOnly (fun e => e.code ≠ addressError.code) (Entry.ofCode code details) := by
  refine Attempt.yieldsOnly_bind fun message _ => Attempt.yieldsOnly_pure fun heq => h ?_
  cases code <;> first | rfl | exact absurd (Value.text.inj heq) (by decide)

theorem lacksAddressError_limitEntry {code : Code} (h : code ≠ .stringEmail) (relation : Comparison)
    (size limit : Value) (detail : String) :
    Attempt.YieldsOnly LacksAddressError (limitEntry relation size limit code detail) := by
  have hnil : Attempt.YieldsOnly LacksAddressError (pure []) := Attempt.yieldsOnly_pure nofun
  unfold limitEntry
  split
  · exact hnil
  · refine Attempt.yieldsOnly_bind fun _ _ => ?_
    split
    · refine Attempt.yieldsOnly_bind fun e he => Attempt.yieldsOnly_pure ?_
      exact List.forall_mem_singleton.mpr (lacksAddressError_ofCode h _ e he)
    · exact hnil

theorem lacksAddressError_patternEntry (pattern : Value) (text : String) :
    Attempt.YieldsOnly LacksAddressError (patternEntry pattern text) := by
  have hnil : Attempt.YieldsOnly LacksAddressError (pure []) := Attempt.yieldsOnly_pure nofun
  unfold patternEntry
  split
  · exact hnil
  · refine Attempt.yieldsOnly_bind fun _ _ => ?_
    split
    · exact hnil
    · refine Attempt.yieldsOnly_bind fun e he => Attempt.yieldsOnly_pure ?_
      exact List.forall_mem_singleton.mpr (lacksAddressError_ofCode (by decide) _ e he)

/-- Where no email address is asked for, there is no error of one. -/
theorem lacksAddressError_checkText (checks : TextChecks) (text : String) :
    Attempt.YieldsOnly LacksAddressError (checkText { checks with email := .bool false } text) := by
  refine Attempt.yieldsOnly_bind fun low hlow => Attempt.yieldsOnly_bind fun high hhigh =>
    Attempt.yieldsOnly_bind fun pattern hpattern => Attempt.yieldsOnly_bind fun email hemail =>
      Attempt.yieldsOnly_pure ?_
  cases hemail
  simp only [LacksAddressError, List.forall_mem_append]
  exact ⟨⟨⟨lacksAddressError_limitEntry (by decide) _ _ _ _ _ hlow,
    lacksAddressError_limitEntry (by decide) _ _ _ _ _ hhigh⟩,
    lacksAddressError_patternEntry _ _ _ hpattern⟩, nofun⟩

/-- A check for an email address comes after all others and leaves what they say as it is. -/
theorem checkText_email_true (checks : TextChecks) (text : String) :
    checkText { checks with email := .bool true } text =
      (· ++ if isEmail text.toList then [] else [addressError]) <$>
        checkText { checks with email := .bool false } text := by
  have hfalse : emailEntry (.bool false) text = .ok [] := rfl
  simp only [checkText, emailEntry_true, hfalse, Attempt.ok_bind, map_bind, map_pure, List.append_nil]

/-- A check for an email address leaves what the others say as it is, and adds the one error just when the text
is no email address and not one with a line feed at the end. -/
theorem checkText_email (checks : TextChecks) (text : String) :
    ∃ own, (own = [] ∨ own = [addressError]) ∧
      (own = [] ↔ IsAddress text.toList ∨ ∃ address, IsAddress address ∧ text.toList = address ++ ['\n']) ∧
      checkText { checks with email := .bool true } text =
        (· ++ own) <$> checkText { checks with email := .bool false } text ∧
      ∀ entries, checkText { checks with email := .bool true } text = .ok entries →
        (LacksAddressError entries ↔
          IsAddress text.toList ∨ ∃ address, IsAddress address ∧ text.toList = address ++ ['\n']) := by
  refine ⟨_, ?_, ?_, checkText_email_true checks text, ?_⟩
  · cases isEmail text.toList <;> simp
  · rw [← isEmail_iff]
    cases isEmail text.toList <;> simp
  · intro entries hentries
    rw [checkText_email_true, Attempt.map_eq_ok_iff] at hentries
    obtain ⟨others, hothers, rfl⟩ := hentries
    have hlacks := lacksAddressError_checkText checks text others hothers
    rw [← isEmail_iff]
    cases isEmail text.toList
    · simp [LacksAddressError, addressError]
    · simpa [LacksAddressError] using hlacks

/-- A line feed at the end of an email address is let pass, although it is blank. -/
theorem not_checkText_email :
    ¬ ∀ (checks : TextChecks) (text : String) (entries : List Entry),
      checkText { checks with email := .bool true } text = .ok entries →
        (LacksAddressError entries ↔ IsAddress text.toList) := by
  intro hall
  have hpart {c : Char} (hblank : isBlank c = false) (hat : c ≠ '@') : IsPart [c] :=
    ⟨List.cons_ne_nil c [], List.forall_mem_singleton.mpr ⟨hblank, hat⟩⟩
  have haddress : IsAddress ['a', '@', 'b', '.', 'c'] :=
    isAddress_of_parts (hpart rfl (by decide)) (hpart rfl (by decide)) (hpart rfl (by decide))
  have htext : "a@b.c\n".toList = ['a', '@', 'b', '.', 'c'] ++ ['\n'] := rfl
  have hemail := isEmail_iff.mpr (.inr ⟨_, haddress, htext⟩)
  have hnone : checkText ⟨.null, .null, .null, .bool true⟩ "a@b.c\n" = .ok [] :=
    checkText_eq_nil_iff.mpr ⟨.inl rfl, .inl rfl, .inl rfl, fun _ => hemail⟩
  have hunblank := ((hall ⟨.null, .null, .null, .null⟩ _ _ hnone).mp nofun).unblank '\n'
  rw [htext] at hunblank
  cases hunblank (List.mem_append_right _ (List.mem_singleton_self _))

end RecordCheck.Coercion
