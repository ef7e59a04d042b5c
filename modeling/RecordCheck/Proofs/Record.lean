import RecordCheck.Lookup
import RecordCheck.Proofs.Attempt

/-!
# Records and their keys

What putting a value under a key changes in a record, and what it leaves as it was.  Keys that are the
same spell the same name, so that fields of different names never get into each other's way, however the
record spells them.
-/

set_option autoImplicit false

namespace RecordCheck

/-! ## Keys -/

namespace Value

theorem sameKey_iff {a b : Value} : a.sameKey b = true ↔ a.same b = .ok true := by
  unfold sameKey
  cases a.same b <;> simp

/-- A key is the same as a text just when it is that text. -/
theorem sameKey_text_iff {key name : Value} {s : String} (hname : name.text? = some s) :
    key.sameKey name = true ↔ key.text? = some s := by
  have hnumeric : name.numeric? = none := by cases name <;> first | rfl | cases hname
  rw [sameKey_iff]
  cases key with
  | text t =>
    rw [same, hname, Attempt.pure_eq_ok_iff, beq_iff_eq]
    exact eq_comm
  | textMember t =>
    rw [same, hname, Attempt.pure_eq_ok_iff, beq_iff_eq]
    exact eq_comm
  | _ => cases name <;> simp_all [same, text?]

theorem text_sameKey_text_iff {a b : String} : (text a).sameKey (text b) = true ↔ a = b := by
  rw [sameKey_text_iff rfl]
  exact Option.some_inj

theorem spelling_sameKey_text_iff {key name : Value} {s : String} (hname : name.text? = some s) :
    key.spelling.sameKey name = true ↔ key.spelling? = some s := by
  rw [sameKey_text_iff hname]
  unfold spelling
  split
  · rename_i hspelling
    rw [hspelling, text?]
  · rename_i hspelling
    simp [text?, hspelling]

theorem spelling?_of_text? {key : Value} {s : String} (h : key.text? = some s) :
    key.spelling? = some s := by
  cases key with
  | text t => exact h
  | textMember t => exact h
  | _ => cases h

theorem ne_null_of_text? {name : Value} {s : String} (h : name.text? = some s) : name ≠ .null := by
  rintro rfl
  cases h

/-- A key that spells a name is the same key as itself. -/
theorem sameKey_self_of_spelling? {key : Value} {s : String} (h : key.spelling? = some s) :
    key.sameKey key = true := by
  rw [sameKey_iff]
  cases key with
  | text t => simp [same, text?]
  | textMember t => simp [same, text?]
  | bytes b => simp [same]
  | member body =>
    cases body with
    | text t => simp [same, text?]
    | textMember t => simp [same, text?]
    | _ => cases h
  | _ => cases h

/-- A key that is the same as one that spells a name spells it, too. -/
theorem spelling?_of_sameKey {a b : Value} {s : String} (hsame : a.sameKey b = true)
    (h : b.spelling? = some s) : a.spelling? = some s := by
  have ofText (a b : Value) (hb : b.text? = some s) (hsame : a.same b = .ok true) : a.text? = some s := by
    have hself : (text s).text? = some s := rfl
    rw [← sameKey_text_iff hself, sameKey_iff]
    cases b with
    | text t =>
      cases hb
      exact hsame
    | textMember t =>
      cases hb
      cases a <;> exact hsame
    | _ => cases hb
  rw [sameKey_iff] at hsame
  cases b with
  | text t => exact spelling?_of_text? (ofText a (.text t) h hsame)
  | textMember t => exact spelling?_of_text? (ofText a (.textMember t) h hsame)
  | bytes b =>
    cases a with
    | bytes a =>
      obtain rfl : a = b := by simpa [same] using hsame
      exact h
    | _ => simp [same, text?, numeric?] at hsame
  | member body =>
    cases a with
    | member body' => exact ofText body' body h hsame
    | _ => simp [same, text?, numeric?] at hsame
  | _ => cases h

end Value

namespace Entries

/-- The keys of a record, in order. -/
def keys (record : Entries) : List Value := record.map (·.1)

/-- A key is missing just when none of a record's keys is the same. -/
theorem get?_eq_none_iff {record : Entries} {key : Value} :
    record.get? key = none ↔ ∀ k ∈ record.keys, k.sameKey key = false := by
  simp [get?, find?, keys]

/-! ## Putting a value under a key -/

/-- What is sought by its key and has another one than the key put is found as before. -/
theorem find?_put_of_not {record : Entries} {key value : Value} (p : Value → Bool)
    (hkey : p key = false) (hp : ∀ k, k.sameKey key = true → p k = false) :
    List.find? (fun e => p e.1) (record.put key value) = List.find? (fun e => p e.1) record := by
  induction record with
  | nil => simp [put, hkey]
  | cons e rest ih =>
    rw [put]
    split
    · rename_i hsame
      simp [hp e.1 hsame]
    · rw [List.find?_cons, List.find?_cons, ih]

/-- What is sought by its key and found under the key put is found with the new value. -/
theorem find?_put {record : Entries} {key value found old : Value} (p : Value → Bool)
    (h : List.find? (fun e => p e.1) record = some (found, old))
    (hfound : found.sameKey key = true) (hp : ∀ k, k.sameKey key = true → p k = true) :
    List.find? (fun e => p e.1) (record.put key value) = some (found, value) := by
  induction record with
  | nil => cases h
  | cons e rest ih =>
    rw [List.find?_cons] at h
    rw [put]
    split at h
    · rename_i hsought
      cases h
      simp [hfound, hsought]
    · rename_i hsought
      have hother : e.1.sameKey key = false := by
        rw [Bool.eq_false_iff]
        intro hsame
        rw [hp e.1 hsame] at hsought
        cases hsought
      rw [hother]
      simpa [hsought] using ih h

/-- Putting a value under a key that the record has leaves its keys as they are. -/
theorem keys_put {record : Entries} {key value : Value}
    (h : ∃ k ∈ record.keys, k.sameKey key = true) :
    (record.put key value).keys = record.keys := by
  induction record with
  | nil =>
    obtain ⟨k, hk, -⟩ := h
    cases hk
  | cons e rest ih =>
    rw [put]
    split
    · rfl
    · rename_i hother
      obtain ⟨k, hk, hsame⟩ := h
      rcases List.mem_cons.mp hk with rfl | hrest
      · exact absurd hsame hother
      · exact congrArg (e.1 :: ·) (ih ⟨k, hrest, hsame⟩)

/-- A value that is put under a new key comes last. -/
theorem put_eq_append {record : Entries} {key value : Value}
    (h : ∀ e ∈ record, e.1.sameKey key = false) : record.put key value = record ++ [(key, value)] := by
  induction record with
  | nil => rfl
  | cons e rest ih =>
    obtain ⟨hfirst, hrest⟩ := List.forall_mem_cons.mp h
    rw [put, hfirst, if_neg Bool.false_ne_true, ih hrest, List.cons_append]

/-- An entry that has another key than the one put stays in its place. -/
theorem getElem?_put_of_not {record : Entries} {key value : Value} {i : Nat} {e : Value × Value}
    (h : record[i]? = some e) (hother : e.1.sameKey key = false) : (record.put key value)[i]? = some e := by
  induction record generalizing i with
  | nil => cases h
  | cons first rest ih =>
    rw [put]
    cases i with
    | zero =>
      cases h
      rw [hother]
      rfl
    | succ i =>
      split
      · exact h
      · exact ih h

/-- Putting the value under a key that is there already changes nothing. -/
theorem put_eq_self {record : Entries} {key value : Value} (h : record.get? key = some value) :
    record.put key value = record := by
  induction record with
  | nil => cases h
  | cons e rest ih =>
    rw [put]
    unfold get? find? at h
    rw [List.find?_cons] at h
    split
    · rename_i hsame
      rw [hsame] at h
      cases h
      rfl
    · rename_i hother
      rw [Bool.not_eq_true] at hother
      rw [hother] at h
      rw [ih h]

/-- A key that is the same as itself is in a record after something was put under it. -/
theorem exists_sameKey_put (record : Entries) {key : Value} (value : Value)
    (h : key.sameKey key = true) :
    ∃ k ∈ (record.put key value).keys, k.sameKey key = true := by
  induction record with
  | nil => exact ⟨key, by simp [put, keys], h⟩
  | cons e rest ih =>
    rw [put]
    split
    · rename_i hsame
      exact ⟨e.1, by simp [keys], hsame⟩
    · obtain ⟨k, hk, hsame⟩ := ih
      exact ⟨k, List.mem_cons_of_mem _ hk, hsame⟩

/-- No key of a record gets lost when something is put into it. -/
theorem mem_keys_put {record : Entries} {key value k : Value} (h : k ∈ record.keys) :
    k ∈ (record.put key value).keys := by
  induction record with
  | nil => cases h
  | cons e rest ih =>
    rw [put]
    rcases List.mem_cons.mp h with rfl | hrest
    · split <;> simp [keys]
    · split
      · exact List.mem_cons_of_mem _ hrest
      · exact List.mem_cons_of_mem _ (ih hrest)

/-! ## Finding a field -/

/-- A field is found under its name or, if the record has no such key, under the first that spells it. -/
theorem lookup_eq_some_iff {record : Entries} {name key value : Value} :
    record.lookup name = some (key, value) ↔
      (key = name ∧ record.get? name = some value) ∨
        (record.get? name = none ∧
          List.find? (fun e => e.1.spelling.sameKey name) record = some (key, value)) := by
  unfold lookup
  cases record.get? name with
  | none => simp
  | some v => simp [eq_comm]

section

variable {record : Entries} {name key value : Value} {s : String}

/-- The key under which a field is found spells its name. -/
theorem spelling?_of_lookup (hname : name.text? = some s) (h : record.lookup name = some (key, value)) :
    key.spelling? = some s := by
  rcases lookup_eq_some_iff.mp h with ⟨rfl, -⟩ | ⟨-, hfind⟩
  · exact Value.spelling?_of_text? hname
  · have hspells := List.find?_some hfind
    exact (Value.spelling_sameKey_text_iff hname).mp hspells

/-- The value of a field is the one under the key that it is found under. -/
theorem get?_of_lookup (hname : name.text? = some s) (h : record.lookup name = some (key, value)) :
    record.get? key = some value := by
  have hkey := spelling?_of_lookup hname h
  rcases lookup_eq_some_iff.mp h with ⟨rfl, hget⟩ | ⟨-, hfind⟩
  · exact hget
  · -- The first key that spells the name is the first that is the same as itself.
    rw [List.find?_eq_some_iff_append] at hfind
    obtain ⟨-, before, after, rfl, hbefore⟩ := hfind
    have hothers : List.find? (fun e => e.1.sameKey key) before = none := by
      rw [List.find?_eq_none]
      intro e he hsame
      have hspells :=
        (Value.spelling_sameKey_text_iff hname).mpr (Value.spelling?_of_sameKey hsame hkey)
      have hnot := hbefore e he
      rw [hspells] at hnot
      cases hnot
    simp [get?, find?, List.find?_append, hothers, Value.sameKey_self_of_spelling? hkey]

end

/-- Whether a field is found depends on the keys of a record only. -/
theorem lookup_isSome_iff {record : Entries} {name : Value} :
    (record.lookup name).isSome = true ↔
      ∃ k ∈ record.keys, k.sameKey name = true ∨ k.spelling.sameKey name = true := by
  unfold lookup
  cases hget : record.get? name with
  | some v =>
    have hkey : ∃ k ∈ record.keys, k.sameKey name = true := by
      have hsome : record.get? name ≠ none := by
        rw [hget]
        nofun
      simpa [get?_eq_none_iff] using hsome
    obtain ⟨k, hk, hsame⟩ := hkey
    exact iff_of_true rfl ⟨k, hk, .inl hsame⟩
  | none =>
    rw [get?_eq_none_iff] at hget
    simp only [List.find?_isSome, keys, List.mem_map]
    constructor
    · rintro ⟨e, he, hspells⟩
      exact ⟨e.1, ⟨e, he, rfl⟩, .inr hspells⟩
    · rintro ⟨_, ⟨e, he, rfl⟩, hsame | hspells⟩
      · rw [hget e.1 (List.mem_map_of_mem he)] at hsame
        cases hsame
      · exact ⟨e, he, hspells⟩

/-- What is found for a field depends on the text of its name only. -/
theorem peek_congr {record : Entries} {name other : Value} {s : String} (hname : name.text? = some s)
    (hother : other.text? = some s) : record.peek name = record.peek other := by
  have hkey : (fun e : Value × Value => e.1.sameKey name) = fun e => e.1.sameKey other := by
    funext e
    rw [Bool.eq_iff_iff, Value.sameKey_text_iff hname, Value.sameKey_text_iff hother]
  have hspelling : (fun e : Value × Value => e.1.spelling.sameKey name) =
      fun e => e.1.spelling.sameKey other := by
    funext e
    rw [Bool.eq_iff_iff, Value.spelling_sameKey_text_iff hname, Value.spelling_sameKey_text_iff hother]
  unfold peek lookup get? find?
  rw [hkey, hspelling]
  cases List.find? (fun e => e.1.sameKey other) record <;> rfl

/-- A field of another name is found as before. -/
theorem lookup_put_of_ne {record : Entries} {name key value : Value} {s other : String}
    (hname : name.text? = some s) (hkey : key.spelling? = some other) (hne : s ≠ other) :
    (record.put key value).lookup name = record.lookup name := by
  have hspelling {k : Value} (hk : k.spelling? = some other) : k.spelling.sameKey name = false := by
    rw [Bool.eq_false_iff]
    intro hsame
    rw [Value.spelling_sameKey_text_iff hname, hk, Option.some.injEq] at hsame
    exact hne hsame.symm
  have htext {k : Value} (hk : k.spelling? = some other) : k.sameKey name = false := by
    rw [Bool.eq_false_iff]
    intro hsame
    rw [Value.sameKey_text_iff hname] at hsame
    rw [Value.spelling?_of_text? hsame, Option.some.injEq] at hk
    exact hne hk
  have hother {k : Value} (hsame : k.sameKey key = true) : k.spelling? = some other :=
    Value.spelling?_of_sameKey hsame hkey
  unfold lookup get? find?
  rw [find?_put_of_not (·.sameKey name) (htext hkey) fun k hk => htext (hother hk),
    find?_put_of_not (·.spelling.sameKey name) (hspelling hkey) fun k hk => hspelling (hother hk)]

/-- A field is found with the value that was put under its key. -/
theorem lookup_put {record : Entries} {name key old value : Value} {s : String}
    (hname : name.text? = some s) (h : record.lookup name = some (key, old)) :
    (record.put key value).lookup name = some (key, value) := by
  have hkey := spelling?_of_lookup hname h
  rw [lookup_eq_some_iff] at h ⊢
  rcases h with ⟨rfl, hget⟩ | ⟨hnone, hfind⟩
  · left
    refine ⟨rfl, ?_⟩
    obtain ⟨⟨found, old⟩, hfound, rfl⟩ := Option.map_eq_some_iff.mp hget
    have hsame : found.sameKey key = true := by
      have := List.find?_some hfound
      exact this
    unfold get? find?
    rw [find?_put (·.sameKey key) hfound hsame fun k hk => hk]
    rfl
  · right
    constructor
    · -- The keys are the same as before, so that none of them is the name itself.
      have hmem : ∃ k ∈ record.keys, k.sameKey key = true :=
        ⟨key, List.mem_map_of_mem (List.mem_of_find?_eq_some hfind),
          Value.sameKey_self_of_spelling? hkey⟩
      rw [get?_eq_none_iff] at hnone ⊢
      rw [keys_put hmem]
      exact hnone
    · exact find?_put (·.spelling.sameKey name) hfind (Value.sameKey_self_of_spelling? hkey)
        fun k hk =>
          (Value.spelling_sameKey_text_iff hname).mpr (Value.spelling?_of_sameKey hk hkey)

/-- The key under which a field is found is one of the record's. -/
theorem exists_sameKey_of_lookup {record : Entries} {name key value : Value} (hname : name ≠ .null)
    (h : record.lookup name = some (key, value)) : ∃ k ∈ record.keys, k.sameKey key = true := by
  rcases lookup_eq_some_iff.mp h with ⟨rfl, hget⟩ | ⟨-, hfind⟩
  · have hsome : record.get? key ≠ none := by
      rw [hget]
      nofun
    simpa [get?_eq_none_iff] using hsome
  · have hspells : key.spelling.sameKey name = true := by
      have := List.find?_some hfind
      exact this
    refine ⟨key, List.mem_map_of_mem (List.mem_of_find?_eq_some hfind), ?_⟩
    cases hspelling : key.spelling? with
    | some s => exact Value.sameKey_self_of_spelling? hspelling
    | none =>
      -- A key that spells nothing is found for the null name only.
      rw [Value.spelling, hspelling, Value.sameKey_iff] at hspells
      cases name <;> first | exact absurd rfl hname | cases hspells

theorem resolve_eq_some_iff {record : Entries} {name key value : Value} :
    record.resolve name = some (key, value) ↔
      record.lookup name = some (key, value) ∧ value.isBlank = false := by
  simp [resolve, Option.filter_eq_some_iff]

theorem peek_of_resolve {record : Entries} {name key value : Value}
    (h : record.resolve name = some (key, value)) : record.peek name = value := by
  rw [peek, (resolve_eq_some_iff.mp h).1]
  rfl

/-! ## Defaults -/

/-- A record with entries added for the defaults whose names another one does not hold. -/
def addDefaults (record defaults merged : Entries) : Entries :=
  defaults.foldl (fun merged d => if (record.lookup d.1).isNone then merged.put d.1 d.2 else merged)
    merged

theorem mem_keys_addDefaults {record defaults merged : Entries} {k : Value} (h : k ∈ merged.keys) :
    k ∈ (addDefaults record defaults merged).keys := by
  unfold addDefaults
  induction defaults generalizing merged with
  | nil => exact h
  | cons d rest ih =>
    rw [List.foldl_cons]
    split
    · exact ih (mem_keys_put h)
    · exact ih h

theorem exists_sameKey_addDefaults {record defaults : Entries} (merged : Entries) {d : Value × Value}
    (hd : d ∈ defaults) (hself : d.1.sameKey d.1 = true) (hmissing : record.lookup d.1 = none) :
    ∃ k ∈ (addDefaults record defaults merged).keys, k.sameKey d.1 = true := by
  induction defaults generalizing merged with
  | nil => cases hd
  | cons first rest ih =>
    rcases List.mem_cons.mp hd with rfl | hrest
    · obtain ⟨k, hk, hsame⟩ := exists_sameKey_put merged d.2 hself
      refine ⟨k, ?_, hsame⟩
      unfold addDefaults
      rw [List.foldl_cons, hmissing]
      exact mem_keys_addDefaults hk
    · exact ih _ hrest

/-- Every default is found in the record to which it was added, if its name is the same key as itself. -/
theorem lookup_withDefaults_isSome (record : Entries) {defaults : Entries} {d : Value × Value}
    (hd : d ∈ defaults) (hself : d.1.sameKey d.1 = true) : ((record.withDefaults defaults).lookup d.1).isSome = true := by
  rw [lookup_isSome_iff]
  by_cases hmissing : record.lookup d.1 = none
  · obtain ⟨k, hk, hsame⟩ := exists_sameKey_addDefaults record hd hself hmissing
    exact ⟨k, hk, .inl hsame⟩
  · obtain ⟨k, hk, hfound⟩ := lookup_isSome_iff.mp (Option.isSome_iff_ne_none.mpr hmissing)
    exact ⟨k, mem_keys_addDefaults hk, hfound⟩

/-- A record that has all fields that there are defaults for is left as it is. -/
theorem withDefaults_eq_self {record defaults : Entries}
    (h : ∀ d ∈ defaults, (record.lookup d.1).isSome = true) : record.withDefaults defaults = record := by
  unfold withDefaults
  induction defaults with
  | nil => rfl
  | cons d rest ih =>
    have hfirst := h d List.mem_cons_self
    rw [Option.isSome_iff_ne_none] at hfirst
    rw [List.foldl_cons, if_neg (by simpa using hfirst)]
    exact ih fun d hd => h d (List.mem_cons_of_mem _ hd)

end Entries

end RecordCheck
