import RecordCheck.Proofs.Configuration.Names
import RecordCheck.Proofs.Configuration.Overrides
import RecordCheck.Proofs.Record

/-!
# Where settings come from

A setting is read from its variable if the environment has it, else from the mapping if that holds it, else it is the
default one, and a call may override it.  What is given wrong is reported, and nothing else keeps a configuration
from being made but a few values that get past the checks: names that are no texts, infinite numbers, and integers of
too many digits, which cannot be shown in a message or in the log.
-/

set_option autoImplicit false

namespace RecordCheck.Configuration

open Attempt

/-! ## Sources -/

/-- What a setting is read from: its variable, or else the entry of a mapping, or else the default. -/
def sourceOf (environment : Environment) (data : Entries) (name : String) (default : Value) : Value :=
  match environment.lookup (variableOf name) with
  | some s => .text s
  | none => (data.get? (.text name)).getD default

/-- What the settings of a configuration are read from. -/
def sourcesOf (environment : Environment) (data : Entries) : GivenSettings where
  convert := sourceOf environment data "convert" GivenSettings.standard.convert
  timeout := sourceOf environment data "timeout" GivenSettings.standard.timeout
  maxConcurrency := sourceOf environment data "max_concurrency" GivenSettings.standard.maxConcurrency

/-- Whether a mapping names neither validators nor a formatter nor a translator. -/
def IsPlain (data : Entries) : Prop :=
  ∀ e ∈ data, ∀ name ∈ ["custom_types", "formatter", "translator"], e.1.sameKey (.text name) = false

instance (data : Entries) : Decidable (IsPlain data) :=
  inferInstanceAs (Decidable (∀ e ∈ data, ∀ name ∈ ["custom_types", "formatter", "translator"], _ = false))

/-- The settings that some of the names have. -/
def held (settingOf : String → Option Value) : Entries :=
  Settings.names.filterMap fun name => (settingOf name).map fun v => (.text name, v)

section

variable {data : Entries} {environment : Environment} {name : String}

theorem setFrom_held (given : GivenSettings) (settingOf : String → Option Value) :
    given.setFrom (held settingOf) =
      ⟨(settingOf "convert").getD given.convert, (settingOf "timeout").getD given.timeout,
        (settingOf "max_concurrency").getD given.maxConcurrency⟩ := by
  unfold held Settings.names
  cases hconvert : settingOf "convert" <;> cases htimeout : settingOf "timeout" <;>
    cases hmax : settingOf "max_concurrency" <;> simp [hconvert, htimeout, hmax] <;> rfl

theorem sourcesOf_eq (environment : Environment) (data : Entries) :
    (GivenSettings.standard.setFrom (held fun name => data.get? (.text name))).setFrom
      (environmentOverrides environment) = sourcesOf environment data := by
  have hvariables : environmentOverrides environment =
      held fun name => (environment.lookup (variableOf name)).map .text := by
    simp [environmentOverrides, held, Function.comp_def]
  rw [hvariables, setFrom_held, setFrom_held]
  unfold sourcesOf sourceOf
  cases environment.lookup (variableOf "convert") <;> cases environment.lookup (variableOf "timeout") <;>
    cases environment.lookup (variableOf "max_concurrency") <;> rfl

/-- The argument that is found in a mapping of values is that of the value that is found. -/
theorem find?_ofEntries (data : Entries) (name : Value) :
    ((Argument.ofEntries data).find? fun e => e.1.sameKey name).map (·.2) =
      (data.get? name).map Argument.ofValue := by
  rw [Entries.get?, Entries.find?]
  induction data with
  | nil => rfl
  | cons e rest ih =>
    rw [Argument.ofEntries, List.find?_cons, List.find?_cons]
    cases e.1.sameKey name with
    | true => rfl
    | false => exact ih

theorem keys_ofEntries (data : Entries) : (Argument.ofEntries data).map (·.1) = data.keys := by
  induction data with
  | nil => rfl
  | cons e rest ih => exact congrArg (e.1 :: ·) ih

theorem settingsIn_ofEntries (data : Entries) :
    settingsIn (Argument.ofEntries data) = .ok (held fun name => data.get? (.text name)) := by
  unfold settingsIn held
  induction Settings.names with
  | nil => rfl
  | cons name rest ih =>
    have hfind := find?_ofEntries data (.text name)
    rw [List.filterMap_cons, List.filterMap_cons]
    cases hget : data.get? (.text name) with
    | none =>
      rw [hget, Option.map_none, Option.map_eq_none_iff] at hfind
      simp only [hfind, hget, Option.map_none]
      exact ih
    | some v =>
      rw [hget, Option.map_some, Option.map_eq_some_iff] at hfind
      obtain ⟨e, he, hvalue⟩ := hfind
      dsimp only at ih ⊢
      simp only [he, hget, Option.map_some, List.mapM_cons, hvalue, Argument.needValue_ofValue, ok_bind, ih]
      rfl

theorem argumentAt_of_isPlain (h : IsPlain data) (hname : name ∈ ["custom_types", "formatter", "translator"]) :
    argumentAt (Argument.ofEntries data) name = .null := by
  have hnone : data.get? (.text name) = none := Entries.get?_eq_none_iff.mpr fun key hkey => by
    obtain ⟨e, he, rfl⟩ := List.mem_map.mp hkey
    exact h e he name hname
  rw [argumentAt, find?_ofEntries, hnone]
  rfl

theorem check_eq (c : Configuration) :
    c.check = Settings.check c.settings >>= fun s => pure { c with settings := s.toGiven } := rfl

/-- The configuration that a mapping of settings describes. -/
theorem ofEntries_eq (h : IsPlain data) (catalogue : Catalogue) (environment : Environment) :
    ofEntries catalogue environment (Argument.ofEntries data) = do
      checkKeys data.keys
      let s ← Settings.check (sourcesOf environment data)
      let _ ← s.toGiven.shown
      return { standard with settings := s.toGiven } := by
  have hformatter : argumentAt (Argument.ofEntries data) "formatter" = .null := argumentAt_of_isPlain h (by decide)
  have htranslator : argumentAt (Argument.ofEntries data) "translator" = .null := argumentAt_of_isPlain h (by decide)
  have htypes : argumentAt (Argument.ofEntries data) "custom_types" = .null := argumentAt_of_isPlain h (by decide)
  rw [ofEntries, keys_ofEntries, settingsIn_ofEntries, ok_bind, sourcesOf_eq, hformatter, htranslator, htypes]
  cases checkKeys data.keys with
  | error fault => rfl
  | ok _ =>
    rw [ok_bind, ok_bind]
    dsimp only
    rw [check_eq]
    cases Settings.check (sourcesOf environment data) with
    | error fault => rfl
    | ok s =>
      have hnull : Argument.null.isTruthy = false := rfl
      have hnone : customTypes .null = .ok [] := rfl
      -- No validator was named, so that nothing but the settings is left to be written to the log.
      have hnames : (Value.list standard.registry.names).textOf = .ok "[]" := rfl
      simp only [hnull, hnone, hnames, Bool.false_eq_true, if_false, ok_bind, pure_bind, List.foldlM_nil]

end

/-! ## What comes of it -/

/-- Whether an attempt to make a configuration comes to one that is described, is refused in a way that is
described, or fails otherwise just when something hinders it. -/
structure Settles (result : Attempt Configuration) (made : Configuration → Prop) (refused : Fault → Prop)
    (hindered : Prop) : Prop where
  made_iff : ∀ c, result = .ok c ↔ made c
  refused_of : ∀ fault, result = .error fault → fault.kind = "ConfigurationError" → refused fault
  hindered_iff : (∃ fault, result = .error fault ∧ fault.kind ≠ "ConfigurationError") ↔ hindered

/-- Whether a configuration has the settings that are read from their sources, all names being known. -/
def IsMade (environment : Environment) (data : Entries) (c : Configuration) : Prop :=
  (∀ key ∈ data.keys, isKnown key = true) ∧
    ∃ s, Settings.Reads (sourcesOf environment data) s ∧ s.isWritable = true ∧
      c = { standard with settings := s.toGiven }

/-- How the settings in a mapping are refused. -/
inductive IsRefused (environment : Environment) (data : Entries) (fault : Fault) : Prop
  /-- by the names that are not known -/
  | keys (unknown : RefusesKeys data.keys fault)
  /-- by the first setting that cannot be read -/
  | setting (known : ∀ key ∈ data.keys, isKnown key = true)
      (unread : Settings.Refuses (sourcesOf environment data) fault)

/-- Whether something gets past the checks of the settings in a mapping. -/
inductive IsHindered (environment : Environment) (data : Entries) : Prop
  /-- a name that is not known and is no text -/
  | keys (unknown : HindersKeys data.keys)
  /-- a setting that cannot be read and is infinite or cannot be shown -/
  | setting {fault : Fault} (known : ∀ key ∈ data.keys, isKnown key = true)
      (unread : Settings.Hinders (sourcesOf environment data) fault)
  /-- a setting that was read and is too long for the log -/
  | log {s : Settings} (known : ∀ key ∈ data.keys, isKnown key = true)
      (read : Settings.Reads (sourcesOf environment data) s) (unwritable : s.isWritable = false)

section

variable {result : Attempt Configuration} {made : Configuration → Prop} {refused : Fault → Prop} {hindered : Prop}
  {data : Entries} {environment : Environment} {overrides : List (String × Value)}

/-- It is enough that each of the three comes to what it should, and that there is no fourth. -/
theorem settles_of (hmade : ∀ c, made c → result = .ok c)
    (hhindered : hindered → ∃ fault, result = .error fault ∧ fault.IsOperation)
    (htotal : (∃ c, made c) ∨ (∃ fault, result = .error fault ∧ fault.kind = "ConfigurationError" ∧ refused fault) ∨
      hindered) : Settles result made refused hindered := by
  refine ⟨fun c => ⟨fun hc => ?_, hmade c⟩, fun fault hfault hkind => ?_, fun hfault => ?_, fun h => ?_⟩
  · rcases htotal with ⟨other, hother⟩ | ⟨fault, hfault, -⟩ | h
    · cases (hmade other hother).symm.trans hc
      exact hother
    · cases hfault.symm.trans hc
    · obtain ⟨fault, hfault, -⟩ := hhindered h
      cases hfault.symm.trans hc
  · rcases htotal with ⟨c, hc⟩ | ⟨other, hother, -, hrefused⟩ | h
    · cases (hmade c hc).symm.trans hfault
    · cases hother.symm.trans hfault
      exact hrefused
    · obtain ⟨other, hother, hoperation⟩ := hhindered h
      cases hother.symm.trans hfault
      exact absurd hkind hoperation.kind_ne
  · obtain ⟨fault, hfault, hkind⟩ := hfault
    rcases htotal with ⟨c, hc⟩ | ⟨other, hother, hother', -⟩ | h
    · cases (hmade c hc).symm.trans hfault
    · cases hother.symm.trans hfault
      exact absurd hother' hkind
    · exact h
  · obtain ⟨fault, hfault, hoperation⟩ := hhindered h
    exact ⟨fault, hfault, hoperation.kind_ne⟩

/-- The configuration that a mapping with known names describes. -/
theorem ofEntries_of_known (hplain : IsPlain data) (hknown : ∀ key ∈ data.keys, isKnown key = true)
    (catalogue : Catalogue) (environment : Environment) :
    ofEntries catalogue environment (Argument.ofEntries data) = do
      let s ← Settings.check (sourcesOf environment data)
      let _ ← s.toGiven.shown
      return { standard with settings := s.toGiven } := by
  rw [ofEntries_eq hplain, checkKeys_of_known hknown, ok_bind]

theorem ofEntries_settles (hplain : IsPlain data) (catalogue : Catalogue) (environment : Environment) :
    Settles (ofEntries catalogue environment (Argument.ofEntries data)) (IsMade environment data)
      (IsRefused environment data) (IsHindered environment data) := by
  refine settles_of ?_ ?_ ?_
  · rintro c ⟨hknown, s, hreads, hwritable, rfl⟩
    obtain ⟨shown, hshown⟩ := s.writesIf_shown.exists_ok_iff.mpr hwritable
    rw [ofEntries_of_known hplain hknown, Settings.check_eq_ok_iff.mpr hreads, ok_bind, hshown]
    rfl
  · intro hhindered
    cases hhindered with
    | keys hunknown =>
      obtain ⟨fault, hfault, hoperation⟩ := exists_error_of_hindersKeys hunknown
      rw [ofEntries_eq hplain, hfault]
      exact ⟨fault, rfl, hoperation⟩
    | setting hknown hunread =>
      rw [ofEntries_of_known hplain hknown, Settings.check_eq_error_iff.mpr (.inr hunread)]
      exact ⟨_, rfl, hunread.isOperation⟩
    | @log s hknown hreads hlong =>
      rw [ofEntries_of_known hplain hknown, Settings.check_eq_ok_iff.mpr hreads, ok_bind,
        s.writesIf_shown.eq_error_iff.mpr ⟨hlong, rfl⟩]
      exact ⟨_, rfl, _, rfl⟩
  · by_cases hkeys : HindersKeys data.keys
    · exact .inr (.inr (.keys hkeys))
    by_cases hunknown : unknownKeys data.keys = []
    · have hknown := unknownKeys_eq_nil_iff.mp hunknown
      cases hcheck : Settings.check (sourcesOf environment data) with
      | ok s =>
        have hreads := Settings.check_eq_ok_iff.mp hcheck
        cases hwritable : s.isWritable with
        | true => exact .inl ⟨_, hknown, s, hreads, hwritable, rfl⟩
        | false => exact .inr (.inr (.log hknown hreads hwritable))
      | error fault =>
        rcases Settings.check_eq_error_iff.mp hcheck with hrefuses | hhinders
        · rw [ofEntries_of_known hplain hknown, hcheck]
          exact .inr (.inl ⟨fault, rfl, hrefuses.kind_eq, .setting hknown hrefuses⟩)
        · exact .inr (.inr (.setting hknown hhinders))
    · obtain ⟨fault, hfault, hrefuses⟩ := exists_refusesKeys hunknown hkeys
      rw [ofEntries_eq hplain, hfault]
      refine .inr (.inl ⟨fault, rfl, ?_, .keys hrefuses⟩)
      obtain ⟨sorted, texts, -, -, -, rfl⟩ := hrefuses
      rfl

theorem withOverrides_settles (hnames : ∀ e ∈ overrides, e.1 ∈ Settings.names) (c : Configuration) :
    Settles (c.withOverrides (overridesOf overrides))
      (fun copy => ∃ s, Settings.Reads (overridden c.settings overrides) s ∧ copy = { c with settings := s.toGiven })
      (Settings.Refuses (overridden c.settings overrides))
      (∃ fault, Settings.Hinders (overridden c.settings overrides) fault) := by
  rw [withOverrides_eq hnames]
  refine settles_of ?_ ?_ ?_
  · rintro copy ⟨s, hreads, rfl⟩
    rw [Settings.check_eq_ok_iff.mpr hreads]
    rfl
  · rintro ⟨fault, hhinders⟩
    rw [Settings.check_eq_error_iff.mpr (.inr hhinders)]
    exact ⟨fault, rfl, hhinders.isOperation⟩
  · cases hcheck : Settings.check (overridden c.settings overrides) with
    | ok s => exact .inl ⟨_, s, Settings.check_eq_ok_iff.mp hcheck, rfl⟩
    | error fault =>
      rcases Settings.check_eq_error_iff.mp hcheck with hrefuses | hhinders
      · exact .inr (.inl ⟨fault, rfl, hrefuses.kind_eq, hrefuses⟩)
      · exact .inr (.inr ⟨fault, hhinders⟩)

end

/-- A configuration is made of the settings in a mapping just when all names in it are known and each setting, read
from its variable, else from the mapping, else from the default, stands for a truth value or a positive integer; it
is refused where that is not so, unless something gets past the checks.  Overrides are treated likewise, and whatever
comes of them, only the copy is changed. -/
theorem configurations_settle {data : Entries} (hplain : IsPlain data) {overrides : List (String × Value)}
    (hnames : ∀ e ∈ overrides, e.1 ∈ Settings.names) (catalogue : Catalogue) (environment : Environment)
    (c : Configuration) :
    Settles (ofEntries catalogue environment (Argument.ofEntries data)) (IsMade environment data)
        (IsRefused environment data) (IsHindered environment data) ∧
      Settles (c.withOverrides (overridesOf overrides))
        (fun copy => ∃ s, Settings.Reads (overridden c.settings overrides) s ∧
          copy = { c with settings := s.toGiven })
        (Settings.Refuses (overridden c.settings overrides))
        (∃ fault, Settings.Hinders (overridden c.settings overrides) fault) ∧
      (∀ store : Store, Copies store store.length (c.withOverrides (overridesOf overrides))
        ((overriding c (overridesOf overrides)).run store)) ∧
      ∀ given s, Settings.Reads given s → 1 ≤ s.timeout ∧ 1 ≤ s.maxConcurrency :=
  ⟨ofEntries_settles hplain catalogue environment, withOverrides_settles hnames c,
    fun store => copies_overriding store c _, fun _ _ h => ⟨h.timeout.2.1, h.maxConcurrency.2.1⟩⟩

namespace Sample

/-- A mapping with a timeout that is no number and a number of units that is written as a text. -/
def written : Entries := [(.text "timeout", .text "soon"), (.textMember "max_concurrency", .text "4")]

/-- An environment with another timeout. -/
def surroundings : Environment := [("HOME", "/"), ("DATAKNOBS_SCHEMA_TIMEOUT", " 250 ")]

/-- Settings from the environment, the mapping and the default. -/
def readSettings : Settings := ⟨false, 250, 4⟩

/-- A mapping with an infinite timeout. -/
def endless : Entries := [(.text "timeout", .number (.float (.infinite false)))]

theorem isPlain_written : IsPlain written := by decide

theorem isPlain_endless : IsPlain endless := by decide

theorem isMade_written : IsMade surroundings written { standard with settings := readSettings.toGiven } :=
  ⟨by decide, readSettings, ⟨.inl rfl, ⟨rfl, by decide, rfl⟩, ⟨rfl, by decide, rfl⟩⟩, by decide +kernel, rfl⟩

end Sample

open RecordCheck.Configuration.Sample in
/-- The variable hides the bad timeout, which is refused without it; and an override that is null changes nothing. -/
theorem configurations_settle_sample :
    IsPlain written ∧
      ofEntries [] surroundings (Argument.ofEntries written) = .ok { standard with settings := readSettings.toGiven } ∧
      (∃ fault, ofEntries [] [] (Argument.ofEntries written) = .error fault ∧ IsRefused [] written fault) ∧
      (∃ fault, ofEntries [] [] (Argument.ofEntries endless) = .error fault ∧ fault.kind ≠ "ConfigurationError") ∧
      standard.withOverrides (overridesOf [("timeout", .null), ("convert", .text "Yes")]) =
        .ok { standard with settings := (⟨true, 5000, 10⟩ : Settings).toGiven } := by
  have hnames : ∀ e ∈ [("timeout", Value.null), ("convert", .text "Yes")], e.1 ∈ Settings.names := by decide
  obtain ⟨hmade, hoverridden, -⟩ := configurations_settle isPlain_written hnames [] surroundings standard
  obtain ⟨hrefused, -⟩ := configurations_settle isPlain_written hnames [] [] standard
  obtain ⟨hhindered, -⟩ := configurations_settle isPlain_endless hnames [] [] standard
  refine ⟨isPlain_written, (hmade.made_iff _).mpr isMade_written,
    ⟨.configuration (.notInteger "timeout" "'soon'"), rfl, hrefused.refused_of _ rfl rfl⟩,
    hhindered.hindered_iff.mpr (.setting (by decide) (.timeout (.inl rfl) .float)), (hoverridden.made_iff _).mpr ?_⟩
  exact ⟨⟨true, 5000, 10⟩, ⟨.inr rfl, ⟨rfl, by decide, rfl⟩, ⟨rfl, by decide, rfl⟩⟩, rfl⟩

open RecordCheck.Configuration.Sample in
/-- An infinite timeout is neither read nor refused. -/
theorem not_configurations_settle :
    ¬∀ (catalogue : Catalogue) (environment : Environment) (data : Entries), IsPlain data →
      (∃ c, ofEntries catalogue environment (Argument.ofEntries data) = .ok c) ∨
        ∃ fault, ofEntries catalogue environment (Argument.ofEntries data) = .error fault ∧
          fault.kind = "ConfigurationError" := by
  intro hall
  have hfault : ofEntries [] [] (Argument.ofEntries endless) = .error (.operation (.notFinite false false)) := rfl
  rcases hall [] [] endless isPlain_endless with ⟨c, hc⟩ | ⟨fault, hrefused, hkind⟩
  · cases hfault.symm.trans hc
  · cases hfault.symm.trans hrefused
    exact absurd hkind (by decide)

end RecordCheck.Configuration
