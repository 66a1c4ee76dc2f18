import CellWeave.Proofs.Batch
import CellWeave.Proofs.Breaks
/-!
# Settings and their sources

What the sources give for a setting comes down to three questions: whether the environment has it,
whether the data have a value for it, and whether that value can be written. The delimiter is
settled before the other settings are looked at.
-/

namespace CellWeave

namespace Setting

/-- The setting is left to the data, and they have a value for it that cannot be written out. -/
def IsUnwritable (setting : Setting) (room : Nat) (environment : Environment) (data : Value) :
    Prop :=
  environment.lookup setting.variableName = none ∧
    ∃ value, data.get? setting.key = some value ∧ value ≠ .null ∧
      ∃ fault, value.writeFault? room = some fault

/-- What is given for a setting: the text of its variable, even nothing, or else the text of the
value that the data have for it, if that is not null. -/
inductive Gives (setting : Setting) (room : Nat) (environment : Environment) (data : Value) :
    Option Text → Prop where
  | set {text : Text} (h : environment.lookup setting.variableName = some text) :
    Gives setting room environment data (some text)
  | entry {value : Value} (hunset : environment.lookup setting.variableName = none)
    (hvalue : data.get? setting.key = some value) (hnull : value ≠ .null)
    (hwritable : value.writeFault? room = none) :
    Gives setting room environment data (some value.shown)
  | nothing (hunset : environment.lookup setting.variableName = none)
    (hnull : ∀ value, data.get? setting.key = some value → value = .null) :
    Gives setting room environment data none

variable {setting : Setting} {room : Nat} {environment : Environment} {data : Value}

theorem given?_of_value {value : Value}
    (hunset : environment.lookup setting.variableName = none)
    (hvalue : data.get? setting.key = some value) (hnull : value ≠ .null) :
    setting.given? room environment data =
      match value.writeFault? room with
      | none => .ok (some value.shown)
      | some fault => .error (.unwritable fault) := by
  rw [given?, hunset, hvalue]
  cases value with
  | null => exact absurd rfl hnull
  | _ => rfl

theorem Gives.given?_eq {text : Option Text} (h : setting.Gives room environment data text) :
    setting.given? room environment data = .ok text := by
  cases h with
  | set hset => rw [given?, hset]
  | entry hunset hvalue hnull hwritable =>
    rw [given?_of_value hunset hvalue hnull, hwritable]
  | nothing hunset hnull =>
    rw [given?, hunset]
    cases hvalue : data.get? setting.key with
    | none => rfl
    | some value => rw [hnull value hvalue]

theorem IsUnwritable.given?_eq (h : setting.IsUnwritable room environment data) :
    ∃ fault, setting.given? room environment data = .error (.unwritable fault) := by
  obtain ⟨hunset, value, hvalue, hnull, fault, hfault⟩ := h
  exact ⟨fault, by rw [given?_of_value hunset hvalue hnull, hfault]⟩

/-- A setting is given a text or nothing, or has a value that cannot be written. -/
theorem gives_or_isUnwritable (setting : Setting) (room : Nat) (environment : Environment)
    (data : Value) : (∃ text, setting.Gives room environment data text) ∨
      setting.IsUnwritable room environment data := by
  cases hset : environment.lookup setting.variableName with
  | some text => exact .inl ⟨_, .set hset⟩
  | none =>
    cases hvalue : data.get? setting.key with
    | none => exact .inl ⟨_, .nothing hset (by simp [hvalue])⟩
    | some value =>
      by_cases hnull : value = .null
      · exact .inl ⟨_, .nothing hset (by simp [hvalue, hnull])⟩
      · cases hfault : value.writeFault? room with
        | none => exact .inl ⟨_, .entry hset hvalue hnull hfault⟩
        | some fault => exact .inr ⟨hset, value, hvalue, hnull, fault, hfault⟩

theorem Gives.not_isUnwritable {text : Option Text}
    (h : setting.Gives room environment data text) :
    ¬setting.IsUnwritable room environment data := by
  intro hunwritable
  obtain ⟨fault, hfault⟩ := hunwritable.given?_eq
  exact absurd (h.given?_eq.symm.trans hfault) nofun

end Setting

theorem Delimiter.parse_eq_error {text : Text} {error : SyncError}
    (h : parse text = .error error) : error = .delimiterMisfit text := by
  unfold parse at h
  split at h
  · exact absurd h nofun
  · exact (Except.error.inj h).symm

namespace Settings

/-- The raw text of the delimiter: what is given for it, or else the default. -/
def RawDelimiter (room : Nat) (environment : Environment) (data : Value) (raw : Text) : Prop :=
  ∃ text, Setting.delimiter.Gives room environment data text ∧
    raw = text.getD Delimiter.default.text

/-- Each setting other than the delimiter that is left to the data can be written out. -/
def OthersWritable (room : Nat) (environment : Environment) (data : Value) : Prop :=
  ∀ setting : Setting, setting ≠ .delimiter → ¬setting.IsUnwritable room environment data

variable {room : Nat} {environment : Environment} {data : Value} {raw : Text}

theorem exists_rawDelimiter_iff :
    (∃ raw, RawDelimiter room environment data raw) ↔
      ¬Setting.delimiter.IsUnwritable room environment data := by
  constructor
  · rintro ⟨_, text, hgives, -⟩
    exact hgives.not_isUnwritable
  · intro hwritable
    obtain ⟨text, hgives⟩ :=
      (Setting.delimiter.gives_or_isUnwritable room environment data).resolve_right hwritable
    exact ⟨_, text, hgives, rfl⟩

theorem RawDelimiter.eq {other : Text} (h : RawDelimiter room environment data raw)
    (hother : RawDelimiter room environment data other) : raw = other := by
  obtain ⟨text, hgives, rfl⟩ := h
  obtain ⟨text', hgives', rfl⟩ := hother
  rw [Except.ok.inj (hgives.given?_eq.symm.trans hgives'.given?_eq)]

/-- A delimiter that cannot be written out is the first to stop the settings. -/
theorem ofSources_of_isUnwritable (h : Setting.delimiter.IsUnwritable room environment data) :
    ∃ fault, ofSources room environment data = .error (.unwritable fault) := by
  obtain ⟨fault, hfault⟩ := h.given?_eq
  exact ⟨fault, by simp [ofSources, hfault, bind, Except.bind]⟩

/-- The default is a delimiter as it is. -/
theorem parse_default :
    Delimiter.parse (unescapeFeeds Delimiter.default.text) = .ok Delimiter.default := by
  decide +kernel

/-- The other settings, once the delimiter is settled. -/
def withDelimiter (room : Nat) (environment : Environment) (data : Value)
    (delimiter : Delimiter) : Except SettingError Settings := do
  let language ← Setting.language.given? room environment data
  let logLevel ← Setting.logLevel.given? room environment data
  let logFile ← Setting.logFile.given? room environment data
  return {
    delimiter
    language := language.getD Notebook.standardLanguage
    logLevel := Text.toUpper (logLevel.getD defaultLogLevel)
    logFile }

theorem ofSources_of_rawDelimiter (h : RawDelimiter room environment data raw) :
    ofSources room environment data =
      (Delimiter.parse (unescapeFeeds raw)).mapError .delimiter >>=
        withDelimiter room environment data := by
  obtain ⟨text, hgives, rfl⟩ := h
  rw [ofSources]
  dsimp only
  rw [hgives.given?_eq]
  cases text with
  | none =>
    rw [Option.getD_none, parse_default]
    rfl
  | some text => rfl

/-- With an accepted delimiter only the values of the other settings can fail. -/
theorem withDelimiter_spec (room : Nat) (environment : Environment) (data : Value)
    (delimiter : Delimiter) :
    (OthersWritable room environment data ∧ ∃ settings,
      withDelimiter room environment data delimiter = .ok settings ∧
        settings.delimiter = delimiter) ∨
    ¬OthersWritable room environment data ∧
      ∃ fault, withDelimiter room environment data delimiter = .error (.unwritable fault) := by
  have hunwritable {setting : Setting} (h : setting.IsUnwritable room environment data)
      (hother : setting ≠ .delimiter) : ¬OthersWritable room environment data :=
    fun hothers ↦ hothers setting hother h
  rcases Setting.language.gives_or_isUnwritable room environment data with ⟨language, hlanguage⟩ | h
  · rcases Setting.logLevel.gives_or_isUnwritable room environment data with ⟨logLevel, hlevel⟩ | h
    · rcases Setting.logFile.gives_or_isUnwritable room environment data with ⟨logFile, hfile⟩ | h
      · refine .inl ⟨?_, _, by
          rw [withDelimiter, hlanguage.given?_eq, hlevel.given?_eq, hfile.given?_eq]; rfl, rfl⟩
        intro setting hother
        cases setting with
        | delimiter => exact absurd rfl hother
        | language => exact hlanguage.not_isUnwritable
        | logLevel => exact hlevel.not_isUnwritable
        | logFile => exact hfile.not_isUnwritable
      · obtain ⟨fault, hfault⟩ := h.given?_eq
        refine .inr ⟨hunwritable h nofun, fault, ?_⟩
        rw [withDelimiter, hlanguage.given?_eq, hlevel.given?_eq, hfault]
        rfl
    · obtain ⟨fault, hfault⟩ := h.given?_eq
      refine .inr ⟨hunwritable h nofun, fault, ?_⟩
      rw [withDelimiter, hlanguage.given?_eq, hfault]
      rfl
  · obtain ⟨fault, hfault⟩ := h.given?_eq
    refine .inr ⟨hunwritable h nofun, fault, ?_⟩
    rw [withDelimiter, hfault]
    rfl

/-- A raw text makes a delimiter if it ends in its only break; then the other settings have to be
writable too. -/
theorem ofSources_spec (h : RawDelimiter room environment data raw) :
    (¬(∃ body, raw.EndsOnce body) ∧ ofSources room environment data =
      .error (.delimiter (.delimiterMisfit (unescapeFeeds raw)))) ∨
    ∃ body, raw.EndsOnce body ∧
      ((¬OthersWritable room environment data ∧
        ∃ fault, ofSources room environment data = .error (.unwritable fault)) ∨
      OthersWritable room environment data ∧
        ∃ settings, ofSources room environment data = .ok settings ∧
          settings.delimiter.line = body) := by
  rw [ofSources_of_rawDelimiter h]
  cases hparse : Delimiter.parse (unescapeFeeds raw) with
  | error error =>
    refine .inl ⟨?_, ?_⟩
    · rintro ⟨body, hbody⟩
      obtain ⟨delimiter, hdelimiter, -⟩ := parse_of_endsOnce hbody
      exact absurd (hparse.symm.trans hdelimiter) nofun
    · rw [Delimiter.parse_eq_error hparse]
      rfl
  | ok delimiter =>
    refine .inr ⟨delimiter.line, endsOnce_of_parse hparse, ?_⟩
    rcases withDelimiter_spec room environment data delimiter with hsettled | hunwritten
    · obtain ⟨hothers, settings, hsettings, rfl⟩ := hsettled
      exact .inr ⟨hothers, settings, hsettings, rfl⟩
    · exact .inl hunwritten

end Settings

end CellWeave
