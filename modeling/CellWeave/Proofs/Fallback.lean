import CellWeave.Proofs.Decoded
import CellWeave.Proofs.Settings
import CellWeave.Settings.File
import CellWeave.Yaml.Reader
/-!
# Settings files that are no mappings

Settings are loaded from whatever bytes a file has, by whatever reader of documents. A file without
a mapping that can be read counts as an empty one, so that the environment and the defaults are
left; but bytes that are no text are not caught where the reading meets them, nor is a value that
cannot be written out.
-/

namespace CellWeave

open Utf8 (IsText)

/-! ## Readers -/

namespace DocumentReader

variable {φ : Type} {reader : DocumentReader φ} {bytes : List UInt8}

/-- On these bytes the reader does not fail in ways of its own: it gives a value or refuses the
text, as far as it gets. -/
def Answers (reader : DocumentReader φ) (bytes : List UInt8) : Prop :=
  ∀ fault, reader.readBytes bytes ≠ .error (.reader (.raised fault))

/-- The file is read as a document that is a map. -/
def HoldsMapping (reader : DocumentReader φ) (bytes : List UInt8) : Prop :=
  ∃ entries, reader.readBytes bytes = .ok (.map entries)

/-- The reading of the file comes to bytes that are no text. -/
def MeetsNoText (reader : DocumentReader φ) (bytes : List UInt8) : Prop :=
  ∃ fault, reader.readBytes bytes = .error (.undecodable fault)

/-- Where the bytes end in a fault, the reader fails before it or the fault is met. -/
theorem readPieces_of_fault {fault : Utf8.DecodeFault} {before : Chars} {pieces : List Chars} :
    (∃ refusal, reader.readPieces (some fault) before pieces = .error (.reader refusal)) ∨
      reader.readPieces (some fault) before pieces = .error (.undecodable fault) := by
  induction pieces generalizing before with
  | nil => exact .inr rfl
  | cons piece rest ih =>
    rw [readPieces]
    cases reader.faultWithin? (before ++ piece) with
    | none => exact ih
    | some refusal => exact .inl ⟨refusal, rfl⟩

theorem readPieces_ne_undecodable {before : Chars} {pieces : List Chars}
    (fault : Utf8.DecodeFault) :
    reader.readPieces none before pieces ≠ .error (.undecodable fault) := by
  induction pieces generalizing before with
  | nil =>
    rw [readPieces]
    cases reader.read before <;> exact nofun
  | cons piece rest ih =>
    rw [readPieces]
    cases reader.faultWithin? (before ++ piece) with
    | none => exact ih
    | some refusal => exact nofun

/-- Bytes that are no text are read up to their fault, unless the reader fails before it. -/
theorem readBytes_of_not_isText (h : ¬IsText bytes) :
    (∃ refusal, reader.readBytes bytes = .error (.reader refusal)) ∨ reader.MeetsNoText bytes := by
  rw [← TextFile.fault_pieces_eq_none_iff reader.pieceSize_pos] at h
  obtain ⟨fault, hfault⟩ := Option.ne_none_iff_exists'.1 h
  rw [MeetsNoText, readBytes]
  dsimp only
  rw [hfault]
  exact readPieces_of_fault.imp_right fun hread ↦ ⟨fault, hread⟩

/-- A value is read from a text alone. -/
theorem isText_of_readBytes {value : Value} (h : reader.readBytes bytes = .ok value) :
    IsText bytes := by
  by_contra hnot
  obtain ⟨refusal, hread⟩ | ⟨fault, hread⟩ := reader.readBytes_of_not_isText hnot
  all_goals exact absurd (h.symm.trans hread) nofun

theorem MeetsNoText.not_isText (h : reader.MeetsNoText bytes) : ¬IsText bytes := by
  intro htext
  obtain ⟨fault, hread⟩ := h
  rw [← TextFile.fault_pieces_eq_none_iff reader.pieceSize_pos] at htext
  rw [readBytes] at hread
  dsimp only at hread
  rw [htext] at hread
  exact readPieces_ne_undecodable fault hread

/-- The fault of a short file is met before the reader has anything to fail on. -/
theorem meetsNoText_of_length_le (h : ¬IsText bytes) (hlength : bytes.length ≤ reader.pieceSize) :
    reader.MeetsNoText bytes := by
  obtain ⟨fault, hpieces⟩ := TextFile.pieces_of_not_isText h hlength
  exact ⟨fault, by rw [readBytes, hpieces]; rfl⟩

/-- A short file of a text is read as that text. -/
theorem readBytes_encode {text : Chars} (hreturn : '\r' ∉ text)
    (hlength : text.length < reader.pieceSize) (hbytes : (Utf8.encode text).length ≤ 8192)
    (hfault : text ≠ [] → reader.faultWithin? text = none) :
    reader.readBytes (Utf8.encode text) = (reader.read text).mapError .reader := by
  rw [readBytes, TextFile.pieces_encode hreturn hlength hbytes]
  by_cases hnil : text = []
  · rw [if_pos hnil, hnil]
    rfl
  · rw [if_neg hnil]
    dsimp only
    rw [readPieces, List.nil_append, hfault hnil]
    rfl

theorem readBytes_nil (reader : DocumentReader φ) :
    reader.readBytes [] = (reader.read []).mapError .reader := by
  have h : reader.readBytes (Utf8.encode []) = (reader.read []).mapError .reader :=
    readBytes_encode List.not_mem_nil reader.pieceSize_pos (Nat.zero_le _) (absurd rfl)
  rwa [Utf8.encode_nil] at h

end DocumentReader

variable {φ : Type}

/-- The delimiter is refused, as it is not a single line. -/
def SettingsError.IsMisfit (error : SettingsError φ) : Prop :=
  ∃ text, error = .setting (.delimiter (.delimiterMisfit text))

namespace Settings

variable {room : Nat} {environment : Environment} {data : Value}

/-! ## Data -/

/-- A value has to be written out and cannot be: that of the delimiter, or that of another setting
once the delimiter is accepted. -/
def Overflows (room : Nat) (environment : Environment) (data : Value) : Prop :=
  Setting.delimiter.IsUnwritable room environment data ∨
    (∃ raw body, RawDelimiter room environment data raw ∧ raw.EndsOnce body) ∧
      ¬OthersWritable room environment data

/-- Settings are refused for their delimiter, or for a value that overflows. -/
theorem ofSources_error (room : Nat) (environment : Environment) (data : Value) :
    (Overflows room environment data ∧
      ∃ fault, ofSources room environment data = .error (.unwritable fault)) ∨
      ¬Overflows room environment data ∧
        ∀ error, ofSources room environment data = .error error →
          ∃ text, error = .delimiter (.delimiterMisfit text) := by
  by_cases hwritable : Setting.delimiter.IsUnwritable room environment data
  · exact .inl ⟨.inl hwritable, ofSources_of_isUnwritable hwritable⟩
  obtain ⟨raw, hraw⟩ := exists_rawDelimiter_iff.2 hwritable
  obtain ⟨hends, hmisfit⟩ | ⟨body, hbody, ⟨hothers, hfault⟩ | ⟨hothers, settings, hsettings, -⟩⟩ :=
    ofSources_spec hraw
  · refine .inr ⟨?_, fun error herror ↦
      ⟨_, Except.error.inj (herror.symm.trans hmisfit)⟩⟩
    rintro (hunwritable | ⟨⟨other, body, hother, hbody⟩, -⟩)
    · exact hwritable hunwritable
    · exact hends ⟨body, hraw.eq hother ▸ hbody⟩
  · exact .inl ⟨.inr ⟨⟨raw, body, hraw, hbody⟩, hothers⟩, hfault⟩
  · refine .inr ⟨?_, fun error herror ↦ absurd (hsettings.symm.trans herror) nofun⟩
    rintro (hunwritable | ⟨-, hnot⟩)
    · exact hwritable hunwritable
    · exact hnot hothers

/-- A map without entries has nothing that would have to be written out. -/
theorem not_overflows_nil (room : Nat) (environment : Environment) :
    ¬Overflows room environment (.map []) := by
  have hwritable (setting : Setting) : ¬setting.IsUnwritable room environment (.map []) := by
    rintro ⟨-, value, hvalue, -⟩
    exact absurd hvalue nofun
  rintro (hunwritable | ⟨-, hothers⟩)
  · exact hwritable _ hunwritable
  · exact hothers fun setting _ ↦ hwritable setting

/-! ## Files -/

variable {reader : DocumentReader φ} {bytes : List UInt8} {around : Surroundings}
  {path : Option Text}

/-- What a file comes to: the map in it; no entries; or the fault of its bytes. -/
theorem dataOfBytes_cases (hanswers : reader.Answers bytes) :
    (∃ entries, reader.readBytes bytes = .ok (.map entries) ∧
      dataOfBytes reader bytes = .ok (.map entries)) ∨
    (¬reader.HoldsMapping bytes ∧ ¬reader.MeetsNoText bytes ∧
      dataOfBytes reader bytes = .ok (.map [])) ∨
    ¬reader.HoldsMapping bytes ∧
      ∃ fault, reader.readBytes bytes = .error (.undecodable fault) ∧
        dataOfBytes reader bytes = .error (.undecodable fault) := by
  unfold DocumentReader.HoldsMapping DocumentReader.MeetsNoText dataOfBytes
  cases hread : reader.readBytes bytes with
  | ok value =>
    cases value with
    | map entries => exact .inl ⟨entries, rfl, rfl⟩
    | _ => exact .inr (.inl ⟨by simp, by simp, rfl⟩)
  | error fault =>
    cases fault with
    | undecodable fault => exact .inr (.inr ⟨by simp, fault, rfl, rfl⟩)
    | reader fault =>
      cases fault with
      | refused => exact .inr (.inl ⟨by simp, by simp, rfl⟩)
      | raised fault => exact absurd hread (hanswers fault)

theorem load_of_fileContent? (h : fileContent? around path = some bytes) :
    load reader around path = dataOfBytes reader bytes >>= fun data ↦
      (ofSources around.room around.environment data).mapError .setting := by
  rw [load, h]

/-- Data fail for a value that overflows, or for their delimiter. -/
theorem load_error (h : fileContent? around path = some bytes)
    (hdata : dataOfBytes reader bytes = .ok data) :
    (∃ error, load reader around path = .error error ∧ ¬error.IsMisfit) ↔
      Overflows around.room around.environment data := by
  have hload : load reader around path =
      (ofSources around.room around.environment data).mapError .setting := by
    rw [load_of_fileContent? h, hdata]
    rfl
  rw [hload]
  obtain ⟨hover, fault, hfault⟩ | ⟨hfits, hmisfit⟩ :=
    ofSources_error around.room around.environment data
  · rw [hfault]
    exact iff_of_true ⟨_, rfl, nofun⟩ hover
  · refine iff_of_false ?_ hfits
    rintro ⟨error, herror, hnot⟩
    cases hresult : ofSources around.room around.environment data with
    | ok settings =>
      rw [hresult] at herror
      exact absurd herror nofun
    | error found =>
      obtain ⟨text, rfl⟩ := hmisfit found hresult
      rw [hresult] at herror
      exact hnot ⟨text, (Except.error.inj herror).symm⟩

/-- Loading fails for anything but the delimiter for the bytes or for a value alone. -/
theorem load_error_iff (hfile : fileContent? around path = some bytes)
    (hanswers : reader.Answers bytes) :
    (∃ error, load reader around path = .error error ∧ ¬error.IsMisfit) ↔
      reader.MeetsNoText bytes ∨ ∃ entries, reader.readBytes bytes = .ok (.map entries) ∧
        Overflows around.room around.environment (.map entries) := by
  rcases dataOfBytes_cases hanswers with
    ⟨entries, hread, hdata⟩ | ⟨hnot, hmet, hdata⟩ | ⟨hnot, fault, hread, hdata⟩
  · rw [load_error hfile hdata]
    constructor
    · exact fun hover ↦ .inr ⟨entries, hread, hover⟩
    · rintro (⟨fault, hfault⟩ | ⟨other, hother, hover⟩)
      · exact absurd (hread.symm.trans hfault) nofun
      · obtain ⟨⟩ := Except.ok.inj (hread.symm.trans hother)
        exact hover
  · rw [load_error hfile hdata]
    refine iff_of_false (not_overflows_nil _ _) ?_
    rintro (h | ⟨entries, hread, -⟩)
    · exact hmet h
    · exact hnot ⟨entries, hread⟩
  · have hload : load reader around path = .error (.undecodable fault) := by
      rw [load_of_fileContent? hfile, hdata]
      rfl
    exact iff_of_true ⟨_, hload, nofun⟩ (.inl ⟨fault, hread⟩)

theorem dataOfBytes_nil (hempty : reader.read [] = .ok .null) :
    dataOfBytes reader [] = .ok (.map []) := by
  unfold dataOfBytes
  rw [reader.readBytes_nil, hempty]
  rfl

/-- A file without a mapping that can be read is loaded as an empty one. -/
theorem load_eq_of_not_holdsMapping {other : Surroundings} {path' : Option Text}
    (hempty : reader.read [] = .ok .null) (hfile : fileContent? around path = some bytes)
    (hanswers : reader.Answers bytes) (hnot : ¬reader.HoldsMapping bytes)
    (hmet : ¬reader.MeetsNoText bytes) (henvironment : other.environment = around.environment)
    (hroom : other.room = around.room) (hother : fileContent? other path' = some []) :
    load reader around path = load reader other path' := by
  have hdata : dataOfBytes reader bytes = .ok (.map []) := by
    rcases dataOfBytes_cases hanswers with
      ⟨entries, hread, -⟩ | ⟨-, -, hdata⟩ | ⟨-, fault, hread, -⟩
    · exact absurd ⟨entries, hread⟩ hnot
    · exact hdata
    · exact absurd ⟨fault, hread⟩ hmet
  rw [load_of_fileContent? hfile, load_of_fileContent? hother, hdata, dataOfBytes_nil hempty,
    henvironment, hroom]

/-- Loading fails for anything but the delimiter if and only if the reading of the file comes to
bytes that are no text, or there is a mapping with a value that cannot be written out where it has
to be. Bytes that are no text hold no mapping: the reader refuses what it reads of them, or their
fault is met, and it is always met in a file that is not longer than a piece. Otherwise a file
without a mapping that can be read is loaded like an empty one. -/
theorem load_file (hempty : reader.read [] = .ok .null)
    (hfile : fileContent? around path = some bytes) (hanswers : reader.Answers bytes) :
    ((∃ error, load reader around path = .error error ∧ ¬error.IsMisfit) ↔
      reader.MeetsNoText bytes ∨ ∃ entries, reader.readBytes bytes = .ok (.map entries) ∧
        Overflows around.room around.environment (.map entries)) ∧
    (reader.MeetsNoText bytes → ¬IsText bytes) ∧
    (¬IsText bytes → ¬reader.HoldsMapping bytes ∧
      (reader.readBytes bytes = .error (.reader .refused) ∨ reader.MeetsNoText bytes) ∧
      (bytes.length ≤ reader.pieceSize → reader.MeetsNoText bytes)) ∧
    (¬reader.HoldsMapping bytes → ¬reader.MeetsNoText bytes → ∀ other path',
      other.environment = around.environment → other.room = around.room →
        fileContent? other path' = some [] →
          load reader around path = load reader other path') := by
  refine ⟨load_error_iff hfile hanswers, DocumentReader.MeetsNoText.not_isText, fun hnot ↦ ?_, ?_⟩
  · refine ⟨fun ⟨entries, hread⟩ ↦ hnot (DocumentReader.isText_of_readBytes hread), ?_,
      DocumentReader.meetsNoText_of_length_le hnot⟩
    refine (reader.readBytes_of_not_isText hnot).imp_left ?_
    rintro ⟨refusal, hread⟩
    cases refusal with
    | refused => exact hread
    | raised fault => exact absurd hread (hanswers fault)
  · exact fun hnot hmet other path' henvironment hroom hother ↦
      load_eq_of_not_holdsMapping hempty hfile hanswers hnot hmet henvironment hroom hother

/-- A folder with a settings file that has these bytes. -/
def fileOf (bytes : List UInt8) : Surroundings where
  tree := ⟨[([Utf8.encode ".notebook_sync.yaml".toList], .file bytes)]⟩
  folder := .ofNames []
  home := .ofNames [.ofString "home"]
  environment := []
  room := 900

theorem fileContent?_fileOf (bytes : List UInt8) : fileContent? (fileOf bytes) none = some bytes :=
  rfl

/-- A list with one item. -/
def listText : Chars :=
  "- a\n".toList

/-- A list is read as no mapping. -/
theorem read_listText : Yaml.reader.read listText = .ok .null := by
  have hread : (Yaml.Document.read (.ofText none listText)).toOption.map (·.isNone) =
      some true := by
    decide +kernel
  cases hdocument : Yaml.Document.read (.ofText none listText) with
  | error fault =>
    rw [hdocument] at hread
    exact absurd hread nofun
  | ok document =>
    rw [hdocument] at hread
    obtain rfl : document = none := by simpa [Except.toOption] using hread
    simp only [Yaml.reader, hdocument]

/-- A file with a list in it is loaded as an empty one. -/
theorem load_file_list : Yaml.reader.read [] = .ok .null ∧
    fileContent? (fileOf (Utf8.encode listText)) none = some (Utf8.encode listText) ∧
    Yaml.reader.Answers (Utf8.encode listText) ∧
    ¬Yaml.reader.HoldsMapping (Utf8.encode listText) ∧
    load Yaml.reader (fileOf (Utf8.encode listText)) none =
      load Yaml.reader (fileOf []) none := by
  have hempty : Yaml.reader.read [] = .ok .null := rfl
  have hfile := fileContent?_fileOf (Utf8.encode listText)
  have hread : Yaml.reader.readBytes (Utf8.encode listText) = .ok .null := by
    rw [DocumentReader.readBytes_encode (by decide) (by decide) (by decide) fun _ ↦ rfl,
      read_listText]
    rfl
  have hanswers : Yaml.reader.Answers (Utf8.encode listText) :=
    fun fault hfault ↦ absurd (hread.symm.trans hfault) nofun
  have hnot : ¬Yaml.reader.HoldsMapping (Utf8.encode listText) :=
    fun ⟨_, hmap⟩ ↦ absurd (hread.symm.trans hmap) nofun
  have hmet : ¬Yaml.reader.MeetsNoText (Utf8.encode listText) :=
    fun ⟨_, hfault⟩ ↦ absurd (hread.symm.trans hfault) nofun
  obtain ⟨-, -, -, hfallback⟩ := load_file hempty hfile hanswers
  exact ⟨hempty, hfile, hanswers, hnot,
    hfallback hnot hmet (fileOf []) none rfl rfl (fileContent?_fileOf [])⟩

/-- A language in an encoding that is not the one of settings files. -/
def latinBytes : List UInt8 :=
  [0x6C, 0x61, 0x6E, 0x67, 0x75, 0x61, 0x67, 0x65, 0x3A, 0x20, 0xE9]

theorem not_isText_latinBytes : ¬IsText latinBytes := by
  rintro ⟨text, htext⟩
  have hdecode := Utf8.decodeBlock_encode true text 0
  rw [htext] at hdecode
  simp [latinBytes, Utf8.decodeBlock, Utf8.headOf, Utf8.headThree, bind, Except.bind] at hdecode

/-- The letter with an accent stops the loading. -/
theorem load_latinBytes : Yaml.reader.Answers latinBytes ∧ ∃ fault,
    load Yaml.reader (fileOf latinBytes) none = .error (.undecodable fault) := by
  obtain ⟨fault, hread⟩ : Yaml.reader.MeetsNoText latinBytes :=
    DocumentReader.meetsNoText_of_length_le not_isText_latinBytes (by decide)
  refine ⟨fun other hother ↦ absurd (hread.symm.trans hother) nofun, fault, ?_⟩
  rw [load_of_fileContent? (fileContent?_fileOf latinBytes)]
  unfold dataOfBytes
  rw [hread]
  rfl

end Settings

end CellWeave
