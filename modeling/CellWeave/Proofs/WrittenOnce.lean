import CellWeave.LogBook
import CellWeave.Proofs.Contents
import CellWeave.Proofs.Decoded
import CellWeave.Proofs.Loggers
/-!
# Records are written once

A log book is set up again and again, with any levels and paths, and receives records in between.
Its files have different absolute paths and stay until the end, and every record that its logger
takes at the time is added once for every file, in the order of the records, and nothing else is
added. So a record is written once to a file, unless two absolute paths lead to it: one of them
begins with two slashes, or has the bytes of a name as halves of surrogate pairs. No other file
changes.
-/

namespace CellWeave

/-! ## Texts with bytes -/

theorem Text.toChars?_ofChars (chars : Chars) : (ofChars chars).toChars? = some chars := by
  induction chars with
  | nil => rfl
  | cons c chars ih =>
    rw [ofChars, List.map_cons, toChars?, List.mapM_cons]
    simp only [toChars?, ofChars] at ih
    rw [ih]
    rfl

/-- A text that can be encoded has no half of a surrogate pair. -/
theorem Text.eq_ofChars_of_toChars? {text : Text} {chars : Chars}
    (h : text.toChars? = some chars) : text = ofChars chars := by
  induction text generalizing chars with
  | nil =>
    obtain rfl := Option.some.inj h
    rfl
  | cons point text ih =>
    rw [toChars?, List.mapM_cons] at h
    obtain ⟨c, hpoint, h⟩ := Option.bind_eq_some_iff.1 h
    obtain ⟨rest, hrest, h⟩ := Option.bind_eq_some_iff.1 h
    obtain rfl := Option.some.inj h
    rw [ih hrest]
    cases point with
    | char c =>
      obtain rfl := Option.some.inj hpoint
      rfl
    | surrogate half => exact absurd hpoint nofun

theorem Utf8.encode_injective {first second : Chars} (h : encode first = encode second) :
    first = second := by
  have hdecode := decodeBlock_encode true first 0
  rw [h, decodeBlock_encode] at hdecode
  exact (Prod.mk.inj (Except.ok.inj hdecode)).1.symm

/-- The path does not begin with two slashes, and no byte of a name is written as half of a
surrogate pair. -/
def AbsolutePath.IsPlain (path : AbsolutePath) : Prop :=
  ∃ names : List Chars, path = .ofNames (names.map .ofChars)

/-- Different plain paths lead to different places. -/
theorem AbsolutePath.IsPlain.inj {path other : AbsolutePath} (h : path.IsPlain)
    (hother : other.IsPlain) (hplace : path.place = other.place) : path = other := by
  obtain ⟨names, rfl⟩ := h
  obtain ⟨names', rfl⟩ := hother
  have hbytes (chars : Chars) : Utf8.pathBytes (.ofChars chars) = Utf8.encode chars :=
    List.flatMap_map ..
  have hnames : names.map Utf8.encode = names'.map Utf8.encode := by
    simpa [place, ofNames, Function.comp_def, hbytes] using hplace
  rw [List.map_injective_iff.2 (fun _ _ ↦ Utf8.encode_injective) hnames]

namespace LogBook

/-! ## Runs -/

inductive Request where
  | setUp (level : Text) (path : Option Text)
  | record (logger : Text) (record : LogRecord)
  deriving DecidableEq

def handle (book : LogBook) : Request → LogBook
  | .setUp level path => (book.setUp level path).2
  | .record logger record => book.receive logger record

def run (book : LogBook) (requests : List Request) : LogBook :=
  requests.foldl handle book

/-- The record that a request brings, if its logger takes it and the book hears the logger. -/
def taken (book : LogBook) : Request → List LogRecord
  | .setUp .. => []
  | .record logger record =>
    if book.takes logger record.level && book.hears logger then [record] else []

/-- How many of the files are at a place. -/
def filesAt (book : LogBook) (place : Place) : Nat :=
  book.files.countP (·.place = place)

/-- Records, each as often as the book has files at a place. -/
def copies (book : LogBook) (place : Place) (records : List LogRecord) : List LogRecord :=
  records.flatMap (List.replicate (book.filesAt place))

/-- The records that requests bring to a place. -/
def received (place : Place) (book : LogBook) : List Request → List LogRecord
  | [] => []
  | request :: rest =>
    book.copies place (book.taken request) ++ received place (book.handle request) rest

@[simp] theorem run_nil (book : LogBook) : book.run [] = book :=
  rfl

@[simp] theorem run_cons (book : LogBook) (request : Request) (rest : List Request) :
    book.run (request :: rest) = (book.handle request).run rest :=
  rfl

theorem run_append (book : LogBook) (before after : List Request) :
    book.run (before ++ after) = (book.run before).run after :=
  List.foldl_append

/-! ## What a book keeps -/

/-- The files have different paths and are all there, and what was settled for the loggers of the
book is what its level settles now. -/
structure WellKept (book : LogBook) : Prop where
  nodup_files : book.files.Nodup
  isSome_content? {file : AbsolutePath} (h : file ∈ book.files) :
    (book.tree.content? file.place).isSome
  root_mem : rootName ∈ book.loggers
  settled_eq {logger : Text} {level : Level} {isTaken : Bool}
    (hlogger : Logger.Continues rootName logger)
    (h : ((logger, level), isTaken) ∈ book.settled) :
    isTaken = decide (book.threshold ≤ level.value)

variable {book : LogBook} {logger : Text}

theorem hears_of_continues (hroot : rootName ∈ book.loggers)
    (h : Logger.Continues rootName logger) : book.hears logger = true :=
  h.isWithin (by decide) (by decide) hroot

/-- A logger of the book takes what is at or above the level of the book. -/
theorem WellKept.takes_eq (h : book.WellKept) (hlogger : Logger.Continues rootName logger)
    (level : Level) : book.takes logger level = decide (book.threshold ≤ level.value) := by
  rw [takes, hears_of_continues h.root_mem hlogger]
  cases hsettled : book.settled.lookup (logger, level) with
  | none => rfl
  | some isTaken =>
    obtain ⟨before, after, hmem, -⟩ := List.lookup_eq_some_iff.1 hsettled
    exact h.settled_eq hlogger (by rw [hmem]; simp)

/-! ## Lines -/

/-- At a place the bytes are added once for each file there. -/
theorem bytesAt_foldl_append {files : List AbsolutePath} (bytes : List UInt8)
    (hne : ∀ file ∈ files, file.place ≠ []) (tree : FileTree) (place : Place) :
    (files.foldl (fun tree file ↦ tree.append file.place bytes) tree).bytesAt place =
      tree.bytesAt place ++ (List.replicate (files.countP (·.place = place)) bytes).flatten := by
  induction files generalizing tree with
  | nil => simp
  | cons file rest ih =>
    rw [List.forall_mem_cons] at hne
    rw [List.foldl_cons, ih hne.2, FileTree.bytesAt_append hne.1, List.countP_cons]
    by_cases hfile : file.place = place
    · simp [hfile, List.replicate_succ]
    · simp [hfile, Ne.symm hfile]

theorem isSome_foldl_append {files : List AbsolutePath} (bytes : List UInt8)
    (hne : ∀ file ∈ files, file.place ≠ []) {tree : FileTree} {place : Place}
    (h : (tree.content? place).isSome) :
    ((files.foldl (fun tree file ↦ tree.append file.place bytes) tree).content? place).isSome := by
  induction files generalizing tree with
  | nil => exact h
  | cons file rest ih =>
    rw [List.forall_mem_cons] at hne
    apply ih hne.2
    rw [FileTree.content?_append hne.1]
    split
    · rfl
    · exact h

theorem WellKept.ne_nil (h : book.WellKept) : ∀ file ∈ book.files, file.place ≠ [] :=
  fun _ hfile ↦ FileTree.ne_nil_of_isSome_content? (h.isSome_content? hfile)

theorem WellKept.addLine (h : book.WellKept) (record : LogRecord) :
    (book.addLine record).WellKept :=
  ⟨h.nodup_files, fun hfile ↦ isSome_foldl_append _ h.ne_nil (h.isSome_content? hfile), h.root_mem,
    h.settled_eq⟩

theorem WellKept.bytesAt_addLine (h : book.WellKept) (record : LogRecord) (place : Place) :
    (book.addLine record).tree.bytesAt place =
      book.tree.bytesAt place ++ (book.copies place [record]).flatMap lineOf := by
  rw [copies, List.flatMap_singleton, List.flatMap_replicate]
  exact bytesAt_foldl_append _ h.ne_nil _ _

/-! ## Requests -/

/-- The root is a folder and cannot be opened. -/
theorem ne_nil_of_openError?_eq_none {tree : FileTree} {target : AbsolutePath}
    (h : openError? tree target = none) : target.place ≠ [] := by
  intro hnil
  unfold openError? at h
  split at h
  · simp at h
  · split at h <;> simp [hnil, FileTree.entry?] at h

/-- Adding a file makes folders, and unless the file is there or cannot be opened, it comes last. -/
theorem addFile_eq (book : LogBook) (path : Text) :
    ∃ tree : FileTree, (∀ place, tree.content? place = book.tree.content? place) ∧
      ((book.addFile path).2 = { book with tree } ∧
          ((book.addFile path).1 = .ok () → book.folder.resolve path ∈ book.files) ∨
        book.folder.resolve path ∉ book.files ∧ (book.folder.resolve path).place ≠ [] ∧
          (book.addFile path).2 = { book with
            tree := tree.append (book.folder.resolve path).place []
            files := book.files ++ [book.folder.resolve path] }) := by
  unfold addFile
  dsimp only
  generalize book.folder.resolve path = target
  by_cases hmem : target ∈ book.files
  · rw [if_pos (List.contains_iff_mem.2 hmem)]
    exact ⟨book.tree, fun _ ↦ rfl, .inl ⟨rfl, fun _ ↦ hmem⟩⟩
  · rw [if_neg (fun hcontains ↦ hmem (List.contains_iff_mem.1 hcontains))]
    have hcontent (place : Place) : (if (FilePath.split path).1.isEmpty then (.ok (), book.tree)
        else book.tree.makeFolders book.folder (FilePath.split path).1).2.content? place =
          book.tree.content? place := by
      split
      · rfl
      · exact FileTree.content?_makeFolders _ _ _ _
    refine ⟨_, hcontent, ?_⟩
    split
    · exact .inl ⟨rfl, nofun⟩
    · exact .inl ⟨rfl, nofun⟩
    · next hopen => exact .inr ⟨hmem, ne_nil_of_openError?_eq_none hopen, rfl⟩

/-- What a request makes of a book: files are kept, and get the records it brings. -/
structure Next (book : LogBook) (records : List LogRecord) (after : LogBook) : Prop where
  wellKept : after.WellKept
  files_prefix : book.files <+: after.files
  bytesAt_eq (place : Place) : after.tree.bytesAt place =
    book.tree.bytesAt place ++ (book.copies place records).flatMap lineOf

theorem WellKept.next_addFile (h : book.WellKept) (path : Text) :
    book.Next [] (book.addFile path).2 := by
  obtain ⟨tree, hcontent, ⟨hbook, -⟩ | ⟨hmem, hne, hbook⟩⟩ := addFile_eq book path
  · rw [hbook]
    refine ⟨⟨h.nodup_files, fun hfile ↦ ?_, h.root_mem, h.settled_eq⟩, List.prefix_rfl, ?_⟩
    · rw [hcontent]
      exact h.isSome_content? hfile
    · intro place
      simp [FileTree.bytesAt, hcontent, copies]
  · rw [hbook]
    refine ⟨⟨?_, fun {file} hfile ↦ ?_, h.root_mem, h.settled_eq⟩, List.prefix_append _ _, ?_⟩
    · refine List.nodup_append.2 ⟨h.nodup_files, by simp, fun file hfile other hother ↦ ?_⟩
      rintro rfl
      exact hmem (List.mem_singleton.1 hother ▸ hfile)
    · rw [FileTree.content?_append hne, hcontent]
      split
      · rfl
      · next hother =>
        rcases List.mem_append.1 hfile with hfile | hfile
        · exact h.isSome_content? hfile
        · exact absurd (congrArg AbsolutePath.place (List.mem_singleton.1 hfile)) hother
    · intro place
      rw [FileTree.bytesAt_append hne]
      simp [FileTree.bytesAt, hcontent, copies]

/-- A set-up brings no records, whether it fails or not. -/
theorem WellKept.next_setUp (h : book.WellKept) (level : Text) (path : Option Text) :
    book.Next [] (book.setUp level path).2 := by
  unfold setUp
  split
  · exact ⟨h, List.prefix_rfl, by simp [copies]⟩
  · next number _ =>
    have hlevel : WellKept { book with level := number, settled := [] } :=
      ⟨h.nodup_files, h.isSome_content?, h.root_mem, fun _ hmem ↦ absurd hmem (by simp)⟩
    split
    · exact ⟨hlevel, List.prefix_rfl, by simp [copies]⟩
    · next path _ =>
      obtain ⟨hwellKept, hprefix, hbytes⟩ := hlevel.next_addFile path
      exact ⟨hwellKept, hprefix, hbytes⟩

/-- A record is added if it is taken, and noted in any case. -/
theorem WellKept.next_receive (h : book.WellKept) (logger : Text) (record : LogRecord) :
    book.Next (book.taken (.record logger record)) (book.receive logger record) := by
  let noted : LogBook := { book with
    loggers := logger :: book.loggers
    settled := ((logger, record.level), book.takes logger record.level) :: book.settled }
  have hnoted : noted.WellKept := by
    refine ⟨h.nodup_files, h.isSome_content?, List.mem_cons_of_mem _ h.root_mem, ?_⟩
    intro other level isTaken hother hmem
    rcases List.mem_cons.1 hmem with heq | hmem
    · simp only [Prod.mk.injEq] at heq
      obtain ⟨⟨rfl, rfl⟩, rfl⟩ := heq
      exact h.takes_eq hother record.level
    · exact h.settled_eq hother hmem
  have hhears : noted.hears logger = book.hears logger :=
    Logger.isWithin_cons_self book.loggers rootName logger
  have hreceive : book.receive logger record =
      if book.takes logger record.level && book.hears logger then noted.addLine record
      else noted := by
    rw [← hhears]
    rfl
  rw [hreceive, taken]
  split
  · exact ⟨hnoted.addLine record, List.prefix_rfl, hnoted.bytesAt_addLine record⟩
  · exact ⟨hnoted, List.prefix_rfl, by simp [noted, copies]⟩

theorem WellKept.next (h : book.WellKept) (request : Request) :
    book.Next (book.taken request) (book.handle request) := by
  cases request with
  | setUp level path => exact h.next_setUp level path
  | record logger record => exact h.next_receive logger record

/-! ## Whole runs -/

theorem wellKept_start (level : Nat) (tree : FileTree) (folder : AbsolutePath) :
    WellKept { start tree folder with level } := by
  refine ⟨List.nodup_nil, fun h ↦ absurd h List.not_mem_nil, ?_, fun _ h ↦ ?_⟩
  · exact List.mem_singleton_self _
  · exact absurd h List.not_mem_nil

theorem WellKept.run (h : book.WellKept) (requests : List Request) :
    (book.run requests).WellKept := by
  induction requests generalizing book with
  | nil => exact h
  | cons request rest ih => exact ih (h.next request).wellKept

/-- Files are never removed. -/
theorem WellKept.files_prefix_run (h : book.WellKept) (requests : List Request) :
    book.files <+: (book.run requests).files := by
  induction requests generalizing book with
  | nil => exact List.prefix_rfl
  | cons request rest ih =>
    have hnext := h.next request
    exact hnext.files_prefix.trans (ih hnext.wellKept)

/-- A file ends with what was received for its place in the run. -/
theorem WellKept.bytesAt_run (h : book.WellKept) (requests : List Request) (place : Place) :
    (book.run requests).tree.bytesAt place =
      book.tree.bytesAt place ++ (book.received place requests).flatMap lineOf := by
  induction requests generalizing book with
  | nil => simp [received]
  | cons request rest ih =>
    have hnext := h.next request
    rw [run_cons, ih hnext.wellKept, hnext.bytesAt_eq, received, List.flatMap_append,
      List.append_assoc]

theorem folder_handle (book : LogBook) (request : Request) :
    (book.handle request).folder = book.folder := by
  have haddFile (book : LogBook) (path : Text) :
      (book.addFile path).2.folder = book.folder := by
    obtain ⟨tree, -, ⟨hbook, -⟩ | ⟨-, -, hbook⟩⟩ := addFile_eq book path <;> rw [hbook]
  cases request with
  | setUp level path =>
    rw [handle, setUp]
    split
    · rfl
    · split
      · rfl
      · exact haddFile _ _
  | record logger record =>
    rw [handle, receive]
    split <;> rfl

theorem folder_run (book : LogBook) (requests : List Request) :
    (book.run requests).folder = book.folder := by
  induction requests generalizing book with
  | nil => rfl
  | cons request rest ih => rw [run_cons, ih, folder_handle]

/-- A path that is set up without an error is that of one of the files. -/
theorem mem_files_setUp {level : Text} {path : Text} (hpath : path ≠ [])
    (h : (book.setUp level (some path)).1 = .ok ()) :
    book.folder.resolve path ∈ (book.setUp level (some path)).2.files := by
  have hfilter : (some path).filter (· ≠ []) = some path := by simp [hpath]
  unfold setUp at h ⊢
  rw [hfilter] at h ⊢
  split at h
  · simp at h
  · next number _ =>
    obtain ⟨tree, -, ⟨hbook, hmem⟩ | ⟨-, -, hbook⟩⟩ :=
      addFile_eq { book with level := number, settled := [] } path
    · rw [hbook]
      exact hmem h
    · rw [hbook]
      simp

/-! ## Lines and files -/

/-- The line of a record that has bytes at all. -/
theorem lineOf_of_message_eq {record : LogRecord} {chars : Chars}
    (h : record.message = .ofChars chars) : lineOf record =
      Utf8.encode (s!"[{record.level.name}] ".toList ++ chars ++ ['\n']) := by
  have hline : Text.ofString s!"[{record.level.name}] " ++ record.message ++ [feed] =
      Text.ofChars (s!"[{record.level.name}] ".toList ++ chars ++ ['\n']) := by
    rw [h]
    simp [Text.ofChars, Text.ofString]
  rw [lineOf, hline, Utf8.encode?, Text.toChars?_ofChars]
  rfl

/-- A message with half of a surrogate pair makes no line. -/
theorem lineOf_eq_nil {record : LogRecord} (h : ∀ chars, record.message ≠ .ofChars chars) :
    lineOf record = [] := by
  have hline : (Text.ofString s!"[{record.level.name}] " ++ record.message ++ [feed]).toChars? =
      none := by
    rw [Option.eq_none_iff_forall_ne_some]
    intro chars hchars
    have hwhole := Text.eq_ofChars_of_toChars? hchars
    obtain ⟨front, _, rfl, hfront, -⟩ := List.map_eq_append_iff.1 hwhole.symm
    obtain ⟨_, message, rfl, -, hmessage⟩ := List.map_eq_append_iff.1 hfront
    exact h message hmessage.symm
  rw [lineOf, Utf8.encode?, hline]
  rfl

/-- The only plain path to a place counts once. -/
theorem filesAt_eq_one {file : AbsolutePath} (hnodup : book.files.Nodup) (h : file ∈ book.files)
    (hplain : ∀ other ∈ book.files, other.place = file.place → other.IsPlain) :
    book.filesAt file.place = 1 := by
  have hsame : ∀ other ∈ book.files,
      decide (other.place = file.place) = true ↔ (other == file) = true := by
    intro other hother
    rw [decide_eq_true_iff, beq_iff_eq]
    constructor
    · exact fun hplace ↦ (hplain other hother hplace).inj (hplain file h rfl) hplace
    · rintro rfl
      rfl
  rw [filesAt, List.countP_congr hsame]
  exact List.count_eq_one_of_mem hnodup h

/-- What becomes of the files in a run. They have different absolute paths and stay, and every
set-up that returns has its file among them. At a place there is what was there before, and for
every record that was taken a line for each file that the book had there at the time, in the order
of the records. One file is there at most, unless one of the paths to it is not plain. -/
structure WritesOnce (first : LogBook) (requests : List Request) : Prop where
  nodup_files : (first.run requests).files.Nodup
  files_prefix (count : Nat) :
    (first.run (requests.take count)).files <+: (first.run requests).files
  mem_files (level : Text) {path : Text} (hpath : path ≠ [])
    (h : ((first.run requests).setUp level (some path)).1 = .ok ()) :
    first.folder.resolve path ∈ ((first.run requests).setUp level (some path)).2.files
  isSome_content? {file : AbsolutePath} (h : file ∈ (first.run requests).files) :
    ((first.run requests).tree.content? file.place).isSome
  bytesAt_eq (place : Place) : (first.run requests).tree.bytesAt place =
    first.tree.bytesAt place ++ (first.received place requests).flatMap lineOf
  filesAt_eq_one {file : AbsolutePath} (h : file ∈ (first.run requests).files)
    (hplain : ∀ other ∈ (first.run requests).files, other.place = file.place → other.IsPlain) :
    (first.run requests).filesAt file.place = 1

/-- A well-kept book writes once in every run. -/
theorem WellKept.writesOnce (h : book.WellKept) (requests : List Request) :
    book.WritesOnce requests where
  nodup_files := (h.run requests).nodup_files
  files_prefix count := by
    have hrun : book.run requests = (book.run (requests.take count)).run (requests.drop count) := by
      rw [← run_append, List.take_append_drop]
    rw [hrun]
    exact (h.run _).files_prefix_run _
  mem_files level path hpath hsetUp := by
    have hmem := mem_files_setUp hpath hsetUp
    rwa [folder_run] at hmem
  isSome_content? := (h.run requests).isSome_content?
  bytesAt_eq := h.bytesAt_run requests
  filesAt_eq_one := LogBook.filesAt_eq_one (h.run requests).nodup_files

/-- A book writes every record once for every file it has at the time, whatever set-ups and records
come in whatever order. At any time its own loggers are heard and take what is at or above its
level, and only names that begin with its own are heard. The line of a record has its level and its
message, and there is none if the message has half of a surrogate pair. -/
theorem run_start_writesOnce (level : Nat) (tree : FileTree) (folder : AbsolutePath)
    (requests : List Request) :
    WritesOnce { start tree folder with level } requests ∧
    (∀ logger, let book := run { start tree folder with level } requests
      (Logger.Continues rootName logger → book.hears logger = true ∧
        ∀ level, book.takes logger level = decide (book.threshold ≤ level.value)) ∧
      (book.hears logger = true →
        logger = rootName ∨ rootName ++ [Logger.dot] <+: logger)) ∧
    ∀ record : LogRecord,
      (∀ chars, record.message = .ofChars chars → lineOf record =
        Utf8.encode (s!"[{record.level.name}] ".toList ++ chars ++ ['\n'])) ∧
      ((∀ chars, record.message ≠ .ofChars chars) → lineOf record = []) := by
  have hfirst := wellKept_start level tree folder
  have hlast := hfirst.run requests
  refine ⟨hfirst.writesOnce requests, fun logger ↦ ⟨fun hlogger ↦ ?_, ?_⟩,
    fun record ↦ ⟨fun _ ↦ lineOf_of_message_eq, lineOf_eq_nil⟩⟩
  · exact ⟨hears_of_continues hlast.root_mem hlogger, hlast.takes_eq hlogger⟩
  · exact Logger.eq_or_prefix_of_isWithin

/-- A folder to work in, and nothing else. -/
def workTree : FileTree :=
  ⟨[([Utf8.encode "work".toList], .folder)]⟩

def workFolder : AbsolutePath :=
  .ofNames [.ofString "work"]

/-- The log file in the folder. -/
def workLog : AbsolutePath :=
  workFolder.child (.ofString "app.log")

/-- One file under two names, a set-up that fails between them, and a logger that is not heard. -/
def twoSpellings : List Request :=
  [.setUp (.ofString "info") (some (.ofString "logs/../app.log")),
    .record (.ofString "notebook_sync.service") ⟨.info, .ofString "one"⟩,
    .record rootName (.debug "two"),
    .setUp (.ofString "_styles") (some (.ofString "other.log")),
    .setUp (.ofString "debug") (some (.ofString "./app.log")),
    .record (.ofString "requests") ⟨.critical, .ofString "three"⟩,
    .record rootName (.debug "four")]

/-- The file is added once under its two names and gets the records of its loggers. -/
theorem run_start_writesOnce_twoSpellings :
    (run (start workTree workFolder) twoSpellings).files = [workLog] ∧
    (run (start workTree workFolder) twoSpellings).filesAt workLog.place = 1 ∧
    (run (start workTree workFolder) twoSpellings).tree.bytesAt workLog.place =
      Utf8.encode "[INFO] one\n[DEBUG] four\n".toList := by
  have hempty : workTree.bytesAt workLog.place = [] := rfl
  have hreceived : (start workTree workFolder).received workLog.place twoSpellings =
      [⟨.info, .ofString "one"⟩, .debug "four"] := by
    decide +kernel
  have hfiles : (run (start workTree workFolder) twoSpellings).files = [workLog] := by
    decide +kernel
  have honce : WritesOnce (start workTree workFolder) twoSpellings :=
    (run_start_writesOnce Level.critical.value workTree workFolder twoSpellings).1
  refine ⟨hfiles, honce.filesAt_eq_one (hfiles ▸ List.mem_singleton_self _) ?_,
    (honce.bytesAt_eq _).trans ?_⟩
  · rintro other hother -
    rw [hfiles] at hother
    obtain rfl := List.mem_singleton.1 hother
    exact ⟨["work".toList, "app.log".toList], rfl⟩
  · change workTree.bytesAt workLog.place ++
      (received workLog.place (start workTree workFolder) twoSpellings).flatMap lineOf = _
    rw [hempty, hreceived]
    decide +kernel

/-- A book whose file is set up again under a path that begins with two slashes. -/
def bookOfTwo : LogBook :=
  run (start workTree workFolder)
    [.setUp (.ofString "info") (some (.ofString "/work/app.log")),
      .setUp (.ofString "info") (some (.ofString "//work/app.log"))]

/-- A book with one file. -/
def bookOfOne : LogBook :=
  run (start workTree workFolder) [.setUp (.ofString "info") (some (.ofString "app.log"))]

/-- A record is written twice to a file that has two absolute paths. One with half of a surrogate
pair in its message is taken and not written, and neither is one of a logger that takes it and has
two dots side by side in its name. -/
theorem receive_writesTwice :
    bookOfTwo.taken (.record rootName ⟨.info, .ofString "one"⟩) = [⟨.info, .ofString "one"⟩] ∧
      bookOfTwo.files.Nodup ∧
      (bookOfTwo.receive rootName ⟨.info, .ofString "one"⟩).tree.bytesAt workLog.place =
        Utf8.encode "[INFO] one\n[INFO] one\n".toList ∧
    bookOfOne.files = [workLog] ∧
      bookOfOne.taken (.record rootName ⟨.info, [.surrogate 0]⟩) =
        [⟨.info, [.surrogate 0]⟩] ∧
      (bookOfOne.receive rootName ⟨.info, [.surrogate 0]⟩).tree.bytesAt workLog.place = [] ∧
      bookOfOne.takes (.ofString "notebook_sync..x") .error = true ∧
      (bookOfOne.receive (.ofString "notebook_sync..x") ⟨.error, .ofString "m"⟩).tree.bytesAt
        workLog.place = [] := by
  refine ⟨?_, ?_, ?_, ?_, ?_, ?_, ?_, ?_⟩ <;> decide +kernel

end LogBook

end CellWeave
