import CellWeave.Proofs.Settings
import CellWeave.Proofs.Sound
import CellWeave.Session.Start
/-!
# One-line delimiters

Settings are refused for their delimiter if its raw text does not end in its only line break, and
for nothing else that is said of the delimiter. Once it is accepted it is good for a whole run:
every notebook has it, it would be accepted again, and no request fails for it.
-/

namespace CellWeave

/-! ## Errors that are about something else -/

/-- If the result is an error, it is not about a delimiter. -/
def SparesDelimiter {α : Type} (result : Except SyncError α) : Prop :=
  ∀ error, result = .error error → error.kind ≠ .invalidDelimiter

namespace SparesDelimiter

variable {α β : Type}

theorem ok (value : α) : SparesDelimiter (.ok value) :=
  nofun

theorem error {error : SyncError} (h : error.kind ≠ .invalidDelimiter) :
    SparesDelimiter (.error error : Except SyncError α) := by
  rintro _ ⟨⟩
  exact h

/-- Two results that are not about a delimiter are put together to one. -/
theorem bind {result : Except SyncError α} {next : α → Except SyncError β}
    (h : SparesDelimiter result) (hnext : ∀ value, SparesDelimiter (next value)) :
    SparesDelimiter (result >>= next) := by
  cases result with
  | ok value => exact hnext value
  | error error =>
    rintro _ ⟨⟩
    exact h error rfl

theorem map {result : Except SyncError α} (h : SparesDelimiter result) (f : α → β) :
    SparesDelimiter (result.map f) := by
  cases result with
  | ok value => exact ok (f value)
  | error error =>
    rintro _ ⟨⟩
    exact h error rfl

theorem edit (error : EditError) :
    SparesDelimiter (.error (.edit error) : Except SyncError α) := by
  apply SparesDelimiter.error
  cases error <;> exact nofun

theorem mapping (error : MappingError) :
    SparesDelimiter (.error (.mapping error) : Except SyncError α) := by
  apply SparesDelimiter.error
  cases error <;> exact nofun

end SparesDelimiter

namespace Notebook

theorem sparesDelimiter_replaceCells (notebook : Notebook) (cells : List Cell) :
    SparesDelimiter (notebook.replaceCells cells) := by
  refine .bind (fun error herror ↦ ?_) fun _ ↦ .ok _
  obtain ⟨_, -, rfl⟩ := CellTable.of_error herror
  rintro ⟨⟩

/-- Insertions fail for a uri or a position. -/
theorem sparesDelimiter_insertAll (cells : List Cell) (opened : List (Int × Cell)) :
    SparesDelimiter (insertAll cells opened) := by
  fun_induction insertAll cells opened with
  | case1 => exact .ok _
  | case2 => exact .error nofun
  | case3 => exact .error nofun
  | case4 _ _ _ _ _ _ ih => exact ih

theorem sparesDelimiter_changeStructure (notebook : Notebook) (opened : List (Int × Cell))
    (closed : List String) : SparesDelimiter (notebook.changeStructure opened closed) := by
  rw [changeStructure]
  cases closed.find? fun uri ↦ !notebook.has uri with
  | some unknown =>
    have hkind : (SyncError.closingUnknownCell unknown).kind ≠ .invalidDelimiter := by
      rintro ⟨⟩
    exact .error hkind
  | none =>
    exact .bind (sparesDelimiter_insertAll _ _) fun _ ↦
      .bind (sparesDelimiter_replaceCells _ _) fun _ ↦ .ok _

theorem sparesDelimiter_changeContent (notebook : Notebook) (cell : String) (edits : List Edit)
    (version : Option Int) : SparesDelimiter (notebook.changeContent cell edits version) := by
  unfold changeContent
  split
  · split
    · exact .edit _
    · exact .ok _
  · exact .error nofun

namespace Desk

theorem sparesDelimiter_write (desk : Desk) {change : Except SyncError (Traced (Reply × Notebook))}
    (h : SparesDelimiter change) : SparesDelimiter (desk.write change).reply := by
  cases change with
  | ok done => exact .ok _
  | error error =>
    rintro _ ⟨⟩
    exact h error rfl

theorem sparesDelimiter_consult (desk : Desk) (held : Bool)
    {answer : DocumentIndex → Except SyncError Reply}
    (h : ∀ index, SparesDelimiter (answer index)) :
    SparesDelimiter (desk.consult held answer).reply := by
  unfold consult
  split
  · exact h _
  · exact h _

/-- No request to a notebook fails for its delimiter. -/
theorem sparesDelimiter_handle (desk : Desk) (request : Request) :
    SparesDelimiter (desk.handle request).reply := by
  cases request with
  | replaceCells cells =>
    exact desk.sparesDelimiter_write
      (.bind (sparesDelimiter_replaceCells _ _) fun _ ↦ .ok _)
  | changeStructure opened closed =>
    exact desk.sparesDelimiter_write
      (.bind (sparesDelimiter_changeStructure _ _ _) fun _ ↦ .ok _)
  | changeContent cell edits version =>
    exact desk.sparesDelimiter_write
      (.bind (sparesDelimiter_changeContent _ _ _ _) fun _ ↦ .ok _)
  | text | document | cell | uris | describe | owner | hold => exact .ok _
  | lines | documentLine => exact desk.sparesDelimiter_consult _ fun _ ↦ .ok _
  | mapSpan | mapEdits =>
    refine desk.sparesDelimiter_consult _ fun _ ↦ ?_
    split
    · exact .ok _
    · exact .mapping _

end Desk

end Notebook

namespace Workspace

theorem sparesDelimiter_fetch (workspace : Workspace) (uri : String) :
    SparesDelimiter (workspace.fetch uri) := by
  unfold fetch
  split
  · exact .ok _
  · exact .error nofun

end Workspace

namespace Session

variable (session : Session)

theorem sparesDelimiter_openNotebook (uri : String) (cells : List Cell) :
    SparesDelimiter (session.openNotebook uri cells) :=
  .bind (.bind (Notebook.sparesDelimiter_replaceCells _ _) fun _ ↦ .ok _) fun _ ↦ .ok _

theorem sparesDelimiter_changeStructure (uri : String) (opened : List (Int × Cell))
    (closed : List String) : SparesDelimiter (session.changeStructure uri opened closed) :=
  .bind (Workspace.sparesDelimiter_fetch _ uri) fun _ ↦
    .bind (Notebook.sparesDelimiter_changeStructure _ _ _) fun _ ↦ .ok _

theorem sparesDelimiter_changeContent (uri cell : String) (edits : List Edit)
    (version : Option Int) : SparesDelimiter (session.changeContent uri cell edits version) :=
  .bind (Workspace.sparesDelimiter_fetch _ uri) fun _ ↦
    .bind (Notebook.sparesDelimiter_changeContent _ _ _ _) fun _ ↦ .ok _

theorem sparesDelimiter_projectFix (uri : String) (fix : Fix) :
    SparesDelimiter (session.projectFix uri fix) :=
  .bind (Workspace.sparesDelimiter_fetch _ uri) fun _ ↦ .ok _

end Session

namespace Session.Desk

theorem sparesDelimiter_attempt {α : Type} (desk : Desk) (reply : α → Reply)
    {result : Except SyncError (Witnessed (α × Session))} (h : SparesDelimiter result) :
    SparesDelimiter (desk.attempt reply result).reply := by
  cases result with
  | ok done => exact .ok _
  | error error =>
    rintro _ ⟨⟩
    exact h error rfl

theorem sparesDelimiter_applyGroups (uri : String) (changed : List Cell) (groups : List EditGroup)
    (desk : Desk) : SparesDelimiter (desk.applyGroups uri changed groups).reply := by
  induction groups generalizing desk changed with
  | nil => exact .ok _
  | cons group rest ih =>
    rw [applyGroups]
    split
    · next error herror =>
      exact .error (desk.session.sparesDelimiter_changeContent _ _ _ _ error herror)
    · exact ih _ _

theorem sparesDelimiter_applyFix (uri : String) (fix : Fix) (desk : Desk) :
    SparesDelimiter (desk.applyFix uri fix).reply := by
  unfold applyFix
  split
  · next error herror => exact .error (desk.session.sparesDelimiter_projectFix _ _ error herror)
  · exact .ok _
  · exact sparesDelimiter_applyGroups _ _ _ _

theorem sparesDelimiter_within (uri : String) (request : Notebook.Request) (desk : Desk) :
    SparesDelimiter (desk.within uri request).reply := by
  unfold within
  split
  · next error herror => exact .error (Workspace.sparesDelimiter_fetch _ _ error herror)
  · exact .map (Notebook.Desk.sparesDelimiter_handle _ request) _

/-- No call fails for a delimiter. -/
theorem sparesDelimiter_call (desk : Desk) (call : Call) :
    SparesDelimiter (desk.call call).reply := by
  cases call with
  | openNotebook => exact desk.sparesDelimiter_attempt _ (sparesDelimiter_openNotebook _ _ _)
  | changeStructure =>
    exact desk.sparesDelimiter_attempt _ (sparesDelimiter_changeStructure _ _ _ _)
  | changeContent => exact desk.sparesDelimiter_attempt _ (sparesDelimiter_changeContent _ _ _ _ _)
  | document | clear =>
    exact desk.sparesDelimiter_attempt _
      (.bind (Workspace.sparesDelimiter_fetch _ _) fun _ ↦ .ok _)
  | projectFix => exact desk.sparesDelimiter_attempt _ (sparesDelimiter_projectFix _ _ _)
  | applyFix uri fix => exact sparesDelimiter_applyFix uri fix desk
  | closeNotebook | owner | knowsCell | notebookOfCell => exact .ok _
  | within uri request => exact sparesDelimiter_within uri request desk

end Session.Desk

/-- No request to a session fails for a delimiter. -/
theorem Session.sparesDelimiter_handle (request : Request) (desk : Desk) :
    SparesDelimiter (request.handle desk).reply := by
  cases request with
  | call call => exact Desk.sparesDelimiter_call desk call
  | project uri findings analyzed =>
    obtain ⟨_, _, hhandle⟩ := handle_project desk uri findings analyzed
    rw [hhandle]
    exact .ok _

/-! ## One delimiter for a whole run -/

theorem Workspace.delimiter_closeNotebook (workspace : Workspace) (uri : String) :
    (workspace.closeNotebook uri).value.2.delimiter = workspace.delimiter := by
  unfold closeNotebook
  split <;> rfl

theorem Notebook.Next.delimiter_eq {notebook changed : Notebook} (h : notebook.Next changed) :
    changed.delimiter = notebook.delimiter := by
  cases h <;> rfl

namespace Session

/-- The delimiter is that of the session and of every open notebook. -/
structure HasDelimiter (session : Session) (delimiter : Delimiter) : Prop where
  workspace : session.workspace.delimiter = delimiter
  notebooks {uri : String} {notebook : Notebook}
    (h : session.workspace.get? uri = some notebook) : notebook.delimiter = delimiter

theorem hasDelimiter_start (language : Text) (delimiter : Delimiter) (publishes : Bool) :
    (start language delimiter publishes).HasDelimiter delimiter :=
  ⟨rfl, fun h ↦ by simp [start, Workspace.empty, Workspace.get?] at h⟩

variable {session after : Session} {delimiter : Delimiter}

/-- A changed notebook has the delimiter it had. -/
theorem HasDelimiter.put {uri : String} {notebook changed : Notebook}
    (h : session.HasDelimiter delimiter) (hopen : session.workspace.get? uri = some notebook)
    (hnext : notebook.Next changed) : (session.put changed).HasDelimiter delimiter := by
  refine ⟨h.workspace, fun {other found} hfound ↦ ?_⟩
  rw [Session.put, Workspace.get?_put] at hfound
  split at hfound
  · obtain rfl := Option.some.inj hfound
    rw [hnext.delimiter_eq, h.notebooks hopen]
  · exact h.notebooks hfound

/-- A notebook that is opened gets the delimiter of the session. -/
theorem HasDelimiter.step {origin : Session} {call : Call} {sent : CellDiagnostics}
    (h : session.HasDelimiter delimiter) (hstep : Step origin call session sent after) :
    after.HasDelimiter delimiter := by
  cases hstep with
  | put hopen hnext => exact h.put hopen hnext
  | close hopen _ =>
    refine ⟨?_, fun {other found} hfound ↦ ?_⟩
    · rw [Workspace.delimiter_closeNotebook]
      exact h.workspace
    · rw [Workspace.get?_closeNotebook hopen] at hfound
      split at hfound
      · exact absurd hfound nofun
      · exact h.notebooks hfound
  | forget | clear => exact ⟨h.workspace, h.notebooks⟩
  | openNotebook hopened =>
    obtain ⟨_, -, hnotebook, hworkspace⟩ := Workspace.openNotebook_eq_ok hopened
    refine ⟨by rw [hworkspace]; exact h.workspace, fun {other found} hfound ↦ ?_⟩
    rw [Workspace.get?_openNotebook hopened] at hfound
    split at hfound
    · obtain rfl := Option.some.inj hfound
      rw [hnotebook, h.workspace]
    · exact h.notebooks hfound

theorem HasDelimiter.trace {origin : Session} {call : Call} {sent : CellDiagnostics}
    (h : session.HasDelimiter delimiter) (htrace : Trace origin call session sent after) :
    after.HasDelimiter delimiter := by
  induction htrace with
  | refl => exact h
  | step hstep _ ih => exact ih (h.step hstep)

/-- Requests at any depth keep the delimiter. -/
theorem keeps_hasDelimiter (delimiter : Delimiter) :
    Course.Keeps (fun _ ↦ True) fun course ↦ course.desk.session.HasDelimiter delimiter where
  call course call _ h := h.trace (Desk.trace_call course.desk call)
  pass_over _ _ _ _ _ h := h
  begin _ _ _ _ _ _ hbegin _ h := by
    obtain ⟨notebook, hopen, -, -, -, rfl⟩ := Desk.begin_eq_some hbegin
    exact h.put hopen (Notebook.next_readIndex notebook)
  land _ _ _ _ _ _ _ _ _ hread := ⟨hread.workspace, hread.notebooks⟩

/-- The delimiter of a session is that of every notebook that a request finds. -/
theorem hasDelimiter_of_made {language : Text} {publishes : Bool} {requests : List Request}
    {item : Request × Desk}
    (h : item ∈ Desk.made ⟨start language delimiter publishes, []⟩ requests) :
    item.2.session.HasDelimiter delimiter :=
  Course.Keeps.found_of_run (fun desk ↦ desk.session.HasDelimiter delimiter)
    (keeps_hasDelimiter delimiter) (fun _ _ ↦ trivial)
    (hasDelimiter_start language delimiter publishes) item h

end Session

namespace Settings

/-- The settings are refused for their delimiter. -/
def RefusesDelimiter (room : Nat) (environment : Environment) (data : Value) : Prop :=
  ∃ error, ofSources room environment data = .error (.delimiter error) ∧
    error.kind = .invalidDelimiter

/-- Settings are refused for their delimiter if and only if its raw text does not end in its only
line break. Otherwise the delimiter is the raw text with a feed for the break, whatever the other
settings are, unless one of them cannot be written; and in no run does a request fail for the
delimiter, which every notebook has and which would be accepted again. -/
theorem ofSources_delimiter {room : Nat} {environment : Environment} {data : Value} {raw : Text}
    (hraw : RawDelimiter room environment data raw) :
    (RefusesDelimiter room environment data ↔ ¬∃ body, raw.EndsOnce body) ∧
      ∀ body, raw.EndsOnce body →
        (¬OthersWritable room environment data ∧
          ∃ fault, ofSources room environment data = .error (.unwritable fault)) ∨
        OthersWritable room environment data ∧
          ∃ settings, ofSources room environment data = .ok settings ∧
            settings.delimiter.text = body ++ [feed] ∧
            Delimiter.parse settings.delimiter.text = .ok settings.delimiter ∧
            ∀ publishes requests,
              ∀ item ∈ Session.Desk.made ⟨.ofSettings settings publishes, []⟩ requests,
                item.2.session.HasDelimiter settings.delimiter ∧
                  SparesDelimiter (item.1.handle item.2).reply := by
  rcases ofSources_spec hraw with hmisfit | hends
  · obtain ⟨hends, hrefused⟩ := hmisfit
    refine ⟨iff_of_true ⟨_, hrefused, rfl⟩ hends, ?_⟩
    exact fun body hbody ↦ absurd ⟨body, hbody⟩ hends
  · obtain ⟨body, hbody, hunwritten | hsettled⟩ := hends
    · obtain ⟨hothers, fault, hfault⟩ := hunwritten
      have haccepted : ¬RefusesDelimiter room environment data := by
        rintro ⟨error, hrefused, -⟩
        exact absurd (hfault.symm.trans hrefused) nofun
      exact ⟨iff_of_false haccepted (not_not_intro ⟨body, hbody⟩),
        fun _ _ ↦ .inl ⟨hothers, fault, hfault⟩⟩
    · obtain ⟨hothers, settings, hsettings, hline⟩ := hsettled
      have haccepted : ¬RefusesDelimiter room environment data := by
        rintro ⟨error, hrefused, -⟩
        exact absurd (hsettings.symm.trans hrefused) nofun
      refine ⟨iff_of_false haccepted (not_not_intro ⟨body, hbody⟩), fun other hother ↦ .inr ?_⟩
      obtain ⟨rfl, -⟩ := (hother body []).1 ((hbody body []).2 ⟨rfl, rfl⟩)
      refine ⟨hothers, settings, hsettings, ?_, settings.delimiter.parse_text, ?_⟩
      · rw [Delimiter.text, hline]
      · exact fun publishes requests item hitem ↦
          ⟨Session.hasDelimiter_of_made hitem, Session.sparesDelimiter_handle item.1 item.2⟩

/-- A delimiter with half of a surrogate pair in it, and with its feed written out. -/
def escapedEnvironment : Environment :=
  [("NOTEBOOK_SYNC_CELL_DELIMITER", .surrogate 0 :: Text.ofString "#CELL\\n")]

/-- The half of a surrogate pair is kept, and the feed that is written out becomes one. -/
theorem ofSources_delimiter_escaped :
    RawDelimiter 0 escapedEnvironment .null (.surrogate 0 :: Text.ofString "#CELL\\n") ∧
      ¬RefusesDelimiter 0 escapedEnvironment .null ∧
      ∃ settings, ofSources 0 escapedEnvironment .null = .ok settings ∧
        settings.delimiter.text = .surrogate 0 :: Text.ofString "#CELL\n" := by
  have hraw : RawDelimiter 0 escapedEnvironment .null (.surrogate 0 :: Text.ofString "#CELL\\n") :=
    ⟨_, .set rfl, rfl⟩
  have hends : Text.EndsOnce (.surrogate 0 :: Text.ofString "#CELL\\n")
      (.surrogate 0 :: Text.ofString "#CELL") :=
    endsOnce_of_unescapeFeeds (by decide) (by decide)
  have hothers : OthersWritable 0 escapedEnvironment .null := by
    rintro setting - ⟨-, value, hvalue, -⟩
    exact absurd hvalue nofun
  obtain ⟨hrefused, hsettled⟩ := ofSources_delimiter hraw
  refine ⟨hraw, fun h ↦ hrefused.1 h ⟨_, hends⟩, ?_⟩
  rcases hsettled _ hends with ⟨hnot, -⟩ | ⟨-, settings, hsettings, htext, -⟩
  · exact absurd hothers hnot
  · exact ⟨settings, hsettings, htext⟩

/-- Data that have a language and nothing else. -/
def languageOnly (value : Value) : Value :=
  .map [(.text (.ofString "language"), value)]

/-- A language that cannot be written out stops the settings, though the delimiter is accepted. -/
theorem ofSources_languageOnly {room : Nat} {value : Value} {fault : WriteFault}
    (hnull : value ≠ .null) (h : value.writeFault? room = some fault) :
    ∃ raw body, RawDelimiter room [] (languageOnly value) raw ∧ raw.EndsOnce body ∧
      ofSources room [] (languageOnly value) = .error (.unwritable fault) := by
  have hnone : (languageOnly value).get? Setting.delimiter.key = none := rfl
  have hvalue : (languageOnly value).get? Setting.language.key = some value := rfl
  have hraw : RawDelimiter room [] (languageOnly value) Delimiter.default.text :=
    ⟨none, .nothing rfl fun found hfound ↦ absurd (hnone.symm.trans hfound) nofun, rfl⟩
  refine ⟨_, _, hraw, endsOnce_of_parse parse_default, ?_⟩
  have hgiven : Setting.language.given? room [] (languageOnly value) =
      .error (.unwritable fault) := by
    rw [Setting.given?_of_value rfl hvalue hnull, h]
  rw [ofSources_of_rawDelimiter hraw, parse_default]
  change withDelimiter room [] (languageOnly value) .default = _
  rw [withDelimiter, hgiven]
  rfl

/-- A language that is an integer with one digit too many to be written, and one that is a list with
too many levels. -/
theorem ofSources_hugeLanguage :
    (∃ n : Nat, n = Nat.pow 10 Decimal.mostDigits ∧ ∀ room,
      ∃ raw body, RawDelimiter (room + 1) [] (languageOnly (.int n)) raw ∧ raw.EndsOnce body ∧
        ofSources (room + 1) [] (languageOnly (.int n)) = .error (.unwritable .hugeInteger)) ∧
    ∃ raw body, RawDelimiter 2 [] (languageOnly (.list [.list [.list []]])) raw ∧
      raw.EndsOnce body ∧ ofSources 2 [] (languageOnly (.list [.list [.list []]])) =
        .error (.unwritable .tooDeep) := by
  refine ⟨⟨_, rfl, fun room ↦ ofSources_languageOnly nofun ?_⟩, ofSources_languageOnly nofun rfl⟩
  have hunwritable : Decimal.isWritable (Nat.pow 10 Decimal.mostDigits : Nat) = false := by
    rw [Decimal.isWritable, Int.natAbs_natCast]
    exact decide_eq_false (Nat.lt_irrefl _)
  rw [Value.writeFault?, Value.nestedFault?, hunwritable]
  rfl
  all_goals nofun

end Settings

end CellWeave
