import CellWeave.Proofs.KeptIndex
import CellWeave.Proofs.Stale
import Mathlib.Data.List.Pairwise
/-!
# The history of a workspace

What a call does to a workspace raises the version of at most one uri, by one, and leaves what is
open under the others as it is, or closed. So as long as the last version under a uri stays the
same, what is open there is what was open before.
-/

namespace CellWeave.Workspace

/-! ## One call -/

/-- What a call does to a workspace, with the uri under which it opened or changed a notebook. -/
inductive Turn (before : Workspace) : Option String → Workspace → Prop where
  | stay : Turn before none before
  | index {uri : String} {notebook : Notebook} {kept : Option DocumentIndex}
    (hopen : before.get? uri = some notebook)
    (hkept : kept = notebook.kept ∨ kept = some notebook.index) :
    Turn before none (before.put { notebook with kept })
  | change {uri : String} {notebook : Notebook} (hopen : before.get? uri = some notebook)
    (table : CellTable) : Turn before (some uri) (before.put (notebook.withTable table))
  | close {uri : String} {notebook : Notebook} (hopen : before.get? uri = some notebook) :
    Turn before none (before.closeNotebook uri).value.2
  | openNotebook {uri : String} {cells : List Cell} {opened : Traced (Notebook × Workspace)}
    (hopened : before.openNotebook uri cells = .ok opened) :
    Turn before (some uri) opened.value.2

/-- Notebooks are kept under their own uris, and none takes an earlier index for its current one. -/
structure Filed (workspace : Workspace) : Prop where
  uri_eq {uri : String} {notebook : Notebook} (h : workspace.get? uri = some notebook) :
    notebook.uri = uri
  keepsIndex {uri : String} {notebook : Notebook} (h : workspace.get? uri = some notebook) :
    notebook.KeepsIndex

/-- What is open under a uri, the index it keeps left out. -/
def content (workspace : Workspace) (uri : String) : Option Notebook :=
  (workspace.get? uri).map Notebook.withoutIndex

variable {before after : Workspace} {changed : Option String} {uri : String} {notebook : Notebook}

theorem filed_empty (delimiter : Delimiter) : (empty delimiter).Filed := by
  constructor <;> simp [empty, get?]

/-- A changed notebook stays under its own uri. -/
theorem Filed.put {other : Notebook} (h : before.Filed) (hopen : before.get? uri = some notebook)
    (hnext : notebook.Next other) : (before.put other).Filed := by
  constructor <;> intro under found hfound <;> rw [get?_put] at hfound <;> split at hfound
  · next heq =>
    obtain rfl := Option.some.inj hfound
    exact heq.symm
  · exact h.uri_eq hfound
  · obtain rfl := Option.some.inj hfound
    exact (h.keepsIndex hopen).next hnext
  · exact h.keepsIndex hfound

/-- Turns keep notebooks filed under their own uris. -/
theorem Filed.turn (h : before.Filed) (hturn : before.Turn changed after) : after.Filed := by
  cases hturn with
  | stay => exact h
  | index hopen hkept => exact h.put hopen (.index _ hkept)
  | change hopen table => exact h.put hopen (.change table)
  | close hopen =>
    have hget := get?_closeNotebook hopen
    constructor <;> intro other found hfound <;> rw [hget] at hfound <;> split at hfound
    · simp at hfound
    · exact h.uri_eq hfound
    · simp at hfound
    · exact h.keepsIndex hfound
  | openNotebook hopened =>
    have hget := get?_openNotebook hopened
    obtain ⟨_, -, hnotebook, -⟩ := openNotebook_eq_ok hopened
    constructor <;> intro other found hfound <;> rw [hget] at hfound <;> split at hfound
    · next heq =>
      obtain rfl := Option.some.inj hfound
      rw [hnotebook, heq]
    · exact h.uri_eq hfound
    · obtain rfl := Option.some.inj hfound
      rw [hnotebook]
      exact nofun
    · exact h.keepsIndex hfound

theorem Filed.get?_put (h : before.Filed) {other : Notebook}
    (hopen : before.get? uri = some notebook) (hnext : notebook.Next other) (under : String) :
    (before.put other).get? under = if under = uri then some other else before.get? under := by
  rw [Workspace.get?_put, hnext.uri_eq, h.uri_eq hopen]

/-- The last version under a uri is that of the notebook put there. -/
theorem Filed.lastVersion_put (h : before.Filed) {other : Notebook}
    (hopen : before.get? uri = some notebook) (hnext : notebook.Next other) (under : String) :
    (before.put other).lastVersion under =
      if under = uri then other.version else before.lastVersion under := by
  have hget := h.get?_put hopen hnext under
  split
  · next heq =>
    rw [if_pos heq] at hget
    exact lastVersion_of_open hget
  · next hne =>
    rw [if_neg hne] at hget
    exact lastVersion_congr hget rfl

/-- A notebook that is opened raises the last version by one. -/
theorem lastVersion_openNotebook {cells : List Cell} {opened : Traced (Notebook × Workspace)}
    (hopened : before.openNotebook uri cells = .ok opened) (under : String) :
    opened.value.2.lastVersion under =
      if under = uri then before.lastVersion uri + 1 else before.lastVersion under := by
  have hget := get?_openNotebook hopened under
  obtain ⟨_, -, hnotebook, hworkspace⟩ := openNotebook_eq_ok hopened
  split
  · next heq =>
    rw [if_pos heq] at hget
    rw [lastVersion_of_open hget, hnotebook]
  · next hne =>
    rw [if_neg hne] at hget
    apply lastVersion_congr hget
    rw [hworkspace]
    exact (Table.get?_erase before.versionsAtClose uri under).trans (if_neg hne)

/-- A call raises the last version under the uri that it opens or changes a notebook under, by
one. -/
theorem Filed.lastVersion_turn (h : before.Filed) (hturn : before.Turn changed after)
    (uri : String) :
    after.lastVersion uri = before.lastVersion uri + if changed = some uri then 1 else 0 := by
  cases hturn with
  | stay => simp
  | @index under notebook kept hopen hkept =>
    rw [h.lastVersion_put hopen (.index kept hkept)]
    split
    · next heq => simp [heq, lastVersion_of_open hopen]
    · simp
  | @change under notebook hopen table =>
    rw [h.lastVersion_put hopen (.change table)]
    split
    · next heq => simp [heq, lastVersion_of_open hopen, Notebook.withTable]
    · next hne => simp [Ne.symm hne]
  | close hopen => simp [lastVersion_closeNotebook hopen]
  | openNotebook hopened =>
    rw [lastVersion_openNotebook hopened]
    split
    · next heq => simp [heq]
    · next hne => simp [Ne.symm hne]

/-- What a call does not open or change is closed after it or is as it was. -/
theorem Filed.content_turn (h : before.Filed) (hturn : before.Turn changed after)
    (hchanged : changed ≠ some uri) :
    after.get? uri = none ∨ after.content uri = before.content uri := by
  cases hturn with
  | stay => exact .inr rfl
  | @index under notebook kept hopen hkept =>
    right
    rw [content, content, h.get?_put hopen (.index kept hkept)]
    split
    · next heq =>
      rw [heq, hopen]
      rfl
    · rfl
  | @change under notebook hopen table =>
    right
    rw [content, content, h.get?_put hopen (.change table), if_neg]
    exact fun heq ↦ hchanged (congrArg some heq.symm)
  | close hopen =>
    rw [content, content, get?_closeNotebook hopen]
    split
    · exact .inl rfl
    · exact .inr rfl
  | openNotebook hopened =>
    right
    rw [content, content, get?_openNotebook hopened, if_neg]
    exact fun heq ↦ hchanged (congrArg some heq.symm)

theorem Filed.isOpen_turn (h : before.Filed) (hturn : before.Turn (some uri) after) :
    ∃ notebook, after.get? uri = some notebook := by
  cases hturn with
  | change hopen table =>
    rw [h.get?_put hopen (.change table), if_pos rfl]
    exact ⟨_, rfl⟩
  | openNotebook hopened =>
    rw [get?_openNotebook hopened, if_pos rfl]
    exact ⟨_, rfl⟩

/-! ## Many calls -/

/-- The last version under a uri went up, or what is open there is what was open before. -/
inductive Later (uri : String) (before after : Workspace) : Prop where
  | raised (hlast : before.lastVersion uri < after.lastVersion uri)
  | same (hlast : after.lastVersion uri = before.lastVersion uri)
    (hcontent : after.get? uri = none ∨ after.content uri = before.content uri)

theorem Later.refl (uri : String) (workspace : Workspace) : Later uri workspace workspace :=
  .same rfl (.inr rfl)

theorem Later.trans {middle : Workspace} (h : Later uri before middle)
    (hafter : Later uri middle after) : Later uri before after := by
  cases h with
  | raised hlast =>
    cases hafter with
    | raised hlast' => exact .raised (Int.lt_trans hlast hlast')
    | same hlast' _ => exact .raised (hlast' ▸ hlast)
  | same hlast hcontent =>
    cases hafter with
    | raised hlast' => exact .raised (hlast ▸ hlast')
    | same hlast' hcontent' =>
      refine .same (hlast'.trans hlast) ?_
      rcases hcontent' with hclosed | hsame
      · exact .inl hclosed
      · rcases hcontent with hclosed | hsame'
        · rw [content, content, hclosed] at hsame
          exact .inl (Option.map_eq_none_iff.1 hsame)
        · exact .inr (hsame.trans hsame')

theorem Filed.later_turn (h : before.Filed) (hturn : before.Turn changed after) (uri : String) :
    Later uri before after := by
  have hlast := h.lastVersion_turn hturn uri
  by_cases hchanged : changed = some uri
  · rw [if_pos hchanged] at hlast
    exact .raised (hlast ▸ Int.lt_succ _)
  · rw [if_neg hchanged, Int.add_zero] at hlast
    exact .same hlast (h.content_turn hturn hchanged)

/-- Of two states under a uri the later has no lower version. -/
theorem Later.version_le {notebook' : Notebook} (h : Later uri before after)
    (hopen : before.get? uri = some notebook) (hopen' : after.get? uri = some notebook') :
    notebook.version ≤ notebook'.version := by
  rw [← lastVersion_of_open hopen, ← lastVersion_of_open hopen']
  cases h with
  | raised hlast => exact Int.le_of_lt hlast
  | same hlast _ => exact Int.le_of_eq hlast.symm

/-- Notebooks that have the same version under a uri differ in their kept index at most. -/
theorem Later.withoutIndex_eq {notebook' : Notebook} (h : Later uri before after)
    (hopen : before.get? uri = some notebook) (hopen' : after.get? uri = some notebook')
    (hversion : notebook.version = notebook'.version) :
    notebook.withoutIndex = notebook'.withoutIndex := by
  cases h with
  | raised hlast =>
    rw [lastVersion_of_open hopen, lastVersion_of_open hopen', hversion] at hlast
    exact absurd hlast (Int.lt_irrefl _)
  | same _ hcontent =>
    rcases hcontent with hclosed | hsame
    · simp [hopen'] at hclosed
    · rw [content, content, hopen, hopen'] at hsame
      exact (Option.some.inj hsame).symm

/-! ## Histories -/

/-- A stage of a history: the workspace before and after one call, the uri under which a notebook
was opened or changed, and the document that was given for a uri. -/
structure Stage where
  found : Workspace
  after : Workspace
  changed : Option String
  document : Option (String × Document)

/-- The last version that was open under a uri. -/
def reached (stages : List Stage) (uri : String) : Int :=
  stages.foldl (fun last stage ↦ (stage.after.get? uri).elim last (·.version)) 0

structure Stage.Occurs (stage : Stage) : Prop where
  turn : stage.found.Turn stage.changed stage.after
  document {uri : String} {document : Document} (h : stage.document = some (uri, document)) :
    ∃ notebook language, stage.found.get? uri = some notebook ∧
      document = notebook.documentOf language notebook.readIndex.value.1

/-- Stages that follow each other, from one workspace to another. -/
inductive History : Workspace → List Stage → Workspace → Prop where
  | nil (workspace : Workspace) : History workspace [] workspace
  | cons {stage : Stage} {rest : List Stage} {last : Workspace} (hoccurs : stage.Occurs)
    (hrest : History stage.after rest last) : History stage.found (stage :: rest) last

variable {first middle last : Workspace} {stages rest : List Stage} {stage : Stage}

/-- A stage is a history by itself. -/
theorem Stage.Occurs.history (h : stage.Occurs) :
    History stage.found [stage] stage.after :=
  .cons h (.nil _)

theorem History.append (h : History first stages middle) (hrest : History middle rest last) :
    History first (stages ++ rest) last := by
  induction h with
  | nil => exact hrest
  | cons hoccurs _ ih => exact .cons hoccurs (ih hrest)

/-- A history is split at any of its stages. -/
theorem History.split (h : History first (stages ++ stage :: rest) last) :
    History first stages stage.found ∧ stage.Occurs ∧ History stage.after rest last := by
  induction stages generalizing first with
  | nil =>
    cases h with
    | cons hoccurs hrest => exact ⟨.nil _, hoccurs, hrest⟩
  | cons earlier between ih =>
    cases h with
    | cons hoccurs hbetween =>
      obtain ⟨hbefore, hstage, hrest⟩ := ih hbetween
      exact ⟨.cons hoccurs hbefore, hstage, hrest⟩

theorem History.filed (h : History first stages last) (hfirst : first.Filed) : last.Filed := by
  induction h with
  | nil => exact hfirst
  | cons hoccurs _ ih => exact ih (hfirst.turn hoccurs.turn)

/-- Along a history no version goes back. -/
theorem History.later (h : History first stages last) (hfirst : first.Filed) (uri : String) :
    Later uri first last := by
  induction h with
  | nil => exact .refl uri _
  | cons hoccurs _ ih =>
    exact (hfirst.later_turn hoccurs.turn uri).trans (ih (hfirst.turn hoccurs.turn))

theorem History.of_mem (h : History first stages last) (hfirst : first.Filed)
    (hmem : stage ∈ stages) : stage.found.Filed ∧ stage.Occurs := by
  obtain ⟨earlier, later, rfl⟩ := List.append_of_mem hmem
  obtain ⟨hbefore, hoccurs, -⟩ := h.split
  exact ⟨hbefore.filed hfirst, hoccurs⟩

/-- Any two stages of a history are in the order of their states. -/
theorem History.pairwise (h : History first stages last) (hfirst : first.Filed) :
    stages.Pairwise fun stage stage' ↦ ∀ uri,
      Later uri stage.found stage'.found ∧ Later uri stage.after stage'.after := by
  induction h with
  | nil => exact .nil
  | @cons stage rest last hoccurs hrest ih =>
    have hafter := hfirst.turn hoccurs.turn
    refine .cons (fun stage' hmem uri ↦ ?_) (ih hafter)
    obtain ⟨between, later, rfl⟩ := List.append_of_mem hmem
    obtain ⟨hbetween, hoccurs', -⟩ := hrest.split
    have hturn := hfirst.later_turn hoccurs.turn uri
    have hturn' := (hbetween.filed hafter).later_turn hoccurs'.turn uri
    have hlater := hbetween.later hafter uri
    exact ⟨hturn.trans hlater, hlater.trans hturn'⟩

/-- The last version that was open is the one that the next notebook goes on from. -/
theorem History.foldl_eq_lastVersion (h : History first stages last) (hfirst : first.Filed)
    (uri : String) :
    stages.foldl (fun last stage ↦ (stage.after.get? uri).elim last (·.version))
      (first.lastVersion uri) = last.lastVersion uri := by
  induction h with
  | nil => rfl
  | @cons stage rest last hoccurs _ ih =>
    rw [List.foldl_cons, ← ih (hfirst.turn hoccurs.turn)]
    congr 1
    cases hopen : stage.after.get? uri with
    | some notebook => exact (lastVersion_of_open hopen).symm
    | none =>
      rw [hfirst.lastVersion_turn hoccurs.turn, if_neg, Int.add_zero]
      · rfl
      · intro hchanged
        obtain ⟨notebook, hopen'⟩ := hfirst.isOpen_turn (hchanged ▸ hoccurs.turn)
        simp [hopen] at hopen'

/-- The version under a uri counts the changes that were made to it. -/
theorem History.reached_eq {delimiter : Delimiter} (h : History (empty delimiter) stages last)
    (uri : String) : reached stages uri = last.lastVersion uri :=
  h.foldl_eq_lastVersion (filed_empty delimiter) uri

/-! ## Versions and contents -/

/-- Each stage begins as the one before it ended. The versions under a uri never go back, each
change that succeeds raises the last one by one, and documents of one version show the same
cells. -/
structure Faithful (stages : List Stage) : Prop where
  isChain : stages.IsChain fun stage stage' ↦ stage.after = stage'.found
  version_le : stages.Pairwise fun stage stage' ↦ ∀ uri notebook notebook',
    stage.after.get? uri = some notebook → stage'.after.get? uri = some notebook' →
      notebook.version ≤ notebook'.version
  raised {before later : List Stage} {stage : Stage} {uri : String}
    (h : stages = before ++ stage :: later) (hchanged : stage.changed = some uri) :
    ∃ notebook, stage.after.get? uri = some notebook ∧ notebook.version = reached before uri + 1
  kept {before later : List Stage} {stage : Stage} {uri : String} {notebook : Notebook}
    (h : stages = before ++ stage :: later) (hchanged : stage.changed ≠ some uri)
    (hopen : stage.after.get? uri = some notebook) : notebook.version = reached before uri
  document_eq {stage stage' : Stage} {uri : String} {document document' : Document}
    (hmem : stage ∈ stages) (hmem' : stage' ∈ stages)
    (hdocument : stage.document = some (uri, document))
    (hdocument' : stage'.document = some (uri, document'))
    (hversion : document.version = document'.version) :
    document.text = document'.text ∧
      ∃ notebook notebook', stage.found.get? uri = some notebook ∧
        stage'.found.get? uri = some notebook' ∧ notebook.cells = notebook'.cells

theorem Stage.Occurs.document_eq {document : Document} (h : stage.Occurs)
    (hfound : stage.found.Filed) (hdocument : stage.document = some (uri, document)) :
    ∃ notebook, stage.found.get? uri = some notebook ∧ document.version = notebook.version ∧
      document.text = notebook.index.text := by
  obtain ⟨notebook, language, hopen, rfl⟩ := h.document hdocument
  refine ⟨notebook, hopen, ?_⟩
  rw [(hfound.keepsIndex hopen).readIndex_eq]
  exact ⟨rfl, rfl⟩

/-- Under one uri and version there is but one notebook, kept indexes apart. -/
theorem History.withoutIndex_eq (h : History first stages last) (hfirst : first.Filed)
    {stage' : Stage} (hmem : stage ∈ stages) (hmem' : stage' ∈ stages)
    {notebook' : Notebook} (hopen : stage.found.get? uri = some notebook)
    (hopen' : stage'.found.get? uri = some notebook')
    (hversion : notebook.version = notebook'.version) :
    notebook.withoutIndex = notebook'.withoutIndex := by
  let Comparable (first second : Stage) : Prop :=
    Later uri first.found second.found ∨ Later uri second.found first.found
  have hsymm : Std.Symm Comparable := ⟨fun _ _ ↦ Or.symm⟩
  have hpairwise : stages.Pairwise Comparable :=
    (h.pairwise hfirst).imp fun hlater ↦ .inl (hlater uri).1
  have hcomparable : Comparable stage stage' :=
    hpairwise.forall_of_forall (fun _ _ ↦ .inl (.refl uri _)) hmem hmem'
  rcases hcomparable with hlater | hlater
  · exact hlater.withoutIndex_eq hopen hopen' hversion
  · exact (hlater.withoutIndex_eq hopen' hopen hversion.symm).symm

/-- A notebook that is found at the version of a document, given before or after, shows its text. -/
theorem History.text_eq (h : History first stages last) (hfirst : first.Filed)
    {stage' : Stage} {document : Document} (hmem : stage ∈ stages) (hmem' : stage' ∈ stages)
    (hopen : stage.found.get? uri = some notebook)
    (hdocument : stage'.document = some (uri, document))
    (hversion : document.version = notebook.version) :
    document.text = notebook.index.text ∧
      ∃ notebook', stage'.found.get? uri = some notebook' ∧ notebook'.cells = notebook.cells := by
  obtain ⟨hfound, hoccurs⟩ := h.of_mem hfirst hmem'
  obtain ⟨notebook', hopen', hversion', htext⟩ := hoccurs.document_eq hfound hdocument
  have hsame := h.withoutIndex_eq hfirst hmem' hmem hopen' hopen (hversion' ▸ hversion)
  refine ⟨htext.trans ?_, notebook', hopen', (congrArg Notebook.cells hsame :)⟩
  exact congrArg (fun notebook ↦ notebook.index.text) hsame

theorem History.first_eq (h : History first (stage :: rest) last) : first = stage.found := by
  cases h
  rfl

theorem History.isChain (h : History first stages last) :
    stages.IsChain fun stage stage' ↦ stage.after = stage'.found := by
  induction h with
  | nil => exact .nil
  | @cons stage rest last _ hrest ih =>
    cases rest with
    | nil => exact .singleton stage
    | cons next later => exact .cons_cons hrest.first_eq ih

/-- A history from an empty workspace is faithful. -/
theorem History.faithful {delimiter : Delimiter} (h : History (empty delimiter) stages last) :
    Faithful stages := by
  have hempty := filed_empty delimiter
  constructor
  · exact h.isChain
  · exact (h.pairwise hempty).imp fun hlater uri _ _ ↦ (hlater uri).2.version_le
  · rintro before later stage uri rfl hchanged
    obtain ⟨hbefore, hoccurs, -⟩ := h.split
    have hfound := hbefore.filed hempty
    obtain ⟨notebook, hopen⟩ := hfound.isOpen_turn (hchanged ▸ hoccurs.turn)
    have hlast := hfound.lastVersion_turn hoccurs.turn uri
    rw [if_pos hchanged, lastVersion_of_open hopen] at hlast
    exact ⟨notebook, hopen, hlast.trans (congrArg (· + 1) (hbefore.reached_eq uri).symm)⟩
  · rintro before later stage uri notebook rfl hchanged hopen
    obtain ⟨hbefore, hoccurs, -⟩ := h.split
    have hlast := (hbefore.filed hempty).lastVersion_turn hoccurs.turn uri
    rw [if_neg hchanged, lastVersion_of_open hopen, Int.add_zero] at hlast
    exact hlast.trans (hbefore.reached_eq uri).symm
  · intro stage stage' uri document document' hmem hmem' hdocument hdocument' hversion
    obtain ⟨hfound, hoccurs⟩ := h.of_mem hempty hmem'
    obtain ⟨notebook', hopen', hversion', htext'⟩ := hoccurs.document_eq hfound hdocument'
    obtain ⟨htext, notebook, hopen, hcells⟩ :=
      h.text_eq hempty hmem' hmem hopen' hdocument (hversion.trans hversion')
    exact ⟨htext.trans htext'.symm, notebook, notebook', hopen, hopen', hcells⟩

end CellWeave.Workspace
