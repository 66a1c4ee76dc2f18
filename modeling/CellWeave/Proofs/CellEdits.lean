import CellWeave.Proofs.Distinct
import CellWeave.Proofs.Quilt
/-!
# Fixing a notebook cell by cell

The edits of a quick fix are made on the virtual document by whoever proposed them, and on the
cells by the editor. The two agree: the cells accept their groups, in any order, and the notebook
that comes of it has the fixed document as its virtual document.
-/

namespace CellWeave

open DocumentIndex

namespace Notebook

/-- Edits one cell after another. The editor may name a version for each. -/
def changeGroups (versions : String → Option Int) (notebook : Notebook) :
    List EditGroup → Except SyncError Notebook
  | [] => .ok notebook
  | group :: rest =>
    match notebook.changeContent group.cell group.edits (versions group.cell) with
    | .ok change => changeGroups versions change.value.2 rest
    | .error error => .error error

/-- The cell after its group, and as it was if it has none or does not accept it. -/
def changedCell (versions : String → Option Int) (groups : List EditGroup) (cell : Cell) : Cell :=
  match groups.find? (·.cell = cell.uri) with
  | none => cell
  | some group =>
    match Edit.applyAll cell.text group.edits with
    | .ok text => { cell with text, version := (versions cell.uri).getD (cell.version + 1) }
    | .error _ => cell

variable {versions : String → Option Int} {notebook : Notebook} {groups : List EditGroup}

@[simp] theorem uri_changedCell (groups : List EditGroup) (cell : Cell) :
    (changedCell versions groups cell).uri = cell.uri := by
  unfold changedCell
  split
  · rfl
  · split <;> rfl

theorem changedCell_of_find? {group : EditGroup} {cell : Cell} {text : Text}
    (hgroup : groups.find? (·.cell = cell.uri) = some group)
    (htext : Edit.applyAll cell.text group.edits = .ok text) :
    changedCell versions groups cell =
      { cell with text, version := (versions cell.uri).getD (cell.version + 1) } := by
  rw [changedCell, hgroup]
  dsimp only
  rw [htext]

theorem changedCell_of_notMem {cell : Cell} (h : cell.uri ∉ groups.map (·.cell)) :
    changedCell versions groups cell = cell := by
  have hnone : groups.find? (·.cell = cell.uri) = none := by
    rw [List.find?_eq_none]
    intro group hgroup heq
    apply h
    rw [← of_decide_eq_true heq]
    exact List.mem_map_of_mem hgroup
  rw [changedCell, hnone]

/-- An accepted group changes its cell and no other. -/
theorem changeContent_eq_ok (version : Option Int) {cell : Cell} (hcell : cell ∈ notebook.cells)
    {group : EditGroup} (huri : cell.uri = group.cell) {text : Text}
    (htext : Edit.applyAll cell.text group.edits = .ok text) :
    ∃ change, notebook.changeContent group.cell group.edits version = .ok change ∧
      change.value.2.delimiter = notebook.delimiter ∧
      change.value.2.cells = notebook.cells.map (changedCell (fun _ ↦ version) [group]) := by
  have hfound : notebook.cell? group.cell = some cell := by
    rw [← huri]
    exact cell?_of_mem hcell
  rw [changeContent, hfound]
  simp only [htext]
  refine ⟨_, rfl, rfl, ?_⟩
  apply List.map_congr_left
  intro other hother
  rw [Cell.insteadOf]
  split
  · next heq =>
    obtain rfl : other = cell :=
      List.inj_on_of_nodup_map notebook.nodup_uris hother hcell heq
    rw [changedCell_of_find? (by simp [huri]) htext]
  · next hne =>
    have hother : other.uri ∉ [group].map (·.cell) := by
      simpa [huri] using hne
    rw [changedCell_of_notMem hother]

theorem changedCell_changedCell {group : EditGroup} {rest : List EditGroup}
    (h : group.cell ∉ rest.map (·.cell)) (cell : Cell) :
    changedCell versions rest (changedCell (fun _ ↦ versions group.cell) [group] cell) =
      changedCell versions (group :: rest) cell := by
  by_cases huri : group.cell = cell.uri
  · have hrest : (changedCell (fun _ ↦ versions group.cell) [group] cell).uri ∉
        rest.map (·.cell) := by
      rwa [uri_changedCell, ← huri]
    rw [changedCell_of_notMem hrest]
    simp [changedCell, huri]
  · have hother : cell.uri ∉ [group].map (·.cell) := by
      simpa using Ne.symm huri
    rw [changedCell_of_notMem hother]
    simp [changedCell, huri]

/-- Groups that their cells accept are made one after another. -/
theorem changeGroups_eq_ok (versions : String → Option Int)
    (hgroups : (groups.map (·.cell)).Nodup)
    (haccepted : ∀ group ∈ groups, ∃ cell ∈ notebook.cells, cell.uri = group.cell ∧
      ∃ text, Edit.applyAll cell.text group.edits = .ok text) :
    ∃ changed, notebook.changeGroups versions groups = .ok changed ∧
      changed.delimiter = notebook.delimiter ∧
      changed.cells = notebook.cells.map (changedCell versions groups) := by
  induction groups generalizing notebook with
  | nil =>
    refine ⟨notebook, rfl, rfl, ?_⟩
    have hid : ∀ cell ∈ notebook.cells, changedCell versions [] cell = cell :=
      fun _ _ ↦ changedCell_of_notMem List.not_mem_nil
    rw [List.map_congr_left hid, List.map_id']
  | cons group rest ih =>
    obtain ⟨hgroup, hrest⟩ := List.nodup_cons.1 hgroups
    obtain ⟨⟨cell, hcell, huri, text, htext⟩, hacceptedRest⟩ := List.forall_mem_cons.1 haccepted
    obtain ⟨change, hchange, hnextDelimiter, hnext⟩ :=
      changeContent_eq_ok (versions group.cell) hcell huri htext
    -- the cells of the other groups are as they were
    have hacceptedNext : ∀ later ∈ rest, ∃ cell ∈ change.value.2.cells, cell.uri = later.cell ∧
        ∃ text, Edit.applyAll cell.text later.edits = .ok text := by
      intro later hlater
      obtain ⟨other, hother, hotherUri, hotherText⟩ := hacceptedRest later hlater
      have hne : other.uri ∉ [group].map (·.cell) := by
        intro hmem
        rw [List.map_singleton, List.mem_singleton, hotherUri] at hmem
        exact hgroup (List.mem_map.2 ⟨later, hlater, hmem⟩)
      refine ⟨other, ?_, hotherUri, hotherText⟩
      rw [hnext]
      exact List.mem_map.2 ⟨other, hother, changedCell_of_notMem hne⟩
    obtain ⟨changed, hchanged, hdelimiter, hcells⟩ := ih hrest hacceptedNext
    refine ⟨changed, ?_, ?_, ?_⟩
    · rw [changeGroups, hchange]
      exact hchanged
    · rw [hdelimiter, hnextDelimiter]
    · rw [hcells, hnext, List.map_map]
      exact List.map_congr_left fun cell _ ↦ changedCell_changedCell hgroup cell

/-! ## The fixed document -/

/-- A mapped batch is one of edits that land in cells, raised to the document. -/
theorem exists_mapped_of_toGroups {edits : List Edit}
    (hgroups : notebook.index.toGroups edits = .ok groups)
    (hcontent : ∀ edit ∈ edits, notebook.index.ShowsContent edit.span.start.line ∧
      notebook.index.ShowsContent edit.span.stop.line) :
    ∃ mapped, groups = groupEdits mapped ∧ (∀ item ∈ mapped, Lands notebook.cells item) ∧
      edits = mapped.map (raise notebook.cells) := by
  obtain ⟨mapped, hmapped, rfl⟩ := toGroups_eq_ok_iff.1 hgroups
  refine ⟨mapped, rfl, ?_⟩
  clear hgroups
  induction hmapped with
  | nil => simp
  | @cons edit item edits mapped hitem _ ih =>
    obtain ⟨⟨hstart, hstop⟩, hrest⟩ := List.forall_mem_cons.1 hcontent
    obtain ⟨hlands, hraise⟩ := hitem.lands notebook.nodup_uris hstart hstop
    obtain ⟨hlandsRest, hraiseRest⟩ := ih hrest
    refine ⟨List.forall_mem_cons.2 ⟨hlands, hlandsRest⟩, ?_⟩
    rw [List.map_cons, ← hraise, ← hraiseRest]

theorem text_changedCell {mapped : List (String × Edit)} {order : List EditGroup}
    (horder : order.Perm (groupEdits mapped)) {cell : Cell}
    (haccepted : Edit.applyAll cell.text (editsOf mapped cell.uri) =
      .ok (writtenText mapped cell)) :
    (changedCell versions order cell).text = writtenText mapped cell := by
  cases hfound : order.find? (·.cell = cell.uri) with
  | some group =>
    have huri : group.cell = cell.uri := by
      simpa using List.find?_some hfound
    have hgroup := mem_groupEdits.1 (horder.mem_iff.1 (List.mem_of_find?_eq_some hfound))
    rw [huri] at hgroup
    rw [← hgroup.2] at haccepted
    rw [changedCell_of_find? hfound haccepted]
  | none =>
    have hnone : editsOf mapped cell.uri = [] := by
      rw [editsOf_eq_nil_iff, ← List.mem_eraseDups, ← map_cell_groupEdits,
        ← (horder.map (·.cell)).mem_iff]
      intro hmem
      obtain ⟨group, hgroup, huri⟩ := List.mem_map.1 hmem
      simpa [huri] using List.find?_eq_none.1 hfound group hgroup
    rw [hnone, Edit.applyAll_nil] at haccepted
    rw [changedCell, hfound]
    exact Except.ok.inj haccepted

/-- Fixing the cells is fixing the document: for a batch that the document accepts and that maps to
groups, every cell accepts its group, and after all groups, in any order, the notebook's document
is the fixed one. -/
theorem changeGroups_index_text (versions : String → Option Int) {edits : List Edit} {text : Text}
    {order : List EditGroup}
    (htext : Edit.applyAll notebook.index.text edits = .ok text)
    (hgroups : notebook.index.toGroups edits = .ok groups)
    (hcontent : ∀ edit ∈ edits, notebook.index.ShowsContent edit.span.start.line ∧
      notebook.index.ShowsContent edit.span.stop.line)
    (hclosed : ∀ cell ∈ notebook.cells.dropLast, cell.uri ∈ groups.map (·.cell) →
      cell.text.endsLine)
    (horder : order.Perm groups) :
    (∀ group ∈ groups, ∀ version, ∃ change,
      notebook.changeContent group.cell group.edits version = .ok change) ∧
    ∃ changed, notebook.changeGroups versions order = .ok changed ∧
      (notebook.cells.length = 1 ∨
          (∀ last ∈ notebook.cells.getLast?, last.uri ∉ groups.map (·.cell)) ∨
          (∀ last ∈ changed.cells.getLast?, last.text ≠ []) →
        changed.index.text = text) := by
  obtain ⟨mapped, rfl, hlands, rfl⟩ := exists_mapped_of_toGroups hgroups hcontent
  have hmem (uri : String) : uri ∈ (groupEdits mapped).map (·.cell) ↔ editsOf mapped uri ≠ [] := by
    rw [map_cell_groupEdits, List.mem_eraseDups, ne_eq, editsOf_eq_nil_iff, not_not]
  obtain ⟨haccepted, hresult⟩ := applyAll_virtualText notebook.delimiter notebook.nodup_uris hlands
    (fun cell hcell hedits ↦ hclosed cell hcell ((hmem cell.uri).2 hedits)) htext
  have hacceptedGroup : ∀ group ∈ groupEdits mapped, ∃ cell ∈ notebook.cells,
      cell.uri = group.cell ∧ ∃ text, Edit.applyAll cell.text group.edits = .ok text := by
    intro group hgroup
    obtain ⟨hland, hedits⟩ := mem_groupEdits.1 hgroup
    obtain ⟨item, hitem, hitemUri⟩ := List.mem_map.1 hland
    obtain ⟨cell, hcell, huri⟩ := List.mem_map.1 (hlands item hitem).mem_uris
    have huri : cell.uri = group.cell := by rw [huri, hitemUri]
    refine ⟨cell, hcell, huri, writtenText mapped cell, ?_⟩
    rw [hedits, ← huri]
    exact haccepted cell hcell
  constructor
  · intro group hgroup version
    obtain ⟨cell, hcell, huri, text, hcellText⟩ := hacceptedGroup group hgroup
    obtain ⟨change, hchange, -⟩ := changeContent_eq_ok version hcell huri hcellText
    exact ⟨change, hchange⟩
  · have hnodup : (order.map (·.cell)).Nodup := by
      rw [(horder.map (·.cell)).nodup_iff, map_cell_groupEdits]
      exact nodup_eraseDups _
    obtain ⟨changed, hchanged, hdelimiter, hcells⟩ := changeGroups_eq_ok versions hnodup
      fun group hgroup ↦ hacceptedGroup group (horder.mem_iff.1 hgroup)
    have htexts : ∀ cell ∈ notebook.cells,
        (changedCell versions order cell).text = writtenText mapped cell :=
      fun cell hcell ↦ text_changedCell horder (haccepted cell hcell)
    refine ⟨changed, hchanged, ?_⟩
    intro hcondition
    have hkeeps : notebook.cells.length = 1 ∨ KeepsLast mapped notebook.cells := by
      refine hcondition.imp_right ?_
      rintro (hnone | hsome) last hlast
      · left
        have := hnone last hlast
        rwa [hmem, not_not] at this
      · right
        rw [← htexts last (List.mem_of_getLast? hlast)]
        apply hsome
        rw [hcells, List.getLast?_map, Option.mem_def.1 hlast]
        rfl
    rw [hresult hkeeps, index, ofCells, hdelimiter]
    apply virtualText_congr
    rw [hcells, List.map_map, List.map_map]
    exact List.map_congr_left htexts

/-- Its document is `x`, a delimiter line, `y`, `z`, a delimiter line and `w`. -/
def threeCells : Notebook where
  uri := "u"
  delimiter := ⟨['#'], by decide⟩
  incarnation := 0
  version := 1
  table := .ofNodup
    [⟨"a", ['x', feed], 0⟩, ⟨"b", ['y', feed, 'z', feed], 0⟩, ⟨"c", ['w'], 0⟩] (by decide)
  kept := none

/-- Takes the line `y` away and puts `q` in the place of `x`. -/
def threeCellsFix : List Edit :=
  [⟨.of 3 0 4 0, []⟩, ⟨.of 1 0 1 1, ['q']⟩]

theorem changeGroups_index_text_threeCells :
    ∃ changed, threeCells.changeGroups (fun _ ↦ none)
        [⟨"a", [⟨.of 1 0 1 1, ['q']⟩]⟩, ⟨"b", [⟨.of 1 0 2 0, []⟩]⟩] = .ok changed ∧
      changed.index.text = (['q', feed, '#', feed, 'z', feed, '#', feed, 'w'] : Text) := by
  have htext : Edit.applyAll threeCells.index.text threeCellsFix =
      .ok ['q', feed, '#', feed, 'z', feed, '#', feed, 'w'] :=
    Edit.applyAll_of_placed [⟨0, 1, ⟨.of 1 0 1 1, ['q']⟩⟩, ⟨4, 6, ⟨.of 3 0 4 0, []⟩⟩]
      (List.Perm.swap _ _ _) (by decide) (by decide)
  have hgroups : threeCells.index.toGroups threeCellsFix =
      .ok [⟨"b", [⟨.of 1 0 2 0, []⟩]⟩, ⟨"a", [⟨.of 1 0 1 1, ['q']⟩]⟩] := by
    decide
  have hcontent : ∀ edit ∈ threeCellsFix,
      threeCells.index.ShowsContent edit.span.start.line ∧
        threeCells.index.ShowsContent edit.span.stop.line := by
    simp only [threeCellsFix, List.forall_mem_cons]
    refine ⟨⟨⟨"b", 1, 3, ?_⟩, ⟨"b", 2, 4, ?_⟩⟩, ⟨⟨"a", 1, 1, ?_⟩, ⟨"a", 1, 1, ?_⟩⟩, by simp⟩ <;>
      decide
  obtain ⟨-, changed, hchanged, hfixed⟩ := changeGroups_index_text (fun _ ↦ none)
    htext hgroups hcontent (by decide) (List.Perm.swap _ _ _)
  exact ⟨changed, hchanged, hfixed (.inr (.inl (by decide)))⟩

end Notebook

end CellWeave
