import CellWeave.Proofs.Utf8
import CellWeave.TextFile
/-!
# Files that are texts

A file is decoded in blocks and read in pieces, and neither ends where characters do. If its bytes
are those of a text, no fault is met; and without any fault the pieces reach the end of the file, so
that its bytes are those of a text. A file that is no text and is not longer than a piece has its
fault in front of the first piece.
-/

namespace CellWeave

namespace Utf8

/-- The bytes are those of a text. -/
def IsText (bytes : List UInt8) : Prop :=
  ∃ text, encode text = bytes

theorem encode_append (first second : Chars) :
    encode (first ++ second) = encode first ++ encode second :=
  List.flatMap_append

theorem isText_nil : IsText [] :=
  ⟨[], encode_nil⟩

/-- What was encoded is decoded, with nothing left over. -/
theorem decodeBlock_encode (isLast : Bool) (text : Chars) (position : Nat) :
    decodeBlock isLast position (encode text) = .ok (text, []) := by
  induction text generalizing position with
  | nil => rw [encode_nil, decodeBlock]
  | cons c text ih =>
    obtain ⟨first, tails, hform⟩ := exists_form c
    rw [hform.encode_cons, hform.decodeBlock_append, ih]
    rfl

/-- A text has no more characters than bytes. -/
theorem length_le_length_encode (text : Chars) : text.length ≤ (encode text).length := by
  induction text with
  | nil => exact Nat.zero_le _
  | cons c text ih =>
    obtain ⟨first, tails, hform⟩ := exists_form c
    rw [hform.encode_cons]
    simp only [List.length_cons, List.length_append]
    omega

end Utf8

namespace TextFile

open Utf8 (IsText)

variable {file next : TextFile}

/-- The bytes that are left are those of a text. -/
def IsSound (file : TextFile) : Prop :=
  IsText (file.left ++ file.bytes)

/-- How many characters may still come. A carriage return that waits is one. -/
def size (file : TextFile) : Nat :=
  file.ready.length + file.afterReturn.toNat + file.left.length + file.bytes.length

theorem le_blockSize (file : TextFile) (wanted : Nat) : 8192 ≤ file.blockSize wanted :=
  Nat.le_max_left _ _

theorem length_unifyFeeds_le (text : Chars) : (unifyFeeds text).length ≤ text.length := by
  fun_induction unifyFeeds text with
  | case1 => exact Nat.le_refl _
  | case2 rest ih => exact Nat.le_succ_of_le (Nat.succ_le_succ ih)
  | case3 c rest _ ih => exact Nat.succ_le_succ ih

/-! ### One block -/

theorem length_unifyFeeds_dropLast_le (text : Chars) (isHeld : Bool)
    (h : isHeld = true → text ≠ []) :
    (unifyFeeds (if isHeld then text.dropLast else text)).length + isHeld.toNat ≤
      text.length := by
  refine Nat.le_trans (Nat.add_le_add_right (length_unifyFeeds_le _) _) ?_
  cases isHeld with
  | false => exact Nat.le_refl _
  | true =>
    have hpos := List.length_pos_iff.2 (h rfl)
    rw [if_pos rfl, List.length_dropLast, Bool.toNat_true]
    omega

/-- A decoded block is the bytes of a text and what it leaves, which is nothing if it is the last
one. It gives no more characters than that text has, and the one that was waiting. -/
theorem decode_spec {block : List UInt8} {isLast : Bool}
    (h : file.decode block isLast = .ok next) :
    next.bytes = file.bytes.drop block.length ∧
      ∃ text, file.left ++ block = Utf8.encode text ++ next.left ∧
        (isLast = true → next.left = []) ∧
        next.ready.length + next.afterReturn.toNat ≤
          file.ready.length + file.afterReturn.toNat + text.length := by
  obtain ⟨⟨decoded, left⟩, hdecode, hnext⟩ := bind_eq_ok_iff.1 h
  obtain ⟨hleft, hlast⟩ := Utf8.encode_of_decodeBlock hdecode
  dsimp -zeta only at hnext
  extract_lets isHeld text endsInReturn fed width at hnext
  rw [← Except.ok.inj hnext]
  refine ⟨rfl, decoded, hleft, hlast, ?_⟩
  have hfed : fed.length + endsInReturn.toNat ≤ text.length :=
    length_unifyFeeds_dropLast_le text endsInReturn fun hreturn hnil ↦ by
      simp [endsInReturn, hnil] at hreturn
  have htext : text.length + isHeld.toNat ≤ file.afterReturn.toNat + decoded.length := by
    rw [Nat.add_comm file.afterReturn.toNat]
    dsimp only [text]
    cases hheld : isHeld with
    | true =>
      have hafter : file.afterReturn = true := by simp_all [isHeld]
      rw [hafter]
      exact Nat.le_refl _
    | false => cases file.afterReturn <;> exact Nat.le_refl _
  have hwaits : (isHeld || endsInReturn).toNat ≤ isHeld.toNat + endsInReturn.toNat := by
    cases isHeld <;> cases endsInReturn <;> decide
  dsimp only
  rw [List.length_append]
  omega

/-- The bytes of one block are gone after it. -/
theorem drop_length_take {α : Type} (items : List α) (count : Nat) :
    items.drop (items.take count).length = items.drop count := by
  rw [List.length_take]
  rcases Nat.le_total count items.length with h | h
  · rw [Nat.min_eq_left h]
  · rw [Nat.min_eq_right h, List.drop_length, List.drop_eq_nil_of_le h]

theorem size_decode {isLast : Bool} {size : Nat}
    (h : file.decode (file.bytes.take size) isLast = .ok next) : next.size ≤ file.size := by
  obtain ⟨hbytes, text, htext, -, hready⟩ := decode_spec h
  have hlength := congrArg List.length htext
  have hmost := Utf8.length_le_length_encode text
  have hsplit := congrArg List.length (file.bytes.take_append_drop size)
  rw [List.length_append] at hsplit
  rw [List.length_append, List.length_append] at hlength
  rw [TextFile.size, TextFile.size, hbytes, drop_length_take]
  omega

/-- Blocks of a text are decoded, and leave the bytes of a text. -/
theorem IsSound.decode (h : file.IsSound) {size : Nat} (hsize : 0 < size) :
    ∃ next, file.decode (file.bytes.take size) (file.bytes.take size).isEmpty = .ok next ∧
      next.IsSound := by
  obtain ⟨text, htext⟩ := h
  have hsplit : file.left ++ file.bytes.take size ++ file.bytes.drop size =
      Utf8.encode text := by
    rw [List.append_assoc, List.take_append_drop, htext]
  have hlast (hempty : (file.bytes.take size).isEmpty = true) : file.bytes.drop size = [] := by
    rw [List.isEmpty_iff, List.take_eq_nil_iff] at hempty
    rw [hempty.resolve_left (by omega), List.drop_nil]
  obtain ⟨front, back, left, -, hleft, hdecode⟩ := Utf8.decodeBlock_of_append hsplit hlast 0
  refine ⟨_, by rw [TextFile.decode, hdecode]; rfl, back, ?_⟩
  rw [drop_length_take, hleft]

/-- Only blocks of a text leave the bytes of a text. -/
theorem isSound_of_decode {isLast : Bool} {size : Nat}
    (h : file.decode (file.bytes.take size) isLast = .ok next) (hnext : next.IsSound) :
    file.IsSound := by
  obtain ⟨hbytes, text, htext, -⟩ := decode_spec h
  obtain ⟨rest, hrest⟩ := hnext
  refine ⟨text ++ rest, ?_⟩
  rw [Utf8.encode_append, hrest, hbytes, drop_length_take, ← List.append_assoc, ← htext,
    List.append_assoc, List.take_append_drop]

/-- The last block leaves nothing. -/
theorem isSound_of_decode_nil (hbytes : file.bytes = [])
    (h : file.decode [] true = .ok next) : file.IsSound := by
  obtain ⟨-, text, htext, hlast, -⟩ := decode_spec h
  refine ⟨text, ?_⟩
  rw [hbytes, htext, hlast rfl, List.append_nil]

/-! ### Pieces -/

theorem size_cut (file : TextFile) (count : Nat) :
    TextFile.size { file with ready := file.ready.drop count } +
      (file.ready.take count).length ≤ file.size := by
  have hsplit := congrArg List.length (file.ready.take_append_drop count)
  rw [List.length_append] at hsplit
  rw [size, size]
  dsimp only
  omega

theorem take_of_le {count : Nat} (h : count ≤ file.ready.length) (fuel : Nat) :
    file.take count fuel =
      .ok (file.ready.take count, { file with ready := file.ready.drop count }) := by
  cases fuel with
  | zero => rfl
  | succ fuel => rw [TextFile.take, Nat.sub_eq_zero_of_le h]; rfl

/-- The bytes that are decoded next where `count` characters are asked for. -/
def nextBlock (file : TextFile) (count : Nat) : List UInt8 :=
  file.bytes.take (file.blockSize (count - file.ready.length))

theorem length_nextBlock_pos (count : Nat) (h : file.bytes ≠ []) :
    0 < (file.nextBlock count).length := by
  have hpos := List.length_pos_iff.2 h
  have hsize := file.le_blockSize (count - file.ready.length)
  rw [nextBlock, List.length_take]
  omega

theorem bytes_of_nextBlock {count : Nat} (h : file.nextBlock count = []) : file.bytes = [] := by
  by_contra hbytes
  exact absurd (length_nextBlock_pos count hbytes) (by rw [h]; exact Nat.lt_irrefl _)

theorem take_of_lt {count : Nat} (h : file.ready.length < count) (fuel : Nat) :
    file.take count (fuel + 1) =
      match file.decode (file.nextBlock count) (file.nextBlock count).isEmpty with
      | .error fault => .error fault
      | .ok next =>
        if (file.nextBlock count).isEmpty ∧ next.ready.length = file.ready.length then
          .ok (file.ready, { next with ready := [] })
        else next.take count fuel := by
  rw [TextFile.take]
  dsimp only
  rw [if_neg (Nat.sub_ne_zero_of_lt h), ← nextBlock]
  cases file.decode (file.nextBlock count) (file.nextBlock count).isEmpty <;> rfl

/-- How a piece is taken: from what is ready; after a block; or, after the last block gave nothing
more, as what is ready. -/
theorem take_cases {count fuel : Nat} {piece : Chars}
    (h : file.take count fuel = .ok (piece, next)) :
    (piece = file.ready.take count ∧ next = { file with ready := file.ready.drop count } ∧
      (fuel = 0 ∨ count ≤ file.ready.length)) ∨
    ∃ rest middle, fuel = rest + 1 ∧
      file.decode (file.nextBlock count) (file.nextBlock count).isEmpty = .ok middle ∧
      ((file.bytes = [] ∧ middle.ready.length = file.ready.length ∧ piece = file.ready ∧
        next = { middle with ready := [] }) ∨
      middle.take count rest = .ok (piece, next)) := by
  rcases Nat.lt_or_ge file.ready.length count with hlt | hle
  · cases fuel with
    | zero =>
      obtain ⟨rfl, rfl⟩ := Prod.mk.inj (Except.ok.inj h)
      exact .inl ⟨rfl, rfl, .inl rfl⟩
    | succ fuel =>
      rw [take_of_lt hlt] at h
      cases hmiddle : file.decode (file.nextBlock count) (file.nextBlock count).isEmpty with
      | error fault =>
        rw [hmiddle] at h
        exact absurd h nofun
      | ok middle =>
        rw [hmiddle] at h
        dsimp only at h
        refine .inr ⟨fuel, middle, rfl, rfl, ?_⟩
        split at h
        · next hend =>
          obtain ⟨rfl, rfl⟩ := Prod.mk.inj (Except.ok.inj h)
          exact .inl ⟨bytes_of_nextBlock (List.isEmpty_iff.1 hend.1), hend.2, rfl, rfl⟩
        · exact .inr h
  · rw [take_of_le hle] at h
    obtain ⟨rfl, rfl⟩ := Prod.mk.inj (Except.ok.inj h)
    exact .inl ⟨rfl, rfl, .inr hle⟩

/-- What is left of a text is taken from it without a fault. -/
theorem IsSound.take (h : file.IsSound) (count fuel : Nat) :
    ∃ piece next, file.take count fuel = .ok (piece, next) ∧ next.IsSound := by
  induction fuel generalizing file with
  | zero => exact ⟨_, _, rfl, h⟩
  | succ fuel ih =>
    rcases Nat.lt_or_ge file.ready.length count with hlt | hle
    · obtain ⟨next, hnext, hsound⟩ :=
        h.decode (Nat.lt_of_lt_of_le (by decide) (file.le_blockSize _))
      rw [take_of_lt hlt, nextBlock, hnext]
      dsimp only
      split
      · exact ⟨_, _, rfl, hsound⟩
      · exact ih hsound
    · exact ⟨_, _, take_of_le hle _, h⟩

/-- Characters only come out of what is there, and only of the bytes of a text if what is left in
the end is some. A piece that is too short is the last one, so that nothing is left. -/
theorem take_spec {count fuel : Nat} {piece : Chars}
    (h : file.take count fuel = .ok (piece, next)) :
    next.size + piece.length ≤ file.size ∧ (next.IsSound → file.IsSound) ∧
      (file.bytes.length < fuel → piece.length < count → file.IsSound) := by
  induction fuel generalizing file with
  | zero =>
    obtain ⟨rfl, rfl⟩ := Prod.mk.inj (Except.ok.inj h)
    exact ⟨size_cut file count, id, fun hfuel ↦ absurd hfuel (Nat.not_lt_zero _)⟩
  | succ fuel ih =>
    obtain ⟨rfl, rfl, hready⟩ | ⟨rest, middle, hrest, hmiddle, hpiece⟩ := take_cases h
    · refine ⟨size_cut file count, id, fun _ hshort ↦ absurd hshort ?_⟩
      rw [List.length_take_of_le (hready.resolve_left (Nat.succ_ne_zero _))]
      exact Nat.lt_irrefl _
    · obtain rfl := Nat.succ.inj hrest
      have hsize := size_decode hmiddle
      have hlast (hbytes : file.bytes = []) : file.IsSound := by
        rw [nextBlock, hbytes, List.take_nil, List.isEmpty_nil] at hmiddle
        exact isSound_of_decode_nil hbytes hmiddle
      obtain ⟨hbytes, hready, rfl, rfl⟩ | hlater := hpiece
      · refine ⟨Nat.le_trans (Nat.le_of_eq ?_) hsize,
          fun (hnext : middle.IsSound) ↦ isSound_of_decode hmiddle hnext, fun _ _ ↦ hlast hbytes⟩
        rw [size, size, List.length_nil]
        dsimp only
        omega
      · obtain ⟨hless, hsound, hshort⟩ := ih hlater
        refine ⟨Nat.le_trans hless hsize, fun hnext ↦ isSound_of_decode hmiddle (hsound hnext),
          fun hfuel hpiece ↦ ?_⟩
        by_cases hbytes : file.bytes = []
        · exact hlast hbytes
        · refine isSound_of_decode hmiddle (hshort ?_ hpiece)
          have hpos := List.length_pos_iff.2 hbytes
          have hblock := length_nextBlock_pos count hbytes
          rw [(decode_spec hmiddle).1, List.length_drop]
          omega

theorem unifyFeeds_eq_self {text : Chars} (h : '\r' ∉ text) : unifyFeeds text = text := by
  fun_induction unifyFeeds text with
  | case1 => rfl
  | case2 rest ih => exact absurd List.mem_cons_self h
  | case3 c rest _ ih =>
    rw [ih fun hmem ↦ h (List.mem_cons_of_mem c hmem), if_neg]
    rintro rfl
    exact h List.mem_cons_self

/-- At the end of a file there is what is ready. -/
theorem take_of_bytes_nil {text : Chars} {count : Nat} (h : text.length < count) (width : Float)
    (fuel : Nat) : (⟨[], [], false, width, text⟩ : TextFile).take count (fuel + 1) =
      .ok (text, ⟨[], [], false, 0, []⟩) := by
  have hdecode : (⟨[], [], false, width, text⟩ : TextFile).decode [] true =
      .ok ⟨[], [], false, 0, text⟩ := by
    rw [TextFile.decode, List.append_nil, Utf8.decodeBlock]
    change (.ok ⟨[], [], false, 0, text ++ []⟩ : Except Utf8.DecodeFault TextFile) = _
    rw [List.append_nil]
  rw [take_of_lt h, nextBlock, List.take_nil, List.isEmpty_nil, hdecode]
  simp

/-- A short text without carriage returns is one piece. -/
theorem take_start_encode {text : Chars} {count : Nat} (hreturn : '\r' ∉ text)
    (hlength : text.length < count) (hbytes : (Utf8.encode text).length ≤ 8192) :
    (start (Utf8.encode text)).take count ((Utf8.encode text).length + 1) =
      .ok (text, ⟨[], [], false, 0, []⟩) := by
  cases text with
  | nil =>
    rw [Utf8.encode_nil]
    exact take_of_bytes_nil hlength 0 0
  | cons c text =>
    set bytes := Utf8.encode (c :: text) with hdef
    obtain ⟨width, hdecode⟩ : ∃ width, (start bytes).decode bytes false =
        .ok ⟨[], [], false, width, c :: text⟩ := by
      have hends : ((c :: text).getLast? = some '\r') = False :=
        eq_false fun hlast ↦ hreturn (List.mem_of_getLast? hlast)
      rw [TextFile.decode, show (start bytes).left ++ bytes = bytes from rfl, hdef,
        Utf8.decodeBlock_encode]
      simp only [start, bind, Except.bind, Bool.false_and, Bool.false_eq_true, if_false,
        Bool.not_false, Bool.true_and, hends, decide_false, Bool.false_or,
        unifyFeeds_eq_self hreturn, ← hdef, List.drop_length]
      exact ⟨_, rfl⟩
    have hblock : (start bytes).nextBlock count = bytes :=
      List.take_of_length_le (Nat.le_trans hbytes (le_blockSize _ _))
    have hpos : 0 < bytes.length :=
      Nat.lt_of_lt_of_le (Nat.succ_pos _) (Utf8.length_le_length_encode (c :: text))
    obtain ⟨fuel, hfuel⟩ := Nat.exists_eq_add_one.2 hpos
    rw [take_of_lt (Nat.zero_lt_of_lt hlength), hblock,
      List.isEmpty_eq_false_iff.2 (List.length_pos_iff.1 hpos), hdecode]
    dsimp only
    rw [if_neg (by simp), hfuel, take_of_bytes_nil hlength]

/-! ### All pieces -/

variable {size : Nat} {bytes : List UInt8}

/-- A fault ends the pieces. -/
theorem piecesFrom_of_error {fault : Utf8.DecodeFault}
    (h : file.take size (file.bytes.length + 1) = .error fault) (fuel : Nat) :
    file.piecesFrom size (fuel + 1) = ([], some fault) := by
  rw [piecesFrom, h]

theorem piecesFrom_of_nil (h : file.take size (file.bytes.length + 1) = .ok ([], next))
    (fuel : Nat) : file.piecesFrom size (fuel + 1) = ([], none) := by
  rw [piecesFrom, h]

theorem piecesFrom_of_cons {c : Char} {piece : Chars}
    (h : file.take size (file.bytes.length + 1) = .ok (c :: piece, next)) (fuel : Nat) :
    file.piecesFrom size (fuel + 1) =
      ((c :: piece) :: (next.piecesFrom size fuel).1, (next.piecesFrom size fuel).2) := by
  rw [piecesFrom, h]

/-- No fault is met in what is left of a text. -/
theorem IsSound.piecesFrom (h : file.IsSound) (size fuel : Nat) :
    (file.piecesFrom size fuel).2 = none := by
  induction fuel generalizing file with
  | zero => rfl
  | succ fuel ih =>
    obtain ⟨piece, next, htake, hnext⟩ := h.take size (file.bytes.length + 1)
    cases piece with
    | nil => rw [piecesFrom_of_nil htake]
    | cons c piece =>
      rw [piecesFrom_of_cons htake]
      exact ih hnext

/-- The end is come to without a fault only in a text, as every piece takes some of the
characters. -/
theorem isSound_of_piecesFrom (hsize : 0 < size) {fuel : Nat}
    (h : (file.piecesFrom size fuel).2 = none) (hfuel : file.size < fuel) : file.IsSound := by
  induction fuel generalizing file with
  | zero => exact absurd hfuel (Nat.not_lt_zero _)
  | succ fuel ih =>
    cases htake : file.take size (file.bytes.length + 1) with
    | error fault =>
      rw [piecesFrom_of_error htake] at h
      exact absurd h nofun
    | ok result =>
      obtain ⟨piece, next⟩ := result
      obtain ⟨hless, hsound, hshort⟩ := take_spec htake
      cases piece with
      | nil => exact hshort (Nat.lt_succ_self _) hsize
      | cons c piece =>
        rw [piecesFrom_of_cons htake] at h
        rw [List.length_cons] at hless
        exact hsound (ih h (by omega))

theorem size_start (bytes : List UInt8) : (start bytes).size = bytes.length := by
  simp [size, start]

/-- A file is read without a fault if and only if it is a text. -/
theorem fault_pieces_eq_none_iff (hsize : 0 < size) :
    (pieces size bytes).2 = none ↔ IsText bytes := by
  constructor
  · intro h
    have hsound : (start bytes).IsSound :=
      isSound_of_piecesFrom hsize h (by rw [size_start]; exact Nat.lt_succ_self _)
    exact hsound
  · intro h
    have hsound : (start bytes).IsSound := h
    exact hsound.piecesFrom size _

/-- If a file has no more bytes than a piece has characters and it is no text, its fault is met in
front of the first piece: there is no piece of the whole size in it, and a shorter one is the last
one of a text. -/
theorem pieces_of_not_isText (h : ¬IsText bytes) (hlength : bytes.length ≤ size) :
    ∃ fault, pieces size bytes = ([], some fault) := by
  have hstart : ¬(start bytes).IsSound := h
  cases htake : (start bytes).take size (bytes.length + 1) with
  | error fault => exact ⟨fault, piecesFrom_of_error htake _⟩
  | ok result =>
    obtain ⟨piece, next⟩ := result
    obtain ⟨hless, hsound, hshort⟩ := take_spec htake
    rw [size_start] at hless
    have hwhole : ¬piece.length < size := fun hpiece ↦
      hstart (hshort (Nat.lt_succ_self _) hpiece)
    have hnone : next.size = 0 := by omega
    rw [TextFile.size] at hnone
    have hleft : next.left = [] := List.length_eq_zero_iff.1 (by omega)
    have hbytes : next.bytes = [] := List.length_eq_zero_iff.1 (by omega)
    refine absurd (hsound ?_) hstart
    rw [IsSound, hleft, hbytes]
    exact Utf8.isText_nil

/-- A short text without carriage returns is one piece, unless it is empty. -/
theorem pieces_encode {text : Chars} (hreturn : '\r' ∉ text) (hlength : text.length < size)
    (hbytes : (Utf8.encode text).length ≤ 8192) :
    pieces size (Utf8.encode text) = (if text = [] then [] else [text], none) := by
  have hone := take_start_encode hreturn hlength hbytes
  cases text with
  | nil => exact piecesFrom_of_nil hone _
  | cons c text =>
    have hpos : 0 < (Utf8.encode (c :: text)).length :=
      Nat.lt_of_lt_of_le (Nat.succ_pos _) (Utf8.length_le_length_encode (c :: text))
    obtain ⟨fuel, hfuel⟩ := Nat.exists_eq_add_one.2 hpos
    have hend : piecesFrom ⟨[], [], false, 0, []⟩ size (fuel + 1) = ([], none) :=
      piecesFrom_of_nil (take_of_bytes_nil (Nat.zero_lt_of_lt hlength) 0 0) fuel
    rw [pieces, piecesFrom_of_cons hone, hfuel, hend]
    rfl

end TextFile

end CellWeave
