import CellWeave.Proofs.Batch
import CellWeave.Text.Utf8
import Mathlib.Tactic.SplitIfs
/-!
# Texts and their bytes

The bytes of a text are decoded to the text, in whatever blocks they come: a block that ends in the
middle of a character leaves the bytes of that character for the next one. Bytes that are decoded to
their end are those of the text that they are decoded to.
-/

namespace CellWeave.Utf8

@[simp] theorem encode_nil : encode [] = [] :=
  rfl

theorem encode_cons (c : Char) (text : Chars) :
    encode (c :: text) = String.utf8EncodeChar c ++ encode text :=
  List.flatMap_cons

/-! ## One character -/

theorem toNat_ofNat {code : Nat} (h : code.isValidChar) : (Char.ofNat code).toNat = code := by
  rw [Char.ofNat, dif_pos h]
  exact UInt32.toNat_ofNatLT ..

theorem isValidChar_toNat (c : Char) : c.toNat.isValidChar :=
  c.valid

/-- The bytes of a character by the size of its code. -/
theorem encodeChar_eq (c : Char) : String.utf8EncodeChar c =
    let code := c.toNat
    if code < 0x80 then [.ofNat code]
    else if code < 0x800 then [.ofNat (code / 64 % 32 + 192), .ofNat (code % 64 + 128)]
    else if code < 0x10000 then
      [.ofNat (code / 4096 % 16 + 224), .ofNat (code / 64 % 64 + 128), .ofNat (code % 64 + 128)]
    else
      [.ofNat (code / 262144 % 8 + 240), .ofNat (code / 4096 % 64 + 128),
        .ofNat (code / 64 % 64 + 128), .ofNat (code % 64 + 128)] := by
  simp only [String.utf8EncodeChar, Char.toNat_val, Nat.lt_iff_le_pred (by decide : 0 < 0x80),
    Nat.lt_iff_le_pred (by decide : 0 < 0x800), Nat.lt_iff_le_pred (by decide : 0 < 0x10000)]

theorem isTail_iff {byte : UInt8} : isTail byte = true ↔ 128 ≤ byte.toNat ∧ byte.toNat < 192 := by
  simp only [isTail, Bool.and_eq_true, decide_eq_true_eq, UInt8.le_iff_toNat_le,
    UInt8.lt_iff_toNat_lt]
  exact Iff.rfl

theorem fitsSecond_iff {first second : UInt8} : fitsSecond first second = true ↔
    isTail second = true ∧ (first.toNat = 224 → 160 ≤ second.toNat) ∧
      (first.toNat = 237 → second.toNat < 160) ∧ (first.toNat = 240 → 144 ≤ second.toNat) ∧
      (first.toNat = 244 → second.toNat < 144) := by
  have hfirst (byte : UInt8) : first = byte ↔ first.toNat = byte.toNat := UInt8.toNat_inj.symm
  rw [fitsSecond, Bool.and_eq_true, and_congr_right_iff]
  intro _
  simp only [hfirst, UInt8.le_iff_toNat_le, UInt8.lt_iff_toNat_lt, UInt8.reduceToNat]
  split_ifs <;> simp only [decide_eq_true_eq, true_iff] <;> omega

/-- The first byte says how many come after it. -/
theorem headOf_eq (first : UInt8) (rest : List UInt8) : headOf first rest =
    if first.toNat < 128 then .char (Char.ofNat first.toNat) 1
    else if first.toNat < 194 then .bad .startByte 1
    else if first.toNat < 224 then headTwo first rest
    else if first.toNat < 240 then headThree first rest
    else if first.toNat < 245 then headFour first rest
    else .bad .startByte 1 := by
  simp only [headOf, UInt8.lt_iff_toNat_lt]
  rfl

/-- The forms that the bytes of a character have. -/
inductive Form (c : Char) (first : UInt8) : List UInt8 → Prop where
  | one (hfirst : first.toNat < 128) (hcode : c.toNat = first.toNat) : Form c first []
  | two {second : UInt8} (hfirst : 194 ≤ first.toNat ∧ first.toNat < 224)
    (hsecond : isTail second = true)
    (hcode : c.toNat = (first.toNat - 0xC0) * 64 + (second.toNat - 0x80)) :
    Form c first [second]
  | three {second third : UInt8} (hfirst : 224 ≤ first.toNat ∧ first.toNat < 240)
    (hsecond : fitsSecond first second = true) (hthird : isTail third = true)
    (hcode : c.toNat =
      ((first.toNat - 0xE0) * 64 + (second.toNat - 0x80)) * 64 + (third.toNat - 0x80)) :
    Form c first [second, third]
  | four {second third fourth : UInt8} (hfirst : 240 ≤ first.toNat ∧ first.toNat < 245)
    (hsecond : fitsSecond first second = true) (hthird : isTail third = true)
    (hfourth : isTail fourth = true)
    (hcode : c.toNat = (((first.toNat - 0xF0) * 64 + (second.toNat - 0x80)) * 64 +
      (third.toNat - 0x80)) * 64 + (fourth.toNat - 0x80)) :
    Form c first [second, third, fourth]

variable {c : Char} {first : UInt8} {tails : List UInt8}

theorem ofNat_eq_iff {n : Nat} (h : n < 256) (byte : UInt8) :
    UInt8.ofNat n = byte ↔ n = byte.toNat := by
  rw [← UInt8.toNat_inj, UInt8.toNat_ofNat_of_lt' h]

theorem Form.encodeChar_eq (h : Form c first tails) : String.utf8EncodeChar c = first :: tails := by
  rw [Utf8.encodeChar_eq]
  cases h with
  | one hfirst hcode =>
    rw [if_pos (by omega), hcode, UInt8.ofNat_toNat]
  | two hfirst hsecond hcode =>
    rw [isTail_iff] at hsecond
    rw [if_neg (by omega), if_pos (by omega)]
    simp only [List.cons.injEq, and_true]
    constructor <;> rw [ofNat_eq_iff] <;> omega
  | three hfirst hsecond hthird hcode =>
    rw [isTail_iff] at hthird
    rw [fitsSecond_iff, isTail_iff] at hsecond
    rw [if_neg (by omega), if_neg (by omega), if_pos (by omega)]
    simp only [List.cons.injEq, and_true]
    refine ⟨?_, ?_, ?_⟩ <;> rw [ofNat_eq_iff] <;> omega
  | four hfirst hsecond hthird hfourth hcode =>
    rw [isTail_iff] at hthird hfourth
    rw [fitsSecond_iff, isTail_iff] at hsecond
    rw [if_neg (by omega), if_neg (by omega), if_neg (by omega)]
    simp only [List.cons.injEq, and_true]
    refine ⟨?_, ?_, ?_, ?_⟩ <;> rw [ofNat_eq_iff] <;> omega

theorem toNat_ofNat_byte {n : Nat} (h : n < 256) : (UInt8.ofNat n).toNat = n :=
  UInt8.toNat_ofNat_of_lt' h

/-- Every character has a form. -/
theorem exists_form (c : Char) : ∃ first tails, Form c first tails := by
  have hvalid := isValidChar_toNat c
  have htail (n : Nat) : isTail (.ofNat (n % 64 + 128)) = true := by
    rw [isTail_iff, toNat_ofNat_byte] <;> omega
  have hbyte (n : Nat) : (UInt8.ofNat (n % 64 + 128)).toNat = n % 64 + 128 :=
    toNat_ofNat_byte (by omega)
  by_cases hone : c.toNat < 0x80
  · exact ⟨.ofNat c.toNat, _, .one (by rw [toNat_ofNat_byte] <;> omega)
      (by rw [toNat_ofNat_byte]; omega)⟩
  by_cases htwo : c.toNat < 0x800
  · have hfirst : (UInt8.ofNat (c.toNat / 64 + 192)).toNat = c.toNat / 64 + 192 :=
      toNat_ofNat_byte (by omega)
    exact ⟨.ofNat (c.toNat / 64 + 192), _,
      .two (by rw [hfirst]; omega) (htail c.toNat) (by rw [hfirst, hbyte]; omega)⟩
  by_cases hthree : c.toNat < 0x10000
  · have hfirst : (UInt8.ofNat (c.toNat / 4096 + 224)).toNat = c.toNat / 4096 + 224 :=
      toNat_ofNat_byte (by omega)
    refine ⟨.ofNat (c.toNat / 4096 + 224), _, .three (by rw [hfirst]; omega)
      (fitsSecond_iff.2 ⟨htail (c.toNat / 64), ?_⟩) (htail c.toNat) ?_⟩
    · rw [hfirst, hbyte]
      omega
    · rw [hfirst, hbyte, hbyte]
      omega
  · have hfirst : (UInt8.ofNat (c.toNat / 262144 + 240)).toNat = c.toNat / 262144 + 240 :=
      toNat_ofNat_byte (by omega)
    refine ⟨.ofNat (c.toNat / 262144 + 240), _, .four (by rw [hfirst]; omega)
      (fitsSecond_iff.2 ⟨htail (c.toNat / 4096), ?_⟩) (htail (c.toNat / 64)) (htail c.toNat) ?_⟩
    · rw [hfirst, hbyte]
      omega
    · rw [hfirst, hbyte, hbyte, hbyte]
      omega

/-- The bytes of a character are read as it, whatever comes after them. -/
theorem Form.headOf_append (h : Form c first tails) (after : List UInt8) :
    headOf first (tails ++ after) = .char c (tails.length + 1) := by
  rw [headOf_eq]
  cases h with
  | one hfirst hcode =>
    rw [if_pos hfirst, ← hcode, Char.ofNat_toNat]
    rfl
  | two hfirst hsecond hcode =>
    rw [if_neg (by omega), if_neg (by omega), if_pos hfirst.2]
    simp [headTwo, hsecond, join, ← hcode]
  | three hfirst hsecond hthird hcode =>
    rw [if_neg (by omega), if_neg (by omega), if_neg (by omega), if_pos hfirst.2]
    simp [headThree, hsecond, hthird, join, ← hcode]
  | four hfirst hsecond hthird hfourth hcode =>
    rw [if_neg (by omega), if_neg (by omega), if_neg (by omega), if_neg (by omega),
      if_pos hfirst.2]
    simp [headFour, hsecond, hthird, hfourth, join, ← hcode]

/-- The first bytes of a character are incomplete. -/
theorem Form.headOf_front {front back : List UInt8} (h : Form c first (front ++ back))
    (hback : back ≠ []) : headOf first front = .incomplete := by
  rw [headOf_eq]
  generalize htails : front ++ back = tails at h
  cases h with
  | one => exact absurd (List.append_eq_nil_iff.1 htails).2 hback
  | two hfirst hsecond hcode =>
    rw [if_neg (by omega), if_neg (by omega), if_pos hfirst.2]
    rcases front with _ | ⟨_, front⟩ <;> simp_all [headTwo]
  | three hfirst hsecond hthird hcode =>
    rw [if_neg (by omega), if_neg (by omega), if_neg (by omega), if_pos hfirst.2]
    rcases front with _ | ⟨_, _ | ⟨_, front⟩⟩ <;> simp_all [headThree]
  | four hfirst hsecond hthird hfourth hcode =>
    rw [if_neg (by omega), if_neg (by omega), if_neg (by omega), if_neg (by omega),
      if_pos hfirst.2]
    rcases front with _ | ⟨_, _ | ⟨_, _ | ⟨_, front⟩⟩⟩ <;> simp_all [headFour]

theorem form_of_headTwo {rest : List UInt8} {width : Nat}
    (hfirst : 194 ≤ first.toNat ∧ first.toNat < 224) (h : headTwo first rest = .char c width) :
    ∃ tails after, rest = tails ++ after ∧ Form c first tails ∧ width = tails.length + 1 := by
  unfold headTwo at h
  split at h
  · cases h
  · next second after =>
    split at h
    · next hsecond =>
      obtain ⟨rfl, rfl⟩ := Head.char.inj h
      have htail := isTail_iff.1 hsecond
      exact ⟨[second], after, rfl, .two hfirst hsecond
        (toNat_ofNat (.inl (by simp only [List.foldl]; omega))), rfl⟩
    · cases h

theorem form_of_headThree {rest : List UInt8} {width : Nat}
    (hfirst : 224 ≤ first.toNat ∧ first.toNat < 240) (h : headThree first rest = .char c width) :
    ∃ tails after, rest = tails ++ after ∧ Form c first tails ∧ width = tails.length + 1 := by
  unfold headThree at h
  split at h
  · cases h
  · next second rest =>
    split_ifs at h with hmisfit
    have hsecond : fitsSecond first second = true := by simpa using hmisfit
    split at h
    · cases h
    · next third after =>
      split_ifs at h with hthird
      obtain ⟨rfl, rfl⟩ := Head.char.inj h
      have htail := isTail_iff.1 hthird
      have hfits := fitsSecond_iff.1 hsecond
      rw [isTail_iff] at hfits
      exact ⟨[second, third], after, rfl, .three hfirst hsecond hthird
        (toNat_ofNat (by simp only [List.foldl]; omega)), rfl⟩

theorem form_of_headFour {rest : List UInt8} {width : Nat}
    (hfirst : 240 ≤ first.toNat ∧ first.toNat < 245) (h : headFour first rest = .char c width) :
    ∃ tails after, rest = tails ++ after ∧ Form c first tails ∧ width = tails.length + 1 := by
  unfold headFour at h
  split at h
  · cases h
  · next second rest =>
    split_ifs at h with hmisfit
    have hsecond : fitsSecond first second = true := by simpa using hmisfit
    split at h
    · cases h
    · next third rest =>
      split_ifs at h with hmissing
      have hthird : isTail third = true := by simpa using hmissing
      split at h
      · cases h
      · next fourth after =>
        split_ifs at h with hfourth
        obtain ⟨rfl, rfl⟩ := Head.char.inj h
        have htail := isTail_iff.1 hthird
        have hlast := isTail_iff.1 hfourth
        have hfits := fitsSecond_iff.1 hsecond
        rw [isTail_iff] at hfits
        exact ⟨[second, third, fourth], after, rfl, .four hfirst hsecond hthird hfourth
          (toNat_ofNat (by simp only [List.foldl]; omega)), rfl⟩

/-- What is read as a character are its bytes. -/
theorem form_of_headOf {rest : List UInt8} {width : Nat} (h : headOf first rest = .char c width) :
    ∃ tails after, rest = tails ++ after ∧ Form c first tails ∧ width = tails.length + 1 := by
  rw [headOf_eq] at h
  split_ifs at h with hone hbad htwo hthree hfour
  · obtain ⟨rfl, rfl⟩ := Head.char.inj h
    exact ⟨[], rest, rfl, .one hone (toNat_ofNat (.inl (by omega))), rfl⟩
  · exact form_of_headTwo ⟨by omega, htwo⟩ h
  · exact form_of_headThree ⟨by omega, hthree⟩ h
  · exact form_of_headFour ⟨by omega, hfour⟩ h

/-! ## Blocks -/

theorem Form.encode_cons (h : Form c first tails) (text : Chars) :
    encode (c :: text) = first :: (tails ++ encode text) := by
  rw [Utf8.encode_cons, h.encodeChar_eq, List.cons_append]

/-- A form in front is decoded as its character. -/
theorem Form.decodeBlock_append (h : Form c first tails) (isLast : Bool) (position : Nat)
    (after : List UInt8) : decodeBlock isLast position (first :: (tails ++ after)) =
      (decodeBlock isLast (position + (tails.length + 1)) after).map fun (text, left) ↦
        (c :: text, left) := by
  rw [decodeBlock, h.headOf_append]
  dsimp only
  rw [Nat.add_sub_cancel, List.drop_left]
  cases decodeBlock isLast (position + (tails.length + 1)) after <;> rfl

/-- The front of a form is left over, and is a fault at the end. -/
theorem Form.decodeBlock_front {front back : List UInt8} (h : Form c first (front ++ back))
    (hback : back ≠ []) (position : Nat) :
    decodeBlock false position (first :: front) = .ok ([], first :: front) := by
  rw [decodeBlock, h.headOf_front hback]
  rfl

/-- A block of the bytes of a text is decoded to the characters that it has all bytes of. -/
theorem decodeBlock_of_append {isLast : Bool} {bytes more : List UInt8} {text : Chars}
    (h : bytes ++ more = encode text) (hlast : isLast = true → more = []) (position : Nat) :
    ∃ front back left, text = front ++ back ∧ left ++ more = encode back ∧
      decodeBlock isLast position bytes = .ok (front, left) := by
  induction text generalizing bytes position with
  | nil =>
    obtain ⟨rfl, rfl⟩ := List.append_eq_nil_iff.1 (h.trans encode_nil)
    exact ⟨[], [], [], rfl, encode_nil.symm, by rw [decodeBlock]⟩
  | cons c text ih =>
    obtain ⟨first, tails, hform⟩ := exists_form c
    rw [hform.encode_cons] at h
    cases bytes with
    | nil => exact ⟨[], c :: text, [], rfl, by rw [hform.encode_cons, ← h], by rw [decodeBlock]⟩
    | cons byte bytes =>
      obtain ⟨rfl, hrest⟩ := List.cons.inj h
      -- the block has the whole character, or ends in the middle of it
      obtain ⟨after, rfl, hafter⟩ | ⟨missing, rfl, hmissing⟩ : (∃ after, bytes = tails ++ after ∧
          after ++ more = encode text) ∨ ∃ missing, tails = bytes ++ missing ∧ missing ≠ [] := by
        rcases List.append_eq_append_iff.1 hrest with ⟨missing, rfl, rfl⟩ | ⟨after, rfl, hafter⟩
        · by_cases hmissing : missing = []
          · exact .inl ⟨[], by simp [hmissing], by simp [hmissing]⟩
          · exact .inr ⟨missing, rfl, hmissing⟩
        · exact .inl ⟨after, rfl, hafter.symm⟩
      · obtain ⟨front, back, left, rfl, hleft, hdecode⟩ := ih hafter (position + (tails.length + 1))
        refine ⟨c :: front, back, left, rfl, hleft, ?_⟩
        rw [hform.decodeBlock_append, hdecode]
        rfl
      · have hmore : more ≠ [] := by
          rintro rfl
          have hnil : bytes ++ (missing ++ encode text) = bytes ++ [] := by
            rw [← List.append_assoc]
            exact hrest.symm
          exact hmissing (List.append_eq_nil_iff.1 (List.append_cancel_left hnil)).1
        obtain rfl : isLast = false := by
          simpa using mt hlast hmore
        exact ⟨[], c :: text, byte :: bytes, rfl, by rw [hform.encode_cons, ← h],
          hform.decodeBlock_front hmissing position⟩

/-- Decoding takes nothing away, and leaves nothing at the end of the last block. -/
theorem encode_of_decodeBlock {isLast : Bool} {position : Nat} {bytes left : List UInt8}
    {text : Chars} (h : decodeBlock isLast position bytes = .ok (text, left)) :
    bytes = encode text ++ left ∧ (isLast = true → left = []) := by
  fun_induction decodeBlock isLast position bytes generalizing text left with
  | case1 =>
    obtain ⟨rfl, rfl⟩ := Prod.mk.inj (Except.ok.inj h)
    exact ⟨by rw [encode_nil, List.append_nil], fun _ ↦ rfl⟩
  | case2 position first rest c width hhead ih =>
    obtain ⟨tails, after, rfl, hform, rfl⟩ := form_of_headOf hhead
    rw [Nat.add_sub_cancel, List.drop_left] at h ih
    obtain ⟨⟨later, rest⟩, hlater, h⟩ := bind_eq_ok_iff.1 h
    obtain ⟨rfl, rfl⟩ := Prod.mk.inj (Except.ok.inj h)
    obtain ⟨rfl, hlast⟩ := ih hlater
    exact ⟨by rw [hform.encode_cons]; simp, hlast⟩
  | case3 => exact absurd h nofun
  | case4 _ _ _ _ hlast =>
    obtain ⟨rfl, rfl⟩ := Prod.mk.inj (Except.ok.inj h)
    exact ⟨by rw [encode_nil, List.nil_append], fun h ↦ absurd h hlast⟩
  | case5 _ _ _ _ _ _ hstart =>
    rw [if_pos hstart] at h
    obtain ⟨rfl, rfl⟩ := Prod.mk.inj (Except.ok.inj h)
    refine ⟨by rw [encode_nil, List.nil_append], fun hlast ↦ ?_⟩
    simp [hlast] at hstart
  | case6 _ _ _ _ _ _ hstart =>
    rw [if_neg hstart] at h
    exact absurd h nofun

end CellWeave.Utf8
