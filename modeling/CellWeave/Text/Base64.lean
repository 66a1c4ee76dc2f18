import CellWeave.Text
/-!
# Bytes in base 64

Four digits are three bytes. Characters that are no digits are passed over. Equals signs in the
place of the last digits end the text.
-/

namespace CellWeave.Text

def base64Digits : Chars :=
  "ABCDEFGHIJKLMNOPQRSTUVWXYZabcdefghijklmnopqrstuvwxyz0123456789+/".toList

/-- The bytes of a text after `place` digits of a group of four. `carried` is the part of the last
digit that belongs to the next byte, and `signs` counts the equals signs since that digit. -/
def decodeBase64From (place carried signs : Nat) : Chars → Option (List UInt8)
  | [] => if place = 0 then some [] else none
  | c :: rest =>
    if c = '=' then
      if place < 2 then decodeBase64From place carried signs rest
      else if place + signs < 3 then decodeBase64From place carried (signs + 1) rest
      else some []
    else
      match base64Digits.idxOf? c with
      | none => decodeBase64From place carried signs rest
      | some digit =>
        if place = 0 then decodeBase64From 1 digit 0 rest
        else
          let unit := Nat.pow 4 (3 - place)
          let byte := carried * Nat.pow 4 place + digit / unit
          (decodeBase64From ((place + 1) % 4) (digit % unit) 0 rest).map (byte.toUInt8 :: ·)

def decodeBase64? (text : Chars) : Option (List UInt8) :=
  decodeBase64From 0 0 0 text

end CellWeave.Text
