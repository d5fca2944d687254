import LocoSounds.Text.Numeral

/-! Bytes written as text, in characters that stand for six bits each. -/

namespace LocoSounds

/-- The number below sixty-four that a character stands for. -/
def sixBits? (c : Char) : Option Nat :=
  if 'A' ≤ c ∧ c ≤ 'Z' then some (c.toNat - 'A'.toNat)
  else if 'a' ≤ c ∧ c ≤ 'z' then some (c.toNat - 'a'.toNat + 26)
  else if c.isDigit then some (digitValue c + 52)
  else if c = '+' then some 62
  else if c = '/' then some 63
  else none

/-- Bits that were read and make no byte yet. -/
structure HeldBits where
  value : Nat
  count : Nat
  deriving DecidableEq

namespace HeldBits

/-- No bits. -/
def empty : HeldBits := ⟨0, 0⟩

/-- The byte that six more bits complete, if they do, and the bits that are held after it. -/
def push (held : HeldBits) (six : Nat) : Option UInt8 × HeldBits :=
  let value := 64 * held.value + six
  match held.count with
  | 0 => (none, ⟨value, 6⟩)
  | 6 => (some (UInt8.ofNat (value / 16)), ⟨value % 16, 4⟩)
  | 4 => (some (UInt8.ofNat (value / 4)), ⟨value % 4, 2⟩)
  | _ => (some (UInt8.ofNat value), empty)

/-- The bits are what is left after a byte, which signs of padding take the place of. -/
def areLeftOver (held : HeldBits) : Bool := held.count = 4 || held.count = 2

end HeldBits

/-- The bytes that characters complete, behind held bits and a number of signs of padding. Each sign
takes the place of two bits, and nothing is read behind the sign that takes the place of the last.
Characters that stand for nothing are passed over. -/
def base64From (held : HeldBits) (padding : Nat) : List Char → Option (List UInt8)
  | [] => if held.count = 0 then some [] else none
  | c :: rest =>
    if c = '=' then
      if !held.areLeftOver then base64From held padding rest
      else if held.count ≤ 2 * (padding + 1) then some []
      else base64From held (padding + 1) rest
    else match sixBits? c with
      | none => base64From held padding rest
      | some six =>
        let (byte, held) := held.push six
        (base64From held 0 rest).map (byte.toList ++ ·)

/-- The bytes that a text of common characters stands for, if it ends with a byte. -/
def readBase64? (text : String) : Option (List UInt8) :=
  if text.toList.all fun c => c.toNat < 0x80 then base64From .empty 0 text.toList else none

end LocoSounds
