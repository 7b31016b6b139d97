/-!
# Base 64

Bytes are written as text by four characters for three bytes. A reader passes over characters
outside the alphabet. Pads count from the third character of a group on, and the text ends with the
pad that completes a group.

## Main definitions

* `sextet?`: the value of a character of the alphabet
* `base64Bytes?`: the bytes that a text writes
-/

namespace SequenceApi.Text

/-- The value of a character of the alphabet: capitals, small letters, digits, plus and slash. -/
def sextet? (c : Char) : Option Nat :=
  let n := c.toNat
  if 'A' ≤ c ∧ c ≤ 'Z' then some (n - 65)
  else if 'a' ≤ c ∧ c ≤ 'z' then some (n - 71)
  else if '0' ≤ c ∧ c ≤ '9' then some (n + 4)
  else if c = '+' then some 62
  else if c = '/' then some 63
  else none

/-- The bytes of the rest of a text inside a group: so many characters and pads of the group are
read, and their last bits, which `left` holds, are in no byte so far. -/
def bytesInGroup? (read left pads : Nat) : List Char → Option (List UInt8)
  | [] => if read = 0 then some [] else none
  | c :: cs =>
    if c == '=' then
      if read < 2 then bytesInGroup? read left pads cs
      else if read + pads < 3 then bytesInGroup? read left (pads + 1) cs
      else some []
    else
      match sextet? c with
      | none => bytesInGroup? read left pads cs
      | some v =>
        match read with
        | 0 => bytesInGroup? 1 v 0 cs
        | 1 => (bytesInGroup? 2 (v % 16) 0 cs).map (UInt8.ofNat (4 * left + v / 16) :: ·)
        | 2 => (bytesInGroup? 3 (v % 4) 0 cs).map (UInt8.ofNat (16 * left + v / 4) :: ·)
        | _ => (bytesInGroup? 0 0 0 cs).map (UInt8.ofNat (64 * left + v) :: ·)

/-- The bytes that a text writes. A group may lack a character only if pads stand for it. -/
def base64Bytes? (cs : List Char) : Option (List UInt8) :=
  bytesInGroup? 0 0 0 cs

end SequenceApi.Text
