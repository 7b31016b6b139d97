import SequenceApi.Text.Hex

/-!
# UTF-8

Files hold bytes, and the bytes of a text are its characters in UTF-8. Bytes that are no such text
have a first fault: a byte that starts no character, a character that another byte interrupts, or
one that the end cuts short.

## Main definitions

* `encoded`, `decoded`: the bytes of a text, and the text of bytes
* `Utf8Fault`: the first fault of bytes that are no text

## Main results

* `decoded_encoded`: the bytes of a text give the text back
-/

namespace SequenceApi.Text

/-- What is wrong at a place. -/
inductive Utf8Reason where
  | badStart
  | interrupted
  | cutShort
  deriving DecidableEq, Repr

/-- The first fault of bytes: its reason, the byte with which it starts and the place of that byte,
and the number of bytes that belong to it. -/
structure Utf8Fault where
  reason : Utf8Reason
  start : UInt8
  place : Nat
  length : Nat
  deriving DecidableEq, Repr

/-- What is known inside a character: its first byte, the number of bytes read, the number still to
come, and the range of the next one. -/
structure Utf8Pending where
  start : UInt8
  seen : Nat
  owed : Nat
  low : UInt8
  high : UInt8

/-- What the first byte of a character says: nothing more is to come after an ASCII character. -/
def Utf8Pending.ofStart? (b : UInt8) : Option Utf8Pending :=
  if b < 0x80 then some ⟨b, 1, 0, 0x80, 0xBF⟩
  else if b < 0xC2 then none
  else if b < 0xE0 then some ⟨b, 1, 1, 0x80, 0xBF⟩
  else if b = 0xE0 then some ⟨b, 1, 2, 0xA0, 0xBF⟩
  else if b = 0xED then some ⟨b, 1, 2, 0x80, 0x9F⟩
  else if b < 0xF0 then some ⟨b, 1, 2, 0x80, 0xBF⟩
  else if b = 0xF0 then some ⟨b, 1, 3, 0x90, 0xBF⟩
  else if b < 0xF4 then some ⟨b, 1, 3, 0x80, 0xBF⟩
  else if b = 0xF4 then some ⟨b, 1, 3, 0x80, 0x8F⟩
  else none

/-- The first fault of the bytes at a place and after it, where a character may be pending. -/
def utf8Fault? : Nat → Option Utf8Pending → List UInt8 → Option Utf8Fault
  | _, none, [] => none
  | place, some p, [] =>
    if p.owed = 0 then none else some ⟨.cutShort, p.start, place - p.seen, p.seen⟩
  | place, pending, b :: bs =>
    match pending with
    | some ⟨start, seen, owed + 1, low, high⟩ =>
      if low ≤ b ∧ b ≤ high then
        utf8Fault? (place + 1) (some ⟨start, seen + 1, owed, 0x80, 0xBF⟩) bs
      else some ⟨.interrupted, start, place - seen, seen⟩
    | _ =>
      match Utf8Pending.ofStart? b with
      | some p => utf8Fault? (place + 1) (some p) bs
      | none => some ⟨.badStart, b, place, 1⟩

/-- The first fault of bytes that are no text. -/
def utf8Fault (bytes : ByteArray) : Utf8Fault :=
  (utf8Fault? 0 none bytes.toList).getD ⟨.cutShort, 0, bytes.size, 0⟩

/-- The bytes of a text. -/
def encoded (s : String) : ByteArray :=
  s.toUTF8

/-- The text of bytes, or their first fault. -/
def decoded (bytes : ByteArray) : Except Utf8Fault String :=
  match String.fromUTF8? bytes with
  | some s => .ok s
  | none => .error (utf8Fault bytes)

/-- The wording of a reason. -/
def Utf8Reason.message : Utf8Reason → String
  | badStart => "invalid start byte"
  | interrupted => "invalid continuation byte"
  | cutShort => "unexpected end of data"

/-- The wording of a fault: one byte is shown, several are told by their places. -/
def Utf8Fault.message (f : Utf8Fault) : String :=
  let what :=
    if f.length = 1 then
      "byte 0x" ++ String.ofList (hexDigits 2 f.start.toNat) ++ s!" in position {f.place}"
    else s!"bytes in position {f.place}-{f.place + f.length - 1}"
  "'utf-8' codec can't decode " ++ what ++ ": " ++ f.reason.message

/-- The bytes of a text give the text back. -/
theorem decoded_encoded (s : String) : decoded (encoded s) = .ok s := by
  have h : String.fromUTF8? s.toByteArray = some s := by
    simp [String.fromUTF8?, String.fromUTF8, s.isValidUTF8]
  simp [decoded, encoded, h]

end SequenceApi.Text
