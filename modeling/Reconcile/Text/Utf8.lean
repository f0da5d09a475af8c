import Reconcile.Text.Quoted

/-!
# Reading UTF-8

A byte sequence is read one character at a time. Where no character can be read, the fault covers
the longest start of a character that stands there, so that a strict reader can name the bytes and
a lenient one puts one replacement character for them.
-/

namespace Reconcile.Text.Utf8

/-- Why no character can be read. -/
inductive Reason where
  | badStart
  | badContinuation
  | cutShort

/-- What stands at the start of a byte sequence: a character or a fault, with the number of bytes
after the first that it takes. -/
inductive Reading where
  | char (c : Char) (more : Nat)
  | fault (reason : Reason) (more : Nat)

/-- How many bytes a reading takes after the first. -/
def Reading.more : Reading → Nat
  | char _ more => more
  | fault _ more => more

/-- Bytes that never start a character are refused; a lead byte tells how many bytes follow it. -/
def tailCount? (lead : Nat) : Option Nat :=
  if lead < 0x80 then some 0
  -- continuation bytes, and leads of overlong forms
  else if lead < 0xc2 then none
  else if lead < 0xe0 then some 1
  else if lead < 0xf0 then some 2
  else if lead < 0xf5 then some 3
  else none

/-- Whether a byte may follow the lead byte directly: no overlong form, no surrogate, nothing above
the last code point. -/
def mayFollow (lead byte : Nat) : Bool :=
  let low := if lead = 0xe0 then 0xa0 else if lead = 0xf0 then 0x90 else 0x80
  let high := if lead = 0xed then 0x9f else if lead = 0xf4 then 0x8f else 0xbf
  low ≤ byte && byte ≤ high

/-- Reads the `count` bytes that are still missing of a character whose bits so far are `bits`;
`taken` bytes follow the lead byte already. -/
def readTail (taken bits : Nat) : Nat → List UInt8 → Reading
  | 0, _ => .char (Char.ofNat bits) taken
  | _ + 1, [] => .fault .cutShort taken
  | count + 1, byte :: bytes =>
    if 0x80 ≤ byte.toNat && byte.toNat ≤ 0xbf then
      readTail (taken + 1) (bits * 64 + byte.toNat % 64) count bytes
    else .fault .badContinuation taken

/-- Reads what stands at the start of a non-empty byte sequence. -/
def read (lead : UInt8) (bytes : List UInt8) : Reading :=
  match tailCount? lead.toNat with
  | none => .fault .badStart 0
  | some 0 => .char (Char.ofNat lead.toNat) 0
  | some count =>
    match bytes with
    | [] => .fault .cutShort 0
    | byte :: _ =>
      if mayFollow lead.toNat byte.toNat then
        -- the lead byte keeps its lowest bits: five, four or three
        readTail 0 (lead.toNat % Nat.pow 2 (6 - count)) count bytes
      else .fault .badContinuation 0

/-- The character that stands for bytes which are no character. -/
def replacement : Char := '\ufffd'

/-- Every byte sequence read as text, faults replaced. -/
def decodeLenient : List UInt8 → List Char
  | [] => []
  | lead :: bytes =>
    let reading := read lead bytes
    (match reading with
      | .char c _ => c
      | .fault _ _ => replacement) :: decodeLenient (bytes.drop reading.more)
termination_by bytes => bytes.length
decreasing_by simp only [List.length_drop, List.length_cons]; omega

/-- Bytes that are not UTF-8: the first fault, where it starts, and how many bytes it covers. -/
structure Fault where
  reason : Reason
  first : UInt8
  position : Nat
  count : Nat

/-- The text of a byte sequence from `position` on, or the first fault. -/
def decodeFrom (position : Nat) : List UInt8 → Except Fault (List Char)
  | [] => .ok []
  | lead :: bytes =>
    match read lead bytes with
    | .char c more => (decodeFrom (position + more + 1) (bytes.drop more)).map (c :: ·)
    | .fault reason more => .error ⟨reason, lead, position, more + 1⟩
termination_by bytes => bytes.length
decreasing_by simp only [List.length_drop, List.length_cons]; omega

/-- The text of a byte sequence, or the first fault. -/
def decode (bytes : List UInt8) : Except Fault (List Char) :=
  decodeFrom 0 bytes

/-- The wording of a reason. -/
def Reason.message : Reason → String
  | badStart => "invalid start byte"
  | badContinuation => "invalid continuation byte"
  | cutShort => "unexpected end of data"

/-- The wording of a fault. It names the byte if it covers only one, and the positions of all of
them otherwise. -/
def Fault.message (fault : Fault) : String :=
  let place :=
    if fault.count = 1 then
      "byte 0x" ++ String.ofList (hexDigits 2 fault.first.toNat) ++ " in position "
        ++ toString fault.position
    else
      "bytes in position " ++ toString fault.position ++ "-"
        ++ toString (fault.position + fault.count - 1)
  "'utf-8' codec can't decode " ++ place ++ ": " ++ fault.reason.message

end Reconcile.Text.Utf8
