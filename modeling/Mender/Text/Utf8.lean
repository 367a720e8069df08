import Mender.Failure
import Mender.Text.Lines
import Mender.Text.Printable

/-!
# Bytes as text

Files and programs deal in bytes. `decode` reads them as UTF-8 and refuses bytes that are not;
`decodeLossy` puts a replacement character in their place. Bytes that cannot be decoded are told
apart by how many of them start a character that is not completed.
-/

namespace Mender.Utf8

/-- Bytes. -/
abbrev Bytes := List UInt8

/-- The bytes of a text. -/
def encode (s : String) : Bytes :=
  s.toUTF8.toList

/-- Why bytes are no text. -/
inductive Reason where
  | start
  | continuation
  | endOfData
  deriving DecidableEq, Repr

/-- A reason in words. -/
def Reason.text : Reason → String
  | .start => "invalid start byte"
  | .continuation => "invalid continuation byte"
  | .endOfData => "unexpected end of data"

/-- What the next bytes are: a character of a length, or some bytes that are none. -/
inductive Next where
  | char (c : Char) (length : Nat)
  | invalid (length : Nat) (reason : Reason)
  deriving DecidableEq, Repr

/-- The lowest and highest byte that may follow a first byte, and how many follow in all. -/
def shape (first : Nat) : Option (Nat × Nat × Nat) :=
  if first < 0xC2 then none
  else if first < 0xE0 then some (0x80, 0xBF, 1)
  else if first = 0xE0 then some (0xA0, 0xBF, 2)
  else if first = 0xED then some (0x80, 0x9F, 2)
  else if first < 0xF0 then some (0x80, 0xBF, 2)
  else if first = 0xF0 then some (0x90, 0xBF, 3)
  else if first < 0xF4 then some (0x80, 0xBF, 3)
  else if first = 0xF4 then some (0x80, 0x8F, 3)
  else none

/-- Reads the bytes that follow a first byte, of which `left` are still to come. -/
def follow (value length : Nat) : Nat → Nat → Nat → Bytes → Next
  | 0, _, _, _ => .char (Char.ofNat value) length
  | _, _, _, [] => .invalid length .endOfData
  | left + 1, low, high, b :: bs =>
    if low ≤ b.toNat && b.toNat ≤ high then
      follow (value * 64 + b.toNat % 64) (length + 1) left 0x80 0xBF bs
    else .invalid length .continuation

/-- The bits of a first byte that belong to the character, by how many bytes follow. -/
def firstBits (first following : Nat) : Nat :=
  first % Nat.pow 2 (6 - following)

/-- What the next bytes are. -/
def next (first : UInt8) (rest : Bytes) : Next :=
  let n := first.toNat
  if n < 0x80 then .char (Char.ofNat n) 1
  else
    match shape n with
    | none => .invalid 1 .start
    | some (low, high, following) => follow (firstBits n following) 1 following low high rest

/-- Bytes that are no text, with where they stand. -/
structure Invalid where
  position : Nat
  bytes : Bytes
  reason : Reason
  deriving DecidableEq, Repr

/-- The characters and the stretches that are none, when `skip` bytes belong to the last of them. -/
def pieces : Nat → Nat → Bytes → List (Except Invalid Char)
  | _, _, [] => []
  | skip + 1, position, _ :: bs => pieces skip (position + 1) bs
  | 0, position, b :: bs =>
    match next b bs with
    | .char c length => .ok c :: pieces (length - 1) (position + 1) bs
    | .invalid length reason =>
      .error ⟨position, (b :: bs).take length, reason⟩ :: pieces (length - 1) (position + 1) bs

/-- The failure of bytes that are no text. -/
def Invalid.failure (i : Invalid) : Failure :=
  let place := match i.bytes with
    | [b] => s!"byte 0x{String.ofList (Text.hexPadded 2 b.toNat)} in position {i.position}"
    | bytes => s!"bytes in position {i.position}-{i.position + bytes.length - 1}"
  ⟨.decoding, s!"'utf-8' codec can't decode {place}: {i.reason.text}"⟩

/-- The text of bytes, or the first stretch that is no text. -/
def decode (bs : Bytes) : Except Failure String :=
  match (pieces 0 0 bs).mapM id with
  | .ok cs => .ok (String.ofList cs)
  | .error i => .error i.failure

/-- The text of bytes with a mark in place of what is no text. -/
def decodeLossy (bs : Bytes) : String :=
  String.ofList ((pieces 0 0 bs).map fun
    | .ok c => c
    | .error _ => '\ufffd')

/-- The value of a hexadecimal digit in lower case. -/
def hexValue (c : Char) : Nat :=
  "0123456789abcdef".toList.idxOf c

/-- Bytes in hexadecimal, two digits each. -/
def hex (bs : Bytes) : String :=
  String.ofList (bs.flatMap fun b => Text.hexPadded 2 b.toNat)

/-- The bytes that hexadecimal digits write. -/
def ofHex : List Char → Bytes
  | x :: y :: rest => UInt8.ofNat (16 * hexValue x + hexValue y) :: ofHex rest
  | _ => []

/-- A text whose line endings are all line feeds. -/
def withUnixLines (s : String) : String :=
  String.ofList (Text.universalNewlines s.toList)

end Mender.Utf8
