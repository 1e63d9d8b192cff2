import PlayServer.Text.Utf8

/-!
# Bodies: writing fields and reading them back

A body is written as a list of typed fields. A cursor reads it: each read either takes exactly
the bytes it needs or takes none and leaves the cursor where it was. A short text is one length
byte and then that many bytes of UTF-8; written, it is clipped to 255 bytes.
-/

namespace PlayServer

/-- One field of a body. -/
inductive Field where
  | u8 (value : UInt8)
  | u16 (value : UInt16)
  | u32 (value : UInt32)
  | u64 (value : UInt64)
  | shortText (value : String)
  | raw (value : Bytes)
  deriving DecidableEq, Repr

/-- The longest short text. -/
def maxShortText : Nat := 255

/-- A short text: its length and then its bytes, clipped to what one length byte can tell. -/
def encodeShortText (s : String) : Bytes :=
  let bs := Text.clip maxShortText s
  UInt8.ofNat bs.length :: bs

namespace Field

/-- The bytes of a field. -/
def encode : Field → Bytes
  | u8 value => BigEndian.encode 1 value.toNat
  | u16 value => BigEndian.encode 2 value.toNat
  | u32 value => BigEndian.encode 4 value.toNat
  | u64 value => BigEndian.encode 8 value.toNat
  | shortText value => encodeShortText value
  | raw value => value

/-- The body made of a list of fields. -/
def encodeAll (fields : List Field) : Bytes := fields.flatMap encode

end Field

/-- Why a body cannot be read. -/
inductive BodyError where
  /-- A field needs more bytes than are left. -/
  | truncated (needed available : Nat)
  /-- The body begins with another message type than expected. -/
  | unexpectedType (found : UInt8)
  /-- A text field does not hold UTF-8. -/
  | invalidText (field : String)
  deriving DecidableEq, Repr

/-- The wording of a body error. -/
def BodyError.message : BodyError → String
  | truncated needed available => s!"body truncated: need {needed} bytes, have {available}"
  | unexpectedType found => "unexpected message type 0x" ++ hexNumeral 2 found.toNat
  | invalidText field => s!"invalid utf-8 in {field}"

/-- A place in a body that is being read. -/
structure Cursor where
  data : Bytes
  position : Nat := 0
  deriving Repr

namespace Cursor

/-- The bytes not read yet. -/
def remaining (c : Cursor) : Bytes := c.data.drop c.position

/-- Whether any byte is left. -/
def hasRemaining (c : Cursor) : Bool := c.position < c.data.length

/-- Takes the next `n` bytes; with fewer left it takes none. -/
def read (n : Nat) (c : Cursor) : Option Bytes × Cursor :=
  if c.position + n ≤ c.data.length then
    (some (c.remaining.take n), { c with position := c.position + n })
  else (none, c)

/-- Takes a number of `width` bytes. -/
def number (width : Nat) (c : Cursor) : Option Nat × Cursor :=
  let (bs, c) := c.read width
  (bs.map BigEndian.decode, c)

/-- Takes one byte. -/
def u8 (c : Cursor) : Option UInt8 × Cursor :=
  let (n, c) := c.number 1
  (n.map UInt8.ofNat, c)

/-- Takes a 16-bit number. -/
def u16 (c : Cursor) : Option UInt16 × Cursor :=
  let (n, c) := c.number 2
  (n.map UInt16.ofNat, c)

/-- Takes a 32-bit number. -/
def u32 (c : Cursor) : Option UInt32 × Cursor :=
  let (n, c) := c.number 4
  (n.map UInt32.ofNat, c)

/-- Takes a 64-bit number. -/
def u64 (c : Cursor) : Option UInt64 × Cursor :=
  let (n, c) := c.number 8
  (n.map UInt64.ofNat, c)

/-- Takes a short text. When its bytes are cut off, the length byte counts as read. -/
def shortText (field : String) (c : Cursor) : Except BodyError String × Cursor :=
  match c.u8 with
  | (none, c) => (.error (.truncated 1 c.remaining.length), c)
  | (some length, c) =>
    match c.read length.toNat with
    | (none, c) => (.error (.truncated length.toNat c.remaining.length), c)
    | (some bs, c) =>
      match ofUtf8? bs with
      | some text => (.ok text, c)
      | none => (.error (.invalidText field), c)

end Cursor

end PlayServer
