import Depot.Message

namespace Depot.Envelope

def wordLimit : Nat := 4294967296

def version : Nat := 1

/-- The bytes of a number below the limit. -/
def word (n : Nat) : Bytes :=
  [(n / 16777216).toUInt8, (n / 65536).toUInt8, (n / 256).toUInt8, n.toUInt8]

def wordFault : Fault := .raised .packing "'I' format requires 0 <= number <= 4294967295"

def writeWord (n : Nat) : Attempt Bytes :=
  if n < wordLimit then .ok (word n) else .error wordFault

def writeField (field : Bytes) : Attempt Bytes := do
  return (← writeWord field.length) ++ field

variable {τ : Type} [Textual τ]

/-- A text is encoded before it is known to be short enough. -/
def writeText (text : τ) : Attempt Bytes := do
  writeField (← Textual.encode text)

def writeProperties : List (τ × τ) → Attempt Bytes
  | [] => .ok []
  | (key, value) :: rest => do
    let key ← writeText key
    let value ← writeText value
    return key ++ value ++ (← writeProperties rest)

def writeId : Option τ → Attempt Bytes
  | none => .ok []
  | some id => writeText id

def write (m : Message τ) : Attempt Bytes := do
  let received ← writeWord m.received
  let id ← writeId m.id
  let content ← writeField m.content
  let count ← writeWord m.properties.size
  let properties ← writeProperties m.properties.entries
  return [version.toUInt8, if m.id.isSome then 1 else 0] ++ received ++ id ++ content ++ count ++ properties

/-- Why bytes are no message. -/
inductive Flaw where
  /-- Fewer than `size` bytes follow `offset`. -/
  | short (size offset total : Nat)
  /-- A field of this length goes beyond the end. -/
  | overrun (length : Nat)
  | version (number : Nat)
  | text (reason : String)
deriving DecidableEq, Repr

def Flaw.fault : Flaw → Fault
  | short size offset total =>
    .raised .value ("truncated message data: unpack_from requires a buffer of at least " ++
      toString (offset + size) ++ " bytes for unpacking " ++ toString size ++ " bytes at offset " ++
      toString offset ++ " (actual buffer size is " ++ toString total ++ ")")
  | overrun length =>
    .raised .value ("truncated message data: field of " ++ toString length ++ " bytes overruns buffer")
  | version number =>
    .raised .value ("message format version " ++ toString number ++ " is not supported")
  | text reason => .raised .decoding reason

/-- Bytes still to be read, of so many in all. -/
structure Cursor where
  total : Nat
  rest : Bytes

namespace Cursor

def offset (c : Cursor) : Nat := c.total - c.rest.length

def short {α : Type} (c : Cursor) (size : Nat) : Except Flaw α := .error (.short size c.offset c.total)

end Cursor

def wordOf (a b c d : UInt8) : Nat :=
  ((a.toNat * 256 + b.toNat) * 256 + c.toNat) * 256 + d.toNat

def readWord (cursor : Cursor) : Except Flaw (Nat × Cursor) :=
  match cursor.rest with
  | a :: b :: c :: d :: rest => .ok (wordOf a b c d, ⟨cursor.total, rest⟩)
  | _ => cursor.short 4

def readField (cursor : Cursor) : Except Flaw (Bytes × Cursor) := do
  let (length, cursor) ← readWord cursor
  let field := cursor.rest.take length
  if field.length < length then throw (.overrun length)
  return (field, ⟨cursor.total, cursor.rest.drop length⟩)

def textOf (field : Bytes) : Except Flaw String := (Utf8.decode field).mapError .text

/-- A property given again keeps its place and takes the later value. -/
def readProperties : Nat → Table String String → Cursor → Except Flaw (Table String String)
  | 0, read, _ => .ok read
  | count + 1, read, cursor => do
    let (key, cursor) ← readField cursor
    let (value, cursor) ← readField cursor
    let value ← textOf value
    let key ← textOf key
    readProperties count (read.put key value) cursor

/-- The version, the flags and the count of receipts. -/
def readHeader (cursor : Cursor) : Except Flaw (Nat × Nat × Nat × Cursor) :=
  match cursor.rest with
  | version :: flags :: a :: b :: c :: d :: rest =>
    .ok (version.toNat, flags.toNat, wordOf a b c d, ⟨cursor.total, rest⟩)
  | _ => cursor.short 6

def readId (flags : Nat) (cursor : Cursor) : Except Flaw (Option String × Cursor) :=
  if flags % 2 = 1 then do
    let (id, cursor) ← readField cursor
    return (some (← textOf id), cursor)
  else .ok (none, cursor)

def parse (data : Bytes) : Except Flaw Message := do
  let (number, flags, received, cursor) ← readHeader ⟨data.length, data⟩
  if number ≠ version then throw (.version number)
  let (id, cursor) ← readId flags cursor
  let (content, cursor) ← readField cursor
  let (count, cursor) ← readWord cursor
  let properties ← readProperties count .empty cursor
  return { content, id, properties, received }

def read (data : Bytes) : Attempt Message := (parse data).mapError Flaw.fault

end Depot.Envelope
