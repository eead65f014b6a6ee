import Depot.Fault
import Depot.Text.Utf8

namespace Depot.Connection

/-- Characters that a written value never holds bare. -/
def isReserved (c : Char) : Bool := c = '%' || c = ';' || c = '=' || c = '\\'

/-- Characters that a backslash may precede. -/
def isQuotable (c : Char) : Bool := c = ';' || c = '=' || c = '\\'

def escapeChar (c : Char) : List Char :=
  if isReserved c then ['%', Text.hexDigitUpper (c.toNat / 16), Text.hexDigitUpper (c.toNat % 16)]
  else [c]

def escape (value : String) : String :=
  String.ofList (value.toList.flatMap escapeChar)

/-- What a reader meets in a value, from left to right. -/
inductive Piece where
  | plain (c : Char)
  /-- A backslash and the character it protects. -/
  | guarded (c : Char)
  /-- A percent sign and two digits. -/
  | octet (b : UInt8)
  /-- A percent sign that begins no escape; nothing after it is read. -/
  | stray
deriving DecidableEq, Repr

def hexPair? (a b : Char) : Option UInt8 :=
  match Text.hexValue? a, Text.hexValue? b with
  | some high, some low => some (UInt8.ofNat (16 * high + low))
  | _, _ => none

def pieces : List Char → List Piece
  | [] => []
  | '\\' :: c :: rest =>
    if isQuotable c then .guarded c :: pieces rest else .plain '\\' :: pieces (c :: rest)
  | '%' :: a :: b :: rest =>
    match hexPair? a b with
    | some octet => .octet octet :: pieces rest
    | none => [.stray]
  | '%' :: _ => [.stray]
  | c :: rest => .plain c :: pieces rest

/-- The text of a run of bytes collected in reverse, or else the position where the run began. -/
def closeRun (start : Nat) (run : Bytes) : Except Nat (List Char) :=
  match Utf8.decode? run.reverse with
  | some s => .ok s.toList
  | none => .error start

/-- The text that pieces stand for. The run between two guarded characters is decoded as a whole;
`start` is where it begins and `position` where the next piece stands. An error is the position of a
stray percent sign or the start of a run that does not decode. -/
def joinFrom (start position : Nat) (run : Bytes) : List Piece → Except Nat (List Char)
  | [] => closeRun start run
  | .plain c :: rest => joinFrom start (position + 1) ((String.utf8EncodeChar c).reverse ++ run) rest
  | .octet b :: rest => joinFrom start (position + 3) (b :: run) rest
  | .guarded c :: rest =>
    match closeRun start run with
    | .error place => .error place
    | .ok before =>
      match joinFrom (position + 2) (position + 2) [] rest with
      | .error place => .error place
      | .ok after => .ok (before ++ c :: after)
  | .stray :: _ => .error position

/-- The value that a text spells, or the place where its spelling fails. -/
def readValue (raw : List Char) : Except Nat (List Char) := joinFrom 0 0 [] (pieces raw)

/-- `offset` is the place of the text within its segment. -/
def unescape (segment raw : String) (offset : Int) : Outcome String :=
  match readValue raw.toList with
  | .ok value => .ok (String.ofList value)
  | .error place => .error (.unescapedDelimiter segment (offset + place))

end Depot.Connection
