import Depot.Decimal.Places
import Depot.Fault
import Depot.Text.Digit

namespace Depot.Template

/-- What fills the places. -/
structure Supply where
  /-- The value whose fields places may name. -/
  named : Option Value
  /-- The value that no place has taken yet. -/
  next : Option Value

namespace Supply

/-- A text or a number has no fields. -/
def ofValue (v : Value) : Supply :=
  match v with
  | .list _ | .record _ => ⟨some v, some v⟩
  | v => ⟨none, some v⟩

def take (s : Supply) : Attempt (Value × Supply) :=
  match s.next with
  | some v => .ok (v, { s with next := none })
  | none => .error (.raised .type "not enough arguments for format string")

/-- The supply after a place has named a field. -/
def select (s : Supply) (name : String) : Attempt Supply :=
  match s.named with
  | none => .error (.raised .type "format requires a mapping")
  | some (.record fields) =>
    match (Value.record fields).field? name with
    | some v => .ok { s with next := some v }
    | none => .error (.raised .key name)
  | some v => .error (.raised .type (v.typeName ++ " indices must be integers or slices, not str"))

end Supply

structure Flags where
  left : Bool := false
  plus : Bool := false
  blank : Bool := false
  alternate : Bool := false
  zero : Bool := false

def Flags.add? (f : Flags) (c : Char) : Option Flags :=
  match c with
  | '-' => some { f with left := true }
  | '+' => some { f with plus := true }
  | ' ' => some { f with blank := true }
  | '#' => some { f with alternate := true }
  | '0' => some { f with zero := true }
  | _ => none

structure Place where
  flags : Flags
  width : Nat
  precision : Option Nat
  form : Char

def readFlags (f : Flags) : List Char → Flags × List Char
  | [] => (f, [])
  | c :: rest =>
    match f.add? c with
    | some f => readFlags f rest
    | none => (f, c :: rest)

/-- A name up to the closing parenthesis that matches, `depth` of them being open inside. -/
def readName (depth : Nat) : List Char → Option (List Char × List Char)
  | [] => none
  | ')' :: rest =>
    match depth with
    | 0 => some ([], rest)
    | depth + 1 => (readName depth rest).map fun r => (')' :: r.1, r.2)
  | c :: rest => (readName (if c = '(' then depth + 1 else depth) rest).map fun r => (c :: r.1, r.2)

def readSelection (s : Supply) (text : List Char) : Attempt (Supply × List Char) :=
  match text with
  | '(' :: rest =>
    if s.named.isNone then .error (.raised .type "format requires a mapping")
    else match readName 0 rest with
      | none => .error (.raised .value "incomplete format key")
      | some (name, rest) => (s.select (String.ofList name)).map fun s => (s, rest)
  | text => .ok (s, text)

def wholeNumber (v : Value) : Attempt Int :=
  match v with
  | .int n => .ok n
  | .bool b => .ok (if b then 1 else 0)
  | _ => .error (.raised .type "* wants int")

/-- A bound for the numbers of places: its name, the machine word it comes from, and the largest number. -/
structure Bound where
  name : String
  word : String
  largest : Nat

def widthBound : Bound := ⟨"width", "ssize_t", Nat.pow 2 63 - 1⟩

def precisionBound : Bound := ⟨"precision", "int", Nat.pow 2 31 - 1⟩

/-- A number written in the template, or taken from the supply for a star. -/
def readNumber (bound : Bound) (s : Supply) (text : List Char) :
    Attempt (Option Int × Supply × List Char) :=
  match text with
  | '*' :: rest => do
    let (v, s) ← s.take
    let n ← wholeNumber v
    if n < -bound.largest - 1 ∨ bound.largest < n then
      throw (.raised .overflow ("Python int too large to convert to C " ++ bound.word))
    return (some n, s, rest)
  | text =>
    let digits := text.takeWhile fun c => '0' ≤ c && c ≤ '9'
    let n := digits.foldl (fun n c => 10 * n + (c.toNat - '0'.toNat)) 0
    if bound.largest < n then .error (.raised .value (bound.name ++ " too big"))
    else .ok (if digits.isEmpty then none else some n, s, text.drop digits.length)

/-- What follows a point; nothing does if there is none. -/
def readPrecision (s : Supply) (text : List Char) : Attempt (Option Nat × Supply × List Char) :=
  match text with
  | '.' :: rest => do
    let (n, s, rest) ← readNumber precisionBound s rest
    return (some (n.getD 0).toNat, s, rest)
  | text => .ok (none, s, text)

/-- A letter for the size of a number says nothing. -/
def skipSize : List Char → List Char
  | 'h' :: rest => rest
  | 'l' :: rest => rest
  | 'L' :: rest => rest
  | text => text

def readPlace (s : Supply) (text : List Char) : Attempt (Place × Supply × List Char) := do
  let (s, text) ← readSelection s text
  let (flags, text) := readFlags {} text
  let (width, s, text) ← readNumber widthBound s text
  let width := width.getD 0
  let (precision, s, text) ← readPrecision s text
  match skipSize text with
  | [] => .error (.raised .value "incomplete format")
  | form :: rest =>
    .ok (⟨{ flags with left := flags.left || width < 0 }, width.natAbs, precision, form⟩, s, rest)

/-- A written value: its sign, a mark of its base, and the rest. -/
structure Written where
  sign : List Char := []
  base : List Char := []
  body : List Char

/-- As many characters or more do not fit in the memory. -/
def memory : Nat := Nat.pow 2 32

/-- Fills a value up to the width of its place, with a character after what comes first. -/
def Place.fill (p : Place) (filler : Char) (front body : List Text.Point) : Attempt (List Text.Point) :=
  let missing := p.width - (front.length + body.length)
  if memory ≤ p.width then .error (.raised .memory "")
  else if p.flags.left then .ok (front ++ body ++ List.replicate missing (.whole ' '))
  else .ok (front ++ List.replicate missing (.whole filler) ++ body)

/-- Zeros go behind the sign, blanks in front. -/
def Place.number (p : Place) (w : Written) : Attempt (List Text.Point) :=
  let front := (w.sign ++ w.base).map .whole
  let body := w.body.map .whole
  if p.flags.zero then p.fill '0' front body else p.fill ' ' [] (front ++ body)

def Place.signOf (p : Place) (negative : Bool) : List Char :=
  if negative then ['-'] else if p.flags.plus then ['+'] else if p.flags.blank then [' '] else []

/-- A text, cut to the precision. -/
def Place.text (p : Place) (s : List Char) : Attempt (List Text.Point) :=
  p.fill ' ' [] ((match p.precision with
    | none => s
    | some n => s.take n).map .whole)

/-- A text in ASCII, other characters by their codes. -/
def ascii (c : Char) : List Char :=
  let code := c.toNat
  if code < 128 then [c]
  else if code < 256 then ['\\', 'x'] ++ Text.hexFixed 2 code
  else if code < 65536 then ['\\', 'u'] ++ Text.hexFixed 4 code
  else ['\\', 'U'] ++ Text.hexFixed 8 code

def baseOf (form : Char) : Nat :=
  if form = 'o' then 8 else if form = 'x' || form = 'X' then 16 else 10

/-- At least as many digits as the precision says. -/
def Place.digits (p : Place) (n : Nat) : List Char :=
  let digits := Nat.toDigits (baseOf p.form) n
  let digits := if p.form = 'X' then digits.map Char.toUpper else digits
  List.replicate (p.precision.getD 0 - digits.length) '0' ++ digits

/-- Digits of a base behind its mark. Three characters of the largest precision are kept for the sign and
the mark. -/
def Place.integer (p : Place) (n : Int) : Attempt (List Text.Point) :=
  if precisionBound.largest - 3 < p.precision.getD 0 then
    .error (.raised .overflow "precision too large")
  else
    p.number
      { sign := p.signOf (n < 0)
        base := if p.flags.alternate && baseOf p.form ≠ 10 then ['0', p.form] else []
        body := p.digits n.natAbs }

/-- A number as a double; every whole number is one, or near to one. The exponent form has one digit more
than its precision, so that the largest precision wraps around to a single digit. -/
def Place.real (p : Place) (n : Int) : Attempt (List Text.Point) :=
  match Decimal.nearest? n.natAbs 1 with
  | none => .error (.raised .overflow "int too large to convert to float")
  | some x =>
    let size := x.toQuotient.1 / x.toQuotient.2
    let precision := p.precision.getD 6
    let style : Decimal.Style := ⟨p.flags.alternate, false⟩
    let form := p.form.toLower
    let body :=
      if form = 'f' then Decimal.withPlaces style precision size
      else if form = 'e' then
        Decimal.withExponent style (if precision = precisionBound.largest then 0 else precision) size
      else Decimal.withDigits p.flags.alternate precision size
    let body := if p.form.isUpper then body.map Char.toUpper else body
    p.number { sign := p.signOf (n < 0), body }

/-- A code point, given by its number or as a text of one. No precision cuts it. -/
def pointOf (v : Value) : Attempt Text.Point :=
  match v with
  | .int n =>
    if n < 0 || 0x110000 ≤ n then .error (.raised .overflow "%c arg not in range(0x110000)")
    else .ok (.ofCode n.toNat)
  | .bool b => .ok (.ofCode (if b then 1 else 0))
  | .text s =>
    match s.toList with
    | [c] => .ok (.whole c)
    | _ => .error (.raised .type "%c requires int or char")
  | _ => .error (.raised .type "%c requires int or char")

/-- A value that has to be a number, or else what is said of it. -/
def numberOr (v : Value) (complaint : String) : Attempt Int :=
  match v with
  | .int n => .ok n
  | .bool b => .ok (if b then 1 else 0)
  | v => .error (.raised .type (complaint ++ ", not " ++ v.typeName))

def mark (c : Char) : String := "%" ++ String.singleton c

/-- A value in its place; `index` is the place of the letter in the template. -/
def Place.write (p : Place) (v : Value) (index : Nat) : Attempt (List Text.Point) :=
  let form := p.form
  if form = 's' then p.text v.plain.toList
  else if form = 'r' then p.text v.quoted.toList
  else if form = 'a' then p.text (v.quoted.toList.flatMap ascii)
  else if ['d', 'i', 'u'].contains form then
    (numberOr v (mark form ++ " format: a real number is required")).bind p.integer
  else if ['o', 'x', 'X'].contains form then
    (numberOr v (mark form ++ " format: an integer is required")).bind p.integer
  else if ['e', 'E', 'f', 'F', 'g', 'G'].contains form then
    (numberOr v "must be real number").bind p.real
  else if form = 'c' then do p.fill ' ' [] [← pointOf v]
  else
    let shown := if 31 ≤ form.toNat && form.toNat ≤ 126 then form else '?'
    .error (.raised .value ("unsupported format character '" ++ String.singleton shown ++ "' (0x" ++
      String.ofList (Nat.toDigits 16 form.toNat) ++ ") at index " ++ toString index))

/-- Fills the places of a text; `total` is the length of the whole template and `fuel` bounds the number
of its places. -/
def fillFrom (total : Nat) : Nat → Supply → List Char → Attempt (List Text.Point × Supply)
  | _, s, [] => .ok ([], s)
  | 0, s, _ => .ok ([], s)
  | fuel + 1, s, '%' :: '%' :: rest => do
    let (filled, s) ← fillFrom total fuel s rest
    return (.whole '%' :: filled, s)
  | fuel + 1, s, '%' :: rest => do
    let (place, s, rest) ← readPlace s rest
    let (v, s) ← s.take
    let written ← place.write v (total - rest.length - 1)
    let (filled, s) ← fillFrom total fuel s rest
    return (written ++ filled, s)
  | fuel + 1, s, c :: rest => do
    let (filled, s) ← fillFrom total fuel s rest
    return (.whole c :: filled, s)

/-- A template with its places filled. A single value has to be taken; fields of a record need not be. -/
def fill (template : String) (v : Value) : Attempt (List Text.Point) := do
  let text := template.toList
  let (filled, s) ← fillFrom text.length text.length (.ofValue v) text
  if s.named.isNone && s.next.isSome then
    throw (.raised .type "not all arguments converted during string formatting")
  return filled

end Depot.Template
