import Depot.Text.Blank
import Depot.Text.Digit
import Depot.Text.Quoted

namespace Depot.Text

inductive IntegerFault where
  | malformed (text : String)
  | tooLong (digits : Nat)

/-- The quoted text is cut after 200 characters. -/
def IntegerFault.message : IntegerFault → String
  | .malformed text =>
    "invalid literal for int() with base 10: " ++ String.ofList ((quote text).toList.take 200)
  | .tooLong digits =>
    "Exceeds the limit (4300 digits) for integer string conversion: value has " ++ toString digits ++
      " digits; use sys.set_int_max_str_digits() to increase the limit"

def isNumeral (c : Char) : Bool :=
  c = '_' || (decimalValue? c).isSome

/-- Every underscore stands between two digits, and there is a digit. -/
def barsBetweenDigits : List Char → Bool
  | [] => false
  | [d] => d != '_'
  | d :: '_' :: rest => d != '_' && barsBetweenDigits rest
  | d :: rest => d != '_' && barsBetweenDigits rest

def splitSign : List Char → Bool × List Char
  | '-' :: rest => (true, rest)
  | '+' :: rest => (false, rest)
  | rest => (false, rest)

def digitLimit : Nat := 4300

/-- Too many digits are reported before anything that follows them is looked at. -/
def readInteger (s : String) : Except IntegerFault Int :=
  let (negative, body) := splitSign (s.toList.dropWhile isBlank)
  let run := body.takeWhile isNumeral
  let digits := run.filterMap decimalValue?
  if !barsBetweenDigits run then .error (.malformed s)
  else if digitLimit < digits.length then .error (.tooLong digits.length)
  else if !(body.dropWhile isNumeral).all isBlank then .error (.malformed s)
  else
    let size : Nat := digits.foldl (fun n d => 10 * n + d) 0
    .ok (if negative then -(size : Int) else size)

end Depot.Text
