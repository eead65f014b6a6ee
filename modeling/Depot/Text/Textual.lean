import Depot.Fault
import Depot.Text.Point
import Depot.Text.Utf8

namespace Depot

/-- A kind of texts. It has all that are made of whole characters, and may have others, which cannot be encoded. -/
class Textual (τ : Type) where
  ofString : String → τ
  encode : τ → Attempt Bytes

instance : Textual String where
  ofString s := s
  encode s := .ok (Utf8.encode s)

namespace Text

/-- What is told of the first halves in a row: where they are, and which one it is if it is the only one. -/
def halfFault (ps : List Point) : Fault :=
  let start := (ps.takeWhile fun p => p.char?.isSome).length
  let codes := ((ps.drop start).takeWhile fun p => p.char?.isNone).map Point.code
  let place := match codes with
    | [code] => "character '\\u" ++ String.ofList (hexFixed 4 code) ++ "' in position " ++ toString start
    | _ => "characters in position " ++ toString start ++ "-" ++ toString (start + codes.length - 1)
  .raised .encoding ("'utf-8' codec can't encode " ++ place ++ ": surrogates not allowed")

instance : Textual (List Point) where
  ofString := points
  encode ps := match ofPoints? ps with
    | some s => .ok (Utf8.encode s)
    | none => .error (halfFault ps)

end Text
end Depot
