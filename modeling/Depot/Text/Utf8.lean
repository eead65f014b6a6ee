import Depot.Text.Hex

namespace Depot

/-- Contents of blobs and messages, and encoded texts. -/
abbrev Bytes := List UInt8

namespace Utf8

def encode (s : String) : Bytes :=
  s.toUTF8.data.toList

def decode? (bytes : Bytes) : Option String :=
  String.fromUTF8? ⟨bytes.toArray⟩

inductive Reason where
  | badStart
  | badContinuation
  | endOfData

def Reason.message : Reason → String
  | .badStart => "invalid start byte"
  | .badContinuation => "invalid continuation byte"
  | .endOfData => "unexpected end of data"

/-- The bytes from `start` up to `stop` begin no character. -/
structure Fault where
  start : Nat
  stop : Nat
  reason : Reason

/-- How many bytes follow a leading byte, and between which values the first of them lies. -/
def sequenceShape? (lead : UInt8) : Option (Nat × UInt8 × UInt8) :=
  if lead < 0x80 then some (0, 0x80, 0xbf)
  else if lead < 0xc2 then none
  else if lead < 0xe0 then some (1, 0x80, 0xbf)
  else if lead < 0xf0 then
    some (2, if lead = 0xe0 then 0xa0 else 0x80, if lead = 0xed then 0x9f else 0xbf)
  else if lead < 0xf5 then
    some (3, if lead = 0xf0 then 0x90 else 0x80, if lead = 0xf4 then 0x8f else 0xbf)
  else none

/-- The first fault after `position`, when `due` bytes of the sequence begun at `start` are still
to come and the next of them lies between `low` and `high`. -/
def faultFrom (start position due : Nat) (low high : UInt8) : Bytes → Option Fault
  | [] => if due = 0 then none else some ⟨start, position, .endOfData⟩
  | b :: rest =>
    if due = 0 then
      match sequenceShape? b with
      | none => some ⟨position, position + 1, .badStart⟩
      | some (n, low, high) => faultFrom position (position + 1) n low high rest
    else if low ≤ b && b ≤ high then faultFrom start (position + 1) (due - 1) 0x80 0xbf rest
    else some ⟨start, position, .badContinuation⟩

def firstFault? (bytes : Bytes) : Option Fault :=
  faultFrom 0 0 0 0x80 0xbf bytes

def Fault.message (bytes : Bytes) (fault : Fault) : String :=
  let place :=
    if fault.start + 1 = fault.stop then
      "byte 0x" ++ String.ofList (((bytes.drop fault.start).take 1).flatMap Text.hexByte) ++
        " in position " ++ toString fault.start
    else "bytes in position " ++ toString fault.start ++ "-" ++ toString (fault.stop - 1)
  "'utf-8' codec can't decode " ++ place ++ ": " ++ fault.reason.message

/-- The text, or why the bytes are none. -/
def decode (bytes : Bytes) : Except String String :=
  match decode? bytes with
  | some s => .ok s
  | none => .error (((firstFault? bytes).map (Fault.message bytes)).getD "")

theorem decode?_encode (s : String) : decode? (encode s) = some s := by
  have h : (⟨s.toUTF8.data.toList.toArray⟩ : ByteArray) = s.toByteArray := by simp
  rw [decode?, encode, h]
  simp only [String.fromUTF8?, s.isValidUTF8, dif_pos]
  rfl

theorem encode_of_decode? {bytes : Bytes} {s : String} (decoded : decode? bytes = some s) : encode s = bytes := by
  unfold decode? String.fromUTF8? at decoded
  split at decoded
  · cases decoded
    simp [encode, String.toUTF8, String.fromUTF8]
  · cases decoded

theorem encode_inj {s t : String} : encode s = encode t ↔ s = t := by
  refine ⟨fun same => ?_, congrArg encode⟩
  have decoded := congrArg decode? same
  rwa [decode?_encode, decode?_encode, Option.some.injEq] at decoded

end Utf8
end Depot
