import Depot.Table
import Depot.Text.Utf8

namespace Depot

structure Store where
  entries : Table String Bytes := .empty
deriving DecidableEq

namespace Store

def size (s : Store) : Nat := s.entries.size

def write (key : String) (data : Bytes) (s : Store) : Store := ⟨s.entries.put key data⟩

def read? (s : Store) (key : String) : Option Bytes := s.entries.get? key

def contains (s : Store) (key : String) : Bool := s.entries.contains key

/-- Keys that are absent or repeated do no harm. -/
def delete (keys : List String) (s : Store) : Store := ⟨s.entries.eraseAll keys⟩

/-- The keys that begin with a text, in the order in which they were first written. -/
def keysUnder (s : Store) (start : String) : List String :=
  s.entries.keys.filter fun key => start.toList.isPrefixOf key.toList

def sorted (keys : List String) : List String := keys.mergeSort fun a b => a ≤ b

/-- The keys that begin with a text, in ascending order. -/
def list (s : Store) (start : String) : List String := sorted (s.keysUnder start)

end Store
end Depot
