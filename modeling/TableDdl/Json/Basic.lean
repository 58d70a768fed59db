import TableDdl.Number.Binary64
import TableDdl.Text.Basic

/-!
# JSON values

The members of an object keep the order in which their keys were first given. Integers have any
size; every other number is a binary64 number.
-/

namespace TableDdl

/-- A JSON value. -/
inductive Json where
  | null
  | bool (value : Bool)
  | int (value : Int)
  | real (value : Binary64)
  | text (value : Text)
  | array (items : List Json)
  | object (members : List (Text × Json))
  deriving Inhabited, Repr

namespace Json

/-- The members of an object: keys and values in order. -/
abbrev Members := List (Text × Json)

namespace Members

/-- The value of the first member with a key. -/
def get? (key : Text) : Members → Option Json
  | [] => none
  | (name, value) :: rest => if name = key then some value else get? key rest

/-- Gives a key a value. A key that is there already keeps its place. -/
def put (key : Text) (value : Json) : Members → Members
  | [] => [(key, value)]
  | (name, old) :: rest =>
    if name = key then (key, value) :: rest else (name, old) :: put key value rest

/-- The keys in order. -/
def keys (members : Members) : List Text :=
  members.map Prod.fst

theorem sizeOf_get?_lt {key : Text} {members : Members} {value : Json}
    (h : members.get? key = some value) : sizeOf value < sizeOf members := by
  induction members with
  | nil => simp [get?] at h
  | cons member rest ih =>
    obtain ⟨name, first⟩ := member
    simp only [get?] at h
    split at h
    · cases h
      simp
      omega
    · have := ih h
      simp
      omega

end Members

/-- The members of an object; other values have none. -/
def members? : Json → Option Members
  | .object members => some members
  | _ => none

end Json

end TableDdl
