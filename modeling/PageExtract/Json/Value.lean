import PageExtract.Number.Basic

/-! JSON values. Objects keep the order of their fields. Integers and other numbers are kept apart
because they are written differently. -/
namespace PageExtract.Json

/-- A text, or an object with a key, that names half of a surrogate pair is well-formed JSON without a
meaning, and not readable. -/
inductive Value where
  | null
  | boolean (b : Bool)
  | integer (n : Int)
  | number (n : Number)
  | string (s : String)
  | array (items : List Value)
  | object (fields : List (String × Value))
  | unreadable

def integerBound : Nat := Nat.pow 2 53

/-- A number as JSON. Numbers that are not finite have no JSON form and become null. -/
def ofNumber : Number → Value
  | .nan => .null
  | .infinite _ => .null
  | .finite negative a =>
    if a.isIntegral && a.floor < integerBound then
      .integer (if negative then -(a.floor : Int) else a.floor)
    else .number (.finite negative a)

namespace Value

/-- The last field of that name. -/
def field? (name : String) : Value → Option Value
  | object fields => (fields.reverse.find? fun f => f.1 == name).map Prod.snd
  | _ => none

def string? : Value → Option String
  | string s => some s
  | _ => none

def items? : Value → Option (List Value)
  | array items => some items
  | _ => none

end Value
end PageExtract.Json
