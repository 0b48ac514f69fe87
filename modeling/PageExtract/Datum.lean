import PageExtract.Expr.Basic
import PageExtract.Json.Value
import PageExtract.NodeSet

/-! The values that flow from stage to stage of an expression. -/
namespace PageExtract

inductive Datum where
  | nodes (s : NodeSet)
  | list (items : List Datum)
  | string (s : String)
  | number (n : Number)
  | boolean (b : Bool)
  | null
  | undefined

inductive Kind where
  | nodes
  | list
  | string
  | number
  | boolean
  | null
  | undefined
deriving DecidableEq

def Kind.name : Kind → String
  | nodes => "instance of NodeSet"
  | list => "instance of List"
  | string => "string"
  | number => "number"
  | boolean => "boolean"
  | null => "null"
  | undefined => "undefined"

def Literal.toDatum : Literal → Datum
  | string s => .string s
  | number n => .number n
  | boolean b => .boolean b
  | null => .null
  | undefined => .undefined

namespace NodeSet

/-- Sets are compared by their size, their texts and the markup of their first members. -/
def equals (a b : NodeSet) : Bool :=
  a.size == b.size && a.markup? == b.markup? && a.text == b.text

end NodeSet

namespace Datum

def kind : Datum → Kind
  | nodes _ => .nodes
  | list _ => .list
  | string _ => .string
  | number _ => .number
  | boolean _ => .boolean
  | null => .null
  | undefined => .undefined

def string? : Datum → Option String
  | string s => some s
  | _ => none

def joinTexts (separator : String) (texts : List String) : String := separator.intercalate texts

mutual

def toText : Datum → String
  | nodes s => s.text
  | list items => joinTexts "," (itemTexts items)
  | string s => s
  | number n => n.format
  | boolean b => if b then "true" else "false"
  | null => "null"
  | undefined => "undefined"

/-- The texts of items. Null and undefined items have none. -/
def itemTexts : List Datum → List String
  | [] => []
  | null :: rest => "" :: itemTexts rest
  | undefined :: rest => "" :: itemTexts rest
  | d :: rest => d.toText :: itemTexts rest

end

def itemText : Datum → String
  | null => ""
  | undefined => ""
  | d => d.toText

mutual

def toJson? : Datum → Option Json.Value
  | nodes s => some (.string s.text)
  | list items => some (.array (itemsJson items))
  | string s => some (.string s)
  | number n => some (Json.ofNumber n)
  | boolean b => some (.boolean b)
  | null => some .null
  | undefined => none

/-- The JSON forms of items, null for an undefined one. -/
def itemsJson : List Datum → List Json.Value
  | [] => []
  | d :: rest => d.toJson?.getD .null :: itemsJson rest

end

mutual

/-- Numbers are compared as numbers and node sets by what they show; null and undefined differ. -/
def equals : Datum → Datum → Bool
  | nodes a, nodes b => a.equals b
  | list a, list b => allEqual a b
  | string a, string b => a == b
  | number a, number b => a.equals b
  | boolean a, boolean b => a == b
  | null, null => true
  | undefined, undefined => true
  | _, _ => false

def allEqual : List Datum → List Datum → Bool
  | [], [] => true
  | a :: as, b :: bs => a.equals b && allEqual as bs
  | _, _ => false

end

end Datum
end PageExtract
