import PageExtract.Number.Text

/-! An expression is a constant, or a selector followed by a chain of calls. The arguments of a
call are literals. -/
namespace PageExtract

/-- An argument of a call. An undefined argument counts as absent. -/
inductive Literal where
  | string (s : String)
  | number (n : Number)
  | boolean (b : Bool)
  | null
  | undefined
deriving DecidableEq

namespace Literal

/-- Numbers are compared as numbers, all else by structure. -/
def equals : Literal → Literal → Bool
  | number a, number b => a.equals b
  | a, b => decide (a = b) && !(match a with | number _ => true | _ => false)

def string? : Literal → Option String
  | string s => some s
  | _ => none

def toNumber : Literal → Number
  | number n => n
  | boolean true => .one
  | boolean false => .zero
  | null => .zero
  | undefined => .nan
  | string s => .ofText s

def toText : Literal → String
  | string s => s
  | number n => n.format
  | boolean b => if b then "true" else "false"
  | null => "null"
  | undefined => "undefined"

end Literal

structure Call where
  name : String
  args : List Literal
deriving DecidableEq

def listEquals {α : Type} (same : α → α → Bool) : List α → List α → Bool
  | [], [] => true
  | a :: as, b :: bs => same a b && listEquals same as bs
  | _, _ => false

def Call.equals (a b : Call) : Bool := a.name == b.name && listEquals Literal.equals a.args b.args

inductive Expression where
  | constant (text : String)
  | query (selector : String) (calls : List Call)
deriving DecidableEq

namespace Expression

def equals : Expression → Expression → Bool
  | constant a, constant b => a == b
  | query a calls, query b calls' => a == b && listEquals Call.equals calls calls'
  | _, _ => false

def isConstant : Expression → Bool
  | constant _ => true
  | query _ _ => false

def selector? : Expression → Option String
  | constant _ => none
  | query selector _ => some selector

def calls : Expression → List Call
  | constant _ => []
  | query _ calls => calls

end Expression
end PageExtract
