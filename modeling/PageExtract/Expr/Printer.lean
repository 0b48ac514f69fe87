import PageExtract.Expr.Basic
import PageExtract.Text.Quoted

/-! The written form of an expression. Strings are quoted, an infinity is a numeral out of range,
and an empty argument list is left out. -/
namespace PageExtract

def joinWith (separator : List Char) : List (List Char) → List Char
  | [] => []
  | [s] => s
  | s :: rest => s ++ separator ++ joinWith separator rest

namespace Literal

def chars : Literal → List Char
  | string s => Quoted.encode s.toList
  | number (.infinite false) => "1e999".toList
  | number (.infinite true) => "-1e999".toList
  | number n => n.format.toList
  | boolean true => "true".toList
  | boolean false => "false".toList
  | null => "null".toList
  | undefined => "undefined".toList

def print (literal : Literal) : String := String.ofList literal.chars

end Literal

namespace Call

def chars (call : Call) : List Char :=
  match call.args with
  | [] => call.name.toList
  | args =>
    call.name.toList ++ '(' :: (joinWith [',', ' '] (args.map Literal.chars) ++ [')'])

def print (call : Call) : String := String.ofList call.chars

end Call

namespace Expression

def chars : Expression → List Char
  | constant text => '|' :: '|' :: text.toList
  | query selector calls =>
    selector.toList ++ calls.flatMap fun call => ' ' :: '|' :: ' ' :: call.chars

def print (e : Expression) : String := String.ofList e.chars

end Expression
end PageExtract
