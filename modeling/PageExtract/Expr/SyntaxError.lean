import PageExtract.Text.Characters

/-! Where a text stops being an expression, what stands there and what could have stood there. -/
namespace PageExtract

inductive Expected where
  | pipeOrEnd
  | identifier
  | argument
  | closeOrComma
  | number
  | closingQuote
  | escapeSequence
  | fourHexDigits
deriving DecidableEq

def Expected.text : Expected → String
  | pipeOrEnd => "'|' or end of expression"
  | identifier => "identifier"
  | argument => "argument"
  | closeOrComma => "')' or ','"
  | number => "number"
  | closingQuote => "closing quote"
  | escapeSequence => "escape sequence"
  | fourHexDigits => "4 hex digits"

structure Failure where
  rest : List Char
  expected : Expected
deriving DecidableEq

structure SyntaxError where
  position : Nat
  found : Option Char
  expected : Expected
  input : String
deriving DecidableEq

namespace SyntaxError

def ofFailure (input : String) (failure : Failure) : SyntaxError where
  position := Utf8.size input.toList - Utf8.size failure.rest
  found := failure.rest.head?
  expected := failure.expected
  input := input

def atEnd (e : SyntaxError) : Bool := e.found.isNone

def foundText (e : SyntaxError) : String :=
  match e.found with
  | none => "end of expression"
  | some c =>
    if c.toNat ≤ 0x1F then "control char 0x" ++ String.ofList (Hex.digits c.toNat)
    else String.ofList ['\'', c, '\'']

def message (e : SyntaxError) : String :=
  "Parse error, unexpected " ++ e.foundText ++ " at " ++ toString e.position ++ " (expected "
    ++ e.expected.text ++ ") in expression: " ++ e.input

end SyntaxError
end PageExtract
