import PageExtract.Datum
import PageExtract.Expr.Printer
import PageExtract.Number.Decimal

/-! A transform takes a datum and the arguments of its call to a new datum, or fails. -/
namespace PageExtract

inductive ArgumentFault where
  | attributeName (given : Literal)
  | selectorText (given : Literal)
  | tooLong
  | repeatCount (count : ExtInt)
deriving DecidableEq

/-- An integer with the fewest digits that tell it from other numbers. -/
def ExtInt.text : ExtInt → String
  | negInfinity => "-inf"
  | infinity => "inf"
  | int n =>
    match Number.ofNat n.natAbs with
    | .finite _ a =>
      (if n < 0 then "-" else "") ++ String.ofList (Decimal.shortest .up a).positional
    | _ => toString n

def ArgumentFault.message : ArgumentFault → String
  | attributeName given => "attribute name must be a string, not " ++ given.print
  | selectorText given => "selector must be a string, not " ++ given.print
  | tooLong => "resulting string is too long"
  | repeatCount count => "invalid count value: " ++ count.text

inductive TransformError where
  | mismatch (expected : String) (found : Kind)
  | invalidArgument (index : Nat) (fault : ArgumentFault)
  | failed (message : String)
  | selector (e : InvalidSelector)
deriving DecidableEq

namespace TransformError

/-- The article of a word. A leading `y` counts as a vowel. -/
def article (word : String) : String :=
  match word.toList with
  | c :: _ => if "aeiouyAEIOUY".toList.contains c then "an" else "a"
  | [] => "a"

def described (word : String) : String := article word ++ " " ++ word

def message? : TransformError → Option String
  | mismatch expected found =>
    some ("expected " ++ described expected ++ " but got " ++ described found.name)
  | invalidArgument index fault =>
    some ("rejected argument " ++ toString index ++ ": " ++ fault.message)
  | failed message => some ("failed with error: " ++ message)
  | selector _ => none

end TransformError

abbrev Transform := Datum → List Literal → Except TransformError Datum

namespace Arguments

/-- An argument. One that is not given is undefined. -/
def get (args : List Literal) (index : Nat) : Literal := args.getD index .undefined

def integer (args : List Literal) (index : Nat) (default : ExtInt) : ExtInt :=
  match get args index with
  | .undefined => default
  | literal => literal.toNumber.toExtInt

def text (args : List Literal) (index : Nat) (default : String) : String :=
  match get args index with
  | .undefined => default
  | literal => literal.toText

/-- A position in a row of that length. Negative positions count from the end. -/
def fromEitherEnd (length : Nat) : ExtInt → Nat
  | .negInfinity => 0
  | .infinity => length
  | .int n => if n < 0 then (length + n).toNat else min n.toNat length

/-- A position in a row of that length. Negative positions are the start. -/
def clamped (length : Nat) : ExtInt → Nat
  | .negInfinity => 0
  | .infinity => length
  | .int n => min n.toNat length

end Arguments
end PageExtract
