import PageExtract.Transform.Registry

/-! What an expression gives on a page: the selector finds nodes, and the stages go on from them up
to the first error. -/
namespace PageExtract

inductive Extraction where
  | value (d : Datum)
  | noMatch

inductive EvalError where
  | unknownTransform (name : String)
  | transform (name : String) (cause : TransformError)
  | selector (e : InvalidSelector)
deriving DecidableEq

def EvalError.message? : EvalError → Option String
  | unknownTransform name => some ("Transform '" ++ name ++ "' is not defined")
  | transform name cause => cause.message?.map fun m => "Transform '" ++ name ++ "' " ++ m
  | selector _ => none

namespace Extraction

def equals : Extraction → Extraction → Bool
  | value a, value b => a.equals b
  | noMatch, noMatch => true
  | _, _ => false

end Extraction

namespace Call

def apply (lookup : Lookup) (call : Call) (d : Datum) : Except EvalError Datum :=
  match lookup call.name with
  | none => .error (.unknownTransform call.name)
  | some t => (t d call.args).mapError (.transform call.name)

def run (lookup : Lookup) : List Call → Datum → Except EvalError Datum
  | [], d => .ok d
  | call :: rest, d =>
    match call.apply lookup d with
    | .error e => .error e
    | .ok next => run lookup rest next

end Call

namespace Expression

/-- A node set as it comes out of a query, after a chain of calls. Without calls it is its text. -/
def finish (lookup : Lookup) (found : NodeSet) (calls : List Call) : Except EvalError Extraction :=
  if found.isEmpty then .ok .noMatch
  else
    match calls with
    | [] => .ok (.value (.string found.text))
    | calls => (Call.run lookup calls (.nodes found)).map .value

def evaluate (lookup : Lookup) (page : Html.Document) :
    Expression → Except EvalError Extraction
  | constant text => .ok (.value (.string text))
  | query selector calls =>
    match page.query selector with
    | .error e => .error (.selector e)
    | .ok found => finish lookup found calls

end Expression
end PageExtract
