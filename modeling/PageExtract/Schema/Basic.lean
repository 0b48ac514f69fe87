import PageExtract.Evaluation
import PageExtract.Expr.Parser
import PageExtract.Schema.Config
import PageExtract.Transform.Registry
import PageExtract.UrlPattern

/-! A schema tells which pages it applies to and which fields it takes from them. -/
namespace PageExtract

inductive SchemaError where
  | invalidExpression (key : String) (cause : SyntaxError)
  | invalidUrlPattern (pattern : String) (cause : PatternError)
deriving DecidableEq

def SchemaError.message : SchemaError → String
  | invalidExpression key cause => "Invalid expression for key '" ++ key ++ "': " ++ cause.message
  | invalidUrlPattern pattern cause =>
    "Invalid URL pattern '" ++ pattern ++ "': " ++ cause.message

abbrev Record := List (String × Json.Value)

structure Schema where
  urlPattern : Option UrlPattern
  selectors : List String
  fields : List (String × Expression)
deriving DecidableEq

namespace Schema

def empty : Schema := ⟨none, [], []⟩

def withUrlPattern (s : Schema) (pattern : String) : Except SchemaError Schema :=
  match UrlPattern.parse pattern with
  | .ok compiled => .ok ⟨some compiled, s.selectors, s.fields⟩
  | .error e => .error (.invalidUrlPattern pattern e)

def withSelector (s : Schema) (selector : String) : Schema :=
  ⟨s.urlPattern, s.selectors ++ [selector], s.fields⟩

def withField (s : Schema) (key text : String) : Except SchemaError Schema :=
  match Expression.parse text with
  | .ok e => .ok ⟨s.urlPattern, s.selectors, putEntry s.fields key e⟩
  | .error e => .error (.invalidExpression key e)

def patternOf : Option String → Except SchemaError (Option UrlPattern)
  | none => .ok none
  | some pattern =>
    match UrlPattern.parse pattern with
    | .ok compiled => .ok (some compiled)
    | .error e => .error (.invalidUrlPattern pattern e)

def fieldsOf : List (String × String) → Except SchemaError (List (String × Expression))
  | [] => .ok []
  | (key, text) :: rest =>
    match Expression.parse text with
    | .error e => .error (.invalidExpression key e)
    | .ok e => (fieldsOf rest).map ((key, e) :: ·)

/-- Reads a written schema. The pattern is looked at before the fields. -/
def ofConfig (c : SchemaConfig) : Except SchemaError Schema :=
  match patternOf c.pageUrl with
  | .error e => .error e
  | .ok pattern =>
    (fieldsOf c.keys).map fun fields =>
      ⟨pattern, (c.pageSelector.map SelectorList.toList).getD [], putEntries [] fields⟩

/-- A required selector finds something. One that is invalid finds nothing. -/
def finds (page : Html.Document) (selector : String) : Bool :=
  match page.query selector with
  | .ok found => !found.isEmpty
  | .error _ => false

def isMatching (s : Schema) (url : String) (page : Html.Document) : Bool :=
  s.urlPattern.all (fun p => p.isMatch url) && s.selectors.all (finds page)

def fieldValue? (lookup : Lookup) (page : Html.Document) (e : Expression) : Option Json.Value :=
  match e.evaluate lookup page with
  | .ok (.value d) => d.toJson?
  | .ok .noMatch => none
  | .error _ => none

def extract (s : Schema) (lookup : Lookup) (page : Html.Document) : Record :=
  s.fields.filterMap fun (key, e) => (fieldValue? lookup page e).map (key, ·)

end Schema

/-- Schemas in the order in which they are tried, and transforms besides the built-in ones. -/
structure Extractor where
  schemas : List Schema
  custom : Registry

namespace Extractor

def schemaFor? (x : Extractor) (url : String) (page : Html.Document) : Option Schema :=
  x.schemas.find? fun s => s.isMatching url page

def extract? (x : Extractor) (url : String) (page : Html.Document) : Option Record :=
  (x.schemaFor? url page).map fun s => s.extract (Lookup.withCustom x.custom) page

end Extractor
end PageExtract
