import PageExtract.Css.Parser
import PageExtract.Html.Location
import PageExtract.Text.Characters

/-! Whether an element in its place has what a selector asks for. -/
namespace PageExtract.Css

open Html (Location)

structure Context where
  scope : Option Nat
  anchor : Option Nat

def lowerText (s : String) : String := s.map Char.toLower

def sameLetters (letters : Letters) (ownMarkup : Bool) (a b : List Char) : Bool :=
  let caseless := match letters with
    | .exact => false
    | .anyCase => true
    | .byElement => ownMarkup
  if caseless then a.map Char.toLower == b.map Char.toLower else a == b

def classNames (value : String) : List (List Char) :=
  (value.toList.splitOnP Blank.isBlank).filter (!·.isEmpty)

def tails : List Char → List (List Char)
  | [] => [[]]
  | c :: rest => (c :: rest) :: tails rest

/-- A comparison of an attribute value with a given text. Every value starts with, ends with and
holds the empty text; the empty text is also a word of a value where two spaces meet or one stands
at an end. -/
def compares (op : Comparison) (same : List Char → List Char → Bool) (value given : List Char) : Bool :=
  match op with
  | .equal => same value given
  | .includes => (value.splitOnP Token.isSpace).any fun w => same w given
  | .dash =>
    same value given || (value[given.length]? == some '-' && same (value.take given.length) given)
  | .start => same (value.take given.length) given
  | .ending => same (value.drop (value.length - given.length)) given
  | .substring => (tails value).any fun t => same (t.take given.length) given

/-- Names of the page's own markup are lower case; other names are written exactly. -/
def nameFor (e : Html.Element) (name : String) : String :=
  if e.space == .html then lowerText name else name

def attributeHolds (e : Html.Element) (test : AttributeTest) : Bool :=
  e.attributes.any fun a =>
    (test.scope == .anywhere || a.space == .plain) && a.name == nameFor e test.name
      && match test.value with
        | none => true
        | some (op, given, letters) =>
          compares op (sameLetters letters (e.space == .html)) a.value.toList given.toList

def hasId (e : Html.Element) (id : String) : Bool :=
  match e.attributes.find? fun a => a.name == "id" with
  | some a => a.value == id
  | none => false

def hasClass (e : Html.Element) (name : String) : Bool :=
  e.attributes.any fun a => a.name == "class" && (classNames a.value).contains name.toList

def sameType (a b : Location) : Bool :=
  a.element.space == b.element.space && a.element.name == b.element.name

def place (counting : Counting) (l : Location) : Nat :=
  match counting with
  | .fromStart => l.earlier.length + 1
  | .fromEnd => l.later.length + 1
  | .ofTypeFromStart => (l.earlier.filter (sameType l)).length + 1
  | .ofTypeFromEnd => (l.later.filter (sameType l)).length + 1

/-- The elements below an element, without the contents of templates below it. -/
def inside (l : Location) : List Location :=
  l.descendants.filter fun d =>
    (d.frames.take (d.frames.length - l.frames.length)).all fun frame => frame.holder != .template

def reachable (l : Location) : List Location :=
  inside l ++ l.later.flatMap fun s => s :: inside s

mutual

def Simple.holds (ctx : Context) (l : Location) : Simple → Bool
  | .universal => true
  | .element name => l.element.name == nameFor l.element name
  | .noNamespace => false
  | .id name => hasId l.element name
  | .className name => hasClass l.element name
  | .attributeTest test => attributeHolds l.element test
  | .nth counting step offset => Nth.holds (step, offset) (place counting l)
  | .root => l.isRoot
  | .empty => l.isEmpty
  | .scope =>
    match ctx.scope with
    | some serial => l.serial == serial
    | none => l.isRoot
  | .either cs => anyHolds ctx l cs
  | .not cs => !anyHolds ctx l cs
  | .has cs => anyReaches { ctx with anchor := some l.serial } (reachable l) cs
  | .anchor => ctx.anchor == some l.serial

def allHold (ctx : Context) (l : Location) : List Simple → Bool
  | [] => true
  | t :: rest => t.holds ctx l && allHold ctx l rest

def Complex.holds (ctx : Context) (l : Location) : Complex → Bool
  | .compound tests => allHold ctx l tests
  | .step before c tests =>
    allHold ctx l tests &&
      match c with
      | .descendant => l.ancestors.any fun a => before.holds ctx a
      | .child => l.parent?.any fun a => before.holds ctx a
      | .next => l.earlier.head?.any fun a => before.holds ctx a
      | .later => l.earlier.any fun a => before.holds ctx a

def anyHolds (ctx : Context) (l : Location) : List Complex → Bool
  | [] => false
  | c :: rest => c.holds ctx l || anyHolds ctx l rest

def anyReaches (ctx : Context) (places : List Location) : List Complex → Bool
  | [] => false
  | c :: rest => places.any (fun p => c.holds ctx p) || anyReaches ctx places rest

end

def selects (scope : Option Nat) (cs : List Complex) (l : Location) : Bool :=
  anyHolds ⟨scope, none⟩ l cs

end PageExtract.Css
