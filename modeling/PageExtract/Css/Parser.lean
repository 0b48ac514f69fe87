import PageExtract.Css.Nth

/-! Reading selectors. A reader gives a value and the parts that are left, or `none` when the text
is no selector. -/
namespace PageExtract.Css.Parser

open Nth (skipSpace lower)

structure Nested where
  list : List Part → Option (List Complex)
  forgiving : List Part → List Complex
  relative : List Part → Option (List Complex)

inductive NameSpace where
  | implicit
  | anywhere
  | none
deriving DecidableEq

def typeSelector (parts : List Part) : Option (List Simple × List Part) :=
  match parts with
  | .token (.ident _) :: .token (.delim '|') :: _ => none
  | .token (.ident name) :: rest => some ([.element name], rest)
  | .token (.delim '*') :: .token (.delim '|') :: .token (.delim '*') :: rest =>
    some ([.universal], rest)
  | .token (.delim '*') :: .token (.delim '|') :: .token (.ident name) :: rest =>
    some ([.element name], rest)
  | .token (.delim '*') :: .token (.delim '|') :: _ => none
  | .token (.delim '*') :: rest => some ([.universal], rest)
  | .token (.delim '|') :: .token (.delim '*') :: rest => some ([.noNamespace], rest)
  | .token (.delim '|') :: .token (.ident name) :: rest => some ([.noNamespace, .element name], rest)
  | .token (.delim '|') :: _ => none
  | _ => some ([], parts)

def attributeName (parts : List Part) : Option (NameSpace × String × List Part) :=
  match skipSpace parts with
  | .token (.ident _) :: .token (.delim '|') :: _ => none
  | .token (.ident name) :: rest => some (.implicit, name, rest)
  | .token (.delim '*') :: .token (.delim '|') :: .token (.ident name) :: rest =>
    some (.anywhere, name, rest)
  | .token (.delim '|') :: .token (.ident name) :: rest => some (.none, name, rest)
  | _ => none

def caselessAttributes : List String :=
  ["accept", "accept-charset", "align", "alink", "axis", "bgcolor", "charset", "checked", "clear",
   "codetype", "color", "compact", "declare", "defer", "dir", "direction", "disabled", "enctype",
   "face", "frame", "hreflang", "http-equiv", "lang", "language", "link", "media", "method",
   "multiple", "nohref", "noresize", "noshade", "nowrap", "readonly", "rel", "rev", "rules",
   "scope", "scrolling", "selected", "shape", "target", "text", "type", "valign", "valuetype",
   "vlink"]

def lettersOf (scope : NameSpace) (name : String) (parts : List Part) : Option Letters :=
  match skipSpace parts with
  | [] =>
    if scope != .anywhere && caselessAttributes.contains (String.ofList (lower name)) then
      some .byElement
    else some .exact
  | .token (.ident flag) :: rest =>
    if !(skipSpace rest).isEmpty then none
    else if lower flag = ['i'] then some .anyCase
    else if lower flag = ['s'] then some .exact
    else none
  | _ => none

def valueText? : Part → Option String
  | .token (.ident s) => some s
  | .token (.string s) => some s
  | _ => none

def attributeContent (parts : List Part) : Option Simple :=
  match attributeName parts with
  | none => none
  | some (space, name, rest) =>
    let scope := if space = .anywhere then AttributeScope.anywhere else .plain
    match skipSpace rest with
    | [] => some (.attributeTest ⟨scope, name, none⟩)
    | .token (.comparison op) :: more =>
      match skipSpace more with
      | first :: left => do
        let text ← valueText? first
        let letters ← lettersOf space name left
        return .attributeTest ⟨scope, name, some (op, text, letters)⟩
      | [] => none
    | _ => none

def only (start ending : Counting) : List Simple := [.nth start 0 1, .nth ending 0 1]

def plainTest (name : String) : Option (List Simple) :=
  match String.ofList (lower name) with
  | "first-child" => some [.nth .fromStart 0 1]
  | "last-child" => some [.nth .fromEnd 0 1]
  | "only-child" => some (only .fromStart .fromEnd)
  | "first-of-type" => some [.nth .ofTypeFromStart 0 1]
  | "last-of-type" => some [.nth .ofTypeFromEnd 0 1]
  | "only-of-type" => some (only .ofTypeFromStart .ofTypeFromEnd)
  | "root" => some [.root]
  | "empty" => some [.empty]
  | "scope" => some [.scope]
  | _ => none

def argumentTest (nested : Nested) (name : String) (content : List Part) : Option Simple :=
  let counted (counting : Counting) : Option Simple :=
    (Nth.parse? content).map fun p => .nth counting p.1 p.2
  match String.ofList (lower name) with
  | "nth-child" => counted .fromStart
  | "nth-last-child" => counted .fromEnd
  | "nth-of-type" => counted .ofTypeFromStart
  | "nth-last-of-type" => counted .ofTypeFromEnd
  | "is" | "where" => some (.either (nested.forgiving content))
  | "not" => (nested.list content).map .not
  | "has" => (nested.relative content).map .has
  | _ => none

def tests (nested : Nested) (parts : List Part) : Option (List Simple × List Part) :=
  match parts with
  | .token (.hash name) :: rest => (tests nested rest).map fun (ts, left) => (.id name :: ts, left)
  | .token (.delim '.') :: .token (.ident name) :: rest =>
    (tests nested rest).map fun (ts, left) => (.className name :: ts, left)
  | .token (.delim '.') :: _ => none
  | .block .square content :: rest => do
    let test ← attributeContent content
    let (ts, left) ← tests nested rest
    return (test :: ts, left)
  | .token .colon :: .token (.ident name) :: rest => do
    let first ← plainTest name
    let (ts, left) ← tests nested rest
    return (first ++ ts, left)
  | .token .colon :: .function name content :: rest => do
    let test ← argumentTest nested name content
    let (ts, left) ← tests nested rest
    return (test :: ts, left)
  | .token .colon :: _ => none
  | _ => some ([], parts)

def compound (nested : Nested) (parts : List Part) : Option (List Simple × List Part) :=
  match typeSelector (skipSpace parts) with
  | none => none
  | some (front, rest) =>
    match tests nested rest with
    | none => none
    | some (ts, left) => if (front ++ ts).isEmpty then none else some (front ++ ts, left)

def startsWithSpace : List Part → Bool
  | .token .space :: _ => true
  | _ => false

def combinator? (parts : List Part) : Option (Combinator × List Part) :=
  match skipSpace parts with
  | [] => none
  | .token (.delim '>') :: rest => some (.child, rest)
  | .token (.delim '+') :: rest => some (.next, rest)
  | .token (.delim '~') :: rest => some (.later, rest)
  | rest => if startsWithSpace parts then some (.descendant, rest) else none

/-- The rest of a selector, up to the last part. Every step takes a part at least, so the number of
parts is fuel enough. -/
def chain (nested : Nested) : Nat → Complex → List Part → Option Complex
  | 0, _, _ => none
  | fuel + 1, before, parts =>
    match combinator? parts with
    | none => if (skipSpace parts).isEmpty then some before else none
    | some (c, rest) =>
      match compound nested rest with
      | none => none
      | some (ts, left) => chain nested fuel (.step before c ts) left

def complex (nested : Nested) (parts : List Part) : Option Complex :=
  match compound nested parts with
  | none => none
  | some (ts, left) => chain nested (parts.length + 1) (.compound ts) left

def relativeComplex (nested : Nested) (parts : List Part) : Option Complex :=
  let (c, rest) := (combinator? (skipSpace parts)).getD (.descendant, parts)
  match compound nested rest with
  | none => none
  | some (ts, left) => chain nested (parts.length + 1) (.step (.compound [.anchor]) c ts) left

def splitCommas (gathered : List Part) : List Part → List (List Part)
  | [] => [gathered.reverse]
  | .token .comma :: rest => gathered.reverse :: splitCommas [] rest
  | p :: rest => splitCommas (p :: gathered) rest

/-- Nested readers. Each nesting uses a bracket, so the length of the text bounds the depth. A
relative selector holds no further one. -/
def nestedReaders : Nat → Bool → Nested
  | 0, _ => ⟨fun _ => none, fun _ => [], fun _ => none⟩
  | depth + 1, inRelative =>
    let inner := nestedReaders depth inRelative
    { list := fun content => (splitCommas [] content).mapM (complex inner)
      forgiving := fun content => (splitCommas [] content).filterMap (complex inner)
      relative := fun content =>
        if inRelative then none
        else (splitCommas [] content).mapM (relativeComplex (nestedReaders depth true)) }

def parse? (text : String) : Option (List Complex) :=
  (nestedReaders (text.length + 1) false).list (Part.ofText text)

end PageExtract.Css.Parser
