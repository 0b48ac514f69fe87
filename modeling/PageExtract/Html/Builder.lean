import PageExtract.Html.Arena
import PageExtract.Html.Token

/-! What is known while the tree of a page is built: the open elements, the formatting elements and
the mode of reading. A node enters the tree in one of a few ways. -/
namespace PageExtract.Html

inductive Mode where
  | initial
  | beforeHtml
  | beforeHead
  | inHead
  | afterHead
  | inBody
  | inText
  | inTable
  | inTableText
  | inCaption
  | inColumnGroup
  | inTableBody
  | inRow
  | inCell
  | inSelect
  | inSelectInTable
  | inTemplate
  | afterBody
  | inFrameset
  | afterFrameset
  | afterAfterBody
  | afterAfterFrameset
deriving DecidableEq

inductive Piece where
  | char (c : Char)
  | comment (s : String)
  | opening (tag : Tag)
  | closing (name : String)
  | finish
deriving DecidableEq

/-- A formatting element that may have to be opened again, or the edge of a region. -/
inductive Format where
  | marker
  | element (id : Nat) (tag : Tag)

def Format.isEntry : Format → Bool
  | .marker => false
  | .element _ _ => true

def Format.isOf (id : Nat) : Format → Bool
  | .marker => false
  | .element other _ => other == id

/-- Open elements stand with the innermost first, formatting elements with the latest first, and the
characters inside a table reversed. Content that does not belong into a table is put in front of it
while `fostering` holds, and in the compatible layout a table does not close a paragraph. -/
structure Builder where
  arena : Arena
  mode : Mode
  resume : Mode
  opened : List Nat
  formats : List Format
  templates : List Mode
  head : Option Nat
  form : Option Nat
  framesetAllowed : Bool
  skipLineFeed : Bool
  fostering : Bool
  compatible : Bool
  tableText : List Char
  content : Content

namespace Builder

def start : Builder where
  arena := .start
  mode := .initial
  resume := .inBody
  opened := []
  formats := []
  templates := []
  head := none
  form := none
  framesetAllowed := true
  skipLineFeed := false
  fostering := false
  compatible := false
  tableText := []
  content := .markup

end Builder

abbrev Build := StateM Builder

namespace Build

def setMode (mode : Mode) : Build Unit := modify fun b => { b with mode }

def setContent (content : Content) : Build Unit := modify fun b => { b with content }

def forbidFrameset : Build Unit := modify fun b => { b with framesetAllowed := false }

def onArena (f : Arena → Arena) : Build Unit := modify fun b => { b with arena := f b.arena }

def addNode (kind : Kind) : Build Nat :=
  modifyGet fun b =>
    let (arena, id) := b.arena.add kind
    (id, { b with arena })

def nameOf (id : Nat) : Build (Namespace × String) := do
  return ((← get).arena.elementName? id).getD (.html, "")

def current : Build Nat := do
  return (← get).opened.headD Arena.documentId

def push (id : Nat) : Build Unit := modify fun b => { b with opened := id :: b.opened }

def pop : Build Unit := modify fun b => { b with opened := b.opened.tail }

def removeOpened (id : Nat) : Build Unit :=
  modify fun b => { b with opened := b.opened.erase id }

def isHtmlNamed (names : List String) (name : Namespace × String) : Bool :=
  name.1 == .html && names.contains name.2

def currentIs (names : List String) : Build Bool := do
  return isHtmlNamed names (← nameOf (← current))

def elementIs (names : List String) (id : Nat) : Build Bool := do
  return isHtmlNamed names (← nameOf id)

def isOpen (name : String) : Build Bool := do
  let b ← get
  return b.opened.any fun id => (b.arena.elementName? id).any (isHtmlNamed [name])

def inTemplate : Build Bool := isOpen "template"

def popThrough (names : List String) : Build Unit :=
  modify fun b =>
    let other (id : Nat) : Bool := !(b.arena.elementName? id).any (isHtmlNamed names)
    { b with opened := (b.opened.dropWhile other).tail }

def popTo (names : List String) : Build Unit :=
  modify fun b =>
    let other (id : Nat) : Bool := !(b.arena.elementName? id).any (isHtmlNamed names)
    { b with opened := b.opened.dropWhile other }

def isMathText (name : Namespace × String) : Bool :=
  name.1 == .mathml && ["mi", "mo", "mn", "ms", "mtext"].contains name.2

def isGraphicsMarkup (name : Namespace × String) : Bool :=
  name.1 == .svg && ["foreignObject", "desc", "title"].contains name.2

def endsScope (name : Namespace × String) : Bool :=
  isHtmlNamed ["applet", "caption", "html", "table", "td", "th", "marquee", "object", "template"] name
    || isMathText name || isGraphicsMarkup name

def endsListScope (name : Namespace × String) : Bool := endsScope name || isHtmlNamed ["ol", "ul"] name

def endsButtonScope (name : Namespace × String) : Bool := endsScope name || isHtmlNamed ["button"] name

def endsTableScope (name : Namespace × String) : Bool := isHtmlNamed ["html", "table", "template"] name

def endsSelectScope (name : Namespace × String) : Bool := !isHtmlNamed ["optgroup", "option"] name

/-- An open element that passes the test comes before one that ends the scope. -/
def scopeHas (arena : Arena) (ends : Namespace × String → Bool) (wanted : Nat → Bool) :
    List Nat → Bool
  | [] => false
  | id :: rest =>
    wanted id || (!(arena.elementName? id).any ends && scopeHas arena ends wanted rest)

def inScope (ends : Namespace × String → Bool) (names : List String) : Build Bool := do
  let b ← get
  return scopeHas b.arena ends (fun id => (b.arena.elementName? id).any (isHtmlNamed names)) b.opened

def isInScope (id : Nat) : Build Bool := do
  let b ← get
  return scopeHas b.arena endsScope (· == id) b.opened

def impliedEnds : List String :=
  ["dd", "dt", "li", "option", "optgroup", "p", "rb", "rp", "rt", "rtc"]

def thoroughImpliedEnds : List String :=
  impliedEnds ++ ["caption", "colgroup", "tbody", "td", "tfoot", "th", "thead", "tr"]

def closeAmong (names : List String) : Build Unit :=
  modify fun b =>
    { b with
      opened := b.opened.dropWhile fun id => (b.arena.elementName? id).any (isHtmlNamed names) }

def closeImplied : Build Unit := closeAmong impliedEnds

def closeImpliedExcept (name : String) : Build Unit := closeAmong (impliedEnds.filter (· != name))

def closeParagraph : Build Unit := do
  closeImpliedExcept "p"
  popThrough ["p"]

def closeParagraphInScope : Build Unit := do
  if ← inScope endsButtonScope ["p"] then closeParagraph

inductive Place where
  | lastChild (parent : Nat)
  | beforeTable (table around : Nat)

def contentsOf (arena : Arena) (template : Nat) : Nat := (arena.children template)[0]?.getD template

def fosterPlace (arena : Arena) : List Nat → Place
  | [] => .lastChild Arena.documentId
  | [root] => .lastChild root
  | id :: around :: rest =>
    if (arena.elementName? id).any (isHtmlNamed ["template"]) then .lastChild (contentsOf arena id)
    else if (arena.elementName? id).any (isHtmlNamed ["table"]) then .beforeTable id around
    else fosterPlace arena (around :: rest)

def tableParts : List String := ["table", "tbody", "tfoot", "thead", "tr"]

def placeIn (b : Builder) (target : Nat) : Place :=
  let name := (b.arena.elementName? target).getD (.html, "")
  if b.fostering && isHtmlNamed tableParts name then fosterPlace b.arena b.opened
  else if isHtmlNamed ["template"] name then .lastChild (contentsOf b.arena target)
  else .lastChild target

def insertNodeIn (target id : Nat) : Build Unit :=
  modify fun b =>
    match placeIn b target with
    | .lastChild parent => { b with arena := b.arena.append parent id }
    | .beforeTable table around =>
      if (b.arena.parent? table).isSome then { b with arena := b.arena.insertBefore table id }
      else { b with arena := b.arena.append around id }

def insertNode (id : Nat) : Build Unit := do insertNodeIn (← current) id

def insertText (s : String) : Build Unit := do
  let target ← current
  modify fun b =>
    match placeIn b target with
    | .lastChild parent => { b with arena := b.arena.appendText parent s }
    | .beforeTable table around =>
      if (b.arena.parent? table).isSome then { b with arena := b.arena.textBefore table s }
      else { b with arena := b.arena.appendText around s }

def insertChar (c : Char) : Build Unit := insertText (String.singleton c)

def insertComment (s : String) : Build Unit := do insertNode (← addNode (.comment s))

def commentUnder (parent : Nat) (s : String) : Build Unit := do
  let id ← addNode (.comment s)
  onArena fun a => a.append parent id

def plainAttributes (attributes : List (String × String)) : List Attribute :=
  attributes.map fun (name, value) => ⟨.plain, name, value⟩

/-- A new element outside the tree. A template comes with a node for its contents. -/
def makeElement (space : Namespace) (name : String) (attributes : List Attribute) : Build Nat := do
  let id ← addNode (.element space name attributes)
  if space == .html && name == "template" then
    let contents ← addNode .fragment
    onArena fun a => a.append id contents
  return id

def openElement (space : Namespace) (name : String) (attributes : List Attribute) : Build Nat := do
  let id ← makeElement space name attributes
  insertNode id
  push id
  return id

def openTag (tag : Tag) : Build Nat := openElement .html tag.name (plainAttributes tag.attributes)

def insertOpen (tag : Tag) : Build Unit := do
  let _ ← openTag tag

def insertVoid (tag : Tag) : Build Unit := do
  insertOpen tag
  pop

def insertImplied (name : String) : Build Nat := openElement .html name []

def insertWithContent (tag : Tag) (content : Content) : Build Unit := do
  insertOpen tag
  modify fun b => { b with resume := b.mode, mode := .inText, content }

def lastTemplate (b : Builder) : Mode := b.templates.headD .inTemplate

def selectMode (arena : Arena) : List Nat → Mode
  | [] => .inSelect
  | id :: rest =>
    let name := (arena.elementName? id).getD (.html, "")
    if isHtmlNamed ["template"] name then .inSelect
    else if isHtmlNamed ["table"] name then .inSelectInTable
    else selectMode arena rest

def modeOf? (b : Builder) (name : String) (around : List Nat) : Option Mode :=
  match name with
  | "select" => some (selectMode b.arena around)
  | "td" | "th" => if around.isEmpty then none else some .inCell
  | "tr" => some .inRow
  | "tbody" | "thead" | "tfoot" => some .inTableBody
  | "caption" => some .inCaption
  | "colgroup" => some .inColumnGroup
  | "table" => some .inTable
  | "template" => some (lastTemplate b)
  | "head" => if around.isEmpty then none else some .inHead
  | "body" => some .inBody
  | "frameset" => some .inFrameset
  | "html" => some (if b.head.isSome then .afterHead else .beforeHead)
  | _ => none

def modeFor (b : Builder) : List Nat → Mode
  | [] => .inBody
  | id :: around =>
    match b.arena.elementName? id with
    | some (.html, name) => (modeOf? b name around).getD (modeFor b around)
    | _ => modeFor b around

def naturalMode : Build Mode := do
  let b ← get
  return modeFor b b.opened

def resetMode : Build Unit := do setMode (← naturalMode)

end Build
end PageExtract.Html
