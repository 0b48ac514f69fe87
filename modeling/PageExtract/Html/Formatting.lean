import PageExtract.Html.Builder

/-! Formatting carries on across the ends of blocks: elements are opened again, and a misplaced end
tag moves the content of the block it crosses. -/
namespace PageExtract.Html.Build

def specialNames : List String :=
  ["address", "applet", "area", "article", "aside", "base", "basefont", "bgsound", "blockquote",
   "body", "br", "button", "caption", "center", "col", "colgroup", "dd", "details", "dir", "div",
   "dl", "dt", "embed", "fieldset", "figcaption", "figure", "footer", "form", "frame", "frameset",
   "h1", "h2", "h3", "h4", "h5", "h6", "head", "header", "hgroup", "hr", "html", "iframe", "img",
   "input", "isindex", "li", "link", "listing", "main", "marquee", "menu", "meta", "nav",
   "noembed", "noframes", "noscript", "object", "ol", "p", "param", "plaintext", "pre", "script",
   "section", "select", "source", "style", "summary", "table", "tbody", "td", "template",
   "textarea", "tfoot", "th", "thead", "title", "tr", "track", "ul", "wbr", "xmp"]

def isSpecial (arena : Arena) (id : Nat) : Bool :=
  (arena.elementName? id).any (isHtmlNamed specialNames)

def pushFormat (f : Format) : Build Unit := modify fun b => { b with formats := f :: b.formats }

def pushMarker : Build Unit := pushFormat .marker

def clearToMarker : Build Unit :=
  modify fun b => { b with formats := (b.formats.dropWhile Format.isEntry).tail }

def region (formats : List Format) : List (Nat × Tag) :=
  match formats with
  | .element id tag :: rest => (id, tag) :: region rest
  | _ => []

def removeFormat (id : Nat) : Build Unit :=
  modify fun b => { b with formats := b.formats.filter fun f => !Format.isOf id f }

def isFormat (b : Builder) (id : Nat) : Bool := b.formats.any (Format.isOf id)

def formatTag? (b : Builder) (id : Nat) : Option Tag :=
  b.formats.findSome? fun
    | .element other tag => if other = id then some tag else none
    | .marker => none

def replaceFormat (old new : Nat) (tag : Tag) : Build Unit :=
  modify fun b =>
    { b with formats := b.formats.map fun f => if Format.isOf old f then .element new tag else f }

def reopen : List (Nat × Tag) → Build (List Format)
  | [] => return []
  | (_, tag) :: rest => do
    let later ← reopen rest
    let id ← openTag tag
    return .element id tag :: later

def reconstruct : Build Unit := do
  let b ← get
  let closed := (region b.formats).takeWhile fun entry => !b.opened.contains entry.1
  let entries ← reopen closed
  modify fun b => { b with formats := entries ++ b.formats.drop entries.length }

def sameTag (s t : Tag) : Bool :=
  s.name == t.name && s.attributes.length == t.attributes.length
    && s.attributes.all t.attributes.contains

def surplus? (formats : List Format) (tag : Tag) : Option Nat :=
  let same := (region formats).filter fun entry => sameTag entry.2 tag
  if same.length ≥ 3 then same.getLast?.map Prod.fst else none

/-- Opens a formatting element. At most three equal ones are remembered. -/
def openFormatting (tag : Tag) : Build Unit := do
  let b ← get
  match surplus? b.formats tag with
  | some id => removeFormat id
  | none => pure ()
  let id ← openTag tag
  pushFormat (.element id tag)

def closeGeneric (name : String) : Build Unit := do
  let b ← get
  let matching (id : Nat) : Bool := (b.arena.elementName? id).any (isHtmlNamed [name])
  match b.opened.find? fun id => matching id || isSpecial b.arena id with
  | some id =>
    if matching id then
      closeImpliedExcept name
      modify fun b => { b with opened := (b.opened.dropWhile (· != id)).tail }
  | none => pure ()

inductive Bookmark where
  | replace
  | after (id : Nat)

/-- The walk from a block outwards to the formatting element. `inner` holds the open elements inside
the place reached, and the walk gives what stays of them, the outermost node moved so far and the
bookmark. -/
def moveOut (formatting block : Nat) :
    Nat → List Nat → List Nat → Nat → Bookmark → Build (List Nat × Nat × Bookmark)
  | _, inner, [], last, mark => return (inner, last, mark)
  | count, inner, node :: outer, last, mark => do
    if node = formatting then return (inner ++ node :: outer, last, mark)
    let b ← get
    match formatTag? b node with
    | none => moveOut formatting block (count + 1) inner outer last mark
    | some tag =>
      if count ≥ 3 then
        removeFormat node
        moveOut formatting block (count + 1) inner outer last mark
      else
        let fresh ← makeElement .html tag.name (plainAttributes tag.attributes)
        replaceFormat node fresh tag
        let mark := if last = block then .after fresh else mark
        onArena fun a => (a.detach last).append fresh last
        moveOut formatting block (count + 1) (inner ++ [fresh]) outer fresh mark

def settle (formatting fresh : Nat) (tag : Tag) : Bookmark → Build Unit
  | .replace => replaceFormat formatting fresh tag
  | .after id => do
    modify fun b =>
      { b with
        formats := b.formats.flatMap fun f =>
          if Format.isOf id f then [.element fresh tag, f] else [f] }
    removeFormat formatting

def adoptOnce (name : String) : Build Bool := do
  let b ← get
  match (region b.formats).find? fun entry => entry.2.name == name with
  | none =>
    closeGeneric name
    return false
  | some (formatting, tag) =>
    if !b.opened.contains formatting then
      removeFormat formatting
      return false
    if !(← isInScope formatting) then return false
    let inside := b.opened.takeWhile (· != formatting)
    match (inside.filter (isSpecial b.arena)).getLast? with
    | none =>
      modify fun b => { b with opened := (b.opened.dropWhile (· != formatting)).tail }
      removeFormat formatting
      return false
    | some block =>
      let around := ((b.opened.dropWhile (· != formatting)).tail).headD Arena.documentId
      let deeper := b.opened.takeWhile (· != block)
      let outer := (b.opened.dropWhile (· != block)).tail
      let (kept, last, mark) ← moveOut formatting block 0 (deeper ++ [block]) outer block .replace
      modify fun b => { b with opened := kept }
      onArena fun a => a.detach last
      insertNodeIn around last
      let fresh ← makeElement .html tag.name (plainAttributes tag.attributes)
      onArena fun a => (a.moveChildren block fresh).append block fresh
      settle formatting fresh tag mark
      removeOpened formatting
      modify fun b =>
        { b with
          opened := b.opened.flatMap fun id => if id = block then [fresh, id] else [id] }
      return true

def adoptRounds (name : String) : Nat → Build Unit
  | 0 => pure ()
  | rounds + 1 => do
    if ← adoptOnce name then adoptRounds name rounds

def adopt (name : String) : Build Unit := do
  let b ← get
  let top ← current
  if (← currentIs [name]) && !isFormat b top then pop else adoptRounds name 8

def closeAnchor : Build Unit := do
  let b ← get
  match (region b.formats).find? fun entry => entry.2.name == "a" with
  | none => pure ()
  | some (id, _) =>
    adopt "a"
    removeFormat id
    removeOpened id

end PageExtract.Html.Build
