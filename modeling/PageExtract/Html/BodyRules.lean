import PageExtract.Html.Foreign
import PageExtract.Html.HeadRules

/-! The rules by which tokens are read in the body of a page. -/
namespace PageExtract.Html.Build

def headings : List String := ["h1", "h2", "h3", "h4", "h5", "h6"]

def blocks : List String :=
  ["address", "article", "aside", "blockquote", "center", "details", "dialog", "dir", "div", "dl",
   "fieldset", "figcaption", "figure", "footer", "header", "hgroup", "main", "menu", "nav", "ol",
   "p", "search", "section", "summary", "ul"]

def closingBlocks : List String :=
  ["address", "article", "aside", "blockquote", "button", "center", "details", "dialog", "dir",
   "div", "dl", "fieldset", "figcaption", "figure", "footer", "header", "hgroup", "listing",
   "main", "menu", "nav", "ol", "pre", "search", "section", "summary", "ul"]

def formattings : List String :=
  ["b", "big", "code", "em", "font", "i", "s", "small", "strike", "strong", "tt", "u"]

def misplaced : List String :=
  ["caption", "col", "colgroup", "frame", "head", "tbody", "td", "tfoot", "th", "thead", "tr"]

def isHidden (tag : Tag) : Bool :=
  (tag.attributes.find? fun a => a.1 == "type").any fun a => a.2.map Char.toLower == "hidden"

def bodyElement? : Build (Option Nat) := do
  let b ← get
  return b.opened.reverse[1]?.filter fun id => (b.arena.elementName? id).any (isHtmlNamed ["body"])

def mergeBody (tag : Tag) : Build Unit := do
  match ← bodyElement? with
  | some body =>
    if !(← inTemplate) then
      forbidFrameset
      onArena fun a => a.addMissing body (plainAttributes tag.attributes)
  | none => pure ()

def replaceBody (tag : Tag) : Build Unit := do
  if (← get).framesetAllowed then
    match ← bodyElement? with
    | some body =>
      onArena fun a => a.detach body
      modify fun b => { b with opened := b.opened.drop (b.opened.length - 1) }
      insertOpen tag
      setMode .inFrameset
    | none => pure ()

def openItem? (arena : Arena) (names : List String) : List Nat → Option String
  | [] => none
  | id :: rest =>
    let name := (arena.elementName? id).getD (.html, "")
    if isHtmlNamed names name then some name.2
    else if isSpecial arena id && !isHtmlNamed ["address", "div", "p"] name then none
    else openItem? arena names rest

def openItem (tag : Tag) : Build Unit := do
  forbidFrameset
  let b ← get
  let names := if tag.name == "li" then ["li"] else ["dd", "dt"]
  match openItem? b.arena names b.opened with
  | some name =>
    closeImpliedExcept name
    popThrough [name]
  | none => pure ()
  closeParagraphInScope
  insertOpen tag

def openForm (tag : Tag) : Build Unit := do
  let nested ← inTemplate
  if (← get).form.isNone || nested then
    closeParagraphInScope
    let id ← openTag tag
    if !nested then modify fun b => { b with form := some id }

def closeForm : Build Unit := do
  if ← inTemplate then
    if ← inScope endsScope ["form"] then
      closeImplied
      popThrough ["form"]
  else
    let form := (← get).form
    modify fun b => { b with form := none }
    match form with
    | some id =>
      if ← isInScope id then
        closeImplied
        removeOpened id
    | none => pure ()

def openButton (tag : Tag) : Build Unit := do
  if ← inScope endsScope ["button"] then
    closeImplied
    popThrough ["button"]
  reconstruct
  insertOpen tag
  forbidFrameset

def closeInScope (name : String) : Build Unit := do
  if ← inScope endsScope [name] then
    closeImplied
    popThrough [name]

def openSelect (tag : Tag) : Build Unit := do
  reconstruct
  insertOpen tag
  forbidFrameset
  let inTable := [Mode.inTable, .inCaption, .inTableBody, .inRow, .inCell].contains (← get).mode
  setMode (if inTable then .inSelectInTable else .inSelect)

def openNobr (tag : Tag) : Build Unit := do
  reconstruct
  if ← inScope endsScope ["nobr"] then
    adopt "nobr"
    reconstruct
  openFormatting tag

def voidInText (tag : Tag) : Build Unit := do
  reconstruct
  insertVoid tag
  if !(tag.name == "input" && isHidden tag) then forbidFrameset

def bodyOpening (tag : Tag) : Build Unit := do
  let name := tag.name
  if name == "html" then mergeRoot tag
  else if headNames.contains name then headTag tag
  else if name == "body" then mergeBody tag
  else if name == "frameset" then replaceBody tag
  else if blocks.contains name then
    closeParagraphInScope
    insertOpen tag
  else if headings.contains name then
    closeParagraphInScope
    if ← currentIs headings then pop
    insertOpen tag
  else if formattings.contains name then
    reconstruct
    openFormatting tag
  else if misplaced.contains name then pure ()
  else
    match name with
    | "pre" | "listing" =>
      closeParagraphInScope
      insertOpen tag
      modify fun b => { b with skipLineFeed := true, framesetAllowed := false }
    | "form" => openForm tag
    | "li" | "dd" | "dt" => openItem tag
    | "plaintext" =>
      closeParagraphInScope
      insertOpen tag
      setContent .plain
    | "button" => openButton tag
    | "a" =>
      closeAnchor
      reconstruct
      openFormatting tag
    | "nobr" => openNobr tag
    | "applet" | "marquee" | "object" =>
      reconstruct
      insertOpen tag
      pushMarker
      forbidFrameset
    | "table" =>
      if !(← get).compatible then closeParagraphInScope
      insertOpen tag
      modify fun b => { b with framesetAllowed := false, mode := .inTable }
    | "area" | "br" | "embed" | "img" | "keygen" | "wbr" | "input" => voidInText tag
    | "image" => voidInText { tag with name := "img" }
    | "param" | "source" | "track" => insertVoid tag
    | "hr" =>
      closeParagraphInScope
      insertVoid tag
      forbidFrameset
    | "textarea" =>
      modify fun b => { b with skipLineFeed := true, framesetAllowed := false }
      insertWithContent tag (.escapable "textarea")
    | "xmp" =>
      closeParagraphInScope
      reconstruct
      forbidFrameset
      insertWithContent tag (.raw "xmp")
    | "iframe" =>
      forbidFrameset
      insertWithContent tag (.raw "iframe")
    | "noembed" | "noscript" => insertWithContent tag (.raw name)
    | "select" => openSelect tag
    | "optgroup" | "option" =>
      if ← currentIs ["option"] then pop
      reconstruct
      insertOpen tag
    | "rb" | "rtc" =>
      if ← inScope endsScope ["ruby"] then closeImplied
      insertOpen tag
    | "rp" | "rt" =>
      if ← inScope endsScope ["ruby"] then closeImpliedExcept "rtc"
      insertOpen tag
    | "math" => insertForeign .mathml tag
    | "svg" => insertForeign .svg tag
    | _ =>
      reconstruct
      insertOpen tag

def bodyClosing (name : String) : Outcome := do
  if closingBlocks.contains name then finishing (closeInScope name)
  else if headings.contains name then
    if ← inScope endsScope headings then
      closeImplied
      popThrough headings
    done
  else if name == "a" || name == "nobr" || formattings.contains name then finishing (adopt name)
  else
    match name with
    | "template" => finishing closeTemplate
    | "body" =>
      if ← inScope endsScope ["body"] then setMode .afterBody
      done
    | "html" => if ← inScope endsScope ["body"] then again .afterBody else done
    | "form" => finishing closeForm
    | "p" =>
      if !(← inScope endsButtonScope ["p"]) then
        let _ ← insertImplied "p"
      finishing closeParagraph
    | "li" =>
      if ← inScope endsListScope ["li"] then
        closeImpliedExcept "li"
        popThrough ["li"]
      done
    | "dd" | "dt" =>
      if ← inScope endsScope [name] then
        closeImpliedExcept name
        popThrough [name]
      done
    | "applet" | "marquee" | "object" =>
      if ← inScope endsScope [name] then
        closeImplied
        popThrough [name]
        clearToMarker
      done
    | "br" => finishing (voidInText ⟨"br", [], false⟩)
    | _ => finishing (closeGeneric name)

def inBody (piece : Piece) : Outcome := do
  match piece with
  | .char c =>
    if c == '\x00' then done
    else
      reconstruct
      if !isTextSpace c then forbidFrameset
      finishing (insertChar c)
  | .comment s => finishing (insertComment s)
  | .opening tag => finishing (bodyOpening tag)
  | .closing name => bodyClosing name
  | .finish => if (← get).templates.isEmpty then done else finishTemplate

def inText (piece : Piece) : Outcome := do
  match piece with
  | .char c => finishing (insertChar c)
  | .finish =>
    pop
    again (← get).resume
  | .closing _ =>
    pop
    setMode (← get).resume
    done
  | _ => done

end PageExtract.Html.Build
