import PageExtract.Html.Formatting

/-! The start of the page, the head, and templates. Rules give the mode to read the same piece
again by, or `none` when the piece is dealt with. -/
namespace PageExtract.Html.Build

abbrev Outcome := Build (Option Mode)

def done : Outcome := return none

def again (mode : Mode) : Outcome := return some mode

def finishing (action : Build Unit) : Outcome := do
  action
  done

def makeRoot (attributes : List (String × String)) : Build Unit := do
  let id ← makeElement .html "html" (plainAttributes attributes)
  onArena fun a => a.append Arena.documentId id
  push id

def mergeRoot (tag : Tag) : Build Unit := do
  if !(← inTemplate) then
    match (← get).opened.getLast? with
    | some root => onArena fun a => a.addMissing root (plainAttributes tag.attributes)
    | none => pure ()

def initial (piece : Piece) : Outcome := do
  let leave : Outcome := do
    modify fun b => { b with compatible := true }
    again .beforeHtml
  match piece with
  | .char c => if isTextSpace c then done else leave
  | .comment s => finishing (commentUnder Arena.documentId s)
  | _ => leave

def openingEnds : List String := ["head", "body", "html", "br"]

def beforeHtml (piece : Piece) : Outcome := do
  let leave : Outcome := do
    makeRoot []
    again .beforeHead
  match piece with
  | .char c => if isTextSpace c then done else leave
  | .comment s => finishing (commentUnder Arena.documentId s)
  | .opening tag =>
    if tag.name == "html" then
      makeRoot tag.attributes
      setMode .beforeHead
      done
    else leave
  | .closing name => if openingEnds.contains name then leave else done
  | .finish => leave

def beforeHead (piece : Piece) : Outcome := do
  let leave : Outcome := do
    let head ← insertImplied "head"
    modify fun b => { b with head := some head }
    again .inHead
  match piece with
  | .char c => if isTextSpace c then done else leave
  | .comment s => finishing (insertComment s)
  | .opening tag =>
    if tag.name == "html" then finishing (mergeRoot tag)
    else if tag.name == "head" then
      let head ← openTag tag
      modify fun b => { b with head := some head, mode := .inHead }
      done
    else leave
  | .closing name => if openingEnds.contains name then leave else done
  | .finish => leave

def headNames : List String :=
  ["base", "basefont", "bgsound", "link", "meta", "noframes", "script", "style", "template", "title"]

def openTemplate (tag : Tag) : Build Unit := do
  insertOpen tag
  pushMarker
  modify fun b =>
    { b with
      framesetAllowed := false
      mode := .inTemplate
      templates := .inTemplate :: b.templates }

def closeTemplate : Build Unit := do
  if ← inTemplate then
    closeAmong thoroughImpliedEnds
    popThrough ["template"]
    clearToMarker
    modify fun b => { b with templates := b.templates.tail }
    resetMode

def headTag (tag : Tag) : Build Unit :=
  match tag.name with
  | "title" => insertWithContent tag (.escapable "title")
  | "noframes" | "style" | "noscript" => insertWithContent tag (.raw tag.name)
  | "script" => insertWithContent tag .script
  | "template" => openTemplate tag
  | _ => insertVoid tag

def inHead (piece : Piece) : Outcome := do
  let leave : Outcome := do
    pop
    again .afterHead
  match piece with
  | .char c => if isTextSpace c then finishing (insertChar c) else leave
  | .comment s => finishing (insertComment s)
  | .opening tag =>
    if tag.name == "html" then finishing (mergeRoot tag)
    else if headNames.contains tag.name || tag.name == "noscript" then finishing (headTag tag)
    else if tag.name == "head" then done
    else leave
  | .closing name =>
    match name with
    | "head" =>
      pop
      setMode .afterHead
      done
    | "body" | "html" | "br" => leave
    | "template" => finishing closeTemplate
    | _ => done
  | .finish => leave

def afterHead (piece : Piece) : Outcome := do
  let leave : Outcome := do
    let _ ← insertImplied "body"
    again .inBody
  match piece with
  | .char c => if isTextSpace c then finishing (insertChar c) else leave
  | .comment s => finishing (insertComment s)
  | .opening tag =>
    if tag.name == "html" then finishing (mergeRoot tag)
    else if tag.name == "body" then
      insertOpen tag
      modify fun b => { b with framesetAllowed := false, mode := .inBody }
      done
    else if tag.name == "frameset" then
      insertOpen tag
      setMode .inFrameset
      done
    else if headNames.contains tag.name then
      match (← get).head with
      | some head =>
        push head
        headTag tag
        removeOpened head
        done
      | none => done
    else if tag.name == "head" then done
    else leave
  | .closing name =>
    match name with
    | "body" | "html" | "br" => leave
    | "template" => finishing closeTemplate
    | _ => done
  | .finish => leave

def finishTemplate : Outcome := do
  if ← inTemplate then
    popThrough ["template"]
    clearToMarker
    modify fun b => { b with templates := b.templates.tail }
    resetMode
    again (← naturalMode)
  else done

end PageExtract.Html.Build
