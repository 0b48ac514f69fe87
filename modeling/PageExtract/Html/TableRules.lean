import PageExtract.Html.BodyRules

/-! The rules inside tables. Content that does not belong there goes in front of the table. -/
namespace PageExtract.Html.Build

def fostered (piece : Piece) : Outcome := do
  modify fun b => { b with fostering := true }
  let next ← inBody piece
  modify fun b => { b with fostering := false }
  return next

def tableContext : List String := ["html", "table", "template"]

def bodyContext : List String := ["tbody", "tfoot", "thead", "template", "html"]

def rowContext : List String := ["tr", "template", "html"]

def closeTable : Build Unit := do
  popThrough ["table"]
  resetMode

def tableChar (c : Char) : Outcome := do
  if ← currentIs tableParts then
    modify fun b => { b with resume := b.mode }
    again .inTableText
  else fostered (.char c)

def inTable (piece : Piece) : Outcome := do
  match piece with
  | .char c => tableChar c
  | .comment s => finishing (insertComment s)
  | .opening tag =>
    match tag.name with
    | "caption" =>
      popTo tableContext
      pushMarker
      insertOpen tag
      setMode .inCaption
      done
    | "colgroup" =>
      popTo tableContext
      insertOpen tag
      setMode .inColumnGroup
      done
    | "col" =>
      popTo tableContext
      let _ ← insertImplied "colgroup"
      again .inColumnGroup
    | "tbody" | "tfoot" | "thead" =>
      popTo tableContext
      insertOpen tag
      setMode .inTableBody
      done
    | "td" | "th" | "tr" =>
      popTo tableContext
      let _ ← insertImplied "tbody"
      again .inTableBody
    | "table" =>
      if ← inScope endsTableScope ["table"] then
        popThrough ["table"]
        again (← naturalMode)
      else done
    | "style" | "script" | "template" => finishing (headTag tag)
    | "input" => if isHidden tag then finishing (insertVoid tag) else fostered piece
    | "form" =>
      if !(← inTemplate) && (← get).form.isNone then
        let id ← openTag tag
        pop
        modify fun b => { b with form := some id }
      done
    | _ => fostered piece
  | .closing name =>
    match name with
    | "table" =>
      if ← inScope endsTableScope ["table"] then closeTable
      done
    | "body" | "caption" | "col" | "colgroup" | "html" | "tbody" | "td" | "tfoot" | "th" | "thead"
    | "tr" => done
    | "template" => finishing closeTemplate
    | _ => fostered piece
  | .finish => inBody piece

/-- Characters inside a table are gathered: blank text stays, other text goes in front. -/
def inTableText (piece : Piece) : Outcome := do
  match piece with
  | .char c =>
    if c != '\x00' then modify fun b => { b with tableText := c :: b.tableText }
    done
  | _ =>
    let b ← get
    let text := b.tableText.reverse
    set { b with tableText := [] }
    if text.all isTextSpace then
      if !text.isEmpty then insertText (String.ofList text)
    else
      for c in text do
        let _ ← fostered (.char c)
    again b.resume

def partNames : List String :=
  ["caption", "col", "colgroup", "tbody", "td", "tfoot", "th", "thead", "tr"]

def closeCaption : Build Unit := do
  closeImplied
  popThrough ["caption"]
  clearToMarker

def inCaption (piece : Piece) : Outcome := do
  match piece with
  | .opening tag =>
    if partNames.contains tag.name then
      if ← inScope endsTableScope ["caption"] then
        closeCaption
        again .inTable
      else done
    else inBody piece
  | .closing name =>
    if name == "caption" then
      if ← inScope endsTableScope ["caption"] then
        closeCaption
        setMode .inTable
      done
    else if name == "table" then
      if ← inScope endsTableScope ["caption"] then
        closeCaption
        again .inTable
      else done
    else if name == "body" || name == "html" || partNames.contains name then done
    else inBody piece
  | _ => inBody piece

def inColumnGroup (piece : Piece) : Outcome := do
  let leave : Outcome := do
    if ← currentIs ["colgroup"] then
      pop
      again .inTable
    else done
  match piece with
  | .char c => if isTextSpace c then finishing (insertChar c) else leave
  | .comment s => finishing (insertComment s)
  | .opening tag =>
    match tag.name with
    | "html" => finishing (mergeRoot tag)
    | "col" => finishing (insertVoid tag)
    | "template" => finishing (headTag tag)
    | _ => leave
  | .closing name =>
    match name with
    | "colgroup" =>
      if ← currentIs ["colgroup"] then
        pop
        setMode .inTable
      done
    | "col" => done
    | "template" => finishing closeTemplate
    | _ => leave
  | .finish => inBody piece

def leaveBody : Outcome := do
  popTo bodyContext
  pop
  again .inTable

def inTableBody (piece : Piece) : Outcome := do
  match piece with
  | .opening tag =>
    match tag.name with
    | "tr" =>
      popTo bodyContext
      insertOpen tag
      setMode .inRow
      done
    | "th" | "td" =>
      popTo bodyContext
      let _ ← insertImplied "tr"
      again .inRow
    | "caption" | "col" | "colgroup" | "tbody" | "tfoot" | "thead" =>
      if ← inScope endsTableScope ["table", "tbody", "tfoot"] then leaveBody else done
    | _ => inTable piece
  | .closing name =>
    match name with
    | "tbody" | "tfoot" | "thead" =>
      if ← inScope endsTableScope [name] then
        popTo bodyContext
        pop
        setMode .inTable
      done
    | "table" => if ← inScope endsTableScope ["table", "tbody", "tfoot"] then leaveBody else done
    | "body" | "caption" | "col" | "colgroup" | "html" | "td" | "th" | "tr" => done
    | _ => inTable piece
  | _ => inTable piece

def leaveRow : Outcome := do
  if ← inScope endsTableScope ["tr"] then
    popTo rowContext
    pop
    again .inTableBody
  else done

def inRow (piece : Piece) : Outcome := do
  match piece with
  | .opening tag =>
    match tag.name with
    | "th" | "td" =>
      popTo rowContext
      insertOpen tag
      setMode .inCell
      pushMarker
      done
    | "caption" | "col" | "colgroup" | "tbody" | "tfoot" | "thead" | "tr" => leaveRow
    | _ => inTable piece
  | .closing name =>
    match name with
    | "tr" =>
      if ← inScope endsTableScope ["tr"] then
        popTo rowContext
        pop
        setMode .inTableBody
      done
    | "table" => leaveRow
    | "tbody" | "tfoot" | "thead" => if ← inScope endsTableScope [name] then leaveRow else done
    | "body" | "caption" | "col" | "colgroup" | "html" | "td" | "th" => done
    | _ => inTable piece
  | _ => inTable piece

def leaveCell : Outcome := do
  closeImplied
  popThrough ["td", "th"]
  clearToMarker
  again .inRow

def inCell (piece : Piece) : Outcome := do
  match piece with
  | .opening tag =>
    if partNames.contains tag.name then
      if ← inScope endsTableScope ["td", "th"] then leaveCell else done
    else inBody piece
  | .closing name =>
    match name with
    | "td" | "th" =>
      if ← inScope endsTableScope [name] then
        closeImplied
        popThrough [name]
        clearToMarker
        setMode .inRow
      done
    | "body" | "caption" | "col" | "colgroup" | "html" => done
    | "table" | "tbody" | "tfoot" | "thead" | "tr" =>
      if ← inScope endsTableScope [name] then leaveCell else done
    | _ => inBody piece
  | _ => inBody piece

end PageExtract.Html.Build
