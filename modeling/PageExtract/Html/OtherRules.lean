import PageExtract.Html.TableRules

/-! The rules inside selections, templates and framesets, and after the body. -/
namespace PageExtract.Html.Build

def leaveSelect : Outcome := do
  popThrough ["select"]
  again (← naturalMode)

def selectOpening (piece : Piece) (tag : Tag) : Outcome := do
  match tag.name with
  | "html" => finishing (mergeRoot tag)
  | "option" =>
    if ← currentIs ["option"] then pop
    finishing (insertOpen tag)
  | "optgroup" =>
    if ← currentIs ["option"] then pop
    if ← currentIs ["optgroup"] then pop
    finishing (insertOpen tag)
  | "hr" =>
    if ← currentIs ["option"] then pop
    if ← currentIs ["optgroup"] then pop
    finishing (insertVoid tag)
  | "select" =>
    if ← inScope endsSelectScope ["select"] then
      popThrough ["select"]
      resetMode
    done
  | "input" | "keygen" | "textarea" =>
    if ← inScope endsSelectScope ["select"] then leaveSelect else done
  | "script" | "template" => inHead piece
  | _ => done

def selectClosing (name : String) : Outcome := do
  match name with
  | "optgroup" =>
    let around := (← get).opened.tail.headD Arena.documentId
    if (← currentIs ["option"]) && (← elementIs ["optgroup"] around) then pop
    if ← currentIs ["optgroup"] then pop
    done
  | "option" =>
    if ← currentIs ["option"] then pop
    done
  | "select" =>
    if ← inScope endsSelectScope ["select"] then
      popThrough ["select"]
      resetMode
    done
  | "template" => finishing closeTemplate
  | _ => done

def inSelect (piece : Piece) : Outcome := do
  match piece with
  | .char c => if c == '\x00' then done else finishing (insertChar c)
  | .comment s => finishing (insertComment s)
  | .opening tag => selectOpening piece tag
  | .closing name => selectClosing name
  | .finish => inBody piece

def selectEnders : List String :=
  ["caption", "table", "tbody", "tfoot", "thead", "tr", "td", "th"]

def inSelectInTable (piece : Piece) : Outcome := do
  match piece with
  | .opening tag => if selectEnders.contains tag.name then leaveSelect else inSelect piece
  | .closing name =>
    if selectEnders.contains name then
      if ← inScope endsTableScope [name] then leaveSelect else done
    else inSelect piece
  | _ => inSelect piece

def switchTemplate (mode : Mode) : Outcome := do
  modify fun b => { b with templates := mode :: b.templates.tail }
  again mode

def inTemplateContents (piece : Piece) : Outcome := do
  match piece with
  | .char _ => inBody piece
  | .comment _ => inBody piece
  | .opening tag =>
    if headNames.contains tag.name then inHead piece
    else
      match tag.name with
      | "caption" | "colgroup" | "tbody" | "tfoot" | "thead" => switchTemplate .inTable
      | "col" => switchTemplate .inColumnGroup
      | "tr" => switchTemplate .inTableBody
      | "td" | "th" => switchTemplate .inRow
      | _ => switchTemplate .inBody
  | .closing name => if name == "template" then finishing closeTemplate else done
  | .finish => finishTemplate

def afterBody (piece : Piece) : Outcome := do
  match piece with
  | .char c => if isTextSpace c then inBody piece else again .inBody
  | .comment s =>
    let root := (← get).opened.getLast?.getD Arena.documentId
    finishing (commentUnder root s)
  | .opening tag => if tag.name == "html" then inBody piece else again .inBody
  | .closing name =>
    if name == "html" then
      setMode .afterAfterBody
      done
    else again .inBody
  | .finish => done

def inFrameset (piece : Piece) : Outcome := do
  match piece with
  | .char c => if isTextSpace c then finishing (insertChar c) else done
  | .comment s => finishing (insertComment s)
  | .opening tag =>
    match tag.name with
    | "html" => finishing (mergeRoot tag)
    | "frameset" => finishing (insertOpen tag)
    | "frame" => finishing (insertVoid tag)
    | "noframes" => inHead piece
    | _ => done
  | .closing name =>
    if name == "frameset" && (← get).opened.length != 1 then
      pop
      if !(← currentIs ["frameset"]) then setMode .afterFrameset
    done
  | .finish => done

def afterFrameset (piece : Piece) : Outcome := do
  match piece with
  | .char c => if isTextSpace c then finishing (insertChar c) else done
  | .comment s => finishing (insertComment s)
  | .opening tag =>
    match tag.name with
    | "html" => finishing (mergeRoot tag)
    | "noframes" => inHead piece
    | _ => done
  | .closing name =>
    if name == "html" then setMode .afterAfterFrameset
    done
  | .finish => done

def afterAfterBody (piece : Piece) : Outcome := do
  match piece with
  | .char c => if isTextSpace c then inBody piece else again .inBody
  | .comment s => finishing (commentUnder Arena.documentId s)
  | .opening tag => if tag.name == "html" then inBody piece else again .inBody
  | .closing _ => again .inBody
  | .finish => done

def afterAfterFrameset (piece : Piece) : Outcome := do
  match piece with
  | .char c => if isTextSpace c then inBody piece else done
  | .comment s => finishing (commentUnder Arena.documentId s)
  | .opening tag =>
    match tag.name with
    | "html" => finishing (mergeRoot tag)
    | "noframes" => inHead piece
    | _ => done
  | _ => done

end PageExtract.Html.Build
