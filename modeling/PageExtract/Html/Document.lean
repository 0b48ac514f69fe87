import PageExtract.Html.DoctypeLayout
import PageExtract.Html.Lexer
import PageExtract.Html.OtherRules

/-! The trees of whole pages. Any text is a page: reading never fails. -/
namespace PageExtract.Html

namespace Build

def byMode (mode : Mode) (piece : Piece) : Outcome :=
  match mode with
  | .initial => initial piece
  | .beforeHtml => beforeHtml piece
  | .beforeHead => beforeHead piece
  | .inHead => inHead piece
  | .afterHead => afterHead piece
  | .inBody => inBody piece
  | .inText => inText piece
  | .inTable => inTable piece
  | .inTableText => inTableText piece
  | .inCaption => inCaption piece
  | .inColumnGroup => inColumnGroup piece
  | .inTableBody => inTableBody piece
  | .inRow => inRow piece
  | .inCell => inCell piece
  | .inSelect => inSelect piece
  | .inSelectInTable => inSelectInTable piece
  | .inTemplate => inTemplateContents piece
  | .afterBody => afterBody piece
  | .inFrameset => inFrameset piece
  | .afterFrameset => afterFrameset piece
  | .afterAfterBody => afterAfterBody piece
  | .afterAfterFrameset => afterAfterFrameset piece

def foreignRules (piece : Piece) : Outcome := do
  match piece with
  | .char c =>
    if !isTextSpace c && c != '\x00' then forbidFrameset
    finishing (insertChar (replaceNull c))
  | .comment s => finishing (insertComment s)
  | .opening tag =>
    if breaksOut tag then
      leaveForeign
      byMode (← get).mode piece
    else finishing (foreignOpening tag)
  | .closing name =>
    let b ← get
    if name == "br" || name == "p" then
      leaveForeign
      byMode b.mode piece
    else
      match closedForeign? b.arena name true b.opened with
      | some opened =>
        if opened.isEmpty then done else finishing (modify fun b => { b with opened })
      | none => byMode b.mode piece
  | .finish => done

def feed : Nat → Piece → Build Unit
  | 0, _ => pure ()
  | rounds + 1, piece => do
    let next ← if ← isForeign piece then foreignRules piece else byMode (← get).mode piece
    match next with
    | some mode =>
      setMode mode
      feed rounds piece
    | none => pure ()

/-- Enough rounds for any piece: each closes an element or goes on to a later mode. -/
def rounds (b : Builder) : Nat := 8 * (b.opened.length + 8)

def feedPiece (piece : Piece) : Build Unit := do feed (rounds (← get)) piece

def feedToken (token : Token) : Build Unit := do
  let skip := (← get).skipLineFeed
  modify fun b => { b with skipLineFeed := false }
  match token with
  | .doctype d =>
    if (← get).mode = .initial then
      let id ← addNode (.doctype (d.name.getD ""))
      onArena fun a => a.append Arena.documentId id
      modify fun b => { b with mode := .beforeHtml, compatible := d.isCompatible }
  | .opening tag =>
    setContent .markup
    feedPiece (.opening tag)
  | .closing name =>
    setContent .markup
    feedPiece (.closing name)
  | .comment s => feedPiece (.comment s)
  | .text cs =>
    let cs := match cs with
      | '\n' :: rest => if skip then rest else cs
      | _ => cs
    for c in cs do
      feedPiece (.char c)
  | .mistake => pure ()

def insideForeign (b : Builder) : Bool :=
  match b.opened with
  | id :: _ => (b.arena.elementName? id).any fun name => name.1 != .html
  | [] => false

def endsScript (content : Content) : Token → Bool
  | .closing _ => content == .script
  | _ => false

/-- Reads a page to its end. Reading starts afresh after a script, so that a byte order mark is
dropped there too. Every step takes a character at least, so the length of the page is fuel
enough. -/
def readAll : Nat → List Char → Build Unit
  | 0, _ => pure ()
  | fuel + 1, s => do
    if !s.isEmpty then
      let b ← get
      let (tokens, rest) := Lexer.next b.content (insideForeign b) s
      for token in tokens do
        feedToken token
      readAll fuel (if tokens.any (endsScript b.content) then Lexer.withoutMark rest else rest)

end Build

/-- A page: its tree, and trees that were taken out of it while it was read. -/
structure Document where
  children : List Node
  removed : List Node

namespace Document

def ofArena (a : Arena) : Document where
  children := a.toNodes (a.children Arena.documentId).toList
  removed := a.toNodes a.loose

def parse (source : String) : Document :=
  let s := Lexer.normalize source.toList
  let reading : Build Unit := do
    Build.readAll s.length s
    Build.feedPiece .finish
  ofArena (reading.run .start).2.arena

end Document
end PageExtract.Html
