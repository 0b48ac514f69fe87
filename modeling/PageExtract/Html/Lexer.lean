import PageExtract.Html.CommentLexer
import PageExtract.Html.DoctypeLexer
import PageExtract.Html.TagLexer

/-! Cutting a page into tokens, each the first of what is left of the page. The tree built so far
decides which content is read. -/
namespace PageExtract.Html.Lexer

def closes (name : String) (s : List Char) : Bool :=
  match s with
  | '<' :: '/' :: rest =>
    (rest.take name.length).map Char.toLower == name.toList
      && (rest.drop name.length).head?.any TagLexer.isNameEnd
  | _ => false

def opens (name : String) (s : List Char) : Bool :=
  match s with
  | '<' :: rest =>
    (rest.take name.length).map Char.toLower == name.toList
      && (rest.drop name.length).head?.any TagLexer.isNameEnd
  | _ => false

def rawSpan (name : String) (read : List Char) (s : List Char) : List Char × List Char :=
  match s with
  | [] => (read.reverse, [])
  | c :: rest =>
    if closes name s then (read.reverse, s) else rawSpan name (replaceNull c :: read) rest

/-- Where in a script a text stands: outside comments, in one, or in a script element in one; inside,
with the number of hyphens before it, up to two. -/
inductive ScriptPlace where
  | plain
  | comment (hyphens : Nat)
  | nested (hyphens : Nat)
deriving DecidableEq

def scriptStep (place : ScriptPlace) (s : List Char) : Nat × ScriptPlace :=
  match place, s with
  | .plain, '<' :: '!' :: '-' :: '-' :: _ => (4, .comment 2)
  | .plain, _ => (1, .plain)
  | .comment n, '-' :: _ => (1, .comment (min (n + 1) 2))
  | .comment 2, '>' :: _ => (1, .plain)
  | .comment _, _ => if opens "script" s then (8, .nested 0) else (1, .comment 0)
  | .nested n, '-' :: _ => (1, .nested (min (n + 1) 2))
  | .nested 2, '>' :: _ => (1, .plain)
  | .nested _, _ => if closes "script" s then (9, .comment 0) else (1, .nested 0)

def scriptSpan : Nat → ScriptPlace → List Char → List Char → List Char × List Char
  | 0, _, read, s => (read.reverse, s)
  | fuel + 1, place, read, s =>
    match s with
    | [] => (read.reverse, [])
    | _ :: _ =>
      let inScript := match place with
        | .nested _ => false
        | _ => true
      if inScript && closes "script" s then (read.reverse, s)
      else
        let (taken, next) := scriptStep place s
        scriptSpan fuel next (((s.take taken).map replaceNull).reverse ++ read) (s.drop taken)

def sectionSpan (read : List Char) (s : List Char) : List Char × List Char :=
  match s with
  | [] => (read.reverse, [])
  | ']' :: ']' :: '>' :: rest => (read.reverse, rest)
  | c :: rest => sectionSpan (c :: read) rest

def declaration (foreign : Bool) (s : List Char) : Token × List Char :=
  match s with
  | '-' :: '-' :: rest => CommentLexer.comment rest
  | _ =>
    match DoctypeLexer.afterWord? "doctype" s with
    | some rest =>
      let (d, left) := DoctypeLexer.doctype rest
      (.doctype d, left)
    | none =>
      if foreign && "[CDATA[".toList.isPrefixOf s then
        let (text, left) := sectionSpan [] (s.drop 7)
        (.text text, left)
      else CommentLexer.bogus s

def markup (foreign : Bool) (s : List Char) : List Token × List Char :=
  match s with
  | '!' :: rest =>
    let (token, left) := declaration foreign rest
    ([token], left)
  | '?' :: _ =>
    let (token, left) := CommentLexer.bogus s
    ([token], left)
  | '/' :: '>' :: rest => ([.mistake], rest)
  | '/' :: c :: rest =>
    if c.isAlpha then
      match TagLexer.tag? (c :: rest) with
      | some (tag, left) => ([.closing tag.name], left)
      | none => ([], [])
    else
      let (token, left) := CommentLexer.bogus (c :: rest)
      ([token], left)
  | c :: rest =>
    if c.isAlpha then
      match TagLexer.tag? (c :: rest) with
      | some (tag, left) => ([.opening tag], left)
      | none => ([], [])
    else ([.text ['<']], s)
  | [] => ([.text ['<']], s)

def textToken (s : List Char) : List Token := if s.isEmpty then [] else [.text s]

def decoded (s : List Char) : List Token :=
  let text := [.text (Entity.decode false s)]
  if Entity.lacksSemicolon s then .mistake :: text else text

def next (content : Content) (foreign : Bool) (s : List Char) : List Token × List Char :=
  let orTag (found : List Char × List Char) (tokens : List Token) : List Token × List Char :=
    if found.1.isEmpty then
      match found.2 with
      | _ :: rest => markup foreign rest
      | [] => ([], [])
    else (tokens, found.2)
  match content with
  | .markup =>
    match s with
    | '<' :: rest => markup foreign rest
    | [] => ([], [])
    | _ =>
      let inText (c : Char) : Bool := c != '<'
      (decoded (s.takeWhile inText), s.dropWhile inText)
  | .escapable name =>
    let found := rawSpan name [] s
    orTag found (decoded found.1)
  | .raw name =>
    let found := rawSpan name [] s
    orTag found [.text found.1]
  | .script =>
    let found := scriptSpan (s.length + 1) .plain [] s
    orTag found [.text found.1]
  | .plain => (textToken (s.map replaceNull), [])

def withoutMark (s : List Char) : List Char :=
  match s with
  | '\uFEFF' :: rest => rest
  | _ => s

/-- Line ends are one line feed, and a byte order mark in front is dropped. -/
def normalize (s : List Char) : List Char := lines [] (withoutMark s)
where
  lines (read : List Char) : List Char → List Char
    | [] => read.reverse
    | '\r' :: '\n' :: rest => lines ('\n' :: read) rest
    | '\r' :: rest => lines ('\n' :: read) rest
    | c :: rest => lines (c :: read) rest

end PageExtract.Html.Lexer
