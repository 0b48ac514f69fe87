import PageExtract.Html.Token

/-! A comment ends at two hyphens and a greater-than sign, at a few shorter spellings, or with the
page. -/
namespace PageExtract.Html.CommentLexer

inductive Place where
  | start
  | startDash
  | body
  | dash
  | dashDash
  | bang
deriving DecidableEq

/-- The characters that a place holds back until it is clear that the comment goes on. -/
def Place.held : Place → List Char
  | start => []
  | startDash => ['-']
  | body => []
  | dash => ['-']
  | dashDash => ['-', '-']
  | bang => ['-', '-', '!']

def Place.canEnd : Place → Bool
  | start => true
  | startDash => true
  | body => false
  | dash => false
  | dashDash => true
  | bang => true

def scan (read : List Char) : Place → List Char → List Char × List Char
  | _, [] => (read.reverse, [])
  | place, c :: rest =>
    if c = '>' && place.canEnd then (read.reverse, rest)
    else
      match place, c with
      | .start, '-' => scan read .startDash rest
      | .startDash, '-' => scan read .dashDash rest
      | .body, '-' => scan read .dash rest
      | .dash, '-' => scan read .dashDash rest
      | .dashDash, '-' => scan ('-' :: read) .dashDash rest
      | .dashDash, '!' => scan read .bang rest
      | .bang, '-' => scan (place.held.reverse ++ read) .dash rest
      | _, _ => scan (replaceNull c :: (place.held.reverse ++ read)) .body rest

def comment (s : List Char) : Token × List Char :=
  let (text, rest) := scan [] .start s
  (.comment (String.ofList text), rest)

def bogus (s : List Char) : Token × List Char :=
  let inside (c : Char) : Bool := c != '>'
  (.comment (String.ofList ((s.takeWhile inside).map replaceNull)), (s.dropWhile inside).drop 1)

end PageExtract.Html.CommentLexer
