/-! What a page is cut into before its tree is built. -/
namespace PageExtract.Html

structure Tag where
  name : String
  attributes : List (String × String)
  selfClosing : Bool
deriving DecidableEq

structure Doctype where
  name : Option String
  publicId : Option String
  systemId : Option String
  malformed : Bool
deriving DecidableEq

inductive Token where
  | doctype (d : Doctype)
  | opening (tag : Tag)
  | closing (name : String)
  | comment (s : String)
  | text (s : List Char)
  | mistake
deriving DecidableEq

/-- How the text after a start tag is cut. Escapable text has references in it; raw text stands as it
is up to the end tag of that name, and plain text up to the end of the page. -/
inductive Content where
  | markup
  | escapable (name : String)
  | raw (name : String)
  | script
  | plain
deriving DecidableEq

def isTagSpace (c : Char) : Bool := c == '\t' || c == '\n' || c == '\x0c' || c == ' '

/-- White space between tokens. Line ends are already normal, but a reference can give a carriage
return. -/
def isTextSpace (c : Char) : Bool := isTagSpace c || c == '\r'

/-- No token holds `U+0000` except text, where the place decides. -/
def replaceNull (c : Char) : Char := if c = '\x00' then '\uFFFD' else c

end PageExtract.Html
