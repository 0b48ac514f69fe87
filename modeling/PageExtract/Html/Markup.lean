import PageExtract.Html.Node

/-! The inner markup of a node. Attribute values are quoted and text is escaped, but for the text
elements that are read as they stand. -/
namespace PageExtract.Html

def escapeText (c : Char) : String :=
  match c with
  | '&' => "&amp;"
  | '\u00A0' => "&nbsp;"
  | '<' => "&lt;"
  | '>' => "&gt;"
  | c => String.singleton c

def escapeValue (c : Char) : String :=
  match c with
  | '&' => "&amp;"
  | '\u00A0' => "&nbsp;"
  | '"' => "&quot;"
  | c => String.singleton c

def escaped (escape : Char → String) (s : String) : String := String.join (s.toList.map escape)

def AttributeSpace.mark : AttributeSpace → String
  | plain => ""
  | xlink => "xlink:"
  | xml => "xml:"
  | xmlns => "xmlns:"

def Attribute.fullName (a : Attribute) : String :=
  if a.space == .xmlns && a.name == "xmlns" then a.name else a.space.mark ++ a.name

def Attribute.markup (a : Attribute) : String :=
  " " ++ a.fullName ++ "=\"" ++ escaped escapeValue a.value ++ "\""

def Element.startTag (e : Element) : String :=
  "<" ++ e.name ++ String.join (e.attributes.map Attribute.markup) ++ ">"

def Element.endTag (e : Element) : String := "</" ++ e.name ++ ">"

def voidNames : List String :=
  ["area", "base", "basefont", "bgsound", "br", "col", "embed", "frame", "hr", "img", "input",
   "keygen", "link", "meta", "param", "source", "track", "wbr"]

def Element.isVoid (e : Element) : Bool := e.space == .html && voidNames.contains e.name

def rawNames : List String :=
  ["style", "script", "xmp", "iframe", "noembed", "noframes", "plaintext"]

def Element.isRaw (e : Element) : Bool := e.space == .html && rawNames.contains e.name

namespace Node

mutual

/-- The markup of a node. `raw` tells that the text of the element around it is not escaped. -/
def markup (raw : Bool) : Node → String
  | element e children =>
    if e.isVoid then e.startTag
    else e.startTag ++ markups e.isRaw children ++ e.endTag
  | text s => if raw then s else escaped escapeText s
  | comment s => "<!--" ++ s ++ "-->"
  | doctype name => "<!DOCTYPE " ++ name ++ ">"
  | fragment children => markups raw children

def markups (raw : Bool) : List Node → String
  | [] => ""
  | n :: rest => n.markup raw ++ markups raw rest

end

end Node

/-- The markup of the content of an element. Its own text is always escaped. -/
def innerMarkup (children : List Node) : String := Node.markups false children

end PageExtract.Html
