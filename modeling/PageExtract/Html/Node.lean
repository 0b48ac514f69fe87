/-! Elements, texts and comments. The serial number of an element counts the elements made before
it while the page was read. -/
namespace PageExtract.Html

inductive Namespace where
  | html
  | mathml
  | svg
deriving DecidableEq

inductive AttributeSpace where
  | plain
  | xlink
  | xml
  | xmlns
deriving DecidableEq

structure Attribute where
  space : AttributeSpace
  name : String
  value : String
deriving DecidableEq

structure Element where
  serial : Nat
  space : Namespace
  name : String
  attributes : List Attribute
deriving DecidableEq

def Element.attribute? (e : Element) (name : String) : Option String :=
  (e.attributes.find? fun a => a.space == .plain && a.name == name).map Attribute.value

inductive Node where
  | element (e : Element) (children : List Node)
  | text (s : String)
  | comment (s : String)
  | doctype (name : String)
  | fragment (children : List Node)

namespace Node

def children : Node → List Node
  | element _ children => children
  | fragment children => children
  | _ => []

mutual

def innerText : Node → String
  | text s => s
  | element _ children => innerTexts children
  | fragment children => innerTexts children
  | comment _ => ""
  | doctype _ => ""

def innerTexts : List Node → String
  | [] => ""
  | n :: rest => n.innerText ++ innerTexts rest

end

end Node
end PageExtract.Html
