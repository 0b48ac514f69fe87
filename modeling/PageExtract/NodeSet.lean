import PageExtract.Css.Matching
import PageExtract.Text.Characters
import PageExtract.Text.Quoted

/-! The elements that a selector finds in a page or below other elements, in order. -/
namespace PageExtract

structure InvalidSelector where
  selector : String
deriving DecidableEq

structure NodeSet where
  members : List Html.Location

namespace NodeSet

def size (s : NodeSet) : Nat := s.members.length

def isEmpty (s : NodeSet) : Bool := s.members.isEmpty

def text (s : NodeSet) : String := String.join (s.members.map Html.Location.text)

def markup? (s : NodeSet) : Option String := s.members.head?.map Html.Location.markup

def attribute? (s : NodeSet) (name : String) : Option String :=
  s.members.head?.bind fun l => l.element.attribute? name

def split (s : NodeSet) : List NodeSet := s.members.map fun l => ⟨[l]⟩

/-- What a selector text asks for: nothing at all when it is blank. -/
def compile (selector : String) : Except InvalidSelector (List Css.Complex) :=
  if (Blank.trim selector.toList).isEmpty then .ok []
  else
    match Css.Parser.parse? selector with
    | some found => .ok found
    | none => .error ⟨selector⟩

def below (found : List Css.Complex) (l : Html.Location) : List Html.Location :=
  l.descendants.filter (Css.selects (some l.serial) found)

/-- The elements below each member that pass, member by member. -/
def query (s : NodeSet) (selector : String) : Except InvalidSelector NodeSet :=
  (compile selector).map fun found => ⟨s.members.flatMap (below found)⟩

def names (s : NodeSet) : List String := s.members.map fun l => l.element.name

def debug (s : NodeSet) : String := Debug.record "Elements" "nodes" s.names

end NodeSet

def Html.Document.query (d : Html.Document) (selector : String) : Except InvalidSelector NodeSet :=
  (NodeSet.compile selector).map fun found => ⟨d.elements.filter (Css.selects none found)⟩

end PageExtract
