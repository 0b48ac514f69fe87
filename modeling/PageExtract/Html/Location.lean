import PageExtract.Html.Document
import PageExtract.Html.Markup

/-! An element together with all that is around it, so that its parent and its siblings can be
reached from it. -/
namespace PageExtract.Html

inductive Holder where
  | page
  | template
  | element (e : Element)
deriving DecidableEq

structure Frame where
  holder : Holder
  before : List Node
  after : List Node

structure Location where
  element : Element
  children : List Node
  frames : List Frame

namespace Location

def node (l : Location) : Node := .element l.element l.children

def serial (l : Location) : Nat := l.element.serial

def text (l : Location) : String := Node.innerTexts l.children

def markup (l : Location) : String := innerMarkup l.children

mutual

def within (frames : List Frame) : Node → List Location
  | .element e children => ⟨e, children, frames⟩ :: among (.element e) frames [] children
  | .fragment children => among .template frames [] children
  | .text _ => []
  | .comment _ => []
  | .doctype _ => []

def among (holder : Holder) (frames : List Frame) (before : List Node) :
    List Node → List Location
  | [] => []
  | n :: after => within (⟨holder, before, after⟩ :: frames) n ++ among holder frames (n :: before) after

end

def descendants (l : Location) : List Location := among (.element l.element) l.frames [] l.children

/-- The elements around an element, the nearest first. Contents of a template have none. -/
def ancestorsFrom (n : Node) : List Frame → List Location
  | [] => []
  | ⟨.element e, before, after⟩ :: outer =>
    let children := before.reverse ++ n :: after
    ⟨e, children, outer⟩ :: ancestorsFrom (.element e children) outer
  | _ => []

def ancestors (l : Location) : List Location := ancestorsFrom l.node l.frames

def parent? (l : Location) : Option Location := l.ancestors.head?

def isRoot (l : Location) : Bool :=
  match l.frames with
  | frame :: _ => frame.holder == .page
  | [] => false

/-- The elements before an element in its row. `passed` are the nodes between, the nearest to the
element last. -/
def earlierFrom (holder : Holder) (outer : List Frame) (passed : List Node) :
    List Node → List Location
  | [] => []
  | n :: before =>
    let rest := earlierFrom holder outer (n :: passed) before
    match n with
    | .element e children => ⟨e, children, ⟨holder, before, passed⟩ :: outer⟩ :: rest
    | _ => rest

def earlier (l : Location) : List Location :=
  match l.frames with
  | frame :: outer => earlierFrom frame.holder outer (l.node :: frame.after) frame.before
  | [] => []

def laterFrom (holder : Holder) (outer : List Frame) (passed : List Node) :
    List Node → List Location
  | [] => []
  | n :: after =>
    let rest := laterFrom holder outer (n :: passed) after
    match n with
    | .element e children => ⟨e, children, ⟨holder, passed, after⟩ :: outer⟩ :: rest
    | _ => rest

def later (l : Location) : List Location :=
  match l.frames with
  | frame :: outer => laterFrom frame.holder outer (l.node :: frame.before) frame.after
  | [] => []

def isEmpty (l : Location) : Bool :=
  l.children.all fun
    | .element _ _ => false
    | .text _ => false
    | _ => true

end Location

namespace Document

def removedElements : Node → List Location
  | .element e children => Location.among (.element e) [] [] children
  | .fragment children => Location.among .template [] [] children
  | _ => []

/-- All elements of a page, in the order in which they were made. -/
def elements (d : Document) : List Location :=
  let all := Location.among .page [] [] d.children ++ d.removed.flatMap removedElements
  all.mergeSort fun a b => a.serial ≤ b.serial

end Document
end PageExtract.Html
