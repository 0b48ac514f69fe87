import PageExtract.Html.Node

/-! While a page is read, nodes are kept in a table and refer to each other by their place in it.
The place of an element is its serial number. -/
namespace PageExtract.Html

inductive Kind where
  | document
  | element (space : Namespace) (name : String) (attributes : List Attribute)
  | text (s : String)
  | comment (s : String)
  | doctype (name : String)
  | fragment

structure Cell where
  kind : Kind
  parent : Option Nat
  children : Array Nat

instance : Inhabited Cell := ⟨⟨.document, none, #[]⟩⟩

/-- The table starts with the document at place zero. -/
structure Arena where
  cells : Array Cell

namespace Arena

def documentId : Nat := 0

def start : Arena := ⟨#[⟨.document, none, #[]⟩]⟩

def kind? (a : Arena) (id : Nat) : Option Kind := a.cells[id]?.map Cell.kind

def parent? (a : Arena) (id : Nat) : Option Nat := a.cells[id]?.bind Cell.parent

def children (a : Arena) (id : Nat) : Array Nat := (a.cells[id]?.map Cell.children).getD #[]

def elementName? (a : Arena) (id : Nat) : Option (Namespace × String) :=
  match a.kind? id with
  | some (.element space name _) => some (space, name)
  | _ => none

def isText (a : Arena) (id : Nat) : Bool :=
  match a.kind? id with
  | some (.text _) => true
  | _ => false

def modify (a : Arena) (id : Nat) (f : Cell → Cell) : Arena := ⟨a.cells.modify id f⟩

def add (a : Arena) (kind : Kind) : Arena × Nat :=
  (⟨a.cells.push ⟨kind, none, #[]⟩⟩, a.cells.size)

def setParent (a : Arena) (id : Nat) (parent : Option Nat) : Arena :=
  a.modify id fun cell => ⟨cell.kind, parent, cell.children⟩

def setChildren (a : Arena) (id : Nat) (f : Array Nat → Array Nat) : Arena :=
  a.modify id fun cell => ⟨cell.kind, cell.parent, f cell.children⟩

def detach (a : Arena) (id : Nat) : Arena :=
  match a.parent? id with
  | some parent => (a.setChildren parent fun ids => ids.filter (· != id)).setParent id none
  | none => a

def append (a : Arena) (parent id : Nat) : Arena :=
  ((a.detach id).setChildren parent fun ids => ids.push id).setParent id (some parent)

def extend (a : Arena) (id : Nat) (s : String) : Arena :=
  a.modify id fun cell =>
    match cell.kind with
    | .text t => ⟨.text (t ++ s), cell.parent, cell.children⟩
    | _ => cell

def appendText (a : Arena) (parent : Nat) (s : String) : Arena :=
  match (a.children parent).back? with
  | some last =>
    if a.isText last then a.extend last s
    else
      let (a, id) := a.add (.text s)
      a.append parent id
  | none =>
    let (a, id) := a.add (.text s)
    a.append parent id

def indexOf (ids : Array Nat) (id : Nat) : Nat := (ids.findIdx? (· == id)).getD ids.size

def insertBefore (a : Arena) (sibling id : Nat) : Arena :=
  let a := a.detach id
  match a.parent? sibling with
  | some parent =>
    let place (ids : Array Nat) : Array Nat :=
      let i := indexOf ids sibling
      ids.extract 0 i ++ #[id] ++ ids.extract i ids.size
    (a.setChildren parent place).setParent id (some parent)
  | none => a

def textBefore (a : Arena) (sibling : Nat) (s : String) : Arena :=
  match a.parent? sibling with
  | none => a
  | some parent =>
    let ids := a.children parent
    let i := indexOf ids sibling
    match if i = 0 then none else ids[i - 1]? with
    | some previous =>
      if a.isText previous then a.extend previous s
      else
        let (a, id) := a.add (.text s)
        a.insertBefore sibling id
    | none =>
      let (a, id) := a.add (.text s)
      a.insertBefore sibling id

def moveChildren (a : Arena) (source target : Nat) : Arena :=
  let ids := a.children source
  let a := a.setChildren source fun _ => #[]
  let a := a.setChildren target fun there => there ++ ids
  ids.foldl (fun a id => a.setParent id (some target)) a

def addMissing (a : Arena) (id : Nat) (attributes : List Attribute) : Arena :=
  let missing (old : List Attribute) (new : Attribute) : List Attribute :=
    if old.any fun o => o.space == new.space && o.name == new.name then old else old ++ [new]
  a.modify id fun cell =>
    match cell.kind with
    | .element space name old =>
      ⟨.element space name (attributes.foldl missing old), cell.parent, cell.children⟩
    | _ => cell

/-- The tree below a place. No tree is deeper than the table is long. -/
def toNode (a : Arena) : Nat → Nat → Node
  | 0, _ => .text ""
  | depth + 1, id =>
    let below := (a.children id).toList.map (toNode a depth)
    match a.kind? id with
    | some (.element space name attributes) => .element ⟨id, space, name, attributes⟩ below
    | some (.text s) => .text s
    | some (.comment s) => .comment s
    | some (.doctype name) => .doctype name
    | some .document => .fragment below
    | some .fragment => .fragment below
    | none => .text ""

def toNodes (a : Arena) (ids : List Nat) : List Node := ids.map (a.toNode (a.cells.size + 1))

def loose (a : Arena) : List Nat :=
  (List.range a.cells.size).filter fun id => id != documentId && (a.parent? id).isNone

end Arena
end PageExtract.Html
