import PageExtract.Tree

/-! A table is defined once. Until then others can lie below it, and after that no entry is added
to it. -/
namespace PageExtract.Toml

/-- How a table came to be: by a header, on the way to another header, or by a dotted key. -/
inductive Origin where
  | header
  | implied
  | dotted
deriving DecidableEq

inductive Item where
  | leaf (content : Tree)
  | table (origin : Origin) (entries : List (String × Item))
  | row (earlier : List (List (String × Item))) (latest : List (String × Item))

abbrev Entries := List (String × Item)

structure KeyPath where
  holders : List String
  last : String
deriving DecidableEq

structure Entry where
  path : KeyPath
  value : Tree

structure Header where
  path : KeyPath
  isElement : Bool
deriving DecidableEq

structure Section where
  header : Header
  entries : List Entry

/-- Adds an entry. `isOpen` tells whether entries are added to the table at hand itself. -/
def insert (last : String) (value : Tree) (isOpen : Bool) :
    List String → Entries → Option Entries
  | [], entries =>
    if isOpen && (entries.lookup last).isNone then some (entries ++ [(last, .leaf value)]) else none
  | key :: holders, entries =>
    match entries.lookup key with
    | none =>
      (insert last value true holders []).map fun inner => entries ++ [(key, .table .dotted inner)]
    | some (.table .dotted inner) =>
      (insert last value true holders inner).map fun inner =>
        putEntry entries key (.table .dotted inner)
    | some (.table .implied inner) =>
      (insert last value false holders inner).map fun inner =>
        putEntry entries key (.table .implied inner)
    | some (.row earlier latest) =>
      (insert last value false holders latest).map fun latest =>
        putEntry entries key (.row earlier latest)
    | some (.table .header _) => none
    | some (.leaf _) => none

def fill (entries : List Entry) (table : Entries) : Option Entries :=
  entries.foldlM (fun table e => insert e.path.last e.value true e.path.holders table) table

def within (change : Entries → Option Entries) : List String → Entries → Option Entries
  | [], entries => change entries
  | key :: holders, entries =>
    match entries.lookup key with
    | none => (within change holders []).map fun inner => entries ++ [(key, .table .implied inner)]
    | some (.table origin inner) =>
      (within change holders inner).map fun inner => putEntry entries key (.table origin inner)
    | some (.row earlier latest) =>
      (within change holders latest).map fun latest => putEntry entries key (.row earlier latest)
    | some (.leaf _) => none

def define (s : Section) (holder : Entries) : Option Entries :=
  let last := s.header.path.last
  match s.header.isElement, holder.lookup last with
  | false, none => (fill s.entries []).map fun body => putEntry holder last (.table .header body)
  | false, some (.table .implied inner) =>
    (fill s.entries inner).map fun body => putEntry holder last (.table .header body)
  | true, none => (fill s.entries []).map fun body => putEntry holder last (.row [] body)
  | true, some (.row earlier latest) =>
    (fill s.entries []).map fun body => putEntry holder last (.row (earlier ++ [latest]) body)
  | _, _ => none

def addSection (root : Entries) (s : Section) : Option Entries :=
  within (define s) s.header.path.holders root

def assemble (leading : List Entry) (sections : List Section) : Option Entries :=
  (fill leading []).bind fun root => sections.foldlM addSection root

mutual

def Item.toTree : Item → Tree
  | .leaf content => content
  | .table _ entries => .mapping (entryTrees entries)
  | .row earlier latest => .sequence (rowTrees earlier ++ [.mapping (entryTrees latest)])

def entryTrees : List (String × Item) → List (Option String × Tree)
  | [] => []
  | (key, item) :: rest => (some key, item.toTree) :: entryTrees rest

def rowTrees : List (List (String × Item)) → List Tree
  | [] => []
  | entries :: rest => .mapping (entryTrees entries) :: rowTrees rest

end

end PageExtract.Toml
