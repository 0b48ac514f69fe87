import PageExtract.Json.Value
import PageExtract.Tree

/-! A schema as it is written in a file, before its expressions are read. -/
namespace PageExtract

inductive SelectorList where
  | one (selector : String)
  | many (selectors : List String)
deriving DecidableEq

def SelectorList.toList : SelectorList → List String
  | one selector => [selector]
  | many selectors => selectors

structure SchemaConfig where
  pageUrl : Option String
  pageSelector : Option SelectorList
  keys : List (String × String)
deriving DecidableEq

namespace SchemaConfig

def selectorList? : Tree → Option SelectorList
  | .sequence items => (items.mapM Tree.typedText?).map .many
  | t => t.typedText?.map .one

/-- The keys of a schema. Of two entries with one key the later counts. -/
def keys? : Option Tree → Option (List (String × String))
  | none => some []
  | some t =>
    match t.entries? with
    | none => none
    | some entries =>
      match entries.mapM (fun entry => entry.2.text?.map (entry.1, ·)) with
      | none => none
      | some texts => some (putEntries [] texts)

def fieldNames : List (List String) :=
  [["match_page_url", "matchPageUrl"], ["match_page_selector", "matchPageSelector"], ["keys"]]

def ofTree? (strict : Bool) (t : Tree) : Option SchemaConfig :=
  match t.record? strict fieldNames with
  | some [url, selector, keys] => do
    let pageUrl ← Tree.optional? Tree.text? url
    let pageSelector ← Tree.optional? selectorList? selector
    let keys ← keys? keys
    return ⟨pageUrl, pageSelector, keys⟩
  | _ => none

def items? (strict : Bool) (t : Tree) : Option (List Tree) :=
  match t.record? strict [["schemas"]] with
  | some [none] => some []
  | some [some schemas] => schemas.items?
  | _ => none

def textJson (s : Option String) : Json.Value := (s.map Json.Value.string).getD .null

def selectorsJson : Option SelectorList → Json.Value
  | none => .null
  | some (.one selector) => .string selector
  | some (.many selectors) => .array (selectors.map .string)

def toJson (c : SchemaConfig) : Json.Value :=
  .object
    [("match_page_url", textJson c.pageUrl), ("match_page_selector", selectorsJson c.pageSelector),
     ("keys", .object (c.keys.map fun entry => (entry.1, .string entry.2)))]

end SchemaConfig
end PageExtract
