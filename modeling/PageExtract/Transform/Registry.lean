import PageExtract.Text.Quoted
import PageExtract.Transform.Nodes
import PageExtract.Transform.Strings

/-! Transforms by their names: registries, in which each name occurs once and the names ascend, and the
built-in transforms. -/
namespace PageExtract

abbrev Lookup := String → Option Transform

structure Registry where
  entries : List (String × Transform)

namespace Registry

def empty : Registry := ⟨[]⟩

/-- Puts an entry in its place among entries in ascending order, instead of one of its name. -/
def insertEntry (name : String) (t : Transform) :
    List (String × Transform) → List (String × Transform)
  | [] => [(name, t)]
  | (other, u) :: rest =>
    if name < other then (name, t) :: (other, u) :: rest
    else if name = other then (name, t) :: rest
    else (other, u) :: insertEntry name t rest

def register (r : Registry) (name : String) (t : Transform) : Registry :=
  ⟨insertEntry name t r.entries⟩

def ofList (entries : List (String × Transform)) : Registry :=
  entries.foldl (fun r entry => r.register entry.1 entry.2) empty

def find? (r : Registry) : Lookup := fun name =>
  (r.entries.find? fun entry => entry.1 == name).map Prod.snd

def contains (r : Registry) (name : String) : Bool := r.entries.any fun entry => entry.1 == name

def size (r : Registry) : Nat := r.entries.length

def isEmpty (r : Registry) : Bool := r.entries.isEmpty

def names (r : Registry) : List String := r.entries.map Prod.fst

def debug (r : Registry) : String := Debug.record "TransformRegistry" "names" r.names

def builtin : Registry :=
  ofList
    [("text", Transform.text), ("html", Transform.markup), ("attr", Transform.attributeValue),
     ("toArray", Transform.toArray), ("to$Array", Transform.toArray), ("find", Transform.find),
     ("toLowerCase", Transform.toLowerCase), ("toUpperCase", Transform.toUpperCase),
     ("toLocaleLowerCase", Transform.toLowerCase), ("toLocaleUpperCase", Transform.toUpperCase),
     ("trim", Transform.trim), ("trimStart", Transform.trimStart), ("trimEnd", Transform.trimEnd),
     ("padStart", Transform.padStart), ("padEnd", Transform.padEnd),
     ("repeat", Transform.repeated), ("substring", Transform.substring),
     ("split", Transform.split), ("join", Transform.join), ("slice", Transform.slice),
     ("splice", Transform.splice)]

end Registry

namespace Lookup

def builtin : Lookup := Registry.builtin.find?

/-- A registry first, the built-in transforms second. -/
def withCustom (custom : Registry) : Lookup := fun name =>
  (custom.find? name).orElse fun _ => builtin name

end Lookup
end PageExtract
