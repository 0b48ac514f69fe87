/-! What a file holds, whichever notation it is written in, and values under keys, in an order. -/
namespace PageExtract

/-- Puts a value under a key: in place of an older one, or at the end. -/
def putEntry {α : Type} (entries : List (String × α)) (key : String) (value : α) :
    List (String × α) :=
  match entries with
  | [] => [(key, value)]
  | (other, old) :: rest =>
    if other = key then (key, value) :: rest else (other, old) :: putEntry rest key value

def putEntries {α : Type} (entries more : List (String × α)) : List (String × α) :=
  more.foldl (fun found entry => putEntry found entry.1 entry.2) entries

theorem putEntry_of_notMem {α : Type} {entries : List (String × α)} {key : String}
    (new : key ∉ entries.map Prod.fst) (value : α) :
    putEntry entries key value = entries ++ [(key, value)] := by
  induction entries with
  | nil => rfl
  | cons first rest ih =>
    obtain ⟨other, old⟩ := first
    rw [List.map_cons, List.mem_cons, not_or] at new
    have different : other ≠ key := fun same => new.1 same.symm
    rw [putEntry, if_neg different, ih new.2, List.cons_append]

/-- What a scalar can be read as. `isText` means text even where other values could stand, and a blank
scalar can be an empty sequence or mapping as well. Where a value is optional, `absent?` tells whether
the scalar leaves it out, and is `none` if the scalar must not stand there. -/
structure Scalar where
  text? : Option String
  isText : Bool
  boolean? : Option Bool
  absent? : Option Bool
  isBlank : Bool
deriving DecidableEq

namespace Scalar

def ofText (s : String) : Scalar := ⟨some s, true, none, some false, false⟩

def ofBoolean (b : Bool) : Scalar := ⟨none, false, some b, some false, false⟩

def null : Scalar := ⟨none, false, none, some true, false⟩

def other : Scalar := ⟨none, false, none, some false, false⟩

def nothing : Scalar := ⟨none, false, none, some true, true⟩

end Scalar

/-- The content of a file in any notation. A key comes with its text if it can be read as text. A
labelled sequence is only read where nothing but a sequence can stand. -/
inductive Tree where
  | scalar (s : Scalar)
  | sequence (items : List Tree)
  | labelled (items : List Tree)
  | mapping (entries : List (Option String × Tree))

namespace Tree

def text (s : String) : Tree := scalar (.ofText s)

def text? : Tree → Option String
  | scalar s => s.text?
  | _ => none

def typedText? : Tree → Option String
  | scalar s => if s.isText then s.text? else none
  | _ => none

def boolean? : Tree → Option Bool
  | scalar s => s.boolean?
  | _ => none

def optional? {α : Type} (read : Tree → Option α) : Option Tree → Option (Option α)
  | none => some none
  | some t =>
    match t with
    | scalar s =>
      match s.absent? with
      | none => none
      | some true => some none
      | some false => (read t).map some
    | _ => (read t).map some

def entries? : Tree → Option (List (String × Tree))
  | mapping entries => entries.mapM fun (key, value) => key.map (·, value)
  | scalar s => if s.isBlank then some [] else none
  | _ => none

def items? : Tree → Option (List Tree)
  | sequence items => some items
  | labelled items => some items
  | scalar s => if s.isBlank then some [] else none
  | mapping _ => none

/-- The value of the one entry under any of the names. Two of them are an error. -/
def field? (names : List String) (entries : List (String × Tree)) : Option (Option Tree) :=
  match entries.filter fun entry => names.contains entry.1 with
  | [] => some none
  | [entry] => some (some entry.2)
  | _ => none

/-- The fields of a record in order, given as a sequence. `strict` refuses a sequence that is too
long. -/
def positional? (strict : Bool) (count : Nat) (items : List Tree) : Option (List (Option Tree)) :=
  if strict && items.length > count then none
  else some ((List.range count).map fun i => items[i]?)

def record? (strict : Bool) (names : List (List String)) (t : Tree) :
    Option (List (Option Tree)) :=
  match t with
  | sequence items => positional? strict names.length items
  | labelled items => positional? strict names.length items
  | _ => t.entries?.bind fun entries => names.mapM fun aliases => field? aliases entries

end Tree

end PageExtract
