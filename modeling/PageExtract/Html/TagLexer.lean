import PageExtract.Html.Entity
import PageExtract.Html.Token

/-! The name, the attributes and the end of a tag. A tag that the page ends in is none. -/
namespace PageExtract.Html.TagLexer

abbrev Reading := List (String × String) × Bool × List Char

def isNameEnd (c : Char) : Bool := isTagSpace c || c == '/' || c == '>'

def nameText (s : List Char) : String := String.ofList (s.map fun c => (replaceNull c).toLower)

def valueText (s : List Char) : String := String.ofList (Entity.decode true (s.map replaceNull))

/-- An attribute with a new name goes to the end, one with a known name is dropped. -/
def addAttribute (attributes : List (String × String)) (name value : String) :
    List (String × String) :=
  if attributes.any fun a => a.1 == name then attributes else attributes ++ [(name, value)]

def value? (s : List Char) : Option (String × List Char) :=
  let within (quote : Char) (body : List Char) : Option (String × List Char) :=
    match body.dropWhile (· != quote) with
    | [] => none
    | _ :: rest => some (valueText (body.takeWhile (· != quote)), rest)
  match s.dropWhile isTagSpace with
  | [] => none
  | '"' :: body => within '"' body
  | '\'' :: body => within '\'' body
  | body =>
    let bare (c : Char) : Bool := !(isTagSpace c || c == '>')
    some (valueText (body.takeWhile bare), body.dropWhile bare)

def attribute? (s : List Char) : Option ((String × String) × List Char) :=
  match s with
  | [] => none
  | first :: more =>
    let inName (c : Char) : Bool := !(isNameEnd c || c == '=')
    let name := nameText (first :: more.takeWhile inName)
    match (more.dropWhile inName).dropWhile isTagSpace with
    | '=' :: rest => (value? rest).map fun (value, left) => ((name, value), left)
    | _ => some ((name, ""), more.dropWhile inName)

def attributes? : Nat → List (String × String) → List Char → Option Reading
  | 0, _, _ => none
  | fuel + 1, found, s =>
    match s with
    | [] => none
    | '>' :: rest => some (found, false, rest)
    | '/' :: '>' :: rest => some (found, true, rest)
    | c :: rest =>
      if isTagSpace c || c == '/' then attributes? fuel found rest
      else
        match attribute? s with
        | none => none
        | some ((name, value), left) => attributes? fuel (addAttribute found name value) left

def tag? (s : List Char) : Option (Tag × List Char) :=
  let inName (c : Char) : Bool := !isNameEnd c
  let left := s.dropWhile inName
  (attributes? (left.length + 1) [] left).map fun (attributes, selfClosing, rest) =>
    (⟨nameText (s.takeWhile inName), attributes, selfClosing⟩, rest)

end PageExtract.Html.TagLexer
