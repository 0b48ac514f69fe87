import PageExtract.Html.Token

/-! The name and the identifiers in a declaration of the document type. A malformed declaration
forces the compatible layout rules. -/
namespace PageExtract.Html.DoctypeLexer

def afterWord? (word : String) (s : List Char) : Option (List Char) :=
  if (s.take word.length).map Char.toLower = word.toList then some (s.drop word.length) else none

def skipSpace (s : List Char) : List Char := s.dropWhile isTagSpace

def skipToEnd (s : List Char) : List Char := (s.dropWhile (· != '>')).drop 1

inductive Identifier where
  | complete (text : String) (rest : List Char)
  | broken (text : String) (rest : List Char)
  | missing

def identifier (s : List Char) : Identifier :=
  let within (quote : Char) (body : List Char) : Identifier :=
    let inside (c : Char) : Bool := c != quote && c != '>'
    let text := String.ofList ((body.takeWhile inside).map replaceNull)
    match body.dropWhile inside with
    | c :: rest => if c = quote then .complete text rest else .broken text rest
    | [] => .broken text []
  match s with
  | '"' :: body => within '"' body
  | '\'' :: body => within '\'' body
  | _ => .missing

/-- What is left of a declaration after its last identifier. Text that does not belong there is
passed over; the page must not end. -/
def finish (d : Doctype) (s : List Char) : Doctype × List Char :=
  match skipSpace s with
  | [] => (⟨d.name, d.publicId, d.systemId, true⟩, [])
  | '>' :: rest => (d, rest)
  | rest => (d, skipToEnd rest)

def forced (d : Doctype) (rest : List Char) : Doctype × List Char :=
  (⟨d.name, d.publicId, d.systemId, true⟩, rest)

def systemPart (d : Doctype) (needed : Bool) (s : List Char) : Doctype × List Char :=
  match identifier (skipSpace s) with
  | .complete text rest => finish ⟨d.name, d.publicId, some text, d.malformed⟩ rest
  | .broken text rest => forced ⟨d.name, d.publicId, some text, true⟩ rest
  | .missing =>
    match skipSpace s with
    | '>' :: rest => if needed then forced d rest else (d, rest)
    | rest => forced d (skipToEnd rest)

def publicPart (d : Doctype) (s : List Char) : Doctype × List Char :=
  match identifier (skipSpace s) with
  | .complete text rest => systemPart ⟨d.name, some text, d.systemId, d.malformed⟩ false rest
  | .broken text rest => forced ⟨d.name, some text, d.systemId, true⟩ rest
  | .missing =>
    match skipSpace s with
    | '>' :: rest => forced d rest
    | rest => forced d (skipToEnd rest)

def doctype (s : List Char) : Doctype × List Char :=
  match skipSpace s with
  | [] => (⟨none, none, none, true⟩, [])
  | '>' :: rest => (⟨none, none, none, true⟩, rest)
  | body =>
    let inName (c : Char) : Bool := !(isTagSpace c || c == '>')
    let name := String.ofList ((body.takeWhile inName).map fun c => (replaceNull c).toLower)
    let d : Doctype := ⟨some name, none, none, false⟩
    match skipSpace (body.dropWhile inName) with
    | [] => forced d []
    | '>' :: rest => (d, rest)
    | rest =>
      match afterWord? "public" rest, afterWord? "system" rest with
      | some left, _ => publicPart d left
      | none, some left => systemPart d true left
      | none, none => forced d (skipToEnd rest)

end PageExtract.Html.DoctypeLexer
