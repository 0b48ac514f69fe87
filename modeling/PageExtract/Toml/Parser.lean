import PageExtract.Toml.Table
import PageExtract.Toml.Text
import PageExtract.Toml.Word

/-! Reading TOML files, from keys and values up to the table of a file. -/
namespace PageExtract.Toml

/-- Values nest, and keys are dotted, less deep than this. -/
def depthBound : Nat := 80

def isBareKeyChar (c : Char) : Bool := c.isAlphanum || c == '-' || c == '_'

def simpleKey? (s : List Char) : Option (String × List Char) :=
  match s with
  | '"' :: _ => lineText? s
  | '\'' :: _ => lineText? s
  | _ =>
    let key := s.takeWhile isBareKeyChar
    if key.isEmpty then none else some (String.ofList key, s.drop key.length)

def keyParts? : Nat → List Char → Option (List String × List Char)
  | 0, _ => none
  | fuel + 1, s =>
    match simpleKey? (skipSpace s) with
    | none => none
    | some (part, rest) =>
      match skipSpace rest with
      | '.' :: more => (keyParts? fuel more).map fun (parts, left) => (part :: parts, left)
      | left => some ([part], left)

def key? (s : List Char) : Option (KeyPath × List Char) :=
  match keyParts? (depthBound - 1) s with
  | some (parts, rest) => parts.getLast?.map fun last => (⟨parts.dropLast, last⟩, rest)
  | none => none

def skipComment (s : List Char) : List Char :=
  match s with
  | '#' :: rest => rest.dropWhile isPlain
  | _ => s

def skipLines : Nat → List Char → List Char
  | 0, s => s
  | fuel + 1, s =>
    let t := skipComment (skipSpace s)
    match afterBreak? t with
    | some rest => skipLines fuel rest
    | none => t

mutual

def value? : Nat → Nat → List Char → Option (Tree × List Char)
  | 0, _, _ => none
  | fuel + 1, depth, s =>
    match s with
    | '"' :: _ => (text? s).map fun (text, rest) => (.text text, rest)
    | '\'' :: _ => (text? s).map fun (text, rest) => (.text text, rest)
    | '[' :: rest =>
      if depth + 1 < depthBound then
        (items? fuel (depth + 1) rest).map fun (items, left) => (.sequence items, left)
      else none
    | '\x7b' :: rest =>
      if depth + 1 < depthBound then
        let opened := skipSpace rest
        match opened with
        | '\x7d' :: left => some (.mapping [], left)
        | _ =>
          (entries? fuel (depth + 1) opened).bind fun (entries, left) =>
            (fill entries []).map fun table => (.mapping (entryTrees table), left)
      else none
    | _ => word? s

def items? : Nat → Nat → List Char → Option (List Tree × List Char)
  | 0, _, _ => none
  | fuel + 1, depth, s =>
    match skipLines (s.length + 1) s with
    | ']' :: left => some ([], left)
    | t =>
      match value? fuel depth t with
      | none => none
      | some (item, rest) =>
        match skipLines (rest.length + 1) rest with
        | ']' :: left => some ([item], left)
        | ',' :: more => (items? fuel depth more).map fun (items, left) => (item :: items, left)
        | _ => none

def entries? : Nat → Nat → List Char → Option (List Entry × List Char)
  | 0, _, _ => none
  | fuel + 1, depth, s =>
    match key? s with
    | some (path, '=' :: afterKey) =>
      match value? fuel depth (skipSpace afterKey) with
      | none => none
      | some (value, rest) =>
        match skipSpace rest with
        | '\x7d' :: left => some ([⟨path, value⟩], left)
        | ',' :: more =>
          (entries? fuel depth more).map fun (entries, left) => (⟨path, value⟩ :: entries, left)
        | _ => none
    | _ => none

end

inductive Line where
  | entry (e : Entry)
  | header (h : Header)

def lineEnd? (s : List Char) : Option (List Char) :=
  match skipComment (skipSpace s) with
  | [] => some []
  | t => afterBreak? t

def header? (isElement : Bool) (closing s : List Char) : Option (Line × List Char) :=
  (key? s).bind fun (path, rest) =>
    if closing.isPrefixOf rest then some (.header ⟨path, isElement⟩, rest.drop closing.length)
    else none

def line? (s : List Char) : Option (Line × List Char) :=
  match s with
  | '[' :: '[' :: rest => header? true [']', ']'] rest
  | '[' :: rest => header? false [']'] rest
  | _ =>
    match key? s with
    | some (path, '=' :: afterKey) =>
      (value? (s.length + 1) 0 (skipSpace afterKey)).map fun (value, rest) =>
        (.entry ⟨path, value⟩, rest)
    | _ => none

def lines? : Nat → List Char → Option (List Line)
  | 0, _ => none
  | fuel + 1, s =>
    let t := skipComment (skipSpace s)
    match t with
    | [] => some []
    | _ =>
      match afterBreak? t with
      | some rest => lines? fuel rest
      | none =>
        match line? t with
        | none => none
        | some (line, rest) =>
          match lineEnd? rest with
          | none => none
          | some after => (lines? fuel after).map (line :: ·)

def sectionsOf : List Line → List Entry × List Section
  | [] => ([], [])
  | .entry e :: rest =>
    let (entries, sections) := sectionsOf rest
    (e :: entries, sections)
  | .header h :: rest =>
    let (entries, sections) := sectionsOf rest
    ([], ⟨h, entries⟩ :: sections)

def skipMark : List Char → List Char
  | '\uFEFF' :: rest => rest
  | s => s

def content? (text : String) : Option Tree :=
  let s := skipMark text.toList
  (lines? (s.length + 1) s).bind fun lines =>
    let (leading, sections) := sectionsOf lines
    (assemble leading sections).map fun root => .mapping (entryTrees root)

end PageExtract.Toml
