import PageExtract.Text.Characters
import PageExtract.Yaml.Cursor

/-! The tokens of YAML files. Indentation and brackets appear as tokens that open and close
collections. -/
namespace PageExtract.Yaml

inductive Token where
  | version (major minor : Nat)
  | tagHandle (handle expansion : String)
  | documentStart
  | documentEnd
  | blockSequence
  | blockMapping
  | blockEnd
  | flowSequence
  | flowSequenceEnd
  | flowMapping
  | flowMappingEnd
  | blockEntry
  | flowEntry
  | key
  | value
  | alias (name : String)
  | anchor (name : String)
  | tag (handle suffix : String)
  | scalar (isPlain : Bool) (text : String)
deriving DecidableEq

def anchorName? (k : Cursor) : Option (String × Cursor) :=
  let name := k.rest.takeWhile isWordChar
  let after := k.skip name.length
  if !name.isEmpty && (after.isSeparated || after.next?.any fun c => "?:,]\x7d%@\x60".toList.contains c)
  then some (String.ofList name, after)
  else none

def isTagChar (c : Char) : Bool := isWordChar c || ";/?:@&=+$.!~*'()".toList.contains c

def encodedWidth? (byte : Nat) : Option Nat :=
  if byte < 0x80 then some 1
  else if 0xC0 ≤ byte && byte < 0xE0 then some 2
  else if 0xE0 ≤ byte && byte < 0xF0 then some 3
  else if 0xF0 ≤ byte && byte < 0xF8 then some 4
  else none

def escapedBytes? : Nat → List Char → Option (List Nat)
  | 0, _ => some []
  | count + 1, '%' :: a :: b :: rest => do
    let byte ← Hex.natural? [a, b]
    return byte :: (← escapedBytes? count rest)
  | _, _ => none

def escapedChar? (s : List Char) : Option (Char × Nat) := do
  let first ← escapedBytes? 1 s
  let width ← encodedWidth? (first.headD 0)
  let bytes ← escapedBytes? width s
  if (bytes.drop 1).all fun byte => 0x80 ≤ byte && byte < 0xC0 then
    return (if width = 1 then Char.ofNat (first.headD 0) else '\uFFFD', width)
  else none

/-- Characters of a tag as far as they go. Only a tag in angle brackets can hold a comma and square
brackets. -/
def tagText? (isVerbatim : Bool) : Nat → Cursor → Option (List Char × Cursor)
  | 0, _ => none
  | fuel + 1, k =>
    match k.next? with
    | some c =>
      if c = '%' then
        match escapedChar? k.rest with
        | some (d, width) =>
          (tagText? isVerbatim fuel (k.skip (3 * width))).map fun (text, after) =>
            (d :: text, after)
        | none => none
      else if isTagChar c || (isVerbatim && ",[]".toList.contains c) then
        (tagText? isVerbatim fuel (k.skip 1)).map fun (text, after) => (c :: text, after)
      else some ([], k)
    | none => some ([], k)

def tagTail? (isVerbatim : Bool) (front : List Char) (k : Cursor) : Option (String × Cursor) :=
  (tagText? isVerbatim (k.rest.length + 1) k).bind fun (text, after) =>
    if front.isEmpty && text.isEmpty then none
    else some (String.ofList (front.drop 1 ++ text), after)

def handle (k : Cursor) : List Char × Cursor :=
  let word := (k.rest.drop 1).takeWhile isWordChar
  let after := k.skip (1 + word.length)
  if after.startsWith '!' then ('!' :: word ++ ['!'], after.skip 1) else ('!' :: word, after)

def isHandle (s : List Char) : Bool := s.length > 1 && s.getLast? == some '!'

def verbatimTag? (k : Cursor) : Option (Token × Cursor) :=
  (tagTail? true [] k).bind fun (text, after) =>
    if after.startsWith '>' then some (.tag "" text, after.skip 1) else none

def shortTag? (k : Cursor) : Option (Token × Cursor) :=
  let (front, after) := handle k
  if isHandle front then
    (tagTail? false [] after).map fun (text, after) => (.tag (String.ofList front) text, after)
  else
    (tagTail? false front after).map fun (text, after) =>
      (if text.isEmpty then .tag "" "!" else .tag "!" text, after)

def tag? (inFlow : Bool) (k : Cursor) : Option (Token × Cursor) :=
  let found := if k.rest[1]? = some '<' then verbatimTag? (k.skip 2) else shortTag? k
  found.bind fun (token, after) =>
    if after.isSeparated || (inFlow && after.startsWith ',') then some (token, after) else none

def versionNumber? (k : Cursor) : Option (Nat × Cursor) :=
  let digits := k.rest.takeWhile Char.isDigit
  if digits.isEmpty || digits.length > 9 then none
  else some (digits.foldl (fun n c => 10 * n + (Hex.value? c).getD 0) 0, k.skip digits.length)

def version? (k : Cursor) : Option (Token × Cursor) := do
  let (major, k) ← versionNumber? (k.skipWhile isBlank)
  if !k.startsWith '.' then none
  let (minor, k) ← versionNumber? (k.skip 1)
  return (.version major minor, k)

def tagHandle? (k : Cursor) : Option (Token × Cursor) := do
  let k := k.skipWhile isBlank
  if !k.startsWith '!' then none
  let (name, k) := handle k
  if !(isHandle name || name = ['!']) || !k.atBlank then none
  let (expansion, k) ← tagTail? true [] (k.skipWhile isBlank)
  if !k.isSeparated then none
  return (.tagHandle (String.ofList name) expansion, k)

def directive? (k : Cursor) : Option (Token × Cursor) := do
  let name := (k.rest.drop 1).takeWhile isWordChar
  let k := k.skip (1 + name.length)
  if !k.isSeparated then none
  let (token, k) ←
    if name = "YAML".toList then version? k
    else if name = "TAG".toList then tagHandle? k
    else none
  let k := k.skipRemark
  if k.atBreak || k.atEnd then return (token, k.skipBreak) else none

end PageExtract.Yaml
