import PageExtract.Text.CaseMap
import PageExtract.Text.Characters
import PageExtract.Transform.Basic

/-! The transforms of strings take a node set for its text, and reach into lists. The transforms
of sequences take a node set for the list of its nodes. Positions and lengths count characters,
or items. Other data are refused. -/
namespace PageExtract.Transform

mutual

/-- Applies a transform of strings to a string, to the text of a node set, or to each item of a
list. -/
def onStrings (f : List Char → Except TransformError Datum) : Datum → Except TransformError Datum
  | .nodes s => f s.text.toList
  | .list items => (onEachString f items).map .list
  | .string s => f s.toList
  | .number n => .error (.mismatch "string" (Datum.number n).kind)
  | .boolean b => .error (.mismatch "string" (Datum.boolean b).kind)
  | .null => .error (.mismatch "string" Datum.null.kind)
  | .undefined => .error (.mismatch "string" Datum.undefined.kind)

def onEachString (f : List Char → Except TransformError Datum) :
    List Datum → Except TransformError (List Datum)
  | [] => .ok []
  | d :: rest =>
    match onStrings f d with
    | .error e => .error e
    | .ok first => (onEachString f rest).map (first :: ·)

end

def ofChars (s : List Char) : Datum := .string (String.ofList s)

def mapped (f : List Char → List Char) : Transform := fun input _ =>
  onStrings (fun s => .ok (ofChars (f s))) input

def toLowerCase : Transform := mapped CaseMap.lower

def toUpperCase : Transform := mapped CaseMap.upper

def trim : Transform := mapped Blank.trim

def trimStart : Transform := mapped Blank.trimStart

def trimEnd : Transform := mapped Blank.trimEnd

/-- No built string has more bytes. -/
def lengthLimit : Nat := Nat.pow 2 28

def cycle (pad : List Char) (count : Nat) : List Char :=
  match pad with
  | [] => []
  | _ => ((List.replicate (count / pad.length + 1) pad).flatten).take count

/-- What is missing up to the length that is asked for. Every character may take four bytes. -/
def padding (s : List Char) (args : List Literal) : Except TransformError (List Char) :=
  let pad := (Arguments.text args 1 " ").toList
  if pad.isEmpty then .ok []
  else
    match Arguments.integer args 0 (.int 0) with
    | .negInfinity => .ok []
    | .infinity => .error (.invalidArgument 0 .tooLong)
    | .int target =>
      if target ≤ s.length then .ok []
      else if 4 * target > lengthLimit then .error (.invalidArgument 0 .tooLong)
      else .ok (cycle pad (target.toNat - s.length))

def padStart : Transform := fun input args =>
  onStrings (fun s => (padding s args).map fun fill => ofChars (fill ++ s)) input

def padEnd : Transform := fun input args =>
  onStrings (fun s => (padding s args).map fun fill => ofChars (s ++ fill)) input

def copies (s : List Char) (count : Nat) : List Char :=
  if s.isEmpty then [] else (List.replicate count s).flatten

def repeated : Transform := fun input args =>
  match Arguments.integer args 0 (.int 0) with
  | .int count =>
    if count < 0 then .error (.invalidArgument 0 (.repeatCount (.int count)))
    else
      onStrings
        (fun s =>
          if Utf8.size s * count > lengthLimit then .error (.invalidArgument 0 .tooLong)
          else .ok (ofChars (copies s count.toNat)))
        input
  | count => .error (.invalidArgument 0 (.repeatCount count))

def between {α : Type} (s : List α) (start stop : Nat) : List α := (s.drop start).take (stop - start)

def substring : Transform := fun input args =>
  onStrings
    (fun s =>
      let first := Arguments.clamped s.length (Arguments.integer args 0 (.int 0))
      let second := Arguments.clamped s.length (Arguments.integer args 1 (.int s.length))
      .ok (ofChars (between s (min first second) (max first second))))
    input

/-- The parts of a text between the occurrences of a separator that is not empty. `part` is the part
read so far, reversed. -/
def partsFrom (separator part : List Char) (s : List Char) : List (List Char) :=
  match s with
  | [] => [part.reverse]
  | c :: rest =>
    if separator.isPrefixOf (c :: rest) then
      part.reverse :: partsFrom separator [] (rest.drop (separator.length - 1))
    else partsFrom separator (c :: part) rest
termination_by s.length
decreasing_by
  · simp only [List.length_drop, List.length_cons]
    omega
  · simp

def parts (separator : List Char) (s : List Char) : List (List Char) :=
  if separator.isEmpty then s.map fun c => [c] else partsFrom separator [] s

/-- Counts of parts wrap around at this bound. -/
def partBound : Nat := Nat.pow 2 32

def partLimit : ExtInt → Nat
  | .int n => (n % partBound).toNat
  | _ => 0

def limited (args : List Literal) (found : List (List Char)) : List (List Char) :=
  match Arguments.get args 1 with
  | .undefined => found
  | _ => found.take (partLimit (Arguments.integer args 1 (.int 0)))

/-- Splits at a separator. An undefined one does not occur. -/
def split : Transform := fun input args =>
  onStrings
    (fun s =>
      let found := match Arguments.get args 0 with
        | .undefined => [s]
        | separator => parts separator.toText.toList s
      .ok (.list ((limited args found).map ofChars)))
    input

def sequence : Datum → Except TransformError (List Datum)
  | .nodes s => .ok (s.split.map .nodes)
  | .list items => .ok items
  | d => .error (.mismatch "array" d.kind)

def join : Transform := fun input args =>
  (sequence input).map fun items =>
    .string (Datum.joinTexts (Arguments.text args 0 ",") (items.map Datum.itemText))

def sliced {α : Type} (items : List α) (args : List Literal) : List α :=
  let start := Arguments.fromEitherEnd items.length (Arguments.integer args 0 (.int 0))
  let stop := Arguments.fromEitherEnd items.length (Arguments.integer args 1 (.int items.length))
  between items start stop

def slice : Transform := fun input args =>
  match input with
  | .string s => .ok (ofChars (sliced s.toList args))
  | d => (sequence d).map fun items => .list (sliced items args)

/-- How many items a splice takes of those that are left. A count that is not given takes all. -/
def spliceCount (args : List Literal) (left : Nat) : Nat :=
  if args.length < 2 then left else Arguments.clamped left (Arguments.integer args 1 (.int 0))

/-- The items that a splice takes out. Without arguments it takes none. -/
def splice : Transform := fun input args =>
  (sequence input).map fun items =>
    if args.isEmpty then .list []
    else
      let start := Arguments.fromEitherEnd items.length (Arguments.integer args 0 (.int 0))
      .list ((items.drop start).take (spliceCount args (items.length - start)))

end PageExtract.Transform
