import PageExtract.Expr.Parser

/-! The readers of expressions once more, with a byte position that moves over the whole text, in
place of what is left of it. A run keeps every place where its cursor was. It breaks off where a
part of the text begins or ends inside a character or behind the end, and where a loop turns
without moving on. -/
namespace PageExtract

def Utf8.splitAt? : List Char → Nat → Option (List Char × List Char)
  | s, 0 => some ([], s)
  | [], _ + 1 => none
  | c :: s, n + 1 =>
    if c.utf8Size ≤ n + 1 then
      (splitAt? s (n + 1 - c.utf8Size)).map fun (front, rest) => (c :: front, rest)
    else none

structure Cursor where
  position : Nat
  earlier : List Nat

namespace Cursor

def start : Cursor := ⟨0, []⟩

def places (k : Cursor) : List Nat := k.position :: k.earlier

def moveTo (k : Cursor) (p : Nat) : Cursor := ⟨p, k.places⟩

end Cursor

/-- Why a run ends early. Only a refusal is an answer. A misplaced run asked for a part of the text that
does not begin and end between characters, and a stuck one turned in a loop without moving on. -/
inductive Stop where
  | refused (e : SyntaxError)
  | misplaced (position : Nat)
  | stuck (position : Nat)

abbrev Walk (α : Type) := ExceptT Stop (StateM Cursor) α

namespace Walk
open PageExtract.Parser

def runFrom {α : Type} (walk : Walk α) (k : Cursor) : Except Stop α × Cursor := walk.run.run k

def here : Walk Nat := return (← get).position

def moveTo (p : Nat) : Walk Unit := modify (·.moveTo p)

def advance (bytes : Nat) : Walk Unit := do
  moveTo ((← here) + bytes)

inductive Turn (α : Type) where
  | more (item : α)
  | last (item : α)
  | done

section
variable (text : String)

/-- The items of the turns. After each turn but the last one the cursor is further on, and not
behind the end. -/
def loop {α : Type} (turn : Walk (Turn α)) (k : Cursor) : Except Stop (List α) × Cursor :=
  match turn.runFrom k with
  | (.error stop, after) => (.error stop, after)
  | (.ok .done, after) => (.ok [], after)
  | (.ok (.last item), after) => (.ok [item], after)
  | (.ok (.more item), after) =>
    if k.position < after.position ∧ after.position ≤ text.utf8ByteSize then
      match loop turn after with
      | (.error stop, final) => (.error stop, final)
      | (.ok items, final) => (.ok (item :: items), final)
    else (.error (.stuck after.position), after)
termination_by text.utf8ByteSize - k.position

def repeated {α : Type} (turn : Walk (Turn α)) : Walk (List α) := loop text turn

def slice (first last : Nat) : Walk (List Char) :=
  match Utf8.splitAt? text.toList last with
  | none => throw (.misplaced last)
  | some (front, _) =>
    match Utf8.splitAt? front first with
    | none => throw (.misplaced first)
    | some (_, part) => return part

def remaining : Walk (List Char) := do
  slice text (← here) text.utf8ByteSize

def peek : Walk (Option Char) := return (← remaining text).head?

def next : Walk Unit := do
  match ← peek text with
  | some c => advance c.utf8Size
  | none => return ()

def refuse {α : Type} (expected : Expected) : Walk α := do
  let found ← peek text
  throw (.refused ⟨← here, found, expected, text⟩)

def spaceTurn : Walk (Turn Unit) := do
  if (← peek text) = some ' ' then
    advance 1
    return .more ()
  else return .done

def skipSpaces : Walk Unit := do
  let _ ← repeated text (spaceTurn text)

/-- A step is one byte: what may stand in an identifier is ASCII. -/
def identifierTurn (first : Nat) : Walk (Turn Unit) := do
  match ← peek text with
  | none => return .done
  | some c =>
    let place ← here
    if (if place = first then isIdentifierStart c else isIdentifierPart c) then
      advance 1
      return .more ()
    else return .done

def scanIdentifier : Walk (List Char) := do
  let first ← here
  let _ ← repeated text (identifierTurn text first)
  slice text first (← here)

def identifier : Walk String := do
  match ← scanIdentifier text with
  | [] => refuse text .identifier
  | name => return String.ofList name

def number : Walk Literal := do
  let rest ← remaining text
  match Numeral.scan? rest with
  | some (numeral, left) =>
    advance (Utf8.size rest - Utf8.size left)
    return .number numeral.toNumber
  | none => refuse text .number

/-- Four hexadecimal digits are the next four bytes, if a character ends there. -/
def hexUnit : Walk Nat := do
  let rest ← remaining text
  if Utf8.size rest < 4 then
    moveTo text.utf8ByteSize
    refuse text .fourHexDigits
  else
    match (Utf8.splitAt? rest 4).bind fun (digits, _) => Hex.natural? digits with
    | some unit =>
      advance 4
      return unit
    | none => refuse text .fourHexDigits

/-- Behind a first half the escape of a unit is read ahead. If it is no second half, the cursor goes
back to where that escape begins. -/
def secondHalf (high : Nat) : Walk Char := do
  let saved ← here
  advance 2
  let low ← hexUnit text
  if Utf16.isLowSurrogate low then return Utf16.charOf (Utf16.combine high low)
  else
    moveTo saved
    return Utf16.charOf high

def unicodeEscape : Walk Char := do
  let high ← hexUnit text
  if Utf16.isHighSurrogate high then
    match ← remaining text with
    | '\\' :: 'u' :: _ => secondHalf text high
    | _ => return Utf16.charOf high
  else return Utf16.charOf high

def escape : Walk Char := do
  match ← peek text with
  | none => refuse text .escapeSequence
  | some c =>
    if c = 'u' then
      next text
      unicodeEscape text
    else
      match simpleEscape? c with
      | some value =>
        next text
        return value
      | none => refuse text .escapeSequence

def quotedTurn (quote : Char) : Walk (Turn Char) := do
  match ← peek text with
  | none => refuse text .closingQuote
  | some c =>
    if c = quote then
      next text
      return .done
    else if c = '\\' then
      next text
      return .more (← escape text)
    else if c.toNat ≤ 0x1F then refuse text .closingQuote
    else
      next text
      return .more c

def quoted (quote : Char) : Walk (List Char) := repeated text (quotedTurn text quote)

def argument : Walk Literal := do
  match ← peek text with
  | none => refuse text .argument
  | some c =>
    if c.isDigit || c == '-' then number text
    else if c == '"' || c == '\'' then
      next text
      return .string (String.ofList (← quoted text c))
    else if isIdentifierStart c then return wordLiteral (String.ofList (← scanIdentifier text))
    else refuse text .argument

def spacedArgument : Walk Literal := do
  skipSpaces text
  let literal ← argument text
  skipSpaces text
  return literal

def argumentTurn : Walk (Turn Literal) := do
  let literal ← spacedArgument text
  match ← peek text with
  | some ')' =>
    next text
    return .last literal
  | some ',' =>
    next text
    return .more literal
  | _ => refuse text .closeOrComma

def arguments : Walk (List Literal) := repeated text (argumentTurn text)

def call : Walk Call := do
  skipSpaces text
  let name ← identifier text
  skipSpaces text
  if (← peek text) = some '(' then
    next text
    let args ← arguments text
    skipSpaces text
    return ⟨name, args⟩
  else return ⟨name, []⟩

def callTurn : Walk (Turn Call) := do
  if (← peek text) = some '|' then
    next text
    return .more (← call text)
  else return .done

def ended {α : Type} (value : α) : Walk α := do
  if (← here) < text.utf8ByteSize then refuse text .pipeOrEnd
  else return value

def query : Walk Expression := do
  let pipe := Utf8.size (text.toList.takeWhile (· != '|'))
  let selector ← slice text 0 pipe
  moveTo pipe
  let calls ← repeated text (callTurn text)
  ended text (.query (String.ofList (Blank.trim selector)) calls)

def expression : Walk Expression :=
  match text.toList with
  | '|' :: '|' :: rest => return .constant (String.ofList rest)
  | _ => query text

end

def read (text : String) : Except Stop Expression × Cursor := (expression text).runFrom .start

end Walk
end PageExtract
