import PageExtract.Yaml.Scalar
import PageExtract.Yaml.Token

/-! A colon can turn what stands before it into a key. So a place where a key could start is
remembered, and the tokens of a key are put in there later. -/
namespace PageExtract.Yaml

structure KeyPlace where
  tokens : Nat
  index : Nat
  line : Nat
  column : Nat
  isRequired : Bool

structure Lexer where
  cursor : Cursor
  tokens : Array Token
  indent : Int
  outerIndents : List Int
  keyAllowed : Bool
  keyPlace : Option KeyPlace
  outerPlaces : List (Option KeyPlace)

abbrev Lex := StateT Lexer Option

namespace Lex

def fail {α : Type} : Lex α := StateT.lift none

def start (s : List Char) : Lexer := ⟨Cursor.start s, #[], -1, [], true, none, []⟩

def cursor : Lex Cursor := return (← get).cursor

def moveTo (k : Cursor) : Lex Unit := modify fun l => { l with cursor := k }

def emit (t : Token) : Lex Unit := modify fun l => { l with tokens := l.tokens.push t }

def allowKey (allowed : Bool) : Lex Unit := modify fun l => { l with keyAllowed := allowed }

def inFlow : Lex Bool := return !(← get).outerPlaces.isEmpty

def reading {α : Type} (read : Cursor → Option (α × Cursor)) : Lex α := do
  match read (← cursor) with
  | some (value, k) =>
    moveTo k
    return value
  | none => fail

def skipSpace : Nat → Lex Unit
  | 0 => pure ()
  | fuel + 1 => do
    let l ← get
    let flow ← inFlow
    let k := if l.cursor.index = 0 && l.cursor.startsWith '\uFEFF' then l.cursor.skip 1 else l.cursor
    let k := k.skipWhile fun c => c == ' ' || ((flow || !l.keyAllowed) && c == '\t')
    let k := if k.startsWith '#' then k.skipLine else k
    if k.atBreak then
      moveTo k.skipBreak
      if !flow then allowKey true
      skipSpace fuel
    else moveTo k

/-- A key stays on its line and within 1024 characters. -/
def isStale (k : Cursor) (p : KeyPlace) : Bool := p.line < k.line || p.index + 1024 < k.index

def refresh (k : Cursor) (place : Option KeyPlace) : Option (Option KeyPlace) :=
  match place with
  | some p =>
    if isStale k p then if p.isRequired then none else some none
    else some (some p)
  | none => some none

def dropStale : Lex Unit := do
  let l ← get
  match refresh l.cursor l.keyPlace, l.outerPlaces.mapM (refresh l.cursor) with
  | some place, some outer => set { l with keyPlace := place, outerPlaces := outer }
  | _, _ => fail

def dropPlace : Lex Unit := do
  let l ← get
  if l.keyPlace.any fun p => p.isRequired then fail
  set { l with keyPlace := none }

def savePlace : Lex Unit := do
  let l ← get
  if l.keyAllowed then
    dropPlace
    let k := l.cursor
    let isRequired := l.outerPlaces.isEmpty && l.indent == k.column
    modify fun l =>
      { l with keyPlace := some ⟨l.tokens.size, k.index, k.line, k.column, isRequired⟩ }

def openBlock (column number : Nat) (t : Token) : Lex Unit := do
  let l ← get
  if l.outerPlaces.isEmpty && l.indent < column then
    set { l with
      outerIndents := l.indent :: l.outerIndents
      indent := column
      tokens := l.tokens.insertIdxIfInBounds number t }

def closeBlocks (column : Int) : Lex Unit := do
  let l ← get
  if l.outerPlaces.isEmpty then
    let closed := (l.indent :: l.outerIndents).takeWhile (column < ·)
    match (l.indent :: l.outerIndents).drop closed.length with
    | indent :: outer =>
      set { l with
        indent := indent
        outerIndents := outer
        tokens := l.tokens ++ List.replicate closed.length Token.blockEnd }
    | [] => pure ()

def mark (width : Nat) (t : Token) : Lex Unit := do
  moveTo ((← cursor).skip width)
  emit t

def leaveBlocks : Lex Unit := do
  closeBlocks (-1)
  dropPlace
  allowKey false

def openFlow (t : Token) : Lex Unit := do
  savePlace
  modify fun l => { l with outerPlaces := l.keyPlace :: l.outerPlaces, keyPlace := none }
  allowKey true
  mark 1 t

def closeFlow (t : Token) : Lex Unit := do
  dropPlace
  modify fun l =>
    match l.outerPlaces with
    | place :: outer => { l with keyPlace := place, outerPlaces := outer }
    | [] => l
  allowKey false
  mark 1 t

def startEntry (block : Token) : Lex Unit := do
  let l ← get
  if l.outerPlaces.isEmpty then
    if !l.keyAllowed then fail
    openBlock l.cursor.column l.tokens.size block

def blockEntry : Lex Unit := do
  startEntry .blockSequence
  dropPlace
  allowKey true
  mark 1 .blockEntry

def explicitKey : Lex Unit := do
  startEntry .blockMapping
  dropPlace
  allowKey (!(← inFlow))
  mark 1 .key

def valueMark : Lex Unit := do
  let l ← get
  match l.keyPlace with
  | some p =>
    modify fun l => { l with tokens := l.tokens.insertIdxIfInBounds p.tokens .key }
    openBlock p.column p.tokens .blockMapping
    modify fun l => { l with keyPlace := none }
    allowKey false
  | none =>
    startEntry .blockMapping
    allowKey (!(← inFlow))
  mark 1 .value

def content (read : Cursor → Option (Token × Cursor)) : Lex Unit := do
  savePlace
  allowKey false
  emit (← reading read)

def namedToken? (token : String → Token) (k : Cursor) : Option (Token × Cursor) :=
  (anchorName? (k.skip 1)).map fun (name, k) => (token name, k)

def quotedToken? (k : Cursor) : Option (Token × Cursor) :=
  (quoted? k).map fun (text, k) => (.scalar false (String.ofList text), k)

def blockScalar : Lex Unit := do
  dropPlace
  allowKey true
  let text ← reading (block? (← get).indent)
  emit (.scalar false (String.ofList text))

/-- A plain scalar that ends with a line break allows a key after it. -/
def plainScalar : Lex Unit := do
  savePlace
  allowKey false
  let l ← get
  match plain? (← inFlow) (l.indent + 1) l.cursor with
  | some (text, isBroken, k) =>
    moveTo k
    if isBroken then allowKey true
    emit (.scalar true (String.ofList text))
  | none => fail

def isIndicator (c : Char) : Bool := "-?:,[]\x7b\x7d#&*!|>'\"%@\x60".toList.contains c

def startsPlain (flow : Bool) (s : List Char) : Bool :=
  match s with
  | [] => false
  | c :: rest =>
    if c = '-' then !rest.head?.any isBlank
    else if c = '?' || c = ':' then !flow && !isSeparated rest
    else !(isBlank c || isBreak c || isIndicator c)

def token (c : Char) : Lex Unit := do
  let k ← cursor
  let flow ← inFlow
  let apart := isSeparated (k.rest.drop 1)
  if k.column = 0 && c = '%' then
    leaveBlocks
    emit (← reading directive?)
  else if k.atMark '-' then
    leaveBlocks
    mark 3 .documentStart
  else if k.atMark '.' then
    leaveBlocks
    mark 3 .documentEnd
  else if c = '[' then openFlow .flowSequence
  else if c = '\x7b' then openFlow .flowMapping
  else if c = ']' then closeFlow .flowSequenceEnd
  else if c = '\x7d' then closeFlow .flowMappingEnd
  else if c = ',' then
    dropPlace
    allowKey true
    mark 1 .flowEntry
  else if c = '-' && apart then blockEntry
  else if c = '?' && (flow || apart) then explicitKey
  else if c = ':' && (flow || apart) then valueMark
  else if c = '*' then content (namedToken? .alias)
  else if c = '&' then content (namedToken? .anchor)
  else if c = '!' then content (tag? flow)
  else if (c = '|' || c = '>') && !flow then blockScalar
  else if c = '\'' || c = '"' then content quotedToken?
  else if startsPlain flow k.rest then plainScalar
  else fail

def all : Nat → Lex Unit
  | 0 => fail
  | fuel + 1 => do
    skipSpace ((← cursor).rest.length + 1)
    dropStale
    let k ← cursor
    closeBlocks k.column
    match k.next? with
    | some c =>
      token c
      all fuel
    | none =>
      closeBlocks (-1)
      dropPlace

end Lex

def tokens? (s : List Char) : Option (List Token) :=
  if s.all isAllowed then
    ((Lex.all (s.length + 1)).run (Lex.start s)).map fun (_, l) => l.tokens.toList
  else none

end PageExtract.Yaml
