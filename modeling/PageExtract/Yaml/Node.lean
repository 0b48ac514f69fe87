import PageExtract.Yaml.Lexer

/-! The tree that the tokens of a file describe. An alias names a node by its number. -/
namespace PageExtract.Yaml

structure Properties where
  anchor : Option Nat
  tag : Option String
deriving DecidableEq

def Properties.none : Properties := ⟨Option.none, Option.none⟩

inductive Node where
  | scalar (properties : Properties) (isPlain : Bool) (text : String)
  | sequence (properties : Properties) (items : List Node)
  | mapping (properties : Properties) (entries : List (Node × Node))
  | alias (number : Nat)

namespace Node

def empty : Node := .scalar .none true ""

mutual

def anchored (n : Node) : List (Nat × Node) :=
  match n with
  | .scalar properties _ _ => (properties.anchor.map (·, n)).toList
  | .sequence properties items => (properties.anchor.map (·, n)).toList ++ anchoredItems items
  | .mapping properties entries => (properties.anchor.map (·, n)).toList ++ anchoredEntries entries
  | .alias _ => []

def anchoredItems : List Node → List (Nat × Node)
  | [] => []
  | n :: rest => anchored n ++ anchoredItems rest

def anchoredEntries : List (Node × Node) → List (Nat × Node)
  | [] => []
  | (key, value) :: rest => anchored key ++ anchored value ++ anchoredEntries rest

end

end Node

def numberOf? (name : String) (known : List (String × Nat)) : Option Nat := known.lookup name

def countNames (known : List (String × Nat)) : Nat := (known.map Prod.fst).eraseDups.length

/-- The numbers of the aliases and anchors among tokens, in order, and `none` if an alias comes
before its anchor. Each anchor has the count of the names before it for its number. -/
def numbers? (known : List (String × Nat)) : List Token → Option (List Nat)
  | [] => some []
  | .anchor name :: rest =>
    let number := countNames known
    (numbers? ((name, number) :: known) rest).map (number :: ·)
  | .alias name :: rest =>
    match numberOf? name known with
    | some number => (numbers? known rest).map (number :: ·)
    | none => none
  | _ :: rest => numbers? known rest

structure Feed where
  tokens : List Token
  numbers : List Nat
  handles : List (String × String)

abbrev Parse := StateT Feed Option

namespace Parse

def fail {α : Type} : Parse α := StateT.lift none

def peek? : Parse (Option Token) := return (← get).tokens.head?

def skip : Parse Unit := modify fun f => { f with tokens := f.tokens.drop 1 }

def number : Parse Nat := do
  match (← get).numbers with
  | n :: rest =>
    modify fun f => { f with numbers := rest }
    return n
  | [] => fail

def isAt (tokens : List Token) : Parse Bool :=
  return (← peek?).any fun t => tokens.contains t

def expect (t : Token) : Parse Unit := do
  if ← isAt [t] then skip else fail

def anchor? : Parse (Option Nat) := do
  match ← peek? with
  | some (.anchor _) =>
    skip
    return some (← number)
  | _ => return none

def tagText (handle suffix : String) : Parse String := do
  if handle.isEmpty then return suffix
  match (← get).handles.lookup handle with
  | some expansion => return expansion ++ suffix
  | none => fail

def tag? : Parse (Option String) := do
  match ← peek? with
  | some (.tag handle suffix) =>
    skip
    return some (← tagText handle suffix)
  | _ => return none

def properties : Parse Properties := do
  match ← anchor? with
  | some number => return ⟨some number, ← tag?⟩
  | none =>
    let tag ← tag?
    if tag.isSome then return ⟨← anchor?, tag⟩ else return .none

mutual

/-- A node. `inBlock` allows blocks, `inMapping` a sequence that is not indented. -/
def node : Nat → Bool → Bool → Parse Node
  | 0, _, _ => fail
  | fuel + 1, inBlock, inMapping => do
    match ← peek? with
    | some (.alias _) =>
      skip
      return .alias (← number)
    | _ =>
      let p ← properties
      match ← peek? with
      | some (.scalar isPlain text) =>
        skip
        return .scalar p isPlain text
      | some .flowSequence =>
        skip
        return .sequence p (← flowItems fuel true)
      | some .flowMapping =>
        skip
        return .mapping p (← flowEntries fuel true)
      | some .blockEntry =>
        if inMapping then return .sequence p (← plainItems fuel) else bare p
      | some .blockSequence =>
        if inBlock then
          skip
          return .sequence p (← blockItems fuel)
        else bare p
      | some .blockMapping =>
        if inBlock then
          skip
          return .mapping p (← blockEntries fuel)
        else bare p
      | _ => bare p

def bare (p : Properties) : Parse Node :=
  if p = .none then fail else return .scalar p true ""

def blockNode : Nat → Bool → List Token → Parse Node
  | 0, _, _ => fail
  | fuel + 1, inMapping, ends => do
    if ← isAt ends then return .empty else node fuel true inMapping

def flowNode : Nat → List Token → Parse Node
  | 0, _ => fail
  | fuel + 1, ends => do
    if ← isAt ends then return .empty else node fuel false false

def blockItems : Nat → Parse (List Node)
  | 0 => fail
  | fuel + 1 => do
    if ← isAt [.blockEnd] then
      skip
      return []
    expect .blockEntry
    let item ← blockNode fuel false [.blockEntry, .blockEnd]
    return item :: (← blockItems fuel)

def plainItems : Nat → Parse (List Node)
  | 0 => fail
  | fuel + 1 => do
    if ← isAt [.blockEntry] then
      skip
      let item ← blockNode fuel false [.blockEntry, .key, .value, .blockEnd]
      return item :: (← plainItems fuel)
    return []

def blockValue : Nat → Parse Node
  | 0 => fail
  | fuel + 1 => do
    if ← isAt [.value] then
      skip
      blockNode fuel true [.key, .value, .blockEnd]
    else return .empty

def blockEntries : Nat → Parse (List (Node × Node))
  | 0 => fail
  | fuel + 1 => do
    if ← isAt [.blockEnd] then
      skip
      return []
    let key ←
      if ← isAt [.key] then
        skip
        blockNode fuel true [.key, .value, .blockEnd]
      else fail
    let value ← blockValue fuel
    return (key, value) :: (← blockEntries fuel)

def flowValue : Nat → List Token → Parse Node
  | 0, _ => fail
  | fuel + 1, ends => do
    if ← isAt [.value] then
      skip
      flowNode fuel ends
    else return .empty

def flowItems : Nat → Bool → Parse (List Node)
  | 0, _ => fail
  | fuel + 1, isFirst => do
    if !isFirst && !(← isAt [.flowSequenceEnd]) then expect .flowEntry
    if ← isAt [.flowSequenceEnd] then
      skip
      return []
    let item ←
      if ← isAt [.key] then
        skip
        flowPair fuel
      else node fuel false false
    return item :: (← flowItems fuel false)

/-- A key and its value as an item. A mark that stands where the key is missing is passed over. -/
def flowPair : Nat → Parse Node
  | 0 => fail
  | fuel + 1 => do
    let key ←
      if ← isAt [.value, .flowEntry, .flowSequenceEnd] then
        skip
        pure .empty
      else node fuel false false
    let value ← flowValue fuel [.flowEntry, .flowSequenceEnd]
    return .mapping .none [(key, value)]

def flowEntries : Nat → Bool → Parse (List (Node × Node))
  | 0, _ => fail
  | fuel + 1, isFirst => do
    if !isFirst && !(← isAt [.flowMappingEnd]) then expect .flowEntry
    if ← isAt [.flowMappingEnd] then
      skip
      return []
    let entry ←
      if ← isAt [.key] then
        skip
        let key ← flowNode fuel [.value, .flowEntry, .flowMappingEnd]
        pure (key, ← flowValue fuel [.flowEntry, .flowMappingEnd])
      else pure (← node fuel false false, .empty)
    return entry :: (← flowEntries fuel false)

end

def defaultHandles : List (String × String) := [("!", "!"), ("!!", "tag:yaml.org,2002:")]

/-- The directives before a document: at most one version, and every handle once. Versions 1.1 and
1.2 are known. -/
def directives (hasVersion : Bool) : List Token → Option (List (String × String) × List Token)
  | .version major minor :: rest =>
    if !hasVersion && major = 1 && (minor = 1 || minor = 2) then directives true rest else none
  | .tagHandle handle expansion :: rest =>
    match directives hasVersion rest with
    | some (handles, left) =>
      if (handles.lookup handle).isNone then some ((handle, expansion) :: handles, left) else none
    | none => none
  | tokens => some ([], tokens)

def document? (tokens : List Token) : Option (Option Node) :=
  match directives false tokens, numbers? [] tokens with
  | some (_, []), some _ => if tokens.isEmpty then some none else none
  | some (handles, .documentStart :: rest), some numbers =>
    read (handles ++ defaultHandles) numbers rest true
  | some ([], rest), some numbers =>
    if rest.length = tokens.length then read defaultHandles numbers rest false else none
  | _, _ => none
where
  read (handles : List (String × String)) (numbers : List Nat) (tokens : List Token)
      (canBeEmpty : Bool) : Option (Option Node) :=
    let isEmpty := canBeEmpty && tokens.head?.all (· == .documentEnd)
    let reading := if isEmpty then pure .empty else node (8 * tokens.length + 8) true false
    match reading.run ⟨tokens, numbers, handles⟩ with
    | some (n, left) => if left.tokens.all (· == .documentEnd) then some (some n) else none
    | none => none

end Parse

end PageExtract.Yaml
