import PageExtract.Number.Text
import PageExtract.Text.Characters
import PageExtract.Tree
import PageExtract.Yaml.Node

/-! Plain scalars without a tag are null, truth values, numbers or text by their spelling. Where
text is asked for, any scalar is its spelling. -/
namespace PageExtract.Yaml

def isNullWord (s : String) : Bool := ["null", "Null", "NULL", "~"].contains s

def booleanWord? (s : String) : Option Bool :=
  if ["true", "True", "TRUE"].contains s then some true
  else if ["false", "False", "FALSE"].contains s then some false
  else none

def basedNatural? (base : Nat) (s : List Char) : Option Nat :=
  if s.isEmpty then none
  else s.foldlM
    (fun n c => (Hex.value? c).bind fun d => if d < base then some (base * n + d) else none) 0

def isBasedInteger (isNegative : Bool) (s : List Char) : Bool :=
  let value? := match s with
    | '0' :: 'x' :: digits => basedNatural? 16 digits
    | '0' :: 'o' :: digits => basedNatural? 8 digits
    | '0' :: 'b' :: digits => basedNatural? 2 digits
    | _ => none
  value?.any fun n => if isNegative then n ≤ Nat.pow 2 127 else n < Nat.pow 2 128

def isZeroPadded (s : List Char) : Bool :=
  match s with
  | '0' :: c :: rest => (c :: rest).all Char.isDigit
  | _ => false

def isDecimal (s : List Char) : Bool :=
  match Number.read? s with
  | some (.finite _ _) => true
  | _ => false

def isSpecial (s : List Char) : Bool :=
  [".inf", ".Inf", ".INF", "-.inf", "-.Inf", "-.INF", "+.inf", "+.Inf", "+.INF",
    ".nan", ".NaN", ".NAN"].contains (String.ofList s)

def isNumber (s : String) : Bool :=
  let chars := s.toList
  let (isNegative, unsigned) := match chars with
    | '-' :: rest => (true, rest)
    | '+' :: rest => (false, rest)
    | _ => (false, chars)
  isBasedInteger isNegative unsigned
    || (!isZeroPadded unsigned && (isSpecial chars || isDecimal chars))

def nullTag : String := "tag:yaml.org,2002:null"

def valueTags : List String :=
  [nullTag, "tag:yaml.org,2002:bool", "tag:yaml.org,2002:int", "tag:yaml.org,2002:float"]

def isLocalTag (tag : String) : Bool := tag.toList.head? == some '!'

/-- What a scalar with a tag can be read as. A null that is spelled otherwise stands for no value,
but it must not stand where a value is optional. -/
def taggedScalar (tag : String) (isPlain : Bool) (text : String) : Scalar where
  text? := some text
  isText := !isLocalTag tag && !valueTags.contains tag
  boolean? := none
  absent? :=
    if isPlain && tag = nullTag then if isNullWord text then some true else none
    else some false
  isBlank := isPlain && text.isEmpty

def plainScalar (text : String) : Scalar where
  text? := some text
  isText := !text.isEmpty && !isNullWord text && (booleanWord? text).isNone && !isNumber text
  boolean? := booleanWord? text
  absent? := some (text.isEmpty || isNullWord text)
  isBlank := text.isEmpty

def scalarOf (tag : Option String) (isPlain : Bool) (text : String) : Scalar :=
  match tag with
  | some tag => taggedScalar tag isPlain text
  | none => if isPlain then plainScalar text else .ofText text

mutual

def Node.toTree (follow : Nat → Tree) : Node → Tree
  | .scalar p isPlain text => .scalar (scalarOf p.tag isPlain text)
  | .sequence p items =>
    if p.tag.any isLocalTag then .labelled (itemTrees follow items)
    else .sequence (itemTrees follow items)
  | .mapping _ entries => .mapping (entryTrees follow entries)
  | .alias number => follow number

def itemTrees (follow : Nat → Tree) : List Node → List Tree
  | [] => []
  | n :: rest => n.toTree follow :: itemTrees follow rest

def entryTrees (follow : Nat → Tree) : List (Node × Node) → List (Option String × Tree)
  | [] => []
  | (key, value) :: rest =>
    ((key.toTree follow).text?, value.toTree follow) :: entryTrees follow rest

end

def follow (anchored : List (Nat × Node)) : Nat → Node → Tree
  | 0, n => n.toTree fun _ => .scalar .other
  | depth + 1, n =>
    n.toTree fun number =>
      match anchored.reverse.lookup number with
      | some target => follow anchored depth target
      | none => .scalar .other

/-- Schemas are read no deeper than this: file, list, schema, fields, text. -/
def readDepth : Nat := 5

def content? (text : String) : Option Tree :=
  match (tokens? text.toList).bind Parse.document? with
  | none => none
  | some none => some (.scalar .nothing)
  | some (some n) => some (follow n.anchored readDepth n)

end PageExtract.Yaml
