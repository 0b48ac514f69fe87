import PageExtract.Json.Value
import PageExtract.Number.Decimal
import PageExtract.Text.Quoted

/-! JSON as text: the compact form on one line and the indented form. -/
namespace PageExtract.Json

/-- Decimals whose leading digit stands for `10 ^ -5` up to `10 ^ 15` are written without an
exponent, and with a point even when they are integral. -/
def decimalChars (d : Decimal) : List Char :=
  let leading := d.exponent + (Decimal.digitChars d.digits).length - 1
  if -5 ≤ leading && leading ≤ 15 then
    if d.exponent ≥ 0 then d.positional ++ ['.', '0'] else d.positional
  else d.scientific

def numberText : Number → String
  | .nan => "null"
  | .infinite _ => "null"
  | .finite negative a =>
    (if negative then "-" else "") ++ String.ofList (decimalChars (Decimal.shortest .even a))

def separated (separator : String) (texts : List String) : String := separator.intercalate texts

mutual

def Value.compact : Value → String
  | .null => "null"
  | .boolean b => if b then "true" else "false"
  | .integer n => toString n
  | .number n => numberText n
  | .string s => Quoted.quote s
  | .array items => "[" ++ separated "," (compactItems items) ++ "]"
  | .object fields => "\x7b" ++ separated "," (compactFields fields) ++ "\x7d"
  | .unreadable => "null"

def compactItems : List Value → List String
  | [] => []
  | v :: rest => v.compact :: compactItems rest

def compactFields : List (String × Value) → List String
  | [] => []
  | (key, v) :: rest => (Quoted.quote key ++ ":" ++ v.compact) :: compactFields rest

end

def indentation (depth : Nat) : String := String.ofList (List.replicate (2 * depth) ' ')

def block (depth : Nat) (opening closing : String) : List String → String
  | [] => opening ++ closing
  | lines =>
    let inner := "\n" ++ indentation (depth + 1)
    opening ++ inner ++ separated ("," ++ inner) lines ++ "\n" ++ indentation depth ++ closing

mutual

def Value.pretty (depth : Nat) : Value → String
  | .array items => block depth "[" "]" (prettyItems (depth + 1) items)
  | .object fields => block depth "\x7b" "\x7d" (prettyFields (depth + 1) fields)
  | .null => "null"
  | .boolean b => if b then "true" else "false"
  | .integer n => toString n
  | .number n => numberText n
  | .string s => Quoted.quote s
  | .unreadable => "null"

def prettyItems (depth : Nat) : List Value → List String
  | [] => []
  | v :: rest => v.pretty depth :: prettyItems depth rest

def prettyFields (depth : Nat) : List (String × Value) → List String
  | [] => []
  | (key, v) :: rest =>
    (Quoted.quote key ++ ": " ++ v.pretty depth) :: prettyFields depth rest

end

end PageExtract.Json
