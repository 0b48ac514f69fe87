import PageExtract.Text.Characters

/-! Texts between double quotes. The expression language and JSON write strings alike. In a list of
names, marks and characters without a visible form are escaped as well. -/
namespace PageExtract.Quoted

def escape (c : Char) : List Char :=
  match c with
  | '"' => ['\\', '"']
  | '\\' => ['\\', '\\']
  | '\n' => ['\\', 'n']
  | '\r' => ['\\', 'r']
  | '\t' => ['\\', 't']
  | '\x08' => ['\\', 'b']
  | '\x0c' => ['\\', 'f']
  | c => if c.toNat ≤ 0x1F then '\\' :: 'u' :: Hex.padded 4 c.toNat else [c]

def encode (s : List Char) : List Char := '"' :: (s.flatMap escape ++ ['"'])

def quote (s : String) : String := String.ofList (encode s.toList)

end PageExtract.Quoted

namespace PageExtract.Debug

def escape (c : Char) : List Char :=
  match c with
  | '\x00' => ['\\', '0']
  | '\t' => ['\\', 't']
  | '\r' => ['\\', 'r']
  | '\n' => ['\\', 'n']
  | '"' => ['\\', '"']
  | '\\' => ['\\', '\\']
  | c =>
    if c.toNat ≥ 0x7F && (CharProperty.isExtending c || CharProperty.isHidden c) || c.toNat < 0x20 then
      '\\' :: 'u' :: '\x7b' :: (Hex.digits c.toNat ++ ['\x7d'])
    else [c]

def quote (s : String) : String := String.ofList ('"' :: (s.toList.flatMap escape ++ ['"']))

def record (title field : String) (names : List String) : String :=
  title ++ " \x7b " ++ field ++ ": [" ++ ", ".intercalate (names.map quote) ++ "] \x7d"

end PageExtract.Debug
