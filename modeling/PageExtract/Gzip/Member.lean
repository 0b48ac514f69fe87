import PageExtract.Gzip.Inflate

/-! Gzip files: a header, deflated data, and a checksum and the size of what was deflated. What
follows that is not looked at. The checksum is the remainder of the bits, low ones first, by a
polynomial. -/
namespace PageExtract.Gzip

def polynomial : UInt32 := 0xEDB88320

def shiftRemainder (r : UInt32) : UInt32 :=
  if r &&& 1 = 1 then (r >>> 1) ^^^ polynomial else r >>> 1

def byteRemainder (b : UInt32) : UInt32 :=
  shiftRemainder (shiftRemainder (shiftRemainder (shiftRemainder
    (shiftRemainder (shiftRemainder (shiftRemainder (shiftRemainder b)))))))

def remainders : Array UInt32 := (Array.range 256).map fun b => byteRemainder b.toUInt32

def addByte (r : UInt32) (b : UInt8) : UInt32 :=
  (r >>> 8) ^^^ remainders.getD ((r ^^^ b.toUInt32) &&& 0xFF).toNat 0

def checksum (bytes : List UInt8) : UInt32 := bytes.foldl addByte 0xFFFFFFFF ^^^ 0xFFFFFFFF

def magic : List UInt8 := [0x1F, 0x8B]

def isGzip (bytes : List UInt8) : Bool := magic.isPrefixOf bytes

def naturalOf (bytes : List UInt8) : Nat := bytes.foldr (fun b n => b.toNat + 256 * n) 0

def split? (count : Nat) (bytes : List UInt8) : Option (List UInt8 × List UInt8) :=
  if count ≤ bytes.length then some (bytes.take count, bytes.drop count) else none

def hasFlag (flags : UInt8) (index : Nat) : Bool := flags.toNat / Nat.pow 2 index % 2 == 1

def fieldBound : Nat := 65535

def afterText? (bytes : List UInt8) : Option (List UInt8) :=
  let text := bytes.takeWhile (· != 0)
  if text.length ≤ fieldBound then
    match bytes.drop text.length with
    | _ :: rest => some rest
    | [] => none
  else none

def afterExtra? (bytes : List UInt8) : Option (List UInt8) :=
  (split? 2 bytes).bind fun (count, rest) => (split? (naturalOf count) rest).map Prod.snd

def afterCheck? (before bytes : List UInt8) : Option (List UInt8) :=
  (split? 2 bytes).bind fun (sum, rest) =>
    if naturalOf sum = (checksum before).toNat % Nat.pow 2 16 then some rest else none

def optionally {α : Type} (condition : Bool) (f : α → Option α) (a : α) : Option α :=
  if condition then f a else some a

/-- What is left after the header: ten bytes, and the fields that the flags announce. The three high
flags have no meaning and are refused. -/
def afterHeader? (bytes : List UInt8) : Option (List UInt8) :=
  match bytes with
  | a :: b :: method :: flags :: _ =>
    if [a, b] = magic && method = 8 && flags.toNat < 32 then do
      let (_, rest) ← split? 10 bytes
      let rest ← optionally (hasFlag flags 2) afterExtra? rest
      let rest ← optionally (hasFlag flags 3) afterText? rest
      let rest ← optionally (hasFlag flags 4) afterText? rest
      optionally (hasFlag flags 1) (afterCheck? (bytes.take (bytes.length - rest.length))) rest
    else none
  | _ => none

def isEnding (data ending : List UInt8) : Bool :=
  match split? 8 ending with
  | some (fields, _) =>
    naturalOf (fields.take 4) == (checksum data).toNat
      && naturalOf (fields.drop 4) == data.length % Nat.pow 2 32
  | none => false

def decompress? (bytes : List UInt8) : Option (List UInt8) :=
  match (afterHeader? bytes).bind inflate? with
  | some (data, ending) => if isEnding data ending then some data else none
  | none => none

end PageExtract.Gzip
