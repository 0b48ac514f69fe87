/-! Deflated data: blocks of bytes that are stored as they are, or as prefix codes for bytes and
for copies of what came before. -/
namespace PageExtract.Gzip

/-- What is left to read, and what is written so far. Of the first byte left, `used` bits are read
already, the low ones first. -/
structure Inflation where
  bytes : List UInt8
  used : Nat
  output : Array UInt8

abbrev Inflate := StateT Inflation Option

namespace Inflate

def fail {α : Type} : Inflate α := StateT.lift none

def bit : Inflate Nat := do
  let s ← get
  match s.bytes with
  | [] => fail
  | b :: rest =>
    set { s with
      bytes := if s.used = 7 then rest else s.bytes
      used := if s.used = 7 then 0 else s.used + 1 }
    return b.toNat / Nat.pow 2 s.used % 2

def bits : Nat → Inflate Nat
  | 0 => return 0
  | count + 1 => do
    let low ← bit
    return low + 2 * (← bits count)

def align : Inflate Unit := modify fun s =>
  if s.used = 0 then s else { s with bytes := s.bytes.drop 1, used := 0 }

def byte : Inflate UInt8 := do
  let s ← get
  match s.bytes with
  | [] => fail
  | b :: rest =>
    set { s with bytes := rest }
    return b

def write (b : UInt8) : Inflate Unit := modify fun s => { s with output := s.output.push b }

def short : Inflate Nat := do
  let low ← byte
  return low.toNat + 256 * (← byte).toNat

end Inflate

/-- A prefix code: how many codes there are of each length from one, and what they stand for, in
order. Codes of one length are consecutive, and shorter ones come first. -/
structure PrefixCode where
  counts : List Nat
  symbols : Array Nat

namespace PrefixCode

def maxLength : Nat := 15

def ofLengths (lengths : List Nat) : PrefixCode :=
  let widths := (List.range maxLength).map (· + 1)
  ⟨widths.map fun width => lengths.count width,
    (widths.flatMap fun width =>
      lengths.zipIdx.filterMap fun (length, symbol) =>
        if length = width then some symbol else none).toArray⟩

def coverage (c : PrefixCode) : Nat := c.counts.foldl (fun sum count => 2 * sum + count) 0

def isComplete (c : PrefixCode) : Bool := c.coverage == Nat.pow 2 maxLength

/-- The symbol whose code comes next. `code` are the bits so far, `first` is the first code of the
length and `index` its place. -/
def readFrom (c : PrefixCode) : List Nat → Nat → Nat → Nat → Inflate Nat
  | [], _, _, _ => Inflate.fail
  | count :: counts, code, first, index => do
    let code := code + (← Inflate.bit)
    if code < first + count then
      match c.symbols[index + (code - first)]? with
      | some symbol => return symbol
      | none => Inflate.fail
    else readFrom c counts (2 * code) (2 * (first + count)) (index + count)

def read (c : PrefixCode) : Inflate Nat := c.readFrom c.counts 0 0 0

end PrefixCode

namespace Inflate

def lengthRows : List (Nat × Nat) :=
  [(0, 3), (0, 4), (0, 5), (0, 6), (0, 7), (0, 8), (0, 9), (0, 10), (1, 11), (1, 13), (1, 15),
   (1, 17), (2, 19), (2, 23), (2, 27), (2, 31), (3, 35), (3, 43), (3, 51), (3, 59), (4, 67), (4, 83),
   (4, 99), (4, 115), (5, 131), (5, 163), (5, 195), (5, 227), (0, 258)]

def distanceRows : List (Nat × Nat) :=
  [(0, 1), (0, 2), (0, 3), (0, 4), (1, 5), (1, 7), (2, 9), (2, 13), (3, 17), (3, 25), (4, 33), (4, 49),
   (5, 65), (5, 97), (6, 129), (6, 193), (7, 257), (7, 385), (8, 513), (8, 769), (9, 1025), (9, 1537),
   (10, 2049), (10, 3073), (11, 4097), (11, 6145), (12, 8193), (12, 12289), (13, 16385), (13, 24577)]

def fromRow (rows : List (Nat × Nat)) (symbol : Nat) : Inflate Nat := do
  match rows[symbol]? with
  | some (extra, least) => return least + (← bits extra)
  | none => fail

def copy (distance : Nat) : Nat → Inflate Unit
  | 0 => pure ()
  | length + 1 => do
    let output := (← get).output
    if distance ≤ output.size then
      match output[output.size - distance]? with
      | some b =>
        write b
        copy distance length
      | none => fail
    else fail

def endSymbol : Nat := 256

def codes (literals distances : PrefixCode) : Nat → Inflate Unit
  | 0 => fail
  | fuel + 1 => do
    let symbol ← literals.read
    if symbol = endSymbol then pure ()
    else
      if symbol < endSymbol then write symbol.toUInt8
      else
        let length ← fromRow lengthRows (symbol - endSymbol - 1)
        let distance ← fromRow distanceRows (← distances.read)
        copy distance length
      codes literals distances fuel

def fixedLiterals : PrefixCode :=
  .ofLengths (List.replicate 144 8 ++ List.replicate 112 9 ++ List.replicate 24 7
    ++ List.replicate 8 8)

def fixedDistances : PrefixCode := .ofLengths (List.replicate 32 5)

def lengthOrder : List Nat := [16, 17, 18, 0, 8, 7, 9, 6, 10, 5, 11, 4, 12, 3, 13, 2, 14, 1, 15]

def times {α : Type} (read : Inflate α) : Nat → Inflate (List α)
  | 0 => return []
  | count + 1 => do
    let value ← read
    return value :: (← times read count)

def lengthCode (count : Nat) : Inflate PrefixCode := do
  let written := lengthOrder.zip (← times (bits 3) count)
  let code := PrefixCode.ofLengths ((List.range 19).map fun symbol =>
    (written.lookup symbol).getD 0)
  if code.isComplete then return code else fail

def lengths (code : PrefixCode) (count : Nat) : Nat → List Nat → Inflate (List Nat)
  | 0, found => if found.length = count then return found.reverse else fail
  | fuel + 1, found => do
    if found.length = count then return found.reverse
    if found.length > count then fail
    let symbol ← code.read
    if symbol < 16 then lengths code count fuel (symbol :: found)
    else if symbol = 16 then
      match found with
      | last :: _ => lengths code count fuel (List.replicate (3 + (← bits 2)) last ++ found)
      | [] => fail
    else if symbol = 17 then lengths code count fuel (List.replicate (3 + (← bits 3)) 0 ++ found)
    else lengths code count fuel (List.replicate (11 + (← bits 7)) 0 ++ found)

/-- A code that leaves nothing out, unless it has one symbol at most. -/
def checkedCode (found : List Nat) : Inflate PrefixCode :=
  let code := PrefixCode.ofLengths found
  if code.isComplete || code.symbols.size ≤ 1 then return code else fail

def ownCodes : Inflate (PrefixCode × PrefixCode) := do
  let literalCount := 257 + (← bits 5)
  let distanceCount := 1 + (← bits 5)
  let code ← lengthCode (4 + (← bits 4))
  if literalCount > 286 || distanceCount > 30 then fail
  let count := literalCount + distanceCount
  let found ← lengths code count count []
  return (← checkedCode (found.take literalCount), ← checkedCode (found.drop literalCount))

/-- Bytes that are stored as they are. Their number is written a second time with all bits
turned. -/
def stored : Inflate Unit := do
  align
  let count ← short
  if count + (← short) ≠ 0xFFFF then fail
  let s ← get
  if s.bytes.length < count then fail
  set { s with bytes := s.bytes.drop count, output := s.output ++ s.bytes.take count }

/-- Enough steps for the rest of the data: one for each bit. -/
def steps : Inflate Nat := return 8 * (← get).bytes.length + 1

def blocks : Nat → Inflate Unit
  | 0 => fail
  | fuel + 1 => do
    let isLast ← bit
    match ← bits 2 with
    | 0 => stored
    | 1 => codes fixedLiterals fixedDistances (← steps)
    | 2 =>
      let (literals, distances) ← ownCodes
      codes literals distances (← steps)
    | _ => fail
    if isLast = 1 then align else blocks fuel

end Inflate

def inflate? (bytes : List UInt8) : Option (List UInt8 × List UInt8) :=
  let start : Inflation := ⟨bytes, 0, #[]⟩
  ((Inflate.blocks (8 * bytes.length + 1)).run start).map fun (_, s) => (s.output.toList, s.bytes)

end PageExtract.Gzip
