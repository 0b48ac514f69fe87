import PageExtract.Text.CaseRows
import PageExtract.Text.Characters

/-! Full case mappings: one letter can become several, and a capital sigma at the end of a word has
a small form of its own. -/
namespace PageExtract.CaseMap

structure Run where
  first : Nat
  count : Nat
  gap : Nat
  change : Int

def runOf? (row : String) : Option Run :=
  match (row.splitOn " ").filterMap String.toInt? with
  | [first, count, gap, change] => some ⟨first.toNat, count.toNat, gap.toNat, change⟩
  | _ => none

def runsOf (rows : List String) : List Run :=
  (rows.flatMap fun row => row.splitOn ",").filterMap runOf?

def sequenceOf? (row : String) : Option (Nat × List Char) :=
  match (row.splitOn " ").filterMap String.toNat? with
  | code :: codes => some (code, codes.map Char.ofNat)
  | [] => none

def sequencesOf (rows : List String) : List (Nat × List Char) :=
  (rows.flatMap fun row => row.splitOn ",").filterMap sequenceOf?

def Run.covers (r : Run) (code : Nat) : Bool :=
  r.first ≤ code && code < r.first + r.count * r.gap && (code - r.first) % r.gap == 0

def mapped (runs : List Run) (sequences : List (Nat × List Char)) (c : Char) : List Char :=
  match sequences.find? fun s => s.1 == c.toNat with
  | some (_, cs) => cs
  | none =>
    match runs.find? fun r => r.covers c.toNat with
    | some r => [Char.ofNat (c.toNat + r.change).toNat]
    | none => [c]

def lowerRuns : List Run := runsOf lowerRows

def upperRuns : List Run := runsOf upperRows

def lowerSequences : List (Nat × List Char) := sequencesOf lowerSequenceRows

def upperSequences : List (Nat × List Char) := sequencesOf upperSequenceRows

def upperChar (c : Char) : List Char := mapped upperRuns upperSequences c

def lowerChar (c : Char) : List Char := mapped lowerRuns lowerSequences c

def upper (s : List Char) : List Char := s.flatMap upperChar

def meetsCased (s : List Char) : Bool :=
  match s.dropWhile CharProperty.isCaseIgnorable with
  | c :: _ => CharProperty.isCased c
  | [] => false

def capitalSigma : Char := 'Σ'

/-- The small form of a capital sigma: a letter comes before it in its word and none after it. -/
def smallSigma (before after : List Char) : Char :=
  if meetsCased before && !meetsCased after then 'ς' else 'σ'

def lowerFrom (before : List Char) : List Char → List Char
  | [] => []
  | c :: after =>
    (if c = capitalSigma then [smallSigma before after] else lowerChar c)
      ++ lowerFrom (c :: before) after

def lower (s : List Char) : List Char := lowerFrom [] s

end PageExtract.CaseMap
