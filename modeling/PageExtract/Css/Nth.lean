import PageExtract.Css.Selector

/-! The patterns that siblings are counted by: `even`, `odd`, a number, and a step with an
offset. -/
namespace PageExtract.Css.Nth

abbrev Pattern := Int × Int

def skipSpace (parts : List Part) : List Part :=
  parts.dropWhile fun
    | .token .space => true
    | _ => false

def unsignedOffset (step sign : Int) (parts : List Part) : Option (Pattern × List Part) :=
  match skipSpace parts with
  | .token (.number false (some n)) :: rest => some ((step, sign * n), rest)
  | _ => none

def offset (step : Int) (parts : List Part) : Option (Pattern × List Part) :=
  match skipSpace parts with
  | .token (.delim '+') :: rest => unsignedOffset step 1 rest
  | .token (.delim '-') :: rest => unsignedOffset step (-1) rest
  | .token (.number true (some n)) :: rest => some ((step, n), rest)
  | _ => some ((step, 0), parts)

def joinedOffset? (name : List Char) : Option Int :=
  match name with
  | 'n' :: '-' :: digits =>
    if !digits.isEmpty && digits.all Char.isDigit then
      some (Token.clamp (-(Numeral.naturalOf digits : Int)))
    else none
  | _ => none

def afterStep (step : Int) (unit : List Char) (rest : List Part) : Option (Pattern × List Part) :=
  match unit with
  | ['n'] => offset step rest
  | ['n', '-'] => unsignedOffset step (-1) rest
  | _ => (joinedOffset? unit).map fun n => ((step, n), rest)

def lower (s : String) : List Char := s.toList.map Char.toLower

def pattern (parts : List Part) : Option (Pattern × List Part) :=
  match skipSpace parts with
  | .token (.number _ (some n)) :: rest => some ((0, n), rest)
  | .token (.dimension (some n) unit) :: rest => afterStep n (lower unit) rest
  | .token (.ident name) :: rest =>
    let word := lower name
    if word = "even".toList then some ((2, 0), rest)
    else if word = "odd".toList then some ((2, 1), rest)
    else
      match word with
      | '-' :: unit => afterStep (-1) unit rest
      | unit => afterStep 1 unit rest
  | .token (.delim '+') :: .token (.ident name) :: rest => afterStep 1 (lower name) rest
  | _ => none

def parse? (parts : List Part) : Option Pattern :=
  match pattern parts with
  | some (found, rest) => if (skipSpace rest).isEmpty then some found else none
  | none => none

/-- The count is one of the pattern. Differences beyond 32 bits count as none. -/
def holds (p : Pattern) (count : Nat) : Bool :=
  let difference : Int := count - p.2
  if p.1 = 0 then difference == 0
  else
    difference % p.1 == 0 && decide (0 ≤ difference / p.1) && decide (difference ≤ 2147483647)

end PageExtract.Css.Nth
