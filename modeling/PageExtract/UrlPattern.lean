/-! A star stands for any run without a slash, two stars that fill a component for any run of whole
components, a question mark and a class for one character other than a slash. A pattern covers the
whole URL. -/
namespace PageExtract

inductive PatternFault where
  | tooManyStars
  | partialComponent
  | invalidClass
deriving DecidableEq

def PatternFault.text : PatternFault → String
  | tooManyStars => "wildcards are either regular \x60*\x60 or recursive \x60**\x60"
  | partialComponent => "recursive wildcards must form a single path component"
  | invalidClass => "invalid range pattern"

structure PatternError where
  position : Nat
  fault : PatternFault
deriving DecidableEq

def PatternError.message (e : PatternError) : String :=
  "Pattern syntax error near position " ++ toString e.position ++ ": " ++ e.fault.text

structure CharSpan where
  first : Char
  last : Char
deriving DecidableEq

def CharSpan.holds (r : CharSpan) (c : Char) : Bool := r.first ≤ c && c ≤ r.last

inductive Wildcard where
  | literal (c : Char)
  | anyChar
  | within (spans : List CharSpan)
  | except (spans : List CharSpan)
  | run
  | deep
deriving DecidableEq

namespace Wildcard

def admits : Wildcard → Char → Bool
  | literal d, c => c == d
  | anyChar, c => c != '/'
  | within spans, c => c != '/' && spans.any fun r => r.holds c
  | except spans, c => c != '/' && !spans.any fun r => r.holds c
  | run, _ => false
  | deep, _ => false

def afterRun : List Char → List (List Char)
  | [] => [[]]
  | c :: rest => (c :: rest) :: (if c = '/' then [] else afterRun rest)

def afterSlashes : List Char → List (List Char)
  | [] => []
  | c :: rest => if c = '/' then rest :: afterSlashes rest else afterSlashes rest

/-- Where what follows a deep wildcard is tried: at once, after each slash, and at the end. -/
def afterDeep (s : List Char) : List (List Char) := (s :: afterSlashes s) ++ [[]]

/-- What trying wildcards on a text comes to. Where it is missed a later part of the text can still be
covered; where it is hopeless the text ended too early for any part. -/
inductive Verdict where
  | covered
  | missed
  | hopeless
deriving DecidableEq

def attempt (follow : List Char → Verdict) : List (List Char) → Verdict
  | [] => .missed
  | s :: others =>
    match follow s with
    | .missed => attempt follow others
    | decided => decided

def walk : List Wildcard → List Char → Verdict
  | [], s => if s.isEmpty then .covered else .missed
  | run :: ws, s => attempt (walk ws) (afterRun s)
  | deep :: ws, s => attempt (walk ws) (afterDeep s)
  | _ :: _, [] => .hopeless
  | w :: ws, c :: rest => if w.admits c then walk ws rest else .missed

/-- Adds a wildcard behind others. A deep one behind a deep one would change nothing and is left
out, but not in second place. -/
def push (ws : List Wildcard) (w : Wildcard) : List Wildcard :=
  if w = deep && 1 < ws.length && ws.getLast? = some deep then ws else ws ++ [w]

def spans : List Char → List CharSpan
  | a :: '-' :: b :: rest => ⟨a, b⟩ :: spans rest
  | a :: rest => ⟨a, a⟩ :: spans rest
  | [] => []

/-- The content of a class and what follows its closing bracket. The first character of the content
can be a closing bracket itself. -/
def classContent? (s : List Char) : Option (List Char × List Char) :=
  match s with
  | first :: rest =>
    match rest.dropWhile (· != ']') with
    | _ :: after => some (first :: rest.takeWhile (· != ']'), after)
    | [] => none
  | [] => none

def class? (s : List Char) : Option (Wildcard × List Char) :=
  match s with
  | '!' :: rest => (classContent? rest).map fun (content, after) => (.except (spans content), after)
  | _ => (classContent? s).map fun (content, after) => (.within (spans content), after)

/-- The wildcards of a pattern. `position` characters come before `s`, the last of them `before`.
Every step takes a character, so the length of the pattern is fuel enough. -/
def scan : Nat → Nat → Option Char → List Char → Except PatternError (List Wildcard)
  | 0, _, _, _ => .ok []
  | fuel + 1, position, before, s =>
    match s with
    | [] => .ok []
    | '?' :: rest => (scan fuel (position + 1) (some '?') rest).map (.anyChar :: ·)
    | '[' :: rest =>
      match class? rest with
      | none => .error ⟨position, .invalidClass⟩
      | some (w, after) =>
        (scan fuel (position + (s.length - after.length)) (some ']') after).map (w :: ·)
    | '*' :: '*' :: '*' :: _ => .error ⟨position + 2, .tooManyStars⟩
    | '*' :: '*' :: rest =>
      if before.all (· == '/') then
        match rest with
        | [] => .ok [.deep]
        | '/' :: after => (scan fuel (position + 3) (some '/') after).map (.deep :: ·)
        | _ => .error ⟨position + 2, .partialComponent⟩
      else .error ⟨position - 1, .partialComponent⟩
    | '*' :: rest => (scan fuel (position + 1) (some '*') rest).map (.run :: ·)
    | c :: rest => (scan fuel (position + 1) (some c) rest).map (.literal c :: ·)

end Wildcard

structure UrlPattern where
  text : String
  wildcards : List Wildcard
deriving DecidableEq

namespace UrlPattern

def parse (text : String) : Except PatternError UrlPattern :=
  (Wildcard.scan (text.length + 1) 0 none text.toList).map fun ws =>
    ⟨text, ws.foldl Wildcard.push []⟩

def matchesEverything (p : UrlPattern) : Bool := p.text == "**"

def isMatch (p : UrlPattern) (url : String) : Bool :=
  p.matchesEverything || Wildcard.walk p.wildcards url.toList = .covered

end UrlPattern
end PageExtract
