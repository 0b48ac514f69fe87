import PageExtract.Text.Characters
import PageExtract.Yaml.Cursor

/-! Plain and quoted scalars fold their lines. A block scalar stands on lines of its own. -/
namespace PageExtract.Yaml

structure Gap where
  isBroken : Bool
  blanks : List Char
  firstBreak : List Char
  moreBreaks : List Char

namespace Gap

def none : Gap := ⟨false, [], [], []⟩

/-- One line break becomes a space, and any more stand for themselves. -/
def text (g : Gap) : List Char :=
  if g.isBroken then
    if g.firstBreak = ['\n'] then
      if g.moreBreaks.isEmpty then [' '] else g.moreBreaks
    else g.firstBreak ++ g.moreBreaks
  else g.blanks

/-- Reads a gap to its end. Tabs left of `margin` are refused on a new line. Each step takes a
character, so the length of the rest is fuel enough. -/
def read? (margin : Int) : Nat → Gap → Cursor → Option (Gap × Cursor)
  | 0, g, k => some (g, k)
  | fuel + 1, g, k =>
    match k.next? with
    | some c =>
      if isBlank c then
        if g.isBroken then
          if c = '\t' && k.column < margin then Option.none else read? margin fuel g (k.skip 1)
        else read? margin fuel ⟨false, g.blanks ++ [c], [], []⟩ (k.skip 1)
      else if isBreak c then
        if g.isBroken then
          read? margin fuel ⟨true, [], g.firstBreak, g.moreBreaks ++ k.breakText⟩ k.skipBreak
        else read? margin fuel ⟨true, [], k.breakText, []⟩ k.skipBreak
      else some (g, k)
    | Option.none => some (g, k)

end Gap

def shortEscape? : Char → Option Char
  | '0' => some '\x00'
  | 'a' => some '\x07'
  | 'b' => some '\x08'
  | 't' => some '\t'
  | '\t' => some '\t'
  | 'n' => some '\n'
  | 'v' => some '\x0b'
  | 'f' => some '\x0c'
  | 'r' => some '\r'
  | 'e' => some '\x1b'
  | ' ' => some ' '
  | '"' => some '"'
  | '/' => some '/'
  | '\\' => some '\\'
  | 'N' => some '\u0085'
  | '_' => some '\u00a0'
  | 'L' => some '\u2028'
  | 'P' => some '\u2029'
  | _ => none

def codeWidth? : Char → Option Nat
  | 'x' => some 2
  | 'u' => some 4
  | 'U' => some 8
  | _ => none

def escape? (s : List Char) : Option (Char × Nat) :=
  match s with
  | c :: rest =>
    match codeWidth? c with
    | some width =>
      match Hex.natural? (rest.take width) with
      | some code =>
        if (rest.take width).length = width && code.isValidChar then
          some (Char.ofNat code, width + 1)
        else none
      | none => none
    | none => (shortEscape? c).map (·, 1)
  | [] => none

def quotedRun? (isSingle : Bool) :
    Nat → List Char → Cursor → Option (List Char × Gap × Cursor)
  | 0, _, _ => none
  | fuel + 1, text, k =>
    match k.rest with
    | [] => some (text, Gap.none, k)
    | c :: rest =>
      if isBlank c || isBreak c then some (text, Gap.none, k)
      else if isSingle then
        if c = '\'' then
          if rest.head? = some '\'' then quotedRun? isSingle fuel ('\'' :: text) (k.skip 2)
          else some (text, Gap.none, k)
        else quotedRun? isSingle fuel (c :: text) (k.skip 1)
      else if c = '"' then some (text, Gap.none, k)
      else if c = '\\' then
        if rest.head?.any isBreak then some (text, ⟨true, [], [], []⟩, (k.skip 1).skipBreak)
        else
          match escape? rest with
          | some (value, width) => quotedRun? isSingle fuel (value :: text) (k.skip (width + 1))
          | none => none
      else quotedRun? isSingle fuel (c :: text) (k.skip 1)

def quotedBody? (isSingle : Bool) : Nat → List Char → Cursor → Option (List Char × Cursor)
  | 0, _, _ => none
  | fuel + 1, text, k =>
    if k.atDocumentMark || k.atEnd then none
    else
      match quotedRun? isSingle (k.rest.length + 1) text k with
      | none => none
      | some (text, gap, k) =>
        if k.startsWith (if isSingle then '\'' else '"') then some (text.reverse, k.skip 1)
        else
          match gap.read? 0 (k.rest.length + 1) k with
          | none => none
          | some (gap, k) => quotedBody? isSingle fuel (gap.text.reverse ++ text) k

def quoted? (k : Cursor) : Option (List Char × Cursor) :=
  quotedBody? (k.startsWith '\'') (k.rest.length + 1) [] (k.skip 1)

def isFlowMark (c : Char) : Bool := ",[]\x7b\x7d".toList.contains c

def plainWord? (inFlow : Bool) : List Char → Option (List Char)
  | [] => some []
  | c :: rest =>
    if isBlank c || isBreak c then some []
    else if c = ':' && inFlow && rest.head?.any (fun d => d == '?' || isFlowMark d) then none
    else if (c = ':' && isSeparated rest) || (inFlow && isFlowMark c) then some []
    else (plainWord? inFlow rest).map (c :: ·)

/-- The rest of a plain scalar after a gap. Outside of brackets it stays right of `margin`. The
result tells whether it ends with a line break. The text is reversed. -/
def plainBody? (inFlow : Bool) (margin : Int) :
    Nat → List Char → Gap → Cursor → Option (List Char × Bool × Cursor)
  | 0, _, _, _ => none
  | fuel + 1, text, gap, k =>
    if k.atDocumentMark || k.startsWith '#' then some (text, gap.isBroken, k)
    else
      match plainWord? inFlow k.rest with
      | none => none
      | some [] => some (text, gap.isBroken, k)
      | some word =>
        let text := word.reverse ++ (gap.text.reverse ++ text)
        let k := k.skip word.length
        if k.atBlank || k.atBreak then
          match Gap.none.read? margin (k.rest.length + 1) k with
          | none => none
          | some (gap, k) =>
            if !inFlow && k.column < margin then some (text, gap.isBroken, k)
            else plainBody? inFlow margin fuel text gap k
        else some (text, false, k)

def plain? (inFlow : Bool) (margin : Int) (k : Cursor) : Option (List Char × Bool × Cursor) :=
  (plainBody? inFlow margin (k.rest.length + 1) [] Gap.none k).map fun (text, isBroken, k) =>
    (text.reverse, isBroken, k)

inductive Chomping where
  | strip
  | clip
  | keep
deriving DecidableEq

structure BlockHeader where
  chomping : Chomping
  increment : Nat

def chompingOf? : Char → Option Chomping
  | '+' => some .keep
  | '-' => some .strip
  | _ => none

def incrementOf? (c : Char) : Option Nat :=
  if '1' ≤ c && c ≤ '9' then some (c.toNat - '0'.toNat) else none

def blockHeader (s : List Char) : BlockHeader × Nat :=
  match s with
  | [] => (⟨.clip, 0⟩, 0)
  | c :: rest =>
    match chompingOf? c, incrementOf? c with
    | some chomping, _ =>
      match rest.head?.bind incrementOf? with
      | some increment => (⟨chomping, increment⟩, 2)
      | none => (⟨chomping, 0⟩, 1)
    | none, some increment =>
      match rest.head?.bind chompingOf? with
      | some chomping => (⟨chomping, increment⟩, 2)
      | none => (⟨.clip, increment⟩, 1)
    | none, none => (⟨.clip, 0⟩, 0)

/-- Goes over empty lines and the indentation of the next line. An indentation of zero is not known
yet: it becomes that of the widest line, but at least `least`. -/
def blockGap? (least : Nat) :
    Nat → Nat → Nat → List Char → Cursor → Option (Nat × List Char × Cursor)
  | 0, _, _, _, _ => none
  | fuel + 1, indent, widest, breaks, k =>
    let spaces := (k.rest.takeWhile (· == ' ')).length
    let k := k.skip (if indent = 0 then spaces else min spaces (indent - k.column))
    let widest := max widest k.column
    if (indent = 0 || k.column < indent) && k.startsWith '\t' then none
    else if k.atBreak then blockGap? least fuel indent widest (breaks ++ k.breakText) k.skipBreak
    else some (if indent = 0 then max widest least else indent, breaks, k)

structure BlockText where
  text : List Char
  lastBreak : List Char
  moreBreaks : List Char
  isIndented : Bool

def BlockText.joint (isLiteral : Bool) (b : BlockText) (k : Cursor) : List Char :=
  if !isLiteral && b.lastBreak = ['\n'] && !b.isIndented && !k.atBlank then
    if b.moreBreaks.isEmpty then [' '] else b.moreBreaks.reverse
  else b.moreBreaks.reverse ++ b.lastBreak

def blockLines? (isLiteral : Bool) (indent : Nat) :
    Nat → BlockText → Cursor → Option (BlockText × Cursor)
  | 0, _, _ => none
  | fuel + 1, b, k =>
    if k.column = indent && !k.atEnd then
      let line := k.rest.takeWhile fun c => !isBreak c
      let ending := k.skip line.length
      match blockGap? 0 (k.rest.length + 1) indent 0 [] ending.skipBreak with
      | none => none
      | some (_, breaks, after) =>
        blockLines? isLiteral indent fuel
          ⟨line.reverse ++ (b.joint isLiteral k ++ b.text), ending.breakText, breaks, k.atBlank⟩
          after
    else some (b, k)

def block? (parent : Int) (k : Cursor) : Option (List Char × Cursor) :=
  let isLiteral := k.startsWith '|'
  let k := k.skip 1
  let (header, width) := blockHeader k.rest
  let k := (k.skip width).skipRemark
  if !(k.atBreak || k.atEnd) then none
  else
    let written := if header.increment = 0 then 0 else (max parent 0).toNat + header.increment
    match blockGap? (max (parent + 1).toNat 1) (k.rest.length + 1) written 0 [] k.skipBreak with
    | none => none
    | some (indent, breaks, k) =>
      match blockLines? isLiteral indent (k.rest.length + 1) ⟨[], [], breaks, false⟩ k with
      | none => none
      | some (b, k) =>
        let text := b.text.reverse
        match header.chomping with
        | .strip => some (text, k)
        | .clip => some (text ++ b.lastBreak, k)
        | .keep => some (text ++ b.lastBreak ++ b.moreBreaks, k)

end PageExtract.Yaml
