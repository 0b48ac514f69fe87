import PageExtract.Expr.Basic
import PageExtract.Expr.SyntaxError
import PageExtract.Text.Characters

/-! Reading expressions. Each reader takes what is left of the text and gives a value and the new
rest, or the place of the failure. A rest is always an end part of the text, so a failure has a
position in it. -/
namespace PageExtract.Parser

abbrev Reading (α : Type) := Except Failure (α × List Char)

def isIdentifierStart (c : Char) : Bool := c.isAlpha || c == '_' || c == '-' || c == '$'

def isIdentifierPart (c : Char) : Bool := isIdentifierStart c || c.isDigit

/-- Only `U+0020` is skipped between the parts of a call. -/
def skipSpaces (s : List Char) : List Char := s.dropWhile (· == ' ')

def spanIdentifier (s : List Char) : List Char × List Char :=
  match s with
  | c :: _ =>
    if isIdentifierStart c then (s.takeWhile isIdentifierPart, s.dropWhile isIdentifierPart)
    else ([], s)
  | [] => ([], s)

def identifier (s : List Char) : Reading String :=
  match spanIdentifier s with
  | ([], _) => .error ⟨s, .identifier⟩
  | (name, rest) => .ok (String.ofList name, rest)

/-- Four hexadecimal digits. With less than four bytes left the failure is at the end. -/
def hexUnit (s : List Char) : Reading Nat :=
  if Utf8.size s < 4 then .error ⟨[], .fourHexDigits⟩
  else
    match Hex.natural? (s.take 4) with
    | some unit => if s.length < 4 then .error ⟨s, .fourHexDigits⟩ else .ok (unit, s.drop 4)
    | none => .error ⟨s, .fourHexDigits⟩

/-- The character of a `\u` escape. Two escapes that are a surrogate pair are one character, any
other surrogate is `U+FFFD`. -/
def unicodeEscape (s : List Char) : Reading Char :=
  match hexUnit s with
  | .error e => .error e
  | .ok (unit, rest) =>
    match rest with
    | '\\' :: 'u' :: more =>
      if Utf16.isHighSurrogate unit then
        match hexUnit more with
        | .error e => .error e
        | .ok (low, after) =>
          if Utf16.isLowSurrogate low then .ok (Utf16.charOf (Utf16.combine unit low), after)
          else .ok (Utf16.charOf unit, rest)
      else .ok (Utf16.charOf unit, rest)
    | _ => .ok (Utf16.charOf unit, rest)

def simpleEscape? : Char → Option Char
  | 'b' => some '\x08'
  | 'f' => some '\x0c'
  | 'n' => some '\n'
  | 'r' => some '\r'
  | 't' => some '\t'
  | '\\' => some '\\'
  | '/' => some '/'
  | '"' => some '"'
  | _ => none

def escape (s : List Char) : Reading Char :=
  match s with
  | 'u' :: rest => unicodeEscape rest
  | c :: rest =>
    match simpleEscape? c with
    | some value => .ok (value, rest)
    | none => .error ⟨s, .escapeSequence⟩
  | [] => .error ⟨s, .escapeSequence⟩

theorem hexUnit_length {s rest : List Char} {unit : Nat} (h : hexUnit s = .ok (unit, rest)) :
    rest.length < s.length := by
  unfold hexUnit at h
  split at h
  · cases h
  split at h
  · split at h
    · cases h
    · simp only [Except.ok.injEq, Prod.mk.injEq] at h
      rw [← h.2, List.length_drop]
      omega
  · cases h

theorem unicodeEscape_length {s rest : List Char} {c : Char}
    (h : unicodeEscape s = .ok (c, rest)) : rest.length < s.length := by
  unfold unicodeEscape at h
  split at h
  · cases h
  next unit after first =>
    have shorter := hexUnit_length first
    split at h
    next more =>
      simp only [List.length_cons] at shorter
      split at h
      · split at h
        · cases h
        next second =>
          have shorter' := hexUnit_length second
          split at h <;> simp only [Except.ok.injEq, Prod.mk.injEq] at h
          · rw [← h.2]
            omega
          · rw [← h.2]
            simpa using shorter
      · simp only [Except.ok.injEq, Prod.mk.injEq] at h
        rw [← h.2]
        simpa using shorter
    · simp only [Except.ok.injEq, Prod.mk.injEq] at h
      rw [← h.2]
      exact shorter

theorem escape_length {s rest : List Char} {c : Char} (h : escape s = .ok (c, rest)) :
    rest.length < s.length := by
  unfold escape at h
  split at h
  · have := unicodeEscape_length h
    simp only [List.length_cons]
    omega
  · split at h
    · simp only [Except.ok.injEq, Prod.mk.injEq] at h
      simp [← h.2]
    · cases h
  · cases h

def quoted (quote : Char) (s : List Char) : Reading (List Char) :=
  match s with
  | [] => .error ⟨s, .closingQuote⟩
  | c :: rest =>
    if c = quote then .ok ([], rest)
    else if c = '\\' then
      match h : escape rest with
      | .error e => .error e
      | .ok (value, after) =>
        have : after.length < rest.length := escape_length h
        (quoted quote after).map fun (text, left) => (value :: text, left)
    else if c.toNat ≤ 0x1F then .error ⟨s, .closingQuote⟩
    else (quoted quote rest).map fun (text, left) => (c :: text, left)
termination_by s.length

def number (s : List Char) : Reading Literal :=
  match Numeral.scan? s with
  | some (numeral, rest) => .ok (.number numeral.toNumber, rest)
  | none => .error ⟨s, .number⟩

def wordLiteral (word : String) : Literal :=
  if word = "true" then .boolean true
  else if word = "false" then .boolean false
  else if word = "null" then .null
  else if word = "undefined" then .undefined
  else .string word

def argument (s : List Char) : Reading Literal :=
  match s with
  | [] => .error ⟨s, .argument⟩
  | c :: rest =>
    if c.isDigit || c == '-' then number s
    else if c == '"' || c == '\'' then
      (quoted c rest).map fun (text, left) => (.string (String.ofList text), left)
    else
      match identifier s with
      | .ok (word, left) => .ok (wordLiteral word, left)
      | .error _ => .error ⟨s, .argument⟩

theorem skipSpaces_length (s : List Char) : (skipSpaces s).length ≤ s.length :=
  Numeral.length_dropWhile_le _ s

theorem map_ok {α β : Type} {x : Reading α} {f : α × List Char → β × List Char}
    {y : β × List Char} (h : x.map f = .ok y) : ∃ z, x = .ok z ∧ f z = y := by
  cases x with
  | error e => cases h
  | ok z => exact ⟨z, rfl, by simpa [Except.map] using h⟩

theorem quoted_length {quote : Char} {s rest text : List Char}
    (h : quoted quote s = .ok (text, rest)) : rest.length < s.length := by
  fun_induction quoted quote s generalizing text rest with
  | case1 => cases h
  | case2 =>
    cases h
    simp
  | case3 => cases h
  | case4 left value after opened shorter _ ih =>
    obtain ⟨z, read, same⟩ := map_ok h
    cases same
    have := ih read
    simp only [List.length_cons]
    omega
  | case5 => cases h
  | case6 c left _ _ _ ih =>
    obtain ⟨z, read, same⟩ := map_ok h
    cases same
    have := ih read
    simp only [List.length_cons]
    omega

theorem identifier_length {s rest : List Char} {name : String}
    (h : identifier s = .ok (name, rest)) : rest.length ≤ s.length := by
  unfold identifier spanIdentifier at h
  have shorter := Numeral.length_dropWhile_le isIdentifierPart s
  split at h
  · cases h
  next found =>
    simp only [Except.ok.injEq, Prod.mk.injEq] at h
    rw [← h.2]
    split at found
    · split at found <;> simp only [Prod.mk.injEq] at found
      · rw [← found.2]
        exact shorter
      · simp [← found.2]
    · simp only [Prod.mk.injEq] at found
      simp [← found.2]

theorem number_length {s rest : List Char} {literal : Literal}
    (h : number s = .ok (literal, rest)) : rest.length ≤ s.length := by
  unfold number at h
  split at h
  next found =>
    simp only [Except.ok.injEq, Prod.mk.injEq] at h
    rw [← h.2]
    exact Numeral.scan?_length found
  · cases h

theorem argument_length {s rest : List Char} {literal : Literal}
    (h : argument s = .ok (literal, rest)) : rest.length ≤ s.length := by
  unfold argument at h
  split at h
  · cases h
  next c left =>
    split at h
    · exact number_length h
    split at h
    · obtain ⟨z, read, same⟩ := map_ok h
      cases same
      have := quoted_length read
      simp only [List.length_cons]
      omega
    split at h
    next found =>
      simp only [Except.ok.injEq, Prod.mk.injEq] at h
      rw [← h.2]
      exact identifier_length found
    · cases h

def spacedArgument (s : List Char) : Reading Literal :=
  (argument (skipSpaces s)).map fun (literal, rest) => (literal, skipSpaces rest)

theorem spacedArgument_length {s rest : List Char} {literal : Literal}
    (h : spacedArgument s = .ok (literal, rest)) : rest.length ≤ s.length := by
  obtain ⟨z, read, same⟩ := map_ok h
  cases same
  have before := skipSpaces_length s
  have within := argument_length read
  have after := skipSpaces_length z.2
  omega

def arguments (s : List Char) : Reading (List Literal) :=
  match h : spacedArgument s with
  | .error e => .error e
  | .ok (literal, ')' :: rest) => .ok ([literal], rest)
  | .ok (literal, ',' :: rest) =>
    have : rest.length < s.length := by
      have := spacedArgument_length h
      simp only [List.length_cons] at this
      omega
    (arguments rest).map fun (literals, left) => (literal :: literals, left)
  | .ok (_, rest) => .error ⟨rest, .closeOrComma⟩
termination_by s.length

theorem arguments_length {s rest : List Char} {literals : List Literal}
    (h : arguments s = .ok (literals, rest)) : rest.length ≤ s.length := by
  fun_induction arguments s generalizing literals rest with
  | case1 => cases h
  | case2 s literal left found =>
    cases h
    have := spacedArgument_length found
    simp only [List.length_cons] at this
    omega
  | case3 s literal left found shorter ih =>
    obtain ⟨z, read, same⟩ := map_ok h
    cases same
    have := ih read
    omega
  | case4 => cases h

def argumentList (s : List Char) : Reading (List Literal) :=
  match s with
  | '(' :: rest => (arguments rest).map fun (literals, left) => (literals, skipSpaces left)
  | _ => .ok ([], s)

def call (s : List Char) : Reading Call :=
  match identifier (skipSpaces s) with
  | .error e => .error e
  | .ok (name, rest) =>
    (argumentList (skipSpaces rest)).map fun (args, left) => (⟨name, args⟩, left)

theorem argumentList_length {s rest : List Char} {literals : List Literal}
    (h : argumentList s = .ok (literals, rest)) : rest.length ≤ s.length := by
  unfold argumentList at h
  split at h
  · obtain ⟨z, read, same⟩ := map_ok h
    cases same
    have within := arguments_length read
    have after := skipSpaces_length z.2
    simp only [List.length_cons]
    omega
  · cases h
    exact Nat.le_refl _

theorem call_length {s rest : List Char} {c : Call} (h : call s = .ok (c, rest)) :
    rest.length ≤ s.length := by
  unfold call at h
  split at h
  · cases h
  next name left found =>
    obtain ⟨z, read, same⟩ := map_ok h
    cases same
    have before := skipSpaces_length s
    have within := identifier_length found
    have between := skipSpaces_length left
    have after := argumentList_length read
    omega

def chain (s : List Char) : Except Failure (List Call) :=
  match s with
  | [] => .ok []
  | '|' :: rest =>
    match h : call rest with
    | .error e => .error e
    | .ok (c, left) =>
      have := call_length h
      (chain left).map (c :: ·)
  | _ :: _ => .error ⟨s, .pipeOrEnd⟩
termination_by s.length
decreasing_by
  simp only [List.length_cons]
  omega

def selectorOf (s : List Char) : String := String.ofList (Blank.trim (s.takeWhile (· != '|')))

def expression (s : List Char) : Except Failure Expression :=
  match s with
  | '|' :: '|' :: text => .ok (.constant (String.ofList text))
  | _ => (chain (s.dropWhile (· != '|'))).map (.query (selectorOf s))

end PageExtract.Parser

namespace PageExtract

def Expression.parse (text : String) : Except SyntaxError Expression :=
  (Parser.expression text.toList).mapError (SyntaxError.ofFailure text)

end PageExtract
