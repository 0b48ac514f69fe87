import PageExtract.Proofs.Unfinished

/-! Where reading fails and what is wrong there. Every failure of a reader is the report of a fault
behind an unfinished text, and a text with a fault in it fails with the report of it. -/
namespace PageExtract.Grammar
open PageExtract.Parser

def startsArgument (c : Char) : Bool :=
  c.isDigit || c == '-' || c == '"' || c == '\'' || isIdentifierStart c

def NoUnit (left : List Char) : Prop :=
  ∀ digits after u, left = digits ++ after → ¬HexText digits u

/-- What is expected behind an unfinished text, where what is left of the text has nothing of that.
A separator is due only where the argument is not a front of a longer one, so `read` is part of it. -/
inductive Fault : Expected → List Char → List Char → Prop
  | identifier {front before left : List Char} (due : StageDue front) (spaces : Spaces before)
      (noSpace : Stops (· == ' ') left) (other : Stops isIdentifierStart left) :
      Fault .identifier (front ++ before) left
  | afterName {front before name after rest : List Char} {c : Char} (due : StageDue front)
      (spacesBefore : Spaces before) (identifier : IdentifierText name) (spacesAfter : Spaces after)
      (apart : Stops isIdentifierPart (after ++ c :: rest)) (other : c ∉ [' ', '|', '(']) :
      Fault .pipeOrEnd (front ++ (before ++ (name ++ after))) (c :: rest)
  | afterList {literals : List Literal} {front before name between list after rest : List Char}
      {c : Char} (due : StageDue front) (spacesBefore : Spaces before)
      (identifier : IdentifierText name) (spacesBetween : Spaces between)
      (arguments : ArgumentsText literals list) (spacesAfter : Spaces after)
      (other : c ∉ [' ', '|']) :
      Fault .pipeOrEnd (front ++ (before ++ (name ++ (between ++ '(' :: (list ++ ')' :: after)))))
        (c :: rest)
  | argument {front before left : List Char} (due : ArgumentDue front) (spaces : Spaces before)
      (noSpace : Stops (· == ' ') left) (other : Stops startsArgument left) :
      Fault .argument (front ++ before) left
  | number {front before rest : List Char} (due : ArgumentDue front) (spaces : Spaces before)
      (noDigit : Stops Char.isDigit rest) : Fault .number (front ++ before) ('-' :: rest)
  | separator {literal : Literal} {front before s after left : List Char} (due : ArgumentDue front)
      (spacesBefore : Spaces before) (text : ArgumentText literal s) (spacesAfter : Spaces after)
      (read : Parser.argument (s ++ (after ++ left)) = .ok (literal, after ++ left))
      (other : ∀ c ∈ left.head?, c ∉ [' ', ',', ')']) :
      Fault .closeOrComma (front ++ (before ++ (s ++ after))) left
  | unclosed {quote : Char} {front left : List Char} (due : ItemDue quote front)
      (control : ∀ c ∈ left.head?, c.toNat ≤ 0x1F) : Fault .closingQuote front left
  | escape {quote : Char} {front left : List Char} (due : ItemDue quote front)
      (unknown : ∀ c ∈ left.head?, c ≠ 'u' ∧ ∀ d, (c, d) ∉ escapes) :
      Fault .escapeSequence (front ++ ['\\']) left
  | unit {quote : Char} {front left : List Char} (due : ItemDue quote front)
      (none : NoUnit left) : Fault .fourHexDigits (front ++ ['\\', 'u']) left

theorem Fault.viable {expected : Expected} {front left : List Char}
    (h : Fault expected front left) : ∃ more e, ExpressionText e (front ++ more) := by
  cases h with
  | identifier due spaces _ _ =>
    have name : IdentifierText ['a'] := .letter (.inr (by decide))
    obtain ⟨e, text⟩ := due.complete_stage (.bare spaces name Spaces.nil)
    exact ⟨['a'], e, by simpa using text⟩
  | afterName due spacesBefore identifier spacesAfter _ _ =>
    obtain ⟨e, text⟩ := due.complete_stage (.bare spacesBefore identifier spacesAfter)
    exact ⟨[], e, by simpa using text⟩
  | afterList due spacesBefore identifier spacesBetween arguments spacesAfter _ =>
    obtain ⟨e, text⟩ := due.complete_stage
      (.applied spacesBefore identifier spacesBetween arguments spacesAfter)
    exact ⟨[], e, by simpa using text⟩
  | argument due spaces _ _ =>
    obtain ⟨e, text⟩ := due.complete_argument spaces letter_argument Spaces.nil
    exact ⟨['a', ')'], e, by simpa using text⟩
  | number due spaces _ =>
    obtain ⟨e, text⟩ := due.complete_argument spaces letter_argument Spaces.nil
    exact ⟨['a', ')'], e, by simpa using text⟩
  | separator due spacesBefore text spacesAfter _ _ =>
    obtain ⟨e, text⟩ := due.complete_argument spacesBefore text spacesAfter
    exact ⟨[')'], e, by simpa using text⟩
  | unclosed due _ =>
    obtain ⟨e, text⟩ := due.complete
    exact ⟨_, e, text⟩
  | @escape quote _ _ due _ =>
    have letter : ('n', '\n') ∈ escapes := by decide
    obtain ⟨e, text⟩ := (due.append (.single (.escape letter))).complete
    exact ⟨['n', quote, ')'], e, by simpa using text⟩
  | unit due _ =>
    obtain ⟨more, e, text⟩ := CutUnit.complete ⟨due, by decide, List.forall_mem_nil _⟩
    exact ⟨more, e, by simpa using text⟩

theorem Fault.front_ne_nil {expected : Expected} {front left : List Char}
    (h : Fault expected front left) : front ≠ [] := by
  cases h with
  | identifier due | afterName due | afterList due => simp [due.ne_nil]
  | argument due | number due | separator due => simp [due.ne_nil]
  | unclosed due | escape due | unit due => simp [due.ne_nil]

/-- What an error shows of a fault. An escape with less than four bytes behind it is reported at the
end, whatever these bytes are. -/
def report (expected : Expected) (left : List Char) : Failure :=
  ⟨if expected = .fourHexDigits ∧ Utf8.size left < 4 then [] else left, expected⟩

theorem report_of_ne {expected : Expected} (h : expected ≠ .fourHexDigits) (left : List Char) :
    report expected left = ⟨left, expected⟩ := by
  simp [report, h]

theorem report_rest (expected : Expected) (left : List Char) :
    (report expected left).rest = left ∨
      (report expected left).rest = [] ∧ expected = .fourHexDigits ∧ Utf8.size left < 4 := by
  unfold report
  split
  next short => exact .inr ⟨rfl, short⟩
  next => exact .inl rfl

def FailsIn (front s : List Char) (f : Failure) : Prop :=
  ∃ expected more left, s = more ++ left ∧ Fault expected (front ++ more) left ∧
    f = report expected left

theorem FailsIn.behind {front a s : List Char} {f : Failure} (h : FailsIn (front ++ a) s f) :
    FailsIn front (a ++ s) f := by
  obtain ⟨expected, more, left, rfl, fault, same⟩ := h
  refine ⟨expected, a ++ more, left, (List.append_assoc a more left).symm, ?_, same⟩
  rwa [← List.append_assoc]

theorem Fault.failsIn {expected : Expected} {front left : List Char}
    (h : Fault expected front left) : FailsIn front left (report expected left) :=
  ⟨expected, [], left, rfl, by rwa [List.append_nil], rfl⟩

end PageExtract.Grammar

namespace PageExtract.Parser
open Grammar

theorem map_error {α β : Type} {x : Reading α} {g : α × List Char → β × List Char} {f : Failure}
    (h : x.map g = .error f) : x = .error f := by
  cases x with
  | error e =>
    cases h
    rfl
  | ok z => cases h

theorem hexUnit_error {s : List Char} {f : Failure} (h : hexUnit s = .error f) :
    NoUnit s ∧ f = report .fourHexDigits s := by
  refine ⟨?_, ?_⟩
  · rintro digits after u rfl hex
    rw [hexUnit_text hex] at h
    cases h
  · unfold hexUnit at h
    split at h
    next short =>
      cases h
      simp [report, short]
    next long =>
      have whole : report .fourHexDigits s = ⟨s, .fourHexDigits⟩ := by simp [report, long]
      rw [whole]
      split at h
      · split at h <;> cases h
        rfl
      · cases h
        rfl

theorem unicodeEscape_error {s : List Char} {f : Failure} (h : unicodeEscape s = .error f) :
    (NoUnit s ∧ f = report .fourHexDigits s) ∨
      ∃ digits u left, s = digits ++ '\\' :: 'u' :: left ∧ HexText digits u ∧ NoUnit left ∧
        f = report .fourHexDigits left := by
  unfold unicodeEscape at h
  split at h
  next first =>
    cases h
    exact .inl (hexUnit_error first)
  next unit rest first =>
    obtain ⟨digits, rfl, hex⟩ := hexUnit_sound first
    split at h
    next more =>
      split at h
      · split at h
        next second =>
          cases h
          exact .inr ⟨digits, unit, more, rfl, hex, hexUnit_error second⟩
        · split at h <;> cases h
      · cases h
    · cases h

section Strings
variable {quote : Char} {front s : List Char} {f : Failure}

theorem escape_fails (due : ItemDue quote front) (h : escape s = .error f) :
    FailsIn front ('\\' :: s) f := by
  unfold escape at h
  split at h
  next rest =>
    have here {left : List Char} {front : List Char} (due : ItemDue quote front)
        (none : NoUnit left) :
        FailsIn front ('\\' :: 'u' :: left) (report .fourHexDigits left) :=
      (Fault.unit due none).failsIn.behind
    rcases unicodeEscape_error h with ⟨none, rfl⟩ | ⟨digits, u, left, rfl, hex, none, rfl⟩
    · exact here due none
    -- The second of two escapes that may be a pair.
    · have items := due.append (.single (.unit hex.four hex.value))
      exact (here items none).behind
  next c rest notUnit =>
    split at h
    · cases h
    next unknown =>
      cases h
      refine (Fault.escape due ?_).failsIn.behind
      rintro _ ⟨⟩
      refine ⟨notUnit, fun d simple => ?_⟩
      rw [simpleEscape?_eq_some_iff.2 simple] at unknown
      cases unknown
  next =>
    cases h
    exact (Fault.escape due (by simp)).failsIn.behind

theorem escape_items {after : List Char} {c : Char} (quote : Char)
    (h : escape s = .ok (c, after)) :
    ∃ pieces body, '\\' :: s = body ++ after ∧ PiecesText quote pieces body := by
  rcases escape_sound h with ⟨letter, rfl, simple⟩ | ⟨rest, rfl, unicode⟩
  · exact ⟨_, _, rfl, .single (.escape simple)⟩
  rcases unicodeEscape_sound unicode with ⟨digits, u, rfl, hex, _, _⟩ |
    ⟨digits, high, digits', low, rfl, hex, hex', _, _, _⟩
  · exact ⟨_, _, rfl, .single (.unit hex.four hex.value)⟩
  · refine ⟨_, _, ?_, .cons (.unit hex.four hex.value) (.single (.unit hex'.four hex'.value))⟩
    simp

theorem quoted_fails (due : ItemDue quote front) (h : quoted quote s = .error f) :
    FailsIn front s f := by
  fun_induction quoted quote s generalizing front f with
  | case1 =>
    cases h
    exact (Fault.unclosed due (by simp)).failsIn
  | case2 => cases h
  | case3 rest _ failure =>
    cases h
    exact escape_fails due failure
  | case4 rest value after opened shorter _ ih =>
    obtain ⟨pieces, body, same, items⟩ := escape_items quote opened
    rw [same]
    exact (ih (due.append items) (map_error h)).behind
  | case5 c rest _ _ control =>
    cases h
    refine (Fault.unclosed due ?_).failsIn
    rintro _ ⟨⟩
    exact control
  | case6 c rest notQuote notBackslash printable ih =>
    have raw : PieceText quote (.char c) [c] := .raw notQuote notBackslash (by omega)
    exact (ih (due.append (.single raw)) (map_error h)).behind

end Strings

section Lists
variable {front s : List Char} {f : Failure}

theorem stops_of_scanUnsigned? {negative : Bool} (h : Numeral.scanUnsigned? negative s = none) :
    Stops Char.isDigit s := by
  unfold Numeral.scanUnsigned? at h
  split at h
  next empty =>
    have split := List.takeWhile_append_dropWhile (p := Char.isDigit) (l := s)
    have run : s.takeWhile Char.isDigit = [] := congrArg Prod.fst empty
    rw [run, List.nil_append] at split
    exact split ▸ Stops.of_dropWhile Char.isDigit s
  · simp at h

theorem number_error {c : Char} (first : (c.isDigit || c == '-') = true)
    (h : number (c :: s) = .error f) :
    c = '-' ∧ Stops Char.isDigit s ∧ f = ⟨c :: s, .number⟩ := by
  unfold number at h
  split at h
  · cases h
  next none =>
    cases h
    by_cases minus : c = '-'
    · subst minus
      exact ⟨rfl, stops_of_scanUnsigned? none, rfl⟩
    · rw [Numeral.scan?_plain (by simpa using minus)] at none
      have noDigit := stops_of_scanUnsigned? none c rfl
      simp [noDigit, minus] at first

theorem identifier_error (h : identifier s = .error f) :
    f = ⟨s, .identifier⟩ ∧ Stops isIdentifierStart s := by
  unfold identifier at h
  split at h
  next empty =>
    cases h
    refine ⟨rfl, fun c first => ?_⟩
    obtain ⟨rest, rfl⟩ := List.head?_eq_some_iff.1 first
    cases start : isIdentifierStart c with
    | false => rfl
    | true => simp [spanIdentifier, start, isIdentifierPart] at empty
  · cases h

theorem argument_fails {before : List Char} (due : ArgumentDue front) (spaces : Spaces before)
    (noSpace : Stops (· == ' ') s) (h : argument s = .error f) : FailsIn (front ++ before) s f := by
  unfold argument at h
  split at h
  · cases h
    exact (Fault.argument due spaces noSpace Stops.nil).failsIn
  next c rest =>
    split at h
    next first =>
      obtain ⟨rfl, noDigit, rfl⟩ := number_error first h
      exact (Fault.number due spaces noDigit).failsIn
    next notNumber =>
      split at h
      next mark =>
        have isQuote : IsQuote c := by simpa [IsQuote] using mark
        have items := ItemDue.intro due spaces isQuote .nil
        have fails : FailsIn ((front ++ before) ++ [c]) rest f :=
          quoted_fails (by simpa using items) (map_error h)
        exact fails.behind
      next notQuote =>
        split at h
        · cases h
        next failure =>
          cases h
          have notWord := (identifier_error failure).2 c rfl
          refine (Fault.argument due spaces noSpace (Stops.cons ?_)).failsIn
          simp_all [startsArgument]

theorem spacedArgument_fails (due : ArgumentDue front) (h : spacedArgument s = .error f) :
    FailsIn front s f := by
  obtain ⟨before, split, spaces⟩ := skipSpaces_split s
  have fails := argument_fails due spaces (stops_skipSpaces s) (map_error h)
  have behind := fails.behind
  rwa [← split] at behind

theorem arguments_fails (due : ArgumentDue front) (h : arguments s = .error f) :
    FailsIn front s f := by
  fun_induction arguments s generalizing front f with
  | case1 s e failure =>
    cases h
    exact spacedArgument_fails due failure
  | case2 => cases h
  | case3 s literal rest found shorter ih =>
    obtain ⟨before, text, after, rfl, spacesBefore, argument, spacesAfter⟩ :=
      spacedArgument_sound found
    have fails := (ih (due.next spacesBefore argument spacesAfter) (map_error h)).behind
    simpa using fails
  | case4 s literal rest noClose noComma found =>
    cases h
    obtain ⟨⟨_, left⟩, read, same⟩ := map_ok found
    cases same
    obtain ⟨before, split, spacesBefore⟩ := skipSpaces_split s
    obtain ⟨text, taken, argument⟩ := argument_sound read
    obtain ⟨after, back, spacesAfter⟩ := skipSpaces_split left
    rw [taken, back] at read
    have other : ∀ c ∈ (skipSpaces left).head?, c ∉ [' ', ',', ')'] := by
      intro c first
      obtain ⟨rest, follows⟩ := List.head?_eq_some_iff.1 first
      have noSpace : c ≠ ' ' := beq_eq_false_iff_ne.1 (stops_skipSpaces left c first)
      have noClose' : c ≠ ')' := fun close => noClose rest (by rw [← close]; exact follows)
      have noComma' : c ≠ ',' := fun comma => noComma rest (by rw [← comma]; exact follows)
      simp [noSpace, noComma', noClose']
    have fault := Fault.separator due spacesBefore argument spacesAfter read other
    have fails := fault.failsIn.behind
    rw [report_of_ne (by decide)] at fails
    have whole : before ++ (text ++ after) ++ skipSpaces left = s := by
      rw [List.append_assoc, List.append_assoc, ← back, ← taken, ← split]
    rwa [whole] at fails

theorem call_fails (due : StageDue front) (h : call s = .error f) : FailsIn front s f := by
  obtain ⟨before, split, spacesBefore⟩ := skipSpaces_split s
  unfold call at h
  split at h
  next failure =>
    cases h
    obtain ⟨rfl, notStart⟩ := identifier_error failure
    have fault := Fault.identifier due spacesBefore (stops_skipSpaces s) notStart
    have fails := fault.failsIn.behind
    rwa [report_of_ne (by decide), ← split] at fails
  next name rest found =>
    obtain ⟨word, taken, identifier, rfl⟩ := identifier_sound found
    obtain ⟨between, back, spacesBetween⟩ := skipSpaces_split rest
    have failure := map_error h
    unfold argumentList at failure
    split at failure
    next list opened =>
      have inner := arguments_fails (ArgumentDue.first due spacesBefore identifier spacesBetween)
        (map_error failure)
      have fails := inner.behind
      have whole : before ++ (word ++ (between ++ ['('])) ++ list = s := by
        rw [split, taken, back, opened]
        simp
      rwa [whole] at fails
    · cases failure

theorem call_trailing {stage : Call} {c : Char} {rest : List Char} (due : StageDue front)
    (h : call s = .ok (stage, c :: rest)) (noPipe : c ≠ '|') :
    FailsIn front s ⟨c :: rest, .pipeOrEnd⟩ := by
  obtain ⟨before, split, spacesBefore⟩ := skipSpaces_split s
  have notSpace {t : List Char} (follows : skipSpaces t = c :: rest) : c ≠ ' ' := by
    have stop := stops_skipSpaces t
    rw [follows] at stop
    exact beq_eq_false_iff_ne.1 (stop c rfl)
  unfold call at h
  split at h
  · cases h
  next name left found =>
    obtain ⟨⟨args, left'⟩, read, same⟩ := map_ok h
    cases same
    obtain ⟨word, taken, identifier, rfl⟩ := identifier_sound found
    obtain ⟨between, back, spacesBetween⟩ := skipSpaces_split left
    unfold argumentList at read
    split at read
    next list opened =>
      obtain ⟨⟨literals, after⟩, inner, same⟩ := map_ok read
      simp only [Prod.mk.injEq] at same
      obtain ⟨rfl, follows⟩ := same
      obtain ⟨text, rfl, arguments⟩ := arguments_sound inner
      obtain ⟨spaces, front', spacesAfter⟩ := skipSpaces_split after
      have other : c ∉ [' ', '|'] := by simp [notSpace follows, noPipe]
      have fault : Fault .pipeOrEnd _ (c :: rest) :=
        .afterList due spacesBefore identifier spacesBetween arguments spacesAfter other
      have fails := fault.failsIn.behind
      have whole : before ++ (word ++ (between ++ '(' :: (text ++ ')' :: spaces))) ++ c :: rest =
          s := by
        rw [split, taken, back, opened, front', follows]
        simp
      rwa [report_of_ne (by decide), whole] at fails
    next noList =>
      simp only [Except.ok.injEq, Prod.mk.injEq] at read
      obtain ⟨rfl, follows⟩ := read
      have notOpened : c ≠ '(' := by
        rintro rfl
        exact noList rest follows
      have other : c ∉ [' ', '|', '('] := by simp [notSpace follows, noPipe, notOpened]
      have apart := identifier_stops found
      rw [back, follows] at apart
      have fault := Fault.afterName due spacesBefore identifier spacesBetween apart other
      have fails := fault.failsIn.behind
      have whole : before ++ (word ++ between) ++ c :: rest = s := by
        rw [split, taken, back, follows]
        simp
      rwa [report_of_ne (by decide), whole] at fails

theorem chain_other {c : Char} {rest : List Char} (h : c ≠ '|') :
    chain (c :: rest) = .error ⟨c :: rest, .pipeOrEnd⟩ := by
  unfold chain
  split
  next same => cases same
  next same => exact absurd (List.cons.inj same).1 h
  next => rfl

theorem chain_fails {t : List Char} (h : chain t = .error f) (same : t = '|' :: s)
    (due : StageDue front) : FailsIn front s f := by
  fun_induction chain t generalizing front s f with
  | case1 => cases h
  | case2 rest e failure =>
    cases h
    cases same
    exact call_fails due failure
  | case3 rest c left found shorter ih =>
    cases same
    cases others : chain left with
    | ok calls =>
      rw [others] at h
      cases h
    | error e =>
      rw [others] at h
      cases h
      cases left with
      | nil => simp [chain] at others
      | cons d left =>
        by_cases pipe : d = '|'
        · subst pipe
          obtain ⟨text, rfl, stage⟩ := call_sound found
          have fails := (ih others rfl (due.next stage)).behind
          simpa using fails
        · rw [chain_other pipe] at others
          cases others
          exact call_trailing due found pipe
  | case4 c rest noPipe =>
    cases same
    exact absurd rfl noPipe

end Lists

theorem expression_fails {s : List Char} {f : Failure} (h : expression s = .error f) :
    ¬['|', '|'] <+: s ∧
      ∃ expected front left, s = front ++ left ∧ Fault expected front left ∧
        f = report expected left := by
  unfold expression at h
  split at h
  · cases h
  next other =>
    constructor
    · rintro ⟨rest, rfl⟩
      exact other rest rfl
    obtain ⟨before, rest, rfl, noPipe, stop⟩ := pipe_split s
    rw [(takeWhile_pipe noPipe stop).2] at h
    cases failure : chain rest with
    | ok calls =>
      rw [failure] at h
      cases h
    | error e =>
      rw [failure] at h
      cases h
      cases rest with
      | nil => simp [chain] at failure
      | cons c rest =>
        have pipe : c = '|' := stop c rfl
        subst pipe
        obtain ⟨expected, more, left, rfl, fault, same⟩ :=
          chain_fails failure rfl (.first noPipe)
        exact ⟨expected, before ++ ['|'] ++ more, left, by simp, fault, same⟩

end PageExtract.Parser
