import PageExtract.Proofs.Refusals

/-! What stands behind the character at a fault does not change the fault. So an error shows the
first place where the text leaves the grammar, and one at the end shows an unfinished expression. -/
namespace PageExtract.Grammar
open PageExtract.Parser

/-- The character at a fault is one, whatever follows it; but digits may follow a minus or the
escape of a unit, and the character may continue a number. -/
theorem Fault.tail {expected : Expected} {front rest : List Char} {c : Char}
    (h : Fault expected front (c :: rest)) (notNumber : expected ≠ .number)
    (notUnit : expected ≠ .fourHexDigits)
    (apart : ¬((c = '.' ∨ c = 'e' ∨ c = 'E') ∧ EndsInNumber front)) (tail : List Char) :
    Fault expected front (c :: tail) := by
  cases h with
  | identifier due spaces noSpace other =>
    exact .identifier due spaces (noSpace.of_head rfl) (other.of_head rfl)
  | afterName due spacesBefore identifier spacesAfter nameEnds other =>
    exact .afterName due spacesBefore identifier spacesAfter
      (nameEnds.of_head (by simp [List.head?_append])) other
  | afterList due spacesBefore identifier spacesBetween arguments spacesAfter other =>
    exact .afterList due spacesBefore identifier spacesBetween arguments spacesAfter other
  | argument due spaces noSpace other =>
    exact .argument due spaces (noSpace.of_head rfl) (other.of_head rfl)
  | number => exact absurd rfl notNumber
  | @separator literal front before s after _ due spacesBefore text spacesAfter read other =>
    refine .separator due spacesBefore text spacesAfter ?_ other
    refine argument_before text read (by simp [List.head?_append]) fun numeral number => ?_
    -- Only a character directly behind a number can make it longer, a space cannot.
    cases after with
    | nil =>
      have ends : EndsInNumber (front ++ (before ++ (s ++ []))) :=
        ⟨numeral, front, before, s, by simp, due, spacesBefore, number⟩
      refine Stops.cons (Bool.eq_false_iff.2 fun continues => apart ⟨?_, ends⟩)
      simpa [continuesNumeral, or_assoc] using continues
    | cons d after =>
      rw [spacesAfter d List.mem_cons_self]
      exact Stops.cons rfl
  | unclosed due control => exact .unclosed due control
  | escape due unknown => exact .escape due unknown
  | unit => exact absurd rfl notUnit

theorem notConstant_tail {front rest : List Char} {c : Char} (some : front ≠ [])
    (h : ¬['|', '|'] <+: front ++ c :: rest) (tail : List Char) :
    ¬['|', '|'] <+: front ++ c :: tail := by
  obtain ⟨d, front, rfl⟩ := List.exists_cons_of_ne_nil some
  cases front with
  | nil => simpa [List.cons_prefix_cons] using h
  | cons => simpa [List.cons_prefix_cons] using h

theorem noUnit_append {left : List Char} {d : Char} (short : left.length ≤ 4) (member : d ∈ left)
    (other : Hex.isDigit d = false) (more : List Char) : NoUnit (left ++ more) := by
  intro digits after u same hex
  have front : left <+: digits := by
    apply List.prefix_of_prefix_length_le (List.prefix_append left more)
    · rw [same]
      exact List.prefix_append digits after
    · rw [hex.four]
      exact short
  have digit := Hex.exists_natural?_iff.1 ⟨u, hex.value⟩ d (front.subset member)
  rw [other] at digit
  cases digit

theorem CutUnit.of_accepted {quote : Char} {front left more : List Char} {e : Expression}
    (due : ItemDue quote front) (short : Utf8.size left < 4)
    (notConstant : ¬['|', '|'] <+: front ++ '\\' :: 'u' :: left)
    (accepted : expression (front ++ '\\' :: 'u' :: (left ++ more)) = .ok e) :
    CutUnit quote front left := by
  have length := Utf8.length_le_size left
  refine ⟨due, by omega, fun d member => ?_⟩
  cases other : Hex.isDigit d with
  | true => rfl
  | false =>
    have fault := Fault.unit due (noUnit_append (by omega) member other more)
    have failure := expression_of_fault fault (by
      simpa using notConstant_tail due.ne_nil notConstant ('u' :: (left ++ more)))
    rw [List.append_assoc, List.cons_append, List.singleton_append, accepted] at failure
    cases failure

end PageExtract.Grammar

namespace PageExtract.Expression
open Grammar PageExtract.Parser

theorem parse_eq_error_iff {text : String} {e : SyntaxError} :
    parse text = .error e ↔
      ∃ f, expression text.toList = .error f ∧ e = SyntaxError.ofFailure text f := by
  unfold parse
  cases expression text.toList with
  | error f =>
    constructor
    · intro h
      cases h
      exact ⟨f, rfl, rfl⟩
    · rintro ⟨_, same, rfl⟩
      cases same
      rfl
  | ok v =>
    constructor
    · intro h
      cases h
    · rintro ⟨_, same, _⟩
      cases same

/-- An error that names a character shows where the text leaves the grammar: what stands before can
be completed, and with the character it starts no text that is accepted. -/
theorem errors_located {text : String} {e : SyntaxError} (h : parse text = .error e) {c : Char}
    (found : e.found = some c) :
    ∃ front rest : List Char, text.toList = front ++ c :: rest ∧ Utf8.size front = e.position ∧
      (∃ (s : String) (v : Expression), parse (String.ofList front ++ s) = .ok v) ∧
      (e.expected ≠ .number → e.expected ≠ .fourHexDigits →
        ¬((c = '.' ∨ c = 'e' ∨ c = 'E') ∧ EndsInNumber front) →
        ∀ (accepted : String) (v : Expression), parse accepted = .ok v →
          ¬front ++ [c] <+: accepted.toList) := by
  obtain ⟨f, failure, rfl⟩ := parse_eq_error_iff.1 h
  obtain ⟨notConstant, expected, front, left, same, fault, rfl⟩ := expression_error_iff.1 failure
  have shown : (report expected left).rest = left := by
    rcases report_rest expected left with whole | ⟨nothing, -⟩
    · exact whole
    · rw [SyntaxError.ofFailure, nothing] at found
      cases found
  simp only [SyntaxError.ofFailure, shown] at found ⊢
  obtain ⟨rest, rfl⟩ := List.head?_eq_some_iff.1 found
  refine ⟨front, rest, same, ?_, ?_, ?_⟩
  · rw [same, Utf8.size_append]
    omega
  · obtain ⟨more, v, whole⟩ := fault.viable
    refine ⟨String.ofList more, v, parse_eq_ok_iff.2 ?_⟩
    simpa using whole
  · rintro notNumber notUnit apart accepted v read ⟨tail, starts⟩
    rw [List.append_assoc, List.singleton_append] at starts
    rw [same] at notConstant
    have again := expression_of_fault (fault.tail notNumber notUnit apart tail)
      (notConstant_tail fault.front_ne_nil notConstant tail)
    rw [starts, expression_text (parse_eq_ok_iff.1 read)] at again
    cases again

theorem list_opened : ArgumentDue ['h', '1', ' ', '|', ' ', 'f', '('] := by
  have stage : StageDue ['h', '1', ' ', '|'] := @StageDue.first ['h', '1', ' '] (by decide)
  have name : IdentifierText ['f'] := .letter (.inr (by decide))
  exact @ArgumentDue.first _ [' '] _ [] stage (by simp [Spaces]) name Spaces.nil

theorem second_word_refused :
    parse "h1 | f(a b)" = .error ⟨9, some 'b', .closeOrComma, "h1 | f(a b)"⟩ ∧
      ∃ front rest : List Char, "h1 | f(a b)".toList = front ++ 'b' :: rest ∧
        Utf8.size front = 9 ∧
        (∃ (s : String) (v : Expression), parse (String.ofList front ++ s) = .ok v) ∧
        (Expected.closeOrComma ≠ .number → Expected.closeOrComma ≠ .fourHexDigits →
          ¬(('b' = '.' ∨ 'b' = 'e' ∨ 'b' = 'E') ∧ EndsInNumber front) →
          ∀ (accepted : String) (v : Expression), parse accepted = .ok v →
            ¬front ++ ['b'] <+: accepted.toList) := by
  have fault : Fault .closeOrComma (['h', '1', ' ', '|', ' ', 'f', '('] ++ ([] ++ (['a'] ++ [' '])))
      ['b', ')'] :=
    .separator list_opened Spaces.nil letter_argument (by simp [Spaces]) rfl (by simp)
  have failure : expression "h1 | f(a b)".toList = .error ⟨['b', ')'], .closeOrComma⟩ :=
    expression_of_fault fault (by decide)
  have refused := parse_eq_error_iff.2 ⟨_, failure, rfl⟩
  exact ⟨refused, errors_located refused rfl⟩

/-- An error at the end of a text stands for an unfinished expression, unless it asks for the digits
of a unit; then it does exactly if the text stops among them. -/
theorem unexpected_end_iff {text : String} {e : SyntaxError} (h : parse text = .error e)
    (ended : e.atEnd = true) :
    (∃ (s : String) (v : Expression), parse (text ++ s) = .ok v) ↔
      (e.expected = .fourHexDigits → ∃ quote front digits,
        text.toList = front ++ '\\' :: 'u' :: digits ∧ CutUnit quote front digits) := by
  obtain ⟨f, failure, rfl⟩ := parse_eq_error_iff.1 h
  obtain ⟨notConstant, expected, front, left, same, fault, rfl⟩ := expression_error_iff.1 failure
  have nothing : (report expected left).rest = [] := by
    simpa [SyntaxError.atEnd, SyntaxError.ofFailure] using ended
  constructor
  · rintro ⟨s, v, read⟩ (unit : expected = .fourHexDigits)
    have accepted := expression_text (parse_eq_ok_iff.1 read)
    rw [same] at notConstant
    rw [String.toList_append, same] at accepted
    have short : Utf8.size left < 4 := by
      rcases report_rest expected left with whole | ⟨-, -, short⟩
      · rw [← whole, nothing]
        decide
      · exact short
    cases fault with
    | @unit quote front _ due _ =>
      rw [List.append_assoc] at same notConstant accepted
      exact ⟨quote, front, left, same, .of_accepted due short notConstant (by simpa using accepted)⟩
    | _ => cases unit
  · intro cut
    by_cases unit : expected = .fourHexDigits
    · obtain ⟨quote, front, digits, same, cut⟩ := cut unit
      obtain ⟨more, v, whole⟩ := cut.complete
      refine ⟨String.ofList more, v, parse_eq_ok_iff.2 ?_⟩
      simpa [same] using whole
    · rw [report_of_ne unit] at nothing
      obtain ⟨more, v, whole⟩ := fault.viable
      refine ⟨String.ofList more, v, parse_eq_ok_iff.2 ?_⟩
      simpa [same, show left = [] from nothing] using whole

theorem string_opened : ItemDue '"' ['h', '1', ' ', '|', ' ', 'f', '(', '"'] :=
  @ItemDue.intro _ [] _ [] [] list_opened Spaces.nil (.inl rfl) .nil

theorem two_digits_unfinished :
    parse "h1 | f(\"\\u12" = .error ⟨12, none, .fourHexDigits, "h1 | f(\"\\u12"⟩ ∧
      ∃ (s : String) (v : Expression), parse ("h1 | f(\"\\u12" ++ s) = .ok v := by
  have none : NoUnit ['1', '2'] := by
    intro digits after u same hex
    have length := congrArg List.length same
    rw [List.length_append, hex.four] at length
    simp at length
    omega
  have failure : expression "h1 | f(\"\\u12".toList = .error ⟨[], .fourHexDigits⟩ :=
    expression_of_fault (.unit string_opened none) (by decide)
  have refused := parse_eq_error_iff.2 ⟨_, failure, rfl⟩
  refine ⟨refused, (unexpected_end_iff refused rfl).2 fun _ => ?_⟩
  exact ⟨'"', _, ['1', '2'], rfl, string_opened, by decide, List.all_eq_true.1 rfl⟩

/-- With the closing quote behind `\u` an error at the end is shown, although no more text helps. -/
theorem closing_quote_swallowed :
    parse "h1 | f(\"\\u\")" = .error ⟨12, none, .fourHexDigits, "h1 | f(\"\\u\")"⟩ ∧
      ∀ (s : String) (v : Expression), parse ("h1 | f(\"\\u\")" ++ s) ≠ .ok v := by
  have none (more : List Char) : NoUnit (['"', ')'] ++ more) :=
    noUnit_append (by decide) List.mem_cons_self (by decide) more
  constructor
  · have failure : expression "h1 | f(\"\\u\")".toList = .error ⟨[], .fourHexDigits⟩ :=
      expression_of_fault (.unit string_opened (none [])) (by decide)
    exact parse_eq_error_iff.2 ⟨_, failure, rfl⟩
  · intro s v read
    have accepted := expression_text (parse_eq_ok_iff.1 read)
    have failure := expression_of_fault (.unit string_opened (none s.toList)) (by
      simp [List.cons_prefix_cons])
    rw [String.toList_append] at accepted
    have same := accepted.symm.trans failure
    cases same

end PageExtract.Expression
