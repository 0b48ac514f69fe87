import PageExtract.Proofs.CodeUnits
import PageExtract.Proofs.Faults

/-! A text with a fault is refused with the report of it. The failure of a reader goes through all
that is read before. -/
namespace PageExtract.Parser
open Grammar

section Reports
variable {front rest : List Char} {f : Failure}

theorem hexUnit_noUnit {left : List Char} (h : NoUnit left) :
    hexUnit left = .error (report .fourHexDigits left) := by
  cases read : hexUnit left with
  | error e => rw [(hexUnit_error read).2]
  | ok found =>
    obtain ⟨u, after⟩ := found
    obtain ⟨digits, same, hex⟩ := hexUnit_sound read
    exact absurd hex (h digits after u same)

theorem quoted_escape_error {quote : Char} (mark : quote ≠ '\\') (h : escape rest = .error f) :
    quoted quote ('\\' :: rest) = .error f := by
  rw [quoted, if_neg mark.symm, if_pos rfl]
  split
  next failed =>
    rw [h] at failed
    cases failed
    rfl
  next read =>
    rw [h] at read
    cases read

/-- What a unit does to the text behind it: nothing, or it takes a low surrogate along, or the next
escape fails for both. -/
theorem unicodeEscape_cases {digits : List Char} {u : Nat} (hex : HexText digits u)
    (rest : List Char) :
    unicodeEscape (digits ++ rest) = .ok (Utf16.charOf u, rest) ∨
      ∃ more, rest = '\\' :: 'u' :: more ∧
        ((∃ c low after, hexUnit more = .ok (low, after) ∧ Utf16.isLowSurrogate low = true ∧
            unicodeEscape (digits ++ rest) = .ok (c, after)) ∨
          ∃ e, hexUnit more = .error e ∧ unicodeEscape (digits ++ rest) = .error e) := by
  simp only [unicodeEscape, hexUnit_text hex]
  split
  next more =>
    split
    · cases second : hexUnit more with
      | error e => exact .inr ⟨more, rfl, .inr ⟨e, second, rfl⟩⟩
      | ok found =>
        obtain ⟨low, after⟩ := found
        cases isLow : Utf16.isLowSurrogate low with
        | false => exact .inl (by simp [isLow])
        | true =>
          exact .inr ⟨more, rfl, .inl ⟨Utf16.charOf (Utf16.combine u low), low, after, second, isLow,
            by simp [isLow]⟩⟩
    · exact .inl rfl
  · exact .inl rfl

theorem quoted_unit_error {quote : Char} {digits : List Char} {u : Nat} (mark : quote ≠ '\\')
    (hex : HexText digits u) (h : quoted quote rest = .error f) :
    quoted quote ('\\' :: 'u' :: (digits ++ rest)) = .error f := by
  rcases unicodeEscape_cases hex rest with alone | ⟨more, rfl, ⟨c, low, after, second, isLow, pair⟩ |
    ⟨e, second, failure⟩⟩
  · rw [quoted_escape mark (s := 'u' :: (digits ++ rest)) alone, h]
    rfl
  -- The failure comes behind the low surrogate, which is read either with the high one or alone.
  · have lone : unicodeEscape more = .ok (Utf16.charOf low, after) := by
      simp only [unicodeEscape, second, Utf16.isHighSurrogate_eq_false isLow]
      split <;> simp
    rw [quoted_escape mark (s := 'u' :: more) lone] at h
    rw [quoted_escape mark (s := 'u' :: (digits ++ '\\' :: 'u' :: more)) pair, map_error h]
    rfl
  · have same : escape ('u' :: more) = .error e := by rw [escape_unicode, unicodeEscape, second]
    have both : escape ('u' :: (digits ++ '\\' :: 'u' :: more)) = .error e := failure
    rw [quoted_escape_error mark same] at h
    cases h
    exact quoted_escape_error mark both

theorem quoted_items_error {quote : Char} {pieces : List Piece} {body : List Char}
    (text : PiecesText quote pieces body) (mark : quote ≠ '\\')
    (h : quoted quote rest = .error f) : quoted quote (body ++ rest) = .error f := by
  induction text with
  | nil => exact h
  | @cons p ps s tail head _ ih =>
    rw [List.append_assoc]
    cases head with
    | raw notQuote notBackslash printable =>
      rw [List.singleton_append, quoted_raw notQuote notBackslash printable, ih]
      rfl
    | escape simple =>
      have opened := quoted_escape mark (escape_simple simple (tail ++ rest))
      rw [ih] at opened
      exact opened
    | unit four value => exact quoted_unit_error mark ⟨four, value⟩ ih

theorem expression_of_chain_error (due : StageDue front) (notConstant : ¬['|', '|'] <+: front ++ rest)
    (h : chain ('|' :: rest) = .error f) : expression (front ++ rest) = .error f := by
  obtain ⟨build, -, read⟩ := expression_of_chain due
  rw [read rest notConstant, h]
  rfl

theorem chain_call_error {s : List Char} (h : call s = .error f) : chain ('|' :: s) = .error f := by
  rw [chain_call, h]
  rfl

theorem arguments_error {s : List Char} (h : spacedArgument s = .error f) :
    arguments s = .error f := by
  unfold arguments
  split <;> simp_all

theorem expression_of_arguments_error (due : ArgumentDue front) (h : arguments rest = .error f) :
    expression (front ++ rest) = .error f := by
  obtain ⟨build, -, read⟩ := expression_of_arguments due
  rw [read, h]
  rfl

theorem expression_of_quoted_error {quote : Char} (due : ItemDue quote front)
    (h : quoted quote rest = .error f) : expression (front ++ rest) = .error f := by
  cases due with
  | @intro pieces front before body due spacesBefore mark text =>
    rw [List.append_assoc, List.append_assoc]
    refine expression_of_arguments_error due (arguments_error ?_)
    have inner := quoted_items_error text mark.ne_backslash h
    have opened : argument (quote :: (body ++ rest)) = .error f := by
      rcases mark with rfl | rfl <;> simp [argument, inner, Except.map]
    have noSpace : Stops (· == ' ') (quote :: (body ++ rest)) :=
      Stops.cons (by rcases mark with rfl | rfl <;> rfl)
    rw [spacedArgument, List.cons_append, skipSpaces_text spacesBefore noSpace, opened]
    rfl

end Reports

theorem identifier_none {s : List Char} (other : Stops isIdentifierStart s) :
    identifier s = .error ⟨s, .identifier⟩ := by
  have none : spanIdentifier s = ([], s) := by
    unfold spanIdentifier
    split
    next c rest =>
      rw [if_neg]
      simp [other c rfl]
    · rfl
  rw [identifier, none]

theorem argument_none {s : List Char} (other : Stops startsArgument s) :
    argument s = .error ⟨s, .argument⟩ := by
  cases s with
  | nil => rfl
  | cons c rest =>
    have apart := other c rfl
    simp only [startsArgument, Bool.or_eq_false_iff] at apart
    obtain ⟨⟨⟨⟨digit, minus⟩, double⟩, single⟩, letter⟩ := apart
    have noWord := identifier_none (s := c :: rest) (Stops.cons letter)
    simp only [argument, digit, minus, double, single, noWord, Bool.or_self, Bool.false_eq_true,
      ↓reduceIte]

theorem argument_minus {rest : List Char} (noDigit : Stops Char.isDigit rest) :
    argument ('-' :: rest) = .error ⟨'-' :: rest, .number⟩ := by
  have none : Numeral.scan? ('-' :: rest) = none := by
    rw [Numeral.scan?_minus, Numeral.scanUnsigned?, Numeral.spanDigits, noDigit.takeWhile]
  simp [argument, number, none]

theorem arguments_other {s left : List Char} {literal : Literal}
    (h : spacedArgument s = .ok (literal, left)) (other : ∀ c ∈ left.head?, c ≠ ',' ∧ c ≠ ')') :
    arguments s = .error ⟨left, .closeOrComma⟩ := by
  rw [arguments]
  split
  next failed =>
    rw [h] at failed
    cases failed
  next found =>
    rw [h] at found
    cases found
    exact absurd rfl (other ')' rfl).2
  next found =>
    rw [h] at found
    cases found
    exact absurd rfl (other ',' rfl).1
  next found =>
    rw [h] at found
    cases found
    rfl

theorem quoted_control {quote : Char} {s : List Char} (mark : IsQuote quote)
    (control : ∀ c ∈ s.head?, c.toNat ≤ 0x1F) : quoted quote s = .error ⟨s, .closingQuote⟩ := by
  cases s with
  | nil => rw [quoted]
  | cons c rest =>
    have low := control c rfl
    have notQuote : c ≠ quote := by
      rintro rfl
      rcases mark with rfl | rfl <;> exact absurd low (by decide)
    have notBackslash : c ≠ '\\' := by
      rintro rfl
      exact absurd low (by decide)
    rw [quoted, if_neg notQuote, if_neg notBackslash, if_pos low]

theorem escape_unknown {s : List Char}
    (unknown : ∀ c ∈ s.head?, c ≠ 'u' ∧ ∀ d, (c, d) ∉ escapes) :
    escape s = .error ⟨s, .escapeSequence⟩ := by
  cases s with
  | nil => rfl
  | cons c rest =>
    obtain ⟨notUnit, simple⟩ := unknown c rfl
    have none : simpleEscape? c = none := by
      rw [Option.eq_none_iff_forall_not_mem]
      exact fun d opened => simple d (simpleEscape?_eq_some_iff.1 opened)
    unfold escape
    split
    next same => exact absurd (List.cons.inj same).1 notUnit
    next same =>
      cases same
      rw [none]
    next same => cases same

theorem expression_of_fault {expected : Expected} {front left : List Char}
    (h : Fault expected front left) (notConstant : ¬['|', '|'] <+: front ++ left) :
    expression (front ++ left) = .error (report expected left) := by
  cases h with
  | identifier due spaces noSpace other =>
    rw [List.append_assoc] at notConstant ⊢
    refine expression_of_chain_error due notConstant (chain_call_error ?_)
    rw [call, skipSpaces_text spaces noSpace, identifier_none other]
    rfl
  | @afterName front before name after rest c due spacesBefore identifier spacesAfter apart other =>
    simp only [List.mem_cons, List.not_mem_nil, or_false, not_or] at other
    obtain ⟨noSpace, noPipe, noList⟩ := other
    have read := call_bare spacesBefore identifier spacesAfter apart
      (Stops.cons (beq_eq_false_iff_ne.2 noSpace)) (by simpa using noList)
    have whole : front ++ (before ++ (name ++ after)) ++ c :: rest =
        front ++ (before ++ (name ++ (after ++ c :: rest))) := by simp
    rw [whole] at notConstant ⊢
    refine expression_of_chain_error due notConstant ?_
    rw [chain_stage read, chain_other noPipe]
    rfl
  | @afterList literals front before name between list after rest c due spacesBefore identifier
      spacesBetween arguments spacesAfter other =>
    simp only [List.mem_cons, List.not_mem_nil, or_false, not_or] at other
    obtain ⟨noSpace, noPipe⟩ := other
    have stop : Stops (· == ' ') (c :: rest) := Stops.cons (beq_eq_false_iff_ne.2 noSpace)
    have read := call_applied spacesBefore identifier spacesBetween arguments spacesAfter stop
    have whole : front ++ (before ++ (name ++ (between ++ '(' :: (list ++ ')' :: after)))) ++
        c :: rest =
          front ++ (before ++ (name ++ (between ++ '(' :: (list ++ ')' :: (after ++ c :: rest))))) := by
      simp
    rw [whole] at notConstant ⊢
    refine expression_of_chain_error due notConstant ?_
    rw [chain_stage read, chain_other noPipe]
    rfl
  | argument due spaces noSpace other =>
    rw [List.append_assoc]
    refine expression_of_arguments_error due (arguments_error ?_)
    rw [spacedArgument, skipSpaces_text spaces noSpace, argument_none other]
    rfl
  | number due spaces noDigit =>
    rw [List.append_assoc]
    refine expression_of_arguments_error due (arguments_error ?_)
    rw [spacedArgument, skipSpaces_text spaces (Stops.cons rfl), argument_minus noDigit]
    rfl
  | @separator literal front before s after _ due spacesBefore text spacesAfter read other =>
    have noSpace : Stops (· == ' ') left := by
      intro c first
      have apart := other c first
      simp only [List.mem_cons, List.not_mem_nil, or_false, not_or] at apart
      exact beq_eq_false_iff_ne.2 apart.1
    have spaced : spacedArgument (before ++ (s ++ (after ++ left))) = .ok (literal, left) := by
      rw [spacedArgument, skipSpaces_text spacesBefore (argument_start text _), read]
      exact congrArg (fun rest => Except.ok (literal, rest)) (skipSpaces_text spacesAfter noSpace)
    have whole : front ++ (before ++ (s ++ after)) ++ left =
        front ++ (before ++ (s ++ (after ++ left))) := by simp
    rw [whole]
    refine expression_of_arguments_error due (arguments_other spaced ?_)
    intro c first
    have apart := other c first
    simp only [List.mem_cons, List.not_mem_nil, or_false, not_or] at apart
    exact apart.2
  | unclosed due control =>
    exact expression_of_quoted_error due (quoted_control due.mark control)
  | escape due unknown =>
    rw [List.append_assoc]
    refine expression_of_quoted_error due ?_
    exact quoted_escape_error due.mark.ne_backslash (escape_unknown unknown)
  | @unit _ _ left due none =>
    rw [List.append_assoc]
    have failure : escape ('u' :: left) = .error (report .fourHexDigits left) := by
      rw [escape_unicode, unicodeEscape, hexUnit_noUnit none]
    exact expression_of_quoted_error due (quoted_escape_error due.mark.ne_backslash failure)

/-- A text is refused exactly with the report of a fault in it. -/
theorem expression_error_iff {s : List Char} {f : Failure} :
    expression s = .error f ↔ ¬['|', '|'] <+: s ∧ ∃ expected front left,
      s = front ++ left ∧ Fault expected front left ∧ f = report expected left := by
  refine ⟨expression_fails, ?_⟩
  rintro ⟨notConstant, expected, front, left, rfl, fault, rfl⟩
  exact expression_of_fault fault notConstant

end PageExtract.Parser
