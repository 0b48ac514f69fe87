import PageExtract.Proofs.CursorPlaces

/-! Each reader of the cursor gives what the reader of the rest gives. From this the cursor of a
whole run is known: at every step it is where a character begins or at the end, and an error shows
what is there. -/
namespace PageExtract

namespace Hex

theorem utf8Size_of_isDigit {c : Char} (h : isDigit c = true) : c.utf8Size = 1 := by
  rw [Char.utf8Size_eq_one_iff]
  have bounds : c ≤ '9' ∨ c ≤ 'f' ∨ c ≤ 'F' := by
    unfold isDigit value? at h
    grind
  rcases bounds with le | le | le <;> exact UInt32.le_trans le (by decide)

theorem size_digits {digits : List Char} {u : Nat} (h : natural? digits = some u) :
    Utf8.size digits = digits.length := by
  have hex := exists_natural?_iff.1 ⟨u, h⟩
  clear h
  induction digits with
  | nil => rfl
  | cons d digits ih =>
    obtain ⟨first, others⟩ := List.forall_mem_cons.1 hex
    rw [Utf8.size, utf8Size_of_isDigit first, ih others, List.length_cons, Nat.add_comm]

end Hex

namespace Parser
open Grammar

theorem utf8Size_of_isIdentifierPart {c : Char} (h : isIdentifierPart c = true) :
    c.utf8Size = 1 := by
  rw [Char.utf8Size_eq_one_iff]
  rcases isIdentifierPart_iff.1 h with ((⟨-, le⟩ | ⟨-, le⟩) | rfl | rfl | rfl) | ⟨-, le⟩
  all_goals first | decide | exact UInt32.le_trans le (by decide)

theorem spanIdentifier_append (s : List Char) :
    (spanIdentifier s).1 ++ (spanIdentifier s).2 = s := by
  unfold spanIdentifier
  split
  · split
    · exact List.takeWhile_append_dropWhile
    · rfl
  · rfl

theorem identifier_of_start {c : Char} (start : isIdentifierStart c = true) (s : List Char) :
    identifier (c :: s) =
      .ok (String.ofList (spanIdentifier (c :: s)).1, (spanIdentifier (c :: s)).2) := by
  have part : isIdentifierPart c = true := by rw [isIdentifierPart, start, Bool.true_or]
  rw [identifier, spanIdentifier, if_pos start, List.takeWhile_cons_of_pos part]

theorem identifier_of_other {c : Char} (other : isIdentifierStart c = false) (s : List Char) :
    identifier (c :: s) = .error ⟨c :: s, .identifier⟩ := by
  rw [identifier, spanIdentifier, if_neg (by simp [other])]

theorem unicodeEscape_one {s rest : List Char} {u : Nat} (first : hexUnit s = .ok (u, rest))
    (one : ¬(Utf16.isHighSurrogate u = true ∧ ∃ more, rest = '\\' :: 'u' :: more)) :
    unicodeEscape s = .ok (Utf16.charOf u, rest) := by
  obtain ⟨digits, rfl, hex⟩ := hexUnit_sound first
  exact unicodeEscape_alone hex fun high more same => absurd ⟨high, more, same⟩ one

theorem unicodeEscape_two {s more : List Char} {high : Nat}
    (first : hexUnit s = .ok (high, '\\' :: 'u' :: more))
    (half : Utf16.isHighSurrogate high = true) :
    unicodeEscape s =
      match hexUnit more with
      | .error f => .error f
      | .ok (low, left) =>
        if Utf16.isLowSurrogate low then .ok (Utf16.charOf (Utf16.combine high low), left)
        else .ok (Utf16.charOf high, '\\' :: 'u' :: more) := by
  rw [unicodeEscape, first]
  exact if_pos half

theorem escape_simple_or_none {c : Char} (other : c ≠ 'u') (s : List Char) :
    escape (c :: s) =
      match simpleEscape? c with
      | some value => .ok (value, s)
      | none => .error ⟨c :: s, .escapeSequence⟩ := by
  unfold escape
  split
  next same => exact absurd (List.cons.inj same).1 other
  next same =>
    cases same
    rfl
  next same => cases same

end Parser

namespace Walk
open Grammar PageExtract.Parser

variable (text : String)

theorem gives_spaceTurn (s : List Char) :
    Gives text (spaceTurn text) (' ' :: s) (.ok (.more (), s)) := by
  refine gives_peek.bind ?_
  rw [List.head?_cons, if_pos rfl]
  exact (gives_step (by decide)).bind gives_pure

theorem gives_spaceTurn_done {s : List Char} (other : s.head? ≠ some ' ') :
    Gives text (spaceTurn text) s (.ok (.done, s)) := by
  refine gives_peek.bind ?_
  rw [if_neg other]
  exact gives_pure

theorem gives_skipSpaces (s : List Char) :
    Gives text (skipSpaces text) s (.ok ((), Parser.skipSpaces s)) := by
  suffices loop : ∃ items,
      Gives text (repeated text (spaceTurn text)) s (.ok (items, Parser.skipSpaces s)) by
    obtain ⟨items, spaces⟩ := loop
    exact spaces.bind gives_pure
  induction s with
  | nil => exact ⟨[], gives_done (gives_spaceTurn_done text (by simp))⟩
  | cons c s ih =>
    by_cases space : c = ' '
    · subst space
      obtain ⟨items, spaces⟩ := ih
      exact ⟨() :: items, gives_more (gives_spaceTurn text s) (Nat.lt_succ_self _) spaces⟩
    · refine ⟨[], ?_⟩
      rw [Parser.skipSpaces, List.dropWhile_cons_of_neg (by simpa using space)]
      exact gives_done (gives_spaceTurn_done text (by simpa using space))

section Identifiers
variable {text} {first : Nat} {c : Char} {s : List Char}

theorem gives_identifierTurn
    (allowed : (if place text (c :: s) = first then isIdentifierStart c
      else isIdentifierPart c) = true) :
    Gives text (identifierTurn text first) (c :: s) (.ok (.more (), s)) := by
  have part : isIdentifierPart c = true := by
    split at allowed
    · rw [isIdentifierPart, allowed, Bool.true_or]
    · exact allowed
  refine gives_peek.bind (gives_here.bind ?_)
  rw [if_pos allowed]
  exact (gives_step (utf8Size_of_isIdentifierPart part)).bind gives_pure

theorem gives_identifierTurn_done
    (other : (if place text (c :: s) = first then isIdentifierStart c
      else isIdentifierPart c) = false) :
    Gives text (identifierTurn text first) (c :: s) (.ok (.done, c :: s)) := by
  refine gives_peek.bind (gives_here.bind ?_)
  rw [if_neg (by simpa using other)]
  exact gives_pure

theorem gives_identifierTurn_nil : Gives text (identifierTurn text first) [] (.ok (.done, [])) :=
  gives_peek.bind gives_pure

theorem gives_identifierRest (within : s <:+ text.toList) (behind : first < place text s) :
    ∃ items, Gives text (repeated text (identifierTurn text first)) s
      (.ok (items, s.dropWhile isIdentifierPart)) := by
  induction s with
  | nil => exact ⟨[], gives_done gives_identifierTurn_nil⟩
  | cons c s ih =>
    have apart : place text (c :: s) ≠ first := Nat.ne_of_gt behind
    cases part : isIdentifierPart c with
    | true =>
      obtain ⟨items, others⟩ := ih ((List.suffix_cons c s).trans within)
        (Nat.lt_trans behind (place_cons_lt within))
      have turn : Gives text (identifierTurn text first) (c :: s) (.ok (.more (), s)) :=
        gives_identifierTurn (by rw [if_neg apart, part])
      rw [List.dropWhile_cons_of_pos part]
      exact ⟨() :: items, gives_more turn (Nat.lt_succ_self _) others⟩
    | false =>
      rw [List.dropWhile_cons_of_neg (by simp [part])]
      exact ⟨[], gives_done (gives_identifierTurn_done (by rw [if_neg apart, part]))⟩

theorem gives_identifierTurns (within : s <:+ text.toList) :
    ∃ items, Gives text (repeated text (identifierTurn text (place text s))) s
      (.ok (items, (spanIdentifier s).2)) := by
  cases s with
  | nil => exact ⟨[], gives_done gives_identifierTurn_nil⟩
  | cons c s =>
    rw [spanIdentifier]
    cases start : isIdentifierStart c with
    | true =>
      have part : isIdentifierPart c = true := by rw [isIdentifierPart, start, Bool.true_or]
      obtain ⟨items, others⟩ := gives_identifierRest ((List.suffix_cons c s).trans within)
        (place_cons_lt within)
      have turn : Gives text (identifierTurn text (place text (c :: s))) (c :: s)
          (.ok (.more (), s)) := gives_identifierTurn (by rw [if_pos rfl, start])
      rw [if_pos rfl, List.dropWhile_cons_of_pos part]
      exact ⟨() :: items, gives_more turn (Nat.lt_succ_self _) others⟩
    | false =>
      exact ⟨[], gives_done (gives_identifierTurn_done (by rw [if_pos rfl, start]))⟩

end Identifiers

theorem gives_scanIdentifier (s : List Char) :
    Gives text (scanIdentifier text) s (.ok (spanIdentifier s)) := by
  intro within
  obtain ⟨items, turns⟩ := gives_identifierTurns within
  obtain ⟨before, same⟩ := id within
  have parts : text.toList = (before ++ (spanIdentifier s).1) ++ (spanIdentifier s).2 := by
    rw [List.append_assoc, spanIdentifier_append, same]
  refine gives_here.bind (turns.bind (gives_here.bind ?_)) within
  exact gives_slice parts rfl (place_append same.symm).symm

theorem gives_identifier (s : List Char) :
    Gives text (identifier text) s (Parser.identifier s) := by
  have scanned := gives_scanIdentifier text s
  have whole := spanIdentifier_append s
  unfold Parser.identifier
  rcases span : spanIdentifier s with ⟨name, left⟩
  rw [span] at scanned whole
  cases name with
  | nil =>
    obtain rfl : left = s := whole
    exact scanned.bind gives_refuse
  | cons c name => exact scanned.bind gives_pure

theorem gives_number (s : List Char) : Gives text (number text) s (Parser.number s) := by
  refine gives_remaining.bind ?_
  unfold Parser.number
  cases scanned : Numeral.scan? s with
  | none => exact gives_refuse
  | some found =>
    obtain ⟨numeral, left⟩ := found
    obtain ⟨digits, rfl, -⟩ := Numeral.scan?_sound scanned
    have bytes : Utf8.size (digits ++ left) - Utf8.size left = Utf8.size digits := by
      rw [Utf8.size_append, Nat.add_sub_cancel]
    dsimp only
    rw [bytes]
    exact gives_advance.bind gives_pure

/-- The next four bytes are four digits only if no longer character stands among them. -/
theorem splitAt?_four_iff {s : List Char} {u : Nat} :
    ((Utf8.splitAt? s 4).bind fun (digits, _) => Hex.natural? digits) = some u ↔
      ∃ digits left, s = digits ++ left ∧ HexText digits u := by
  rw [Option.bind_eq_some_iff]
  constructor
  · rintro ⟨⟨digits, left⟩, split, value⟩
    obtain ⟨rfl, bytes⟩ := Utf8.splitAt?_eq_some split
    exact ⟨digits, left, rfl, by rw [← Hex.size_digits value, bytes], value⟩
  · rintro ⟨digits, left, rfl, hex⟩
    refine ⟨(digits, left), Utf8.splitAt?_eq_some_iff.2 ⟨rfl, ?_⟩, hex.value⟩
    rw [Hex.size_digits hex.value, hex.four]

theorem gives_hexUnit (s : List Char) : Gives text (hexUnit text) s (Parser.hexUnit s) := by
  refine gives_remaining.bind ?_
  by_cases short : Utf8.size s < 4
  · rw [if_pos short, Parser.hexUnit, if_pos short, ← place_nil]
    exact (gives_moveTo List.nil_suffix).bind gives_refuse
  rw [if_neg short]
  cases found : Parser.hexUnit s with
  | ok read =>
    obtain ⟨unit, left⟩ := read
    obtain ⟨digits, rfl, hex⟩ := hexUnit_sound found
    have moved : Gives text (advance (Utf8.size digits)) (digits ++ left) (.ok ((), left)) :=
      gives_advance
    rw [Hex.size_digits hex.value, hex.four] at moved
    rw [splitAt?_four_iff.2 ⟨digits, left, rfl, hex⟩]
    exact moved.bind gives_pure
  | error f =>
    obtain ⟨none, rfl⟩ := hexUnit_error found
    have other :
        ((Utf8.splitAt? s 4).bind fun (digits, _) => Hex.natural? digits) = Option.none := by
      refine Option.eq_none_iff_forall_ne_some.2 fun u value => ?_
      obtain ⟨digits, left, same, hex⟩ := splitAt?_four_iff.1 value
      exact none digits left u same hex
    have whole : report .fourHexDigits s = ⟨s, .fourHexDigits⟩ := by simp [report, short]
    rw [other, whole]
    exact gives_refuse

theorem gives_secondHalf (high : Nat) (more : List Char) :
    Gives text (secondHalf text high) ('\\' :: 'u' :: more)
      (match Parser.hexUnit more with
        | .error f => .error f
        | .ok (low, left) =>
          if Utf16.isLowSurrogate low then .ok (Utf16.charOf (Utf16.combine high low), left)
          else .ok (Utf16.charOf high, '\\' :: 'u' :: more)) := by
  intro within
  have skipped : Gives text (advance (Utf8.size ['\\', 'u'])) (['\\', 'u'] ++ more)
      (.ok ((), more)) := gives_advance
  have second := gives_hexUnit text more
  refine gives_here.bind (skipped.bind ?_) within
  cases found : Parser.hexUnit more with
  | error f => exact (second.of_eq found).bind_error
  | ok read =>
    obtain ⟨low, left⟩ := read
    refine (second.of_eq found).bind ?_
    dsimp only
    split
    · exact gives_pure
    · exact (gives_moveTo within).bind gives_pure

theorem gives_unicodeEscape (s : List Char) :
    Gives text (unicodeEscape text) s (Parser.unicodeEscape s) := by
  have first := gives_hexUnit text s
  cases found : Parser.hexUnit s with
  | error f =>
    rw [Parser.unicodeEscape, found]
    exact (first.of_eq found).bind_error
  | ok read =>
    obtain ⟨high, rest⟩ := read
    refine (first.of_eq found).bind ?_
    by_cases two : Utf16.isHighSurrogate high = true ∧ ∃ more, rest = '\\' :: 'u' :: more
    · obtain ⟨half, more, rfl⟩ := two
      rw [if_pos half, unicodeEscape_two found half]
      exact gives_remaining.bind (gives_secondHalf text high more)
    · rw [unicodeEscape_one found two]
      split
      next half =>
        refine gives_remaining.bind ?_
        split
        next more => exact absurd ⟨half, more, rfl⟩ two
        next => exact gives_pure
      next => exact gives_pure

theorem gives_escape (s : List Char) : Gives text (escape text) s (Parser.escape s) := by
  refine gives_peek.bind ?_
  cases s with
  | nil => exact gives_refuse
  | cons c s =>
    by_cases unicode : c = 'u'
    · subst unicode
      exact gives_next.bind (gives_unicodeEscape text s)
    · rw [escape_simple_or_none unicode]
      dsimp only [List.head?_cons]
      rw [if_neg unicode]
      cases simpleEscape? c with
      | none => exact gives_refuse
      | some value => exact gives_next.bind gives_pure

section Strings
variable {text} {quote c : Char} {s : List Char}

theorem gives_quotedTurn_closing :
    Gives text (quotedTurn text quote) (quote :: s) (.ok (.done, s)) := by
  refine gives_peek.bind ?_
  dsimp only [List.head?_cons]
  rw [if_pos rfl]
  exact gives_next.bind gives_pure

theorem gives_quotedTurn_escape (inside : '\\' ≠ quote) :
    Gives text (quotedTurn text quote) ('\\' :: s)
      ((Parser.escape s).map fun (value, left) => (.more value, left)) := by
  refine gives_peek.bind ?_
  dsimp only [List.head?_cons]
  rw [if_neg inside, if_pos rfl]
  exact gives_next.bind ((gives_escape text s).map Turn.more)

theorem gives_quotedTurn_control (inside : c ≠ quote) (plain : c ≠ '\\')
    (control : c.toNat ≤ 0x1F) :
    Gives text (quotedTurn text quote) (c :: s) (.error ⟨c :: s, .closingQuote⟩) := by
  refine gives_peek.bind ?_
  dsimp only [List.head?_cons]
  rw [if_neg inside, if_neg plain, if_pos control]
  exact gives_refuse

theorem gives_quotedTurn_plain (inside : c ≠ quote) (plain : c ≠ '\\') (printed : ¬c.toNat ≤ 0x1F) :
    Gives text (quotedTurn text quote) (c :: s) (.ok (.more c, s)) := by
  refine gives_peek.bind ?_
  dsimp only [List.head?_cons]
  rw [if_neg inside, if_neg plain, if_neg printed]
  exact gives_next.bind gives_pure

end Strings

theorem gives_quoted (quote : Char) (s : List Char) :
    Gives text (quoted text quote) s (Parser.quoted quote s) := by
  fun_induction Parser.quoted quote s with
  | case1 => exact gives_broken (gives_peek.bind gives_refuse)
  | case2 s => exact gives_done gives_quotedTurn_closing
  | case3 s f refused other =>
    have turn : Gives text (quotedTurn text quote) ('\\' :: s) _ := gives_quotedTurn_escape other
    rw [refused] at turn
    exact gives_broken turn
  | case4 s value left found shorter other others =>
    have turn : Gives text (quotedTurn text quote) ('\\' :: s) _ := gives_quotedTurn_escape other
    rw [found] at turn
    exact gives_more turn (Nat.lt_succ_of_lt shorter) others
  | case5 c s other plain control =>
    exact gives_broken (gives_quotedTurn_control other plain control)
  | case6 c s other plain printed others =>
    exact gives_more (gives_quotedTurn_plain other plain printed) (Nat.lt_succ_self _) others

theorem gives_argument (s : List Char) : Gives text (argument text) s (Parser.argument s) := by
  refine gives_peek.bind ?_
  cases s with
  | nil => exact gives_refuse
  | cons c s =>
    unfold Parser.argument
    dsimp only [List.head?_cons]
    by_cases numeral : (c.isDigit || c == '-') = true
    · rw [if_pos numeral, if_pos numeral]
      exact gives_number text (c :: s)
    rw [if_neg numeral, if_neg numeral]
    by_cases mark : (c == '"' || c == '\'') = true
    · rw [if_pos mark, if_pos mark]
      exact gives_next.bind ((gives_quoted text c s).map _)
    rw [if_neg mark, if_neg mark]
    cases start : isIdentifierStart c with
    | true =>
      rw [identifier_of_start start, if_pos rfl]
      exact (gives_scanIdentifier text (c :: s)).bind gives_pure
    | false =>
      rw [identifier_of_other start, if_neg (by simp)]
      exact gives_refuse

theorem gives_spacedArgument (s : List Char) :
    Gives text (spacedArgument text) s (Parser.spacedArgument s) := by
  have read := gives_argument text (Parser.skipSpaces s)
  refine (gives_skipSpaces text s).bind ?_
  unfold Parser.spacedArgument
  cases found : Parser.argument (Parser.skipSpaces s) with
  | error f => exact (read.of_eq found).bind_error
  | ok argument =>
    obtain ⟨literal, left⟩ := argument
    exact (read.of_eq found).bind ((gives_skipSpaces text left).bind gives_pure)

section Turns
variable {text} {s rest : List Char} {literal : Literal}

theorem gives_argumentTurn_last (found : Parser.spacedArgument s = .ok (literal, ')' :: rest)) :
    Gives text (argumentTurn text) s (.ok (.last literal, rest)) := by
  have read := (gives_spacedArgument text s).of_eq found
  exact read.bind (gives_peek.bind (gives_next.bind gives_pure))

theorem gives_argumentTurn_more (found : Parser.spacedArgument s = .ok (literal, ',' :: rest)) :
    Gives text (argumentTurn text) s (.ok (.more literal, rest)) := by
  have read := (gives_spacedArgument text s).of_eq found
  exact read.bind (gives_peek.bind (gives_next.bind gives_pure))

theorem gives_argumentTurn_other (found : Parser.spacedArgument s = .ok (literal, rest))
    (noClose : rest.head? ≠ some ')') (noComma : rest.head? ≠ some ',') :
    Gives text (argumentTurn text) s (.error ⟨rest, .closeOrComma⟩) := by
  have read := (gives_spacedArgument text s).of_eq found
  refine read.bind (gives_peek.bind ?_)
  split
  next first => exact absurd first noClose
  next first => exact absurd first noComma
  next => exact gives_refuse

end Turns

theorem gives_arguments (s : List Char) :
    Gives text (arguments text) s (Parser.arguments s) := by
  fun_induction Parser.arguments s with
  | case1 s f refused =>
    have read := (gives_spacedArgument text s).of_eq refused
    exact gives_broken read.bind_error
  | case2 s literal rest found => exact gives_last (gives_argumentTurn_last found)
  | case3 s literal rest found shorter others =>
    exact gives_more (gives_argumentTurn_more found) shorter others
  | case4 s literal rest noClose noComma found =>
    refine gives_broken (gives_argumentTurn_other found ?_ ?_)
    · intro first
      obtain ⟨after, rfl⟩ := List.head?_eq_some_iff.1 first
      exact noClose after rfl
    · intro first
      obtain ⟨after, rfl⟩ := List.head?_eq_some_iff.1 first
      exact noComma after rfl

theorem gives_call (s : List Char) : Gives text (call text) s (Parser.call s) := by
  have name := gives_identifier text (Parser.skipSpaces s)
  refine (gives_skipSpaces text s).bind ?_
  unfold Parser.call
  cases found : Parser.identifier (Parser.skipSpaces s) with
  | error f => exact (name.of_eq found).bind_error
  | ok read =>
    obtain ⟨word, left⟩ := read
    refine (name.of_eq found).bind ((gives_skipSpaces text left).bind (gives_peek.bind ?_))
    dsimp only
    by_cases list : (Parser.skipSpaces left).head? = some '('
    · obtain ⟨rest, same⟩ := List.head?_eq_some_iff.1 list
      have args := gives_arguments text rest
      rw [if_pos list, same, argumentList]
      refine gives_next.bind ?_
      cases given : Parser.arguments rest with
      | error f => exact (args.of_eq given).bind_error
      | ok read =>
        obtain ⟨literals, after⟩ := read
        exact (args.of_eq given).bind ((gives_skipSpaces text after).bind gives_pure)
    · rw [if_neg list, argumentList_none list]
      exact gives_pure

theorem gives_callTurn (s : List Char) :
    Gives text (callTurn text) ('|' :: s)
      ((Parser.call s).map fun (c, left) => (.more c, left)) := by
  refine gives_peek.bind ?_
  rw [List.head?_cons, if_pos rfl]
  exact gives_next.bind ((gives_call text s).map Turn.more)

theorem gives_callTurn_done {s : List Char} (other : s.head? ≠ some '|') :
    Gives text (callTurn text) s (.ok (.done, s)) := by
  refine gives_peek.bind ?_
  rw [if_neg other]
  exact gives_pure

theorem gives_calls (s : List Char) :
    ∃ reading, Gives text (repeated text (callTurn text)) s reading ∧
      Parser.chain s =
        match reading with
        | .error f => .error f
        | .ok (calls, []) => .ok calls
        | .ok (_, c :: rest) => .error ⟨c :: rest, .pipeOrEnd⟩ := by
  fun_induction Parser.chain s with
  | case1 => exact ⟨_, gives_done (gives_callTurn_done text (by simp)), rfl⟩
  | case2 rest f refused =>
    have turn := gives_callTurn text rest
    rw [refused] at turn
    exact ⟨_, gives_broken turn, rfl⟩
  | case3 rest c left found shorter others =>
    have turn := gives_callTurn text rest
    rw [found] at turn
    obtain ⟨reading, calls, same⟩ := others
    refine ⟨_, gives_more turn (Nat.lt_succ_of_le shorter) calls, ?_⟩
    rw [same]
    rcases reading with f | ⟨calls, _ | ⟨d, behind⟩⟩ <;> rfl
  | case4 c rest other =>
    refine ⟨_, gives_done (gives_callTurn_done text ?_), rfl⟩
    intro first
    exact other (Option.some.inj first)

theorem gives_ended_nil {α : Type} (value : α) :
    Gives text (ended text value) [] (.ok (value, [])) := by
  refine gives_here.bind ?_
  rw [place_nil, if_neg (Nat.lt_irrefl _)]
  exact gives_pure

theorem gives_ended_cons {α : Type} (value : α) (c : Char) (rest : List Char) :
    Gives text (ended text value) (c :: rest) (.error ⟨c :: rest, .pipeOrEnd⟩) := by
  intro within
  refine gives_here.bind ?_ within
  rw [if_pos (place_lt_size within)]
  exact gives_refuse

theorem gives_query_of_calls {chain : List Char} {reading : Reading Expression}
    (behind : Gives text (repeated text (callTurn text) >>= fun calls =>
      ended text (.query (selectorOf text.toList) calls)) chain reading)
    (whole : text.toList = text.toList.takeWhile (· != '|') ++ chain) :
    Gives text (query text) text.toList reading := by
  have selector : Gives text (slice text 0 (place text chain)) text.toList
      (.ok (text.toList.takeWhile (· != '|'), text.toList)) :=
    gives_slice whole (List.nil_append _).symm rfl
  have moved : Gives text (moveTo (place text chain)) text.toList (.ok ((), chain)) :=
    gives_moveTo ⟨_, whole.symm⟩
  rw [place_append whole] at selector moved
  exact selector.bind (moved.bind behind)

theorem gives_query :
    ∃ reading, Gives text (query text) text.toList reading ∧
      (Parser.chain (text.toList.dropWhile (· != '|'))).map (.query (selectorOf text.toList)) =
        reading.map Prod.fst := by
  obtain ⟨reading, calls, same⟩ := gives_calls text (text.toList.dropWhile (· != '|'))
  have whole := (List.takeWhile_append_dropWhile (p := (· != '|')) (l := text.toList)).symm
  rw [same]
  rcases reading with f | ⟨stages, _ | ⟨c, rest⟩⟩
  · exact ⟨_, gives_query_of_calls text calls.bind_error whole, rfl⟩
  · exact ⟨_, gives_query_of_calls text (calls.bind (gives_ended_nil text _)) whole, rfl⟩
  · exact ⟨_, gives_query_of_calls text (calls.bind (gives_ended_cons text _ c rest)) whole, rfl⟩

theorem gives_expression :
    ∃ reading, Gives text (expression text) text.toList reading ∧
      Parser.expression text.toList = reading.map Prod.fst := by
  by_cases constant : ∃ rest, text.toList = '|' :: '|' :: rest
  · obtain ⟨rest, whole⟩ := constant
    rw [expression, whole]
    exact ⟨_, gives_pure, rfl⟩
  · have walk : expression text = query text := by
      unfold expression
      split
      next rest whole => exact absurd ⟨rest, whole⟩ constant
      next => rfl
    have parser : Parser.expression text.toList =
        (Parser.chain (text.toList.dropWhile (· != '|'))).map
          (.query (selectorOf text.toList)) := by
      unfold Parser.expression
      split
      next rest whole => exact absurd ⟨rest, whole⟩ constant
      next => rfl
    rw [walk, parser]
    exact gives_query text

theorem agrees_read :
    ∃ reading, Agrees text (read text) reading ∧
      Parser.expression text.toList = reading.map Prod.fst := by
  obtain ⟨reading, gives, same⟩ := gives_expression text
  have run := gives List.suffix_rfl [] (by simp)
  rw [place_whole] at run
  exact ⟨reading, run, same⟩

theorem ofFailure_shows {f : Failure} (within : f.rest <:+ text.toList) :
    IsPlace text (SyntaxError.ofFailure text f).position ∧
      (∃ front rest, text.toList = front ++ rest ∧
        Utf8.size front = (SyntaxError.ofFailure text f).position ∧
        (SyntaxError.ofFailure text f).found = rest.head?) ∧
      ((SyntaxError.ofFailure text f).found = none ↔
        (SyntaxError.ofFailure text f).position = text.utf8ByteSize) := by
  refine ⟨isPlace_place within, ?_, List.head?_eq_none_iff.trans (place_eq_size_iff within).symm⟩
  obtain ⟨front, same⟩ := within
  exact ⟨front, f.rest, same.symm, (place_append same.symm).symm, rfl⟩

/-- A text is read with a cursor as it is read from its rests. So no part is cut inside a character
or behind the end and no loop is stuck, which are no answers of a reader. At every step the cursor
is at a byte where a character begins, or at the end. An error has the whole text, the place where
the cursor stopped, and the character that begins there; it has none exactly if that place is the
end. -/
theorem cursor_stays_placed (text : String) :
    (read text).1 = (Expression.parse text).mapError Stop.refused ∧
      (∀ p ∈ (read text).2.places, p ≤ text.utf8ByteSize ∧ IsPlace text p) ∧
      ∀ e, Expression.parse text = .error e →
        e.input = text ∧ e.position = (read text).2.position ∧ IsPlace text e.position ∧
          (∃ front rest, text.toList = front ++ rest ∧ Utf8.size front = e.position ∧
            e.found = rest.head?) ∧
          (e.found = none ↔ e.position = text.utf8ByteSize) := by
  obtain ⟨reading, run, same⟩ := agrees_read text
  have parsed : Expression.parse text =
      (reading.map Prod.fst).mapError (SyntaxError.ofFailure text) := by
    rw [Expression.parse, same]
  have visited {k : Cursor} (placed : ∀ p ∈ k.places, IsPlace text p) :
      ∀ p ∈ k.places, p ≤ text.utf8ByteSize ∧ IsPlace text p :=
    fun p member => ⟨(placed p member).le, placed p member⟩
  rw [parsed]
  generalize read text = final at run
  cases run with
  | ok within placed =>
    refine ⟨rfl, visited (isPlace_places within placed), fun e failed => ?_⟩
    cases failed
  | error within placed =>
    refine ⟨rfl, visited (isPlace_places within placed), fun e failed => ?_⟩
    cases failed
    exact ⟨rfl, rfl, ofFailure_shows text within⟩

/-- The four bytes behind `\u` end inside the last character, which is two bytes long. -/
theorem wide_character_among_digits :
    Expression.parse "h1 | f(\"\\u123é\")" =
        .error ⟨10, some '1', .fourHexDigits, "h1 | f(\"\\u123é\")"⟩ ∧
      (read "h1 | f(\"\\u123é\")").1 =
        .error (.refused ⟨10, some '1', .fourHexDigits, "h1 | f(\"\\u123é\")"⟩) ∧
      (read "h1 | f(\"\\u123é\")").2.position = 10 ∧ IsPlace "h1 | f(\"\\u123é\")" 10 := by
  have none : NoUnit (['1', '2', '3', 'é'] ++ ['"', ')']) :=
    noUnit_append (by decide) (show 'é' ∈ _ by decide) (by decide) _
  have failure : Parser.expression "h1 | f(\"\\u123é\")".toList =
      .error ⟨['1', '2', '3', 'é', '"', ')'], .fourHexDigits⟩ :=
    expression_of_fault (.unit Expression.string_opened none) (by decide)
  have refused : Expression.parse "h1 | f(\"\\u123é\")" =
      .error ⟨10, some '1', .fourHexDigits, "h1 | f(\"\\u123é\")"⟩ :=
    Expression.parse_eq_error_iff.2 ⟨_, failure, rfl⟩
  obtain ⟨run, -, shown⟩ := cursor_stays_placed "h1 | f(\"\\u123é\")"
  obtain ⟨-, position, placed, -⟩ := shown _ refused
  rw [refused] at run
  exact ⟨refused, run, position.symm, placed⟩

end Walk
end PageExtract
