import PageExtract.Proofs.NumberReading
import PageExtract.Proofs.QuotedStrings

/-! Each reader takes from the front of a text exactly what the grammar allows there, and gives the
value of the grammar. Both directions go from the parts to the whole. -/
namespace PageExtract.Parser
open Grammar

theorem skipSpaces_text {before rest : List Char} (h : Spaces before)
    (stop : Stops (· == ' ') rest) : skipSpaces (before ++ rest) = rest :=
  stop.dropWhile_run fun c hc => beq_iff_eq.2 (h c hc)

theorem skipSpaces_split (s : List Char) : ∃ before, s = before ++ skipSpaces s ∧ Spaces before :=
  ⟨s.takeWhile (· == ' '), List.takeWhile_append_dropWhile.symm,
    fun c hc => beq_iff_eq.1 (List.all_eq_true.1 List.all_takeWhile c hc)⟩

theorem stops_skipSpaces (s : List Char) : Stops (· == ' ') (skipSpaces s) :=
  Stops.of_dropWhile (· == ' ') s

theorem stops_spaces {p : Char → Bool} {spaces rest : List Char} (h : Spaces spaces)
    (space : p ' ' = false) (stop : Stops p rest) : Stops p (spaces ++ rest) := by
  intro c hc
  rw [List.head?_append] at hc
  rcases Option.or_eq_some_iff.1 hc with first | ⟨-, first⟩
  · rw [h c (List.mem_of_mem_head? first)]
    exact space
  · exact stop c first

theorem identifier_text {name rest : List Char} (h : IdentifierText name)
    (stop : Stops isIdentifierPart rest) :
    identifier (name ++ rest) = .ok (String.ofList name, rest) := by
  obtain ⟨first, others⟩ := h
  next c name =>
  have start := isIdentifierStart_iff.2 first
  have run : ∀ d ∈ c :: name, isIdentifierPart d = true := by
    intro d hd
    rcases List.mem_cons.1 hd with rfl | hd
    · exact isIdentifierPart_iff.2 (.inl first)
    · exact isIdentifierPart_iff.2 (others d hd)
  have span : spanIdentifier (c :: name ++ rest) = (c :: name, rest) := by
    rw [List.cons_append, spanIdentifier, if_pos start, ← List.cons_append,
      stop.takeWhile_run run, stop.dropWhile_run run]
  rw [identifier, span]

theorem identifier_sound {s rest : List Char} {name : String}
    (h : identifier s = .ok (name, rest)) :
    ∃ text, s = text ++ rest ∧ IdentifierText text ∧ name = String.ofList text := by
  unfold identifier at h
  split at h
  · cases h
  next word after some span =>
    cases h
    unfold spanIdentifier at span
    split at span
    next c tail =>
      split at span
      next start =>
        cases span
        have part : isIdentifierPart c = true := isIdentifierPart_iff.2
          (.inl (isIdentifierStart_iff.1 start))
        refine ⟨_, List.takeWhile_append_dropWhile.symm, ?_, rfl⟩
        rw [List.takeWhile_cons_of_pos part]
        refine .intro (isIdentifierStart_iff.1 start) fun d hd => isIdentifierPart_iff.1 ?_
        exact List.all_eq_true.1 List.all_takeWhile d hd
      · cases span
        exact absurd rfl some
    · cases span
      exact absurd rfl some

theorem identifier_stops {s rest : List Char} {name : String}
    (h : identifier s = .ok (name, rest)) : Stops isIdentifierPart rest := by
  unfold identifier spanIdentifier at h
  split at h
  · cases h
  next some span =>
    cases h
    split at span
    · split at span <;> cases span
      · exact Stops.of_dropWhile isIdentifierPart _
      · exact absurd rfl some
    · cases span
      exact absurd rfl some

def EndsArgument (rest : List Char) : Prop := ∀ c ∈ rest.head?, c = ' ' ∨ c = ',' ∨ c = ')'

theorem EndsArgument.stops {p : Char → Bool} {rest : List Char} (h : EndsArgument rest)
    (space : p ' ' = false) (comma : p ',' = false) (close : p ')' = false) : Stops p rest := by
  intro c hc
  rcases h c hc with rfl | rfl | rfl <;> assumption

theorem wordLiteral_keyword {word : String} {literal : Literal} (h : (word, literal) ∈ keywords) :
    wordLiteral word = literal := by
  simp only [keywords, List.mem_cons, List.not_mem_nil, or_false, Prod.mk.injEq] at h
  rcases h with h | h | h | h <;> obtain ⟨rfl, rfl⟩ := h <;> rfl

theorem wordLiteral_word {word : String} (h : word ∉ keywords.map Prod.fst) :
    wordLiteral word = .string word := by
  simp only [keywords, List.map_cons, List.map_nil, List.mem_cons, List.not_mem_nil, or_false,
    not_or] at h
  simp [wordLiteral, h]

theorem notNumber_of_letter {c : Char} (h : IsLetter c) : (c.isDigit || c == '-') = false := by
  rw [Bool.or_eq_false_iff]
  constructor
  · rw [← Bool.not_eq_true, isDigit_iff]
    rintro ⟨-, nine⟩
    rcases h with ⟨above, -⟩ | ⟨above, -⟩ <;> exact absurd (Char.le_trans above nine) (by decide)
  · rw [beq_eq_false_iff_ne]
    rintro rfl
    exact absurd h (by unfold IsLetter; decide)

theorem notQuote_of_letter {c : Char} (h : IsLetter c) : (c == '"' || c == '\'') = false := by
  rw [Bool.or_eq_false_iff, beq_eq_false_iff_ne, beq_eq_false_iff_ne]
  constructor <;> rintro rfl <;> exact absurd h (by unfold IsLetter; decide)

theorem argument_eq_word {word : List Char} (h : IdentifierText word)
    (notNumber : word.head? ≠ some '-') (rest : List Char) :
    argument (word ++ rest) =
      match identifier (word ++ rest) with
      | .ok (found, left) => .ok (wordLiteral found, left)
      | .error _ => .error ⟨word ++ rest, .argument⟩ := by
  obtain ⟨first, others⟩ := h
  next c word =>
  have apart : (c.isDigit || c == '-') = false ∧ (c == '"' || c == '\'') = false := by
    rcases first with letter | rfl | rfl | rfl
    · exact ⟨notNumber_of_letter letter, notQuote_of_letter letter⟩
    · decide
    · decide
    · exact absurd rfl notNumber
  exact (if_neg (Bool.eq_false_iff.1 apart.1)).trans (if_neg (Bool.eq_false_iff.1 apart.2))

theorem argument_word {word rest : List Char} (h : IdentifierText word)
    (notNumber : word.head? ≠ some '-') (stop : Stops isIdentifierPart rest) :
    argument (word ++ rest) = .ok (wordLiteral (String.ofList word), rest) := by
  rw [argument_eq_word h notNumber, identifier_text h stop]

theorem keyword_identifier {word : String} {literal : Literal} (h : (word, literal) ∈ keywords) :
    IdentifierText word.toList ∧ word.toList.head? ≠ some '-' := by
  have letters : ∀ w ∈ keywords.map Prod.fst, w.toList.all Char.isAlpha ∧ w.toList ≠ [] := by decide
  obtain ⟨all, nonempty⟩ := letters word (List.mem_map_of_mem h)
  rw [List.all_eq_true] at all
  obtain ⟨c, rest, same⟩ := List.exists_cons_of_ne_nil nonempty
  rw [same] at all ⊢
  have letter := fun d hd => isAlpha_iff.1 (all d hd)
  refine ⟨.intro (.inl (letter c List.mem_cons_self)) fun d hd =>
    .inl (.inl (letter d (List.mem_cons_of_mem c hd))), ?_⟩
  rintro ⟨⟩
  exact absurd (all '-' List.mem_cons_self) (by decide)

theorem argument_eq_number {numeral : Numeral} {s : List Char} (h : NumberText numeral s)
    (rest : List Char) : argument (s ++ rest) = number (s ++ rest) := by
  cases h with
  | plain unsigned =>
    obtain ⟨d, tail, rfl, digit⟩ := Numeral.head?_unsigned unsigned
    simp only [List.cons_append, argument, digit, Bool.true_or, ↓reduceIte]
  | minus unsigned => simp [argument]

theorem argument_number {numeral : Numeral} {s rest : List Char} (h : NumberText numeral s)
    (stop : Stops extendsNumeral rest) :
    argument (s ++ rest) = .ok (.number numeral.toNumber, rest) := by
  rw [argument_eq_number h, number, Numeral.scan?_text h stop]

theorem argument_quoted {quote : Char} {pieces : List Piece} {s rest : List Char}
    (mark : IsQuote quote) (text : PiecesText quote pieces s) :
    argument (quote :: (s ++ [quote]) ++ rest) =
      .ok (.string (String.ofList (decode pieces)), rest) := by
  have read := quoted_text text (by rcases mark with rfl | rfl <;> decide) rest
  rw [List.cons_append, List.append_assoc, List.singleton_append]
  rcases mark with rfl | rfl <;> simp [argument, read, Except.map]

theorem argument_text {literal : Literal} {s rest : List Char} (h : ArgumentText literal s)
    (stop : EndsArgument rest) : argument (s ++ rest) = .ok (literal, rest) := by
  have wordStop : Stops isIdentifierPart rest := stop.stops rfl rfl rfl
  cases h with
  | number text value =>
    rw [Number.read?_text text] at value
    cases value
    exact argument_number text (stop.stops rfl rfl rfl)
  | quoted mark text => exact argument_quoted mark text
  | keyword known =>
    obtain ⟨identifier, notNumber⟩ := keyword_identifier known
    rw [argument_word identifier notNumber wordStop, String.ofList_toList,
      wordLiteral_keyword known]
  | word text notNumber notKeyword =>
    rw [argument_word text notNumber wordStop, wordLiteral_word notKeyword]

theorem wordLiteral_text {text : List Char} (h : IdentifierText text)
    (notNumber : text.head? ≠ some '-') : ArgumentText (wordLiteral (String.ofList text)) text := by
  by_cases known : String.ofList text ∈ keywords.map Prod.fst
  · obtain ⟨⟨word, literal⟩, known, same⟩ := List.mem_map.1 known
    have keyword := ArgumentText.keyword known
    rw [← wordLiteral_keyword known, show word = String.ofList text from same,
      String.toList_ofList] at keyword
    exact keyword
  · rw [wordLiteral_word known]
    exact .word h notNumber known

theorem argument_sound {s rest : List Char} {literal : Literal}
    (h : argument s = .ok (literal, rest)) :
    ∃ text, s = text ++ rest ∧ ArgumentText literal text := by
  unfold argument at h
  split at h
  · cases h
  next c tail =>
    split at h
    · unfold number at h
      split at h
      next numeral left found =>
        cases h
        obtain ⟨text, same, numberText⟩ := Numeral.scan?_sound found
        exact ⟨text, same, .number numberText (Number.read?_text numberText)⟩
      · cases h
    next notNumber =>
      split at h
      next mark =>
        obtain ⟨⟨chars, left⟩, read, same⟩ := map_ok h
        cases same
        obtain ⟨pieces, body, rfl, text, rfl⟩ := quoted_sound read
        have quote : IsQuote c := by simpa [IsQuote] using mark
        exact ⟨_, by simp, .quoted quote text⟩
      · split at h
        next word left found =>
          cases h
          obtain ⟨text, same, identifier, rfl⟩ := identifier_sound found
          refine ⟨text, same, wordLiteral_text identifier ?_⟩
          intro minus
          obtain ⟨others, rfl⟩ := List.head?_eq_some_iff.1 minus
          rw [List.cons_append] at same
          cases same
          exact notNumber (by decide)
        · cases h

def continuesNumeral (c : Char) : Bool := c == '.' || c == 'e' || c == 'E'

/-- An argument is read up to the same place before any text that starts with the same character,
where that cannot make a number longer. -/
theorem argument_before {literal : Literal} {s t t' : List Char} (text : ArgumentText literal s)
    (read : argument (s ++ t) = .ok (literal, t)) (same : t.head? = t'.head?)
    (apart : ∀ numeral, NumberText numeral s → Stops continuesNumeral t) :
    argument (s ++ t') = .ok (literal, t') := by
  have wordStop {word : List Char} (identifier : IdentifierText word)
      (notNumber : word.head? ≠ some '-') (read : argument (word ++ t) = .ok (literal, t)) :
      Stops isIdentifierPart t' := by
    rw [argument_eq_word identifier notNumber] at read
    split at read
    next found =>
      cases read
      exact (identifier_stops found).of_head same
    · cases read
  cases text with
  | @number numeral _ _ text value =>
    rw [Number.read?_text text] at value
    cases value
    rw [argument_eq_number text, number] at read
    split at read
    next _ rest found =>
      simp only [Except.ok.injEq, Prod.mk.injEq] at read
      obtain ⟨-, rfl⟩ := read
      have noDigit := Numeral.stops_of_scan?_eq_some found
      have ends : Stops extendsNumeral rest := by
        intro c first
        have noPoint := apart numeral text c first
        simp only [continuesNumeral, Bool.or_eq_false_iff] at noPoint
        simp only [extendsNumeral, noDigit c first, noPoint, Bool.or_false]
      exact argument_number text (ends.of_head same)
    · cases read
  | quoted mark text => exact argument_quoted mark text
  | keyword known =>
    obtain ⟨identifier, notNumber⟩ := keyword_identifier known
    rw [argument_word identifier notNumber (wordStop identifier notNumber read),
      String.ofList_toList, wordLiteral_keyword known]
  | word text notNumber notKeyword =>
    rw [argument_word text notNumber (wordStop text notNumber read), wordLiteral_word notKeyword]

theorem stops_cons_append {c : Char} {s : List Char} (h : c ≠ ' ') (rest : List Char) :
    Stops (· == ' ') (c :: s ++ rest) :=
  Stops.cons (beq_eq_false_iff_ne.2 h)

theorem identifier_start {name : List Char} {c : Char} (h : IdentifierText name)
    (outside : isIdentifierStart c = false) (rest : List Char) : Stops (· == c) (name ++ rest) := by
  obtain ⟨first, -⟩ := h
  apply Stops.cons
  rw [beq_eq_false_iff_ne]
  rintro rfl
  rw [isIdentifierStart_iff.2 first] at outside
  cases outside

theorem argument_start {literal : Literal} {s : List Char} (h : ArgumentText literal s)
    (rest : List Char) : Stops (· == ' ') (s ++ rest) := by
  cases h with
  | number text =>
    cases text with
    | plain unsigned =>
      obtain ⟨d, tail, rfl, digit⟩ := Numeral.head?_unsigned unsigned
      apply stops_cons_append
      rintro rfl
      exact absurd digit (by decide)
    | minus => exact stops_cons_append (by decide) rest
  | quoted mark => exact stops_cons_append (by rcases mark with rfl | rfl <;> decide) rest
  | keyword known => exact identifier_start (keyword_identifier known).1 rfl rest
  | word text => exact identifier_start text rfl rest

theorem spacedArgument_text {literal : Literal} {before s after rest : List Char}
    (spacesBefore : Spaces before) (text : ArgumentText literal s) (spacesAfter : Spaces after)
    (stop : ∀ c ∈ rest.head?, c = ',' ∨ c = ')') :
    spacedArgument (before ++ (s ++ (after ++ rest))) = .ok (literal, rest) := by
  have ends : EndsArgument (after ++ rest) := by
    intro c hc
    rw [List.head?_append] at hc
    rcases Option.or_eq_some_iff.1 hc with space | ⟨-, follows⟩
    · exact .inl (spacesAfter c (List.mem_of_mem_head? space))
    · exact .inr (stop c follows)
  have noSpace : Stops (· == ' ') rest := by
    intro c hc
    rcases stop c hc with rfl | rfl <;> rfl
  rw [spacedArgument, skipSpaces_text spacesBefore (argument_start text _), argument_text text ends]
  exact congrArg (fun left => Except.ok (literal, left)) (skipSpaces_text spacesAfter noSpace)

theorem spacedArgument_sound {s rest : List Char} {literal : Literal}
    (h : spacedArgument s = .ok (literal, rest)) :
    ∃ before text after, s = before ++ (text ++ (after ++ rest)) ∧ Spaces before ∧
      ArgumentText literal text ∧ Spaces after := by
  obtain ⟨⟨value, left⟩, read, same⟩ := map_ok h
  cases same
  obtain ⟨before, split, spacesBefore⟩ := skipSpaces_split s
  obtain ⟨text, taken, argument⟩ := argument_sound read
  obtain ⟨after, back, spacesAfter⟩ := skipSpaces_split left
  refine ⟨before, text, after, ?_, spacesBefore, argument, spacesAfter⟩
  rw [← back, ← taken, ← split]

theorem arguments_last {s rest : List Char} {literal : Literal}
    (h : spacedArgument s = .ok (literal, ')' :: rest)) : arguments s = .ok ([literal], rest) := by
  unfold arguments
  split <;> simp_all

theorem arguments_more {s rest : List Char} {literal : Literal}
    (h : spacedArgument s = .ok (literal, ',' :: rest)) :
    arguments s = (arguments rest).map fun (literals, left) => (literal :: literals, left) := by
  rw [arguments]
  split <;> simp_all

theorem arguments_text {literals : List Literal} {list : List Char}
    (h : ArgumentsText literals list) (rest : List Char) :
    arguments (list ++ ')' :: rest) = .ok (literals, rest) := by
  induction h with
  | last spacesBefore text spacesAfter =>
    apply arguments_last
    rw [List.append_assoc, List.append_assoc]
    exact spacedArgument_text spacesBefore text spacesAfter (by simp)
  | @more literal literals before s after tail spacesBefore text spacesAfter _ ih =>
    have read : spacedArgument (before ++ (s ++ (after ++ ',' :: (tail ++ ')' :: rest)))) =
        .ok (literal, ',' :: (tail ++ ')' :: rest)) :=
      spacedArgument_text spacesBefore text spacesAfter (by simp)
    have opened := arguments_more read
    rw [ih] at opened
    simpa [Except.map] using opened

theorem arguments_sound {s rest : List Char} {literals : List Literal}
    (h : arguments s = .ok (literals, rest)) :
    ∃ list, s = list ++ ')' :: rest ∧ ArgumentsText literals list := by
  fun_induction arguments s generalizing literals rest with
  | case1 => cases h
  | case2 s literal left found =>
    cases h
    obtain ⟨before, text, after, rfl, spacesBefore, argument, spacesAfter⟩ :=
      spacedArgument_sound found
    exact ⟨_, by simp, .last spacesBefore argument spacesAfter⟩
  | case3 s literal left found shorter ih =>
    obtain ⟨⟨others, left'⟩, read, same⟩ := map_ok h
    cases same
    obtain ⟨before, text, after, rfl, spacesBefore, argument, spacesAfter⟩ :=
      spacedArgument_sound found
    obtain ⟨list, rfl, tail⟩ := ih read
    exact ⟨_, by simp, .more spacesBefore argument spacesAfter tail⟩
  | case4 => cases h

def EndsStage (rest : List Char) : Prop := ∀ c ∈ rest.head?, c = '|'

theorem EndsStage.stops {p : Char → Bool} {rest : List Char} (h : EndsStage rest)
    (pipe : p '|' = false) : Stops p rest := by
  intro c hc
  rw [h c hc]
  exact pipe

theorem argumentList_none {rest : List Char} (h : rest.head? ≠ some '(') :
    argumentList rest = .ok ([], rest) := by
  unfold argumentList
  split
  · exact absurd rfl h
  · rfl

theorem call_bare {name before after rest : List Char} (spacesBefore : Spaces before)
    (text : IdentifierText name) (spacesAfter : Spaces after)
    (nameEnds : Stops isIdentifierPart (after ++ rest)) (noSpace : Stops (· == ' ') rest)
    (noList : rest.head? ≠ some '(') :
    call (before ++ (name ++ (after ++ rest))) = .ok (⟨String.ofList name, []⟩, rest) := by
  rw [call, skipSpaces_text spacesBefore (identifier_start text rfl _), identifier_text text nameEnds]
  dsimp only
  rw [skipSpaces_text spacesAfter noSpace, argumentList_none noList]
  rfl

theorem call_applied {args : List Literal} {name before between list after rest : List Char}
    (spacesBefore : Spaces before) (text : IdentifierText name) (spacesBetween : Spaces between)
    (argumentsText : ArgumentsText args list) (spacesAfter : Spaces after)
    (noSpace : Stops (· == ' ') rest) :
    call (before ++ (name ++ (between ++ '(' :: (list ++ ')' :: (after ++ rest))))) =
      .ok (⟨String.ofList name, args⟩, rest) := by
  have nameEnds : Stops isIdentifierPart (between ++ '(' :: (list ++ ')' :: (after ++ rest))) :=
    stops_spaces spacesBetween rfl (Stops.cons rfl)
  have read : argumentList ('(' :: (list ++ ')' :: (after ++ rest))) = .ok (args, rest) := by
    rw [argumentList, arguments_text argumentsText]
    exact congrArg (fun left => Except.ok (args, left)) (skipSpaces_text spacesAfter noSpace)
  rw [call, skipSpaces_text spacesBefore (identifier_start text rfl _), identifier_text text nameEnds]
  dsimp only
  rw [skipSpaces_text spacesBetween (Stops.cons rfl), read]
  rfl

theorem call_text {c : Call} {s rest : List Char} (h : StageText c s) (stop : EndsStage rest) :
    call (s ++ rest) = .ok (c, rest) := by
  cases h with
  | bare spacesBefore identifier spacesAfter =>
    rw [List.append_assoc, List.append_assoc]
    have noList : rest.head? ≠ some '(' := fun opened => absurd (stop '(' opened) (by decide)
    exact call_bare spacesBefore identifier spacesAfter
      (stops_spaces spacesAfter rfl (stop.stops rfl)) (stop.stops rfl) noList
  | applied spacesBefore identifier spacesBetween arguments spacesAfter =>
    have read := call_applied spacesBefore identifier spacesBetween arguments spacesAfter
      (stop.stops rfl)
    simpa using read

theorem call_sound {s rest : List Char} {c : Call} (h : call s = .ok (c, rest)) :
    ∃ text, s = text ++ rest ∧ StageText c text := by
  unfold call at h
  split at h
  · cases h
  next name left found =>
    obtain ⟨⟨args, left'⟩, read, same⟩ := map_ok h
    cases same
    obtain ⟨before, split, spacesBefore⟩ := skipSpaces_split s
    obtain ⟨word, taken, identifier, rfl⟩ := identifier_sound found
    obtain ⟨between, back, spacesBetween⟩ := skipSpaces_split left
    rw [split, taken, back]
    unfold argumentList at read
    split at read
    next list opened =>
      obtain ⟨⟨literals, after⟩, inner, same⟩ := map_ok read
      cases same
      obtain ⟨text, rfl, arguments⟩ := arguments_sound inner
      obtain ⟨spaces, front, spacesAfter⟩ := skipSpaces_split after
      rw [opened]
      refine ⟨_, ?_, .applied spacesBefore identifier spacesBetween arguments spacesAfter⟩
      rw [List.append_assoc, List.append_assoc, List.append_assoc, List.cons_append,
        List.append_assoc, List.cons_append, ← front]
    · cases read
      exact ⟨_, by simp, .bare spacesBefore identifier spacesBetween⟩

theorem chain_ends {calls : List Call} {s : List Char} (h : ChainText calls s) : EndsStage s := by
  cases h with
  | nil => simp [EndsStage]
  | cons => simp [EndsStage]

theorem stage_start {c : Call} {s : List Char} (h : StageText c s) (rest : List Char) :
    Stops (· == '|') (s ++ rest) := by
  cases h with
  | bare spacesBefore identifier _ =>
    rw [List.append_assoc, List.append_assoc]
    exact stops_spaces spacesBefore rfl (identifier_start identifier rfl _)
  | applied spacesBefore identifier _ _ _ =>
    rw [List.append_assoc, List.append_assoc]
    exact stops_spaces spacesBefore rfl (identifier_start identifier rfl _)

theorem chain_notConstant {calls : List Call} {before rest : List Char} (noPipe : '|' ∉ before)
    (h : ChainText calls rest) : ¬ ['|', '|'] <+: before ++ rest := by
  rintro ⟨tail, same⟩
  cases before with
  | cons c before =>
    have first : '|' = c := (List.cons.inj same).1
    exact noPipe (first ▸ List.mem_cons_self)
  | nil =>
    cases h with
    | nil => cases same
    | @cons _ _ s others stage _ =>
      have second : '|' :: tail = s ++ others := (List.cons.inj same).2
      have stop := stage_start stage others
      rw [← second] at stop
      exact absurd (stop '|' rfl) (by decide)

theorem chain_stage {rest left : List Char} {c : Call} (h : call rest = .ok (c, left)) :
    chain ('|' :: rest) = (chain left).map (c :: ·) := by
  rw [chain]
  split <;> simp_all

theorem chain_text {calls : List Call} {s : List Char} (h : ChainText calls s) :
    chain s = .ok calls := by
  induction h with
  | nil => simp [chain]
  | cons stage others ih =>
    rw [chain_stage (call_text stage (chain_ends others)), ih]
    rfl

theorem chain_sound {s : List Char} {calls : List Call} (h : chain s = .ok calls) :
    ChainText calls s := by
  fun_induction chain s generalizing calls with
  | case1 =>
    cases h
    exact .nil
  | case2 => cases h
  | case3 rest c left found shorter ih =>
    cases others : chain left with
    | error e =>
      rw [others] at h
      cases h
    | ok calls' =>
      rw [others] at h
      cases h
      obtain ⟨text, rfl, stage⟩ := call_sound found
      exact .cons stage (ih others)
  | case4 => cases h

theorem takeWhile_pipe {before rest : List Char} (noPipe : '|' ∉ before) (stop : EndsStage rest) :
    (before ++ rest).takeWhile (· != '|') = before ∧
      (before ++ rest).dropWhile (· != '|') = rest := by
  have run : ∀ c ∈ before, (c != '|') = true := by
    intro c hc
    rw [bne_iff_ne]
    rintro rfl
    exact noPipe hc
  have ends : Stops (· != '|') rest := stop.stops rfl
  exact ⟨ends.takeWhile_run run, ends.dropWhile_run run⟩

theorem pipe_split (s : List Char) :
    ∃ before rest, s = before ++ rest ∧ '|' ∉ before ∧ EndsStage rest := by
  refine ⟨_, _, (List.takeWhile_append_dropWhile (p := (· != '|'))).symm, ?_, ?_⟩
  · intro member
    have inside := List.all_eq_true.1 List.all_takeWhile '|' member
    simp at inside
  · intro c first
    simpa using Stops.of_dropWhile (· != '|') s c first

theorem expression_text {e : Expression} {s : List Char} (h : ExpressionText e s) :
    expression s = .ok e := by
  cases h with
  | constant => rfl
  | query noPipe chainText notConstant =>
    obtain ⟨front, back⟩ := takeWhile_pipe noPipe (chain_ends chainText)
    unfold expression
    split
    next same => exact absurd (by rw [same]; simp) notConstant
    · rw [selectorOf, front, back, chain_text chainText]
      rfl

theorem expression_sound {s : List Char} {e : Expression} (h : expression s = .ok e) :
    ExpressionText e s := by
  unfold expression at h
  split at h
  next text =>
    cases h
    exact .constant text
  next other =>
    obtain ⟨before, rest, rfl, noPipe, stop⟩ := pipe_split s
    obtain ⟨front, back⟩ := takeWhile_pipe noPipe stop
    rw [selectorOf, front, back] at h
    cases found : chain rest with
    | error f =>
      rw [found] at h
      cases h
    | ok calls =>
      rw [found] at h
      cases h
      refine .query noPipe (chain_sound found) ?_
      rintro ⟨rest, same⟩
      exact other rest same.symm

end PageExtract.Parser

namespace PageExtract.Expression
open Grammar PageExtract.Parser

/-- A text is read as an expression exactly when the grammar has it as a form of it. -/
theorem parse_eq_ok_iff {text : String} {e : Expression} :
    parse text = .ok e ↔ ExpressionText e text.toList := by
  have same : parse text = .ok e ↔ expression text.toList = .ok e := by
    unfold parse
    cases expression text.toList with
    | error f => constructor <;> intro h <;> cases h
    | ok found => constructor <;> intro h <;> cases h <;> rfl
  rw [same]
  exact ⟨expression_sound, expression_text⟩

/-- A text is accepted exactly when the grammar derives the whole of it, with the value of the
grammar; without a pipe every text is accepted, and no text is a form of two expressions. -/
theorem parse_accepts_grammar :
    (∀ (text : String) (e : Expression), parse text = .ok e ↔ ExpressionText e text.toList) ∧
      (∀ text : String, '|' ∉ text.toList → ∃ e, parse text = .ok e) ∧
      ∀ (s : List Char) (e e' : Expression), ExpressionText e s → ExpressionText e' s → e = e' := by
  refine ⟨fun text e => parse_eq_ok_iff, ?_, ?_⟩
  · intro text noPipe
    have form := ExpressionText.query noPipe .nil (by
      rw [List.append_nil]
      exact fun constant => noPipe (constant.subset List.mem_cons_self))
    rw [List.append_nil] at form
    exact ⟨_, parse_eq_ok_iff.2 form⟩
  · intro s e e' h h'
    have read := expression_text h
    rw [expression_text h'] at read
    cases read
    rfl

end PageExtract.Expression
