import PageExtract.Proofs.Characters

/-! Reading up to the closing quote takes exactly the items of the grammar. The delicate part is a
high surrogate: the reader looks at the next escape to see whether it ends a pair. -/
namespace PageExtract

theorem Utf8.length_le_size (s : List Char) : s.length ≤ size s := by
  induction s with
  | nil => simp [size]
  | cons c s ih =>
    have first := c.utf8Size_pos
    simp only [List.length_cons, size]
    omega

namespace Parser
open Grammar

structure HexText (digits : List Char) (u : Nat) : Prop where
  four : digits.length = 4
  value : Hex.natural? digits = some u

theorem hexUnit_text {digits rest : List Char} {u : Nat} (h : HexText digits u) :
    hexUnit (digits ++ rest) = .ok (u, rest) := by
  have bytes := Utf8.length_le_size (digits ++ rest)
  have long : 4 ≤ (digits ++ rest).length := by
    rw [List.length_append, h.four]
    omega
  have front : (digits ++ rest).take 4 = digits := List.take_left' h.four
  have back : (digits ++ rest).drop 4 = rest := List.drop_left' h.four
  rw [hexUnit, if_neg (by omega), front, h.value]
  dsimp only
  rw [if_neg (by omega), back]

theorem hexUnit_sound {s rest : List Char} {u : Nat} (h : hexUnit s = .ok (u, rest)) :
    ∃ digits, s = digits ++ rest ∧ HexText digits u := by
  unfold hexUnit at h
  split at h
  · cases h
  split at h
  next unit value =>
    split at h
    · cases h
    · cases h
      refine ⟨s.take 4, (List.take_append_drop 4 s).symm, ?_, value⟩
      rw [List.length_take]
      omega
  · cases h

/-- What follows a surrogate that is not the first of a pair. -/
def Alone (u : Nat) (after : List Char) : Prop :=
  Utf16.isHighSurrogate u = true → ∀ more, after = '\\' :: 'u' :: more →
    ∃ low rest, hexUnit more = .ok (low, rest) ∧ Utf16.isLowSurrogate low = false

theorem unicodeEscape_alone {digits after : List Char} {u : Nat} (h : HexText digits u)
    (alone : Alone u after) : unicodeEscape (digits ++ after) = .ok (Utf16.charOf u, after) := by
  simp only [unicodeEscape, hexUnit_text h]
  split
  next more =>
    split
    next high =>
      obtain ⟨low, rest, second, notLow⟩ := alone high more rfl
      simp [second, notLow]
    · rfl
  · rfl

theorem unicodeEscape_pair {digits digits' : List Char} {high low : Nat}
    (first : HexText digits high) (second : HexText digits' low)
    (isHigh : Utf16.isHighSurrogate high = true) (isLow : Utf16.isLowSurrogate low = true)
    (after : List Char) :
    unicodeEscape (digits ++ '\\' :: 'u' :: (digits' ++ after)) =
      .ok (Utf16.charOf (Utf16.combine high low), after) := by
  simp [unicodeEscape, hexUnit_text first, hexUnit_text second, isHigh, isLow]

theorem unicodeEscape_sound {s after : List Char} {c : Char}
    (h : unicodeEscape s = .ok (c, after)) :
    (∃ digits u, s = digits ++ after ∧ HexText digits u ∧ Alone u after ∧ c = Utf16.charOf u) ∨
      ∃ digits high digits' low, s = digits ++ '\\' :: 'u' :: (digits' ++ after) ∧
        HexText digits high ∧ HexText digits' low ∧ Utf16.isHighSurrogate high = true ∧
        Utf16.isLowSurrogate low = true ∧ c = Utf16.charOf (Utf16.combine high low) := by
  unfold unicodeEscape at h
  split at h
  · cases h
  next unit rest first =>
    obtain ⟨digits, rfl, text⟩ := hexUnit_sound first
    split at h
    next more =>
      split at h
      next high =>
        split at h
        · cases h
        next low after' second =>
          split at h
          next isLow =>
            simp only [Except.ok.injEq, Prod.mk.injEq] at h
            obtain ⟨rfl, rfl⟩ := h
            obtain ⟨digits', rfl, text'⟩ := hexUnit_sound second
            exact .inr ⟨digits, unit, digits', low, rfl, text, text', high, isLow, rfl⟩
          next notLow =>
            cases h
            refine .inl ⟨digits, unit, rfl, text, ?_, rfl⟩
            rintro - more' ⟨⟩
            exact ⟨low, _, second, by simpa using notLow⟩
      next notHigh =>
        cases h
        exact .inl ⟨digits, unit, rfl, text, fun high => absurd high notHigh, rfl⟩
    next other =>
      cases h
      refine .inl ⟨digits, unit, rfl, text, ?_, rfl⟩
      rintro - more rfl
      exact absurd rfl (other more)

theorem simpleEscape?_eq_some_iff {letter c : Char} :
    simpleEscape? letter = some c ↔ (letter, c) ∈ escapes := by
  constructor
  · intro h
    unfold simpleEscape? at h
    split at h <;> cases h <;> decide
  · intro h
    simp only [escapes, List.mem_cons, List.not_mem_nil, or_false, Prod.mk.injEq] at h
    rcases h with h | h | h | h | h | h | h | h <;> obtain ⟨rfl, rfl⟩ := h <;> rfl

theorem escape_unicode (s : List Char) : escape ('u' :: s) = unicodeEscape s := rfl

theorem escape_simple {letter c : Char} (h : (letter, c) ∈ escapes) (after : List Char) :
    escape (letter :: after) = .ok (c, after) := by
  have noUnicode : letter ≠ 'u' := by
    rintro rfl
    exact absurd (simpleEscape?_eq_some_iff.2 h) (by simp [simpleEscape?])
  unfold escape
  split
  next unicode => exact absurd (List.cons.inj unicode).1 noUnicode
  next simple =>
    cases simple
    rw [simpleEscape?_eq_some_iff.2 h]
  next none => cases none

theorem escape_sound {s after : List Char} {c : Char} (h : escape s = .ok (c, after)) :
    (∃ letter, s = letter :: after ∧ (letter, c) ∈ escapes) ∨
      ∃ rest, s = 'u' :: rest ∧ unicodeEscape rest = .ok (c, after) := by
  unfold escape at h
  split at h
  next rest => exact .inr ⟨rest, rfl, h⟩
  next letter rest _ =>
    split at h
    next simple =>
      cases h
      exact .inl ⟨letter, rfl, simpleEscape?_eq_some_iff.1 simple⟩
    · cases h
  · cases h

theorem pieces_of_unit {quote : Char} {pieces : List Piece} {body rest more : List Char}
    (text : PiecesText quote pieces body) (mark : quote ≠ '\\')
    (same : body ++ quote :: rest = '\\' :: 'u' :: more) :
    ∃ low others digits after, pieces = .unit low :: others ∧ HexText digits low ∧
      more = digits ++ after := by
  cases text with
  | nil => exact absurd (List.cons.inj same).1 mark
  | cons head tail =>
    cases head with
    | raw _ notBackslash => exact absurd (List.cons.inj same).1 notBackslash
    | escape simple =>
      have letter := (List.cons.inj (List.cons.inj same).2).1
      rw [letter] at simple
      exact absurd simple (by simp [escapes])
    | @unit digits low four value =>
      rw [List.append_assoc, List.cons_append, List.cons_append] at same
      exact ⟨low, _, digits, _, rfl, ⟨four, value⟩, (List.cons.inj (List.cons.inj same).2).2.symm⟩

theorem decode_alone {quote : Char} {u : Nat} {pieces : List Piece} {body rest : List Char}
    (text : PiecesText quote pieces body) (alone : Alone u (body ++ quote :: rest)) :
    decode (.unit u :: pieces) = Utf16.charOf u :: decode pieces := by
  cases text with
  | nil => rfl
  | cons head tail =>
    cases head with
    | raw => rfl
    | escape => rfl
    | unit four value =>
      rw [decode, if_neg]
      intro pair
      rw [Bool.and_eq_true] at pair
      rw [List.append_assoc, List.cons_append, List.cons_append] at alone
      obtain ⟨low, after, second, notLow⟩ := alone pair.1 _ rfl
      rw [hexUnit_text ⟨four, value⟩] at second
      cases second
      rw [pair.2] at notLow
      cases notLow

theorem alone_of_pieces {quote : Char} {u : Nat} {pieces : List Piece} {body rest : List Char}
    (text : PiecesText quote pieces body) (mark : quote ≠ '\\')
    (notLow : ∀ low others, pieces = .unit low :: others →
      Utf16.isHighSurrogate u = true → Utf16.isLowSurrogate low = false) :
    Alone u (body ++ quote :: rest) := by
  intro high more same
  obtain ⟨low, others, digits, after, head, hex, rfl⟩ := pieces_of_unit text mark same
  exact ⟨low, after, hexUnit_text hex, notLow low others head high⟩

theorem quoted_close (quote : Char) (rest : List Char) :
    quoted quote (quote :: rest) = .ok ([], rest) := by
  simp [quoted]

theorem quoted_raw {quote c : Char} {rest : List Char} (notQuote : c ≠ quote)
    (notBackslash : c ≠ '\\') (printable : 0x1F < c.toNat) :
    quoted quote (c :: rest) = (quoted quote rest).map fun (text, left) => (c :: text, left) := by
  rw [quoted, if_neg notQuote, if_neg notBackslash, if_neg (by omega)]

theorem quoted_escape {quote c : Char} {s after : List Char} (mark : quote ≠ '\\')
    (h : escape s = .ok (c, after)) :
    quoted quote ('\\' :: s) =
      (quoted quote after).map fun (text, left) => (c :: text, left) := by
  rw [quoted, if_neg mark.symm, if_pos rfl]
  split
  next failed =>
    rw [h] at failed
    cases failed
  next read =>
    rw [h] at read
    cases read
    rfl

theorem quoted_alone {quote : Char} {digits tail rest : List Char} {u : Nat}
    {pieces : List Piece} (mark : quote ≠ '\\') (hex : HexText digits u)
    (text : PiecesText quote pieces tail)
    (notLow : ∀ low others, pieces = .unit low :: others →
      Utf16.isHighSurrogate u = true → Utf16.isLowSurrogate low = false) :
    quoted quote ('\\' :: 'u' :: digits ++ tail ++ quote :: rest) =
      (quoted quote (tail ++ quote :: rest)).map fun (text, left) =>
        (Utf16.charOf u :: text, left) := by
  have read : escape ('u' :: (digits ++ (tail ++ quote :: rest))) =
      .ok (Utf16.charOf u, tail ++ quote :: rest) :=
    unicodeEscape_alone hex (alone_of_pieces text mark notLow)
  rw [List.append_assoc]
  exact quoted_escape mark read

theorem quoted_pair {quote : Char} {digits digits' tail rest : List Char} {high low : Nat}
    (mark : quote ≠ '\\') (hex : HexText digits high) (hex' : HexText digits' low)
    (isHigh : Utf16.isHighSurrogate high = true) (isLow : Utf16.isLowSurrogate low = true) :
    quoted quote ('\\' :: 'u' :: digits ++ ('\\' :: 'u' :: digits' ++ tail) ++ quote :: rest) =
      (quoted quote (tail ++ quote :: rest)).map fun (text, left) =>
        (Utf16.charOf (Utf16.combine high low) :: text, left) := by
  have read := unicodeEscape_pair hex hex' isHigh isLow (tail ++ quote :: rest)
  rw [← escape_unicode] at read
  have opened := quoted_escape mark read
  simpa using opened

theorem quoted_char {quote c : Char} {s tail rest : List Char} (mark : quote ≠ '\\')
    (head : PieceText quote (.char c) s) :
    quoted quote (s ++ tail ++ quote :: rest) =
      (quoted quote (tail ++ quote :: rest)).map fun (text, left) => (c :: text, left) := by
  rw [List.append_assoc]
  cases head with
  | raw notQuote notBackslash printable => exact quoted_raw notQuote notBackslash printable
  | escape simple => exact quoted_escape mark (escape_simple simple (tail ++ quote :: rest))

theorem quoted_text {quote : Char} {pieces : List Piece} {body : List Char}
    (text : PiecesText quote pieces body) (mark : quote ≠ '\\') (rest : List Char) :
    quoted quote (body ++ quote :: rest) = .ok (decode pieces, rest) := by
  fun_induction decode pieces generalizing body with
  | case1 =>
    cases text
    exact quoted_close quote rest
  | case2 c pieces ih =>
    cases text with
    | cons head tail =>
      rw [quoted_char mark head, ih tail]
      rfl
  | case3 high low pieces pair ih =>
    rw [Bool.and_eq_true] at pair
    cases text with
    | cons head tail =>
      cases head with
      | unit four value =>
        cases tail with
        | cons head' tail' =>
          cases head' with
          | unit four' value' =>
            rw [quoted_pair mark ⟨four, value⟩ ⟨four', value'⟩ pair.1 pair.2, ih tail']
            rfl
  | case4 high low pieces noPair ih =>
    cases text with
    | cons head tail =>
      cases head with
      | unit four value =>
        rw [quoted_alone mark ⟨four, value⟩ tail, ih tail]
        · rfl
        · rintro low' others ⟨⟩ isHigh
          simpa [isHigh] using noPair
  | case5 u pieces noUnit ih =>
    cases text with
    | cons head tail =>
      cases head with
      | unit four value =>
        rw [quoted_alone mark ⟨four, value⟩ tail, ih tail]
        · rfl
        · intro low others same
          exact absurd same (noUnit low others)

theorem quoted_sound {quote : Char} {s text rest : List Char}
    (h : quoted quote s = .ok (text, rest)) :
    ∃ pieces body, s = body ++ quote :: rest ∧ PiecesText quote pieces body ∧
      decode pieces = text := by
  fun_induction quoted quote s generalizing text rest with
  | case1 => cases h
  | case2 left =>
    cases h
    exact ⟨[], [], rfl, .nil, rfl⟩
  | case3 => cases h
  | case4 left value after opened shorter _ ih =>
    obtain ⟨⟨chars, after'⟩, read, same⟩ := map_ok h
    cases same
    obtain ⟨pieces, body, rfl, tail, rfl⟩ := ih read
    rcases escape_sound opened with ⟨letter, rfl, simple⟩ | ⟨s, rfl, unicode⟩
    · exact ⟨_, _, rfl, .cons (.escape simple) tail, rfl⟩
    rcases unicodeEscape_sound unicode with ⟨digits, u, rfl, hex, alone, rfl⟩ |
      ⟨digits, high, digits', low, rfl, hex, hex', isHigh, isLow, pair⟩
    · refine ⟨.unit u :: pieces, '\\' :: 'u' :: digits ++ body, ?_, ?_, decode_alone tail alone⟩
      · rw [List.append_assoc]
        rfl
      · exact .cons (.unit hex.four hex.value) tail
    · refine ⟨.unit high :: .unit low :: pieces,
        '\\' :: 'u' :: digits ++ ('\\' :: 'u' :: digits' ++ body), ?_, ?_, ?_⟩
      · simp
      · exact .cons (.unit hex.four hex.value) (.cons (.unit hex'.four hex'.value) tail)
      · simp [decode, isHigh, isLow, pair]
  | case5 => cases h
  | case6 c left notQuote notBackslash printable ih =>
    obtain ⟨⟨chars, after⟩, read, same⟩ := map_ok h
    cases same
    obtain ⟨pieces, body, rfl, tail, rfl⟩ := ih read
    exact ⟨.char c :: pieces, c :: body, rfl,
      .cons (.raw notQuote notBackslash (by omega)) tail, rfl⟩

end Parser
end PageExtract
