import PageExtract.Proofs.Numerals

/-! A whole text is read as a number if it is a word for one or a numeral, which may have a sign
and may lack the digits on one side of the point. -/
namespace PageExtract

namespace Grammar

/-- `[+-]?`, with whether it is the minus. -/
inductive SignText : Bool → List Char → Prop
  | none : SignText false []
  | plus : SignText false ['+']
  | minus : SignText true ['-']

/-- `digits[.digits?] | .digits`, with the digits on both sides of the point. -/
inductive MantissaText : List Char → List Char → List Char → Prop
  | digits {whole : List Char} (text : DigitsText whole) : MantissaText whole [] whole
  | pointLast {whole : List Char} (text : DigitsText whole) : MantissaText whole [] (whole ++ ['.'])
  | pointed {whole fraction : List Char} (text : DigitsText whole)
      (places : DigitsText fraction) : MantissaText whole fraction (whole ++ '.' :: fraction)
  | pointFirst {fraction : List Char} (places : DigitsText fraction) :
      MantissaText [] fraction ('.' :: fraction)

/-- `(digits[.digits?] | .digits)([eE][+-]?digits)?`, with the parts of the numeral. -/
inductive LooseText (negative : Bool) : Numeral → List Char → Prop
  | intro {whole fraction mantissa exponent : List Char} {power : Int}
      (mantissaText : MantissaText whole fraction mantissa)
      (exponentText : ExponentText power exponent) :
      LooseText negative ⟨negative, whole, fraction, power⟩ (mantissa ++ exponent)

def WordForInfinity (s : List Char) : Prop :=
  Number.lowerAscii s = "inf".toList ∨ Number.lowerAscii s = "infinity".toList

instance (s : List Char) : Decidable (WordForInfinity s) := inferInstanceAs (Decidable (_ ∨ _))

theorem UnsignedText.loose {negative : Bool} {n : Numeral} {s : List Char}
    (h : UnsignedText negative n s) : LooseText negative n s := by
  obtain ⟨wholeText, fractionText, exponentText⟩ := h
  cases fractionText with
  | none => exact .intro (.digits wholeText) exponentText
  | point places =>
    have text : LooseText negative _ _ := .intro (.pointed wholeText places) exponentText
    rwa [List.append_assoc] at text

end Grammar

namespace Numeral
open Grammar

def scanMantissa (s : List Char) : List Char × List Char × List Char :=
  match (spanDigits s).2 with
  | '.' :: rest => ((spanDigits s).1, (spanDigits rest).1, (spanDigits rest).2)
  | rest => ((spanDigits s).1, [], rest)

theorem scanMantissa_point {s whole rest : List Char} (h : spanDigits s = (whole, '.' :: rest)) :
    scanMantissa s = (whole, (spanDigits rest).1, (spanDigits rest).2) := by
  simp only [scanMantissa, h]

theorem scanMantissa_whole {s whole rest : List Char} (h : spanDigits s = (whole, rest))
    (noPoint : rest.head? ≠ some '.') : scanMantissa s = (whole, [], rest) := by
  unfold scanMantissa
  rw [h]
  dsimp only
  split
  next => exact absurd rfl noPoint
  next => rfl

theorem scanMantissa_text {whole fraction mantissa rest : List Char}
    (h : MantissaText whole fraction mantissa) (stop : Stops extendsWhole rest) :
    scanMantissa (mantissa ++ rest) = (whole, fraction, rest) := by
  have digitStop : Stops Char.isDigit rest := FractionText.none.stops stop
  have noPoint : rest.head? ≠ some '.' := fun point => absurd (stop '.' point) (by decide)
  cases h with
  | digits text => exact scanMantissa_whole (spanDigits_run text digitStop) noPoint
  | pointLast text =>
    rw [List.append_assoc, List.singleton_append,
      scanMantissa_point (spanDigits_run text (Stops.cons rfl))]
    simp [spanDigits, digitStop.takeWhile, digitStop.dropWhile]
  | pointed text places =>
    rw [List.append_assoc, List.cons_append, scanMantissa_point (spanDigits_run text (Stops.cons rfl)),
      spanDigits_run places digitStop]
  | pointFirst places =>
    have span : spanDigits ('.' :: fraction ++ rest) = ([], '.' :: (fraction ++ rest)) := rfl
    rw [scanMantissa_point span, spanDigits_run places digitStop]

theorem scanMantissa_sound {s whole fraction rest : List Char}
    (h : scanMantissa s = (whole, fraction, rest)) (digit : whole ≠ [] ∨ fraction ≠ []) :
    ∃ mantissa, s = mantissa ++ rest ∧ MantissaText whole fraction mantissa := by
  rcases span : spanDigits s with ⟨digits, after⟩
  obtain ⟨rfl, text⟩ := spanDigits_split span
  by_cases point : after.head? = some '.'
  · obtain ⟨after, rfl⟩ := List.head?_eq_some_iff.1 point
    rcases places : spanDigits after with ⟨digits', rest'⟩
    obtain ⟨rfl, text'⟩ := spanDigits_split places
    rw [scanMantissa_point span, places] at h
    cases h
    by_cases noFraction : digits' = []
    · subst noFraction
      exact ⟨whole ++ ['.'], by simp, .pointLast (text (digit.resolve_right (by simp)))⟩
    · by_cases noWhole : whole = []
      · subst noWhole
        exact ⟨'.' :: digits', by simp, .pointFirst (text' noFraction)⟩
      · exact ⟨whole ++ '.' :: digits', by simp, .pointed (text noWhole) (text' noFraction)⟩
  · rw [scanMantissa_whole span point] at h
    cases h
    exact ⟨whole, rfl, .digits (text (digit.resolve_right (by simp)))⟩

end Numeral

theorem Numeral.toNumber_ne_nan (n : Numeral) : n.toNumber ≠ .nan := by
  rw [toNumber, Decimal.toNumber]
  split <;> simp

namespace Number
open Grammar Numeral
variable {negative : Bool} {s : List Char}

theorem head_loose {n : Numeral} (h : LooseText negative n s) :
    ∃ c tail, s = c :: tail ∧ (c.isDigit = true ∨ c = '.') := by
  have first {digits : List Char} (text : DigitsText digits) (rest : List Char) :
      ∃ c tail, digits ++ rest = c :: tail ∧ (c.isDigit = true ∨ c = '.') := by
    obtain ⟨d, ds, rfl⟩ := List.exists_cons_of_ne_nil text.nonempty
    exact ⟨d, ds ++ rest, rfl, .inl (text.run d List.mem_cons_self)⟩
  obtain ⟨mantissaText, -⟩ := h
  cases mantissaText with
  | digits text => exact first text _
  | pointLast text | pointed text _ =>
    rw [List.append_assoc]
    exact first text _
  | pointFirst places => exact ⟨'.', _, rfl, .inr rfl⟩

theorem toLower_of_isDigit {c : Char} (h : c.isDigit = true) : c.toLower = c := by
  rw [Char.isDigit_iff_toNat] at h
  have noLetter : ¬('A'.val ≤ c.val ∧ c.val ≤ 'Z'.val) := by
    rintro ⟨above, -⟩
    have letter : 'A'.toNat ≤ c.toNat := above
    have apart : '9'.toNat < 'A'.toNat := by decide
    omega
  exact dif_neg noLetter

theorem noWord_of_head {c : Char} (noI : c.toLower ≠ 'i') (noN : c.toLower ≠ 'n') (rest : List Char) :
    ¬WordForInfinity (c :: rest) ∧ lowerAscii (c :: rest) ≠ "nan".toList := by
  have front : lowerAscii (c :: rest) = c.toLower :: lowerAscii rest := rfl
  rw [WordForInfinity, front]
  simp [noI, noN]

theorem noWord_loose {n : Numeral} (h : LooseText negative n s) :
    ¬WordForInfinity s ∧ lowerAscii s ≠ "nan".toList := by
  obtain ⟨c, rest, rfl, digit | rfl⟩ := head_loose h
  · have same := toLower_of_isDigit digit
    apply noWord_of_head
    all_goals
      rw [same]
      rintro rfl
      exact absurd digit (by decide)
  · exact noWord_of_head (by decide) (by decide) rest

theorem isWord_iff :
    (decide (lowerAscii s = "inf".toList) || decide (lowerAscii s = "infinity".toList)) = true ↔
      WordForInfinity s := by
  rw [Bool.or_eq_true, decide_eq_true_iff, decide_eq_true_iff, WordForInfinity]

theorem readUnsigned?_word (h : WordForInfinity s) :
    readUnsigned? negative s = some (infinite negative) := by
  unfold readUnsigned?
  exact if_pos (isWord_iff.2 h)

theorem readUnsigned?_nan (h : lowerAscii s = "nan".toList) :
    readUnsigned? negative s = some nan := by
  have noWord : ¬WordForInfinity s := by
    rw [WordForInfinity, h]
    decide
  unfold readUnsigned?
  dsimp only
  rw [if_neg (mt isWord_iff.1 noWord)]
  exact if_pos h

theorem readUnsigned?_plain (noWord : ¬WordForInfinity s) (noNan : lowerAscii s ≠ "nan".toList)
    {whole fraction rest after : List Char} {power : Int}
    (mantissa : scanMantissa s = (whole, fraction, rest))
    (exponent : scanExponent rest = (power, after)) :
    readUnsigned? negative s =
      if whole.isEmpty && fraction.isEmpty then none
      else if after.isEmpty then some (Numeral.toNumber ⟨negative, whole, fraction, power⟩)
      else none := by
  unfold readUnsigned?
  dsimp only
  rw [if_neg (mt isWord_iff.1 noWord), if_neg noNan]
  rcases span : spanDigits s with ⟨digits, behind⟩
  by_cases point : behind.head? = some '.'
  · obtain ⟨behind, rfl⟩ := List.head?_eq_some_iff.1 point
    rw [scanMantissa_point span] at mantissa
    cases mantissa
    simp only [exponent]
    cases after <;> rfl
  · rw [scanMantissa_whole span point] at mantissa
    cases mantissa
    cases rest with
    | nil =>
      cases exponent
      rfl
    | cons c rest =>
      have noPoint : c ≠ '.' := fun same => point (congrArg some same)
      simp only [List.cons.injEq, noPoint, false_and, imp_false, not_false_eq_true, implies_true,
        exponent]
      cases after <;> rfl

theorem readUnsigned?_loose {n : Numeral} (h : LooseText negative n s) :
    readUnsigned? negative s = some n.toNumber := by
  obtain ⟨noWord, noNan⟩ := noWord_loose h
  obtain ⟨mantissaText, exponentText⟩ := h
  next whole fraction mantissa exponent power =>
  have stop := exponentText.stops Stops.nil
  rw [List.append_nil] at stop
  have scan := scanMantissa_text mantissaText stop
  have exponentScan := scanExponent_text exponentText Stops.nil
  rw [List.append_nil] at exponentScan
  have digit : (whole.isEmpty && fraction.isEmpty) = false := by
    cases mantissaText with
    | digits text | pointLast text | pointed text _ =>
      rw [List.isEmpty_eq_false_iff.2 text.nonempty, Bool.false_and]
    | pointFirst places => rw [List.isEmpty_eq_false_iff.2 places.nonempty, Bool.and_false]
  rw [readUnsigned?_plain noWord noNan scan exponentScan, digit]
  rfl

theorem readUnsigned?_sound {x : Number} (h : readUnsigned? negative s = some x) :
    (WordForInfinity s ∧ x = infinite negative) ∨ x = nan ∨
      ∃ n, LooseText negative n s ∧ x = n.toNumber := by
  by_cases word : WordForInfinity s
  · rw [readUnsigned?_word word, Option.some.injEq] at h
    exact .inl ⟨word, h.symm⟩
  by_cases nanWord : lowerAscii s = "nan".toList
  · rw [readUnsigned?_nan nanWord, Option.some.injEq] at h
    exact .inr (.inl h.symm)
  rcases scan : scanMantissa s with ⟨whole, fraction, rest⟩
  rcases power : scanExponent rest with ⟨power, after⟩
  rw [readUnsigned?_plain word nanWord scan power] at h
  split at h
  · cases h
  next digit =>
    have digit : whole ≠ [] ∨ fraction ≠ [] := by
      by_cases noWhole : whole = []
      · exact .inr fun noFraction => digit (by simp [noWhole, noFraction])
      · exact .inl noWhole
    obtain ⟨mantissa, rfl, mantissaText⟩ := scanMantissa_sound scan digit
    obtain ⟨exponent, same, exponentText⟩ := scanExponent_sound rest
    split at h
    next ends =>
      rw [power, List.isEmpty_iff.1 ends] at same exponentText
      rw [List.append_nil] at same
      rw [same]
      cases h
      exact .inr (.inr ⟨_, .intro mantissaText exponentText, rfl⟩)
    · cases h

theorem readUnsigned?_sign {c : Char} (sign : c = '-' ∨ c = '+') :
    readUnsigned? negative (c :: s) = none := by
  have noWord : ¬WordForInfinity (c :: s) ∧ lowerAscii (c :: s) ≠ "nan".toList := by
    rcases sign with rfl | rfl <;> exact noWord_of_head (by decide) (by decide) s
  have scan : scanMantissa (c :: s) = ([], [], c :: s) := by
    rcases sign with rfl | rfl <;> rfl
  rw [readUnsigned?_plain noWord.1 noWord.2 scan rfl]
  rfl

theorem read?_eq_some_iff {x : Number} :
    read? s = some x ↔
      ∃ negative sign rest, SignText negative sign ∧ s = sign ++ rest ∧
        readUnsigned? negative rest = some x := by
  constructor
  · intro h
    unfold read? at h
    split at h
    · exact ⟨true, ['-'], _, .minus, rfl, h⟩
    · exact ⟨false, ['+'], _, .plus, rfl, h⟩
    · exact ⟨false, [], s, .none, rfl, h⟩
  · rintro ⟨negative, sign, rest, mark, rfl, h⟩
    cases mark with
    | plus => exact h
    | minus => exact h
    | none =>
      rw [List.nil_append]
      unfold read?
      split
      next => rw [readUnsigned?_sign (.inl rfl)] at h; cases h
      next => rw [readUnsigned?_sign (.inr rfl)] at h; cases h
      next => exact h

theorem read?_text {n : Numeral} {text : List Char} (h : NumberText n text) :
    read? text = some n.toNumber := by
  rw [read?_eq_some_iff]
  cases h with
  | plain unsigned => exact ⟨false, [], text, .none, rfl, readUnsigned?_loose unsigned.loose⟩
  | minus unsigned => exact ⟨true, ['-'], _, .minus, rfl, readUnsigned?_loose unsigned.loose⟩

end Number
end PageExtract
