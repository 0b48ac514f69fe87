import PageExtract.Json.Parser
import PageExtract.Json.Printer
import PageExtract.Proofs.Decimals

/-! Integers are written with digits alone and all other numbers with a point or an exponent mark,
never with a needless zero in front. So each kind is read back as itself. -/
namespace PageExtract
open Grammar

def Grammar.PlainStart (s : List Char) : Prop := s.head? = some '0' → Stops Char.isDigit s.tail

theorem Grammar.PlainStart.zero {rest : List Char} (stop : Stops Char.isDigit rest) :
    PlainStart ('0' :: rest) := fun _ => stop

theorem Grammar.PlainStart.append {s : List Char} (nonempty : s ≠ []) (lead : s.head? ≠ some '0')
    (rest : List Char) : PlainStart (s ++ rest) := by
  obtain ⟨c, tail, rfl⟩ := List.exists_cons_of_ne_nil nonempty
  exact fun front => absurd front lead

theorem Grammar.UnsignedText.hasPlainWhole {negative : Bool} {n : Numeral} {text : List Char}
    (h : UnsignedText negative n text) (plain : PlainStart text) :
    Json.hasPlainWhole n.whole = true := by
  cases h with
  | intro wholeText _ _ =>
    dsimp only
    unfold Json.hasPlainWhole
    split
    next d _ =>
      have stop : d.isDigit = false := plain rfl d rfl
      rw [wholeText.run d (by simp)] at stop
      cases stop
    · rfl

namespace Decimal

theorem digitChars_zero : digitChars 0 = ['0'] := by
  rw [digitChars, Nat.toString_eq_repr, Nat.toList_repr]
  rfl

theorem digitChars_head (n : Nat) (positive : n ≠ 0) : (digitChars n).head? ≠ some '0' := by
  rw [digitChars, Nat.toString_eq_repr, Nat.toList_repr]
  induction n using Nat.strongRecOn with
  | ind n ih =>
    rw [Nat.toDigits_eq_if (by decide)]
    split
    next small =>
      have lead : ∀ m < 10, m ≠ 0 → Nat.digitChar m ≠ '0' := by decide
      simpa using lead n small positive
    next large =>
      have front := ih (n / 10) (by omega) (by omega)
      obtain ⟨d, ds, same⟩ := List.exists_cons_of_ne_nil (Nat.toDigits_ne_nil (n := n / 10) (b := 10))
      rw [same] at front ⊢
      exact front

theorem digitChars_plain (n : Nat) : PlainStart (digitChars n) := by
  by_cases positive : n = 0
  · rw [positive, digitChars_zero]
    exact PlainStart.zero Stops.nil
  · have plain := PlainStart.append (digitChars_text n).nonempty (digitChars_head n positive) []
    rwa [List.append_nil] at plain

theorem positional_whole {d : Decimal} (left : 0 ≤ d.exponent) :
    ∃ zeros, d.positional = digitChars d.digits ++ List.replicate zeros '0' ∧
      d.digits * Nat.pow 10 zeros = d.digits * Nat.pow 10 d.exponent.toNat ∧
      (d.digits = 0 → zeros = 0) := by
  unfold positional
  simp only [ge_iff_le, left, ↓reduceIte]
  split
  next zero => exact ⟨0, by simp [zero]⟩
  next positive => exact ⟨d.exponent.toNat, rfl, rfl, fun zero => absurd zero positive⟩

theorem positional_point {d : Decimal} (right : d.exponent < 0) :
    ∃ whole fraction, d.positional = whole ++ '.' :: fraction ∧
      (whole = ['0'] ∨ whole ≠ [] ∧ whole.head? ≠ some '0') := by
  unfold positional
  simp only [ge_iff_le, Int.not_le.2 right, ↓reduceIte]
  refine ⟨_, _, rfl, ?_⟩
  by_cases short : (digitChars d.digits).length ≤ (-d.exponent).toNat
  -- Zeros fill up the places behind the point and one in front of it.
  · left
    have length : (List.replicate ((-d.exponent).toNat + 1 - (digitChars d.digits).length) '0'
        ++ digitChars d.digits).length - (-d.exponent).toNat = 1 := by
      rw [List.length_append, List.length_replicate]
      omega
    obtain ⟨zeros, some⟩ := Nat.exists_eq_add_of_lt
      (show 0 < (-d.exponent).toNat + 1 - (digitChars d.digits).length by omega)
    rw [length, some, Nat.zero_add, List.replicate_succ]
    rfl
  · right
    have none : (-d.exponent).toNat + 1 - (digitChars d.digits).length = 0 := by omega
    have positive : d.digits ≠ 0 := by
      intro zero
      rw [zero, digitChars_zero, List.length_singleton] at short
      omega
    rw [none, List.replicate_zero, List.nil_append]
    have some : 0 < (digitChars d.digits).length - (-d.exponent).toNat := by omega
    refine ⟨?_, ?_⟩
    · apply List.ne_nil_of_length_pos
      rw [List.length_take]
      omega
    · rw [List.head?_take, if_neg (by omega)]
      exact digitChars_head d.digits positive

theorem scientific_cons (d : Decimal) :
    ∃ lead rest, d.scientific = lead :: rest ∧ Stops Char.isDigit rest ∧ 'e' ∈ rest := by
  unfold scientific
  split
  next none => exact absurd none (digitChars_text d.digits).nonempty
  next lead rest _ =>
    refine ⟨lead, _, rfl, ?_, ?_⟩
    · cases rest <;> exact Stops.cons rfl
    · simp

theorem pointZero_text (negative : Bool) {whole : List Char} {d : Decimal} (text : DigitsText whole)
    (left : 0 ≤ d.exponent)
    (value : Numeral.naturalOf whole = d.digits * Nat.pow 10 d.exponent.toNat) :
    ∃ n, UnsignedText negative n (whole ++ ['.', '0']) ∧
      n.toDecimal.toMagnitude? = d.toMagnitude? := by
  have zero : DigitsText ['0'] := ⟨by decide, by simp [IsDigit]⟩
  have numeral : UnsignedText negative _ _ := .intro text (.point zero) .none
  rw [List.append_nil] at numeral
  refine ⟨_, numeral, ?_⟩
  have places : (-d.exponent).toNat = 0 := by omega
  have behind : Numeral.naturalOf (whole ++ ['0']) = 10 * Numeral.naturalOf whole := by
    simp [Numeral.naturalOf, Numeral.digitValue]
  have shifted := toMagnitude?_zero_behind (Numeral.naturalOf whole) (-1)
  rw [← behind] at shifted
  calc toMagnitude? ⟨Numeral.naturalOf (whole ++ ['0']), -1⟩
      = toMagnitude? ⟨Numeral.naturalOf whole, 0⟩ := shifted
    _ = d.toMagnitude? := toMagnitude?_congr (by simp [ratio, value, places])

theorem scientific_text (negative : Bool) (d : Decimal) :
    ∃ n, UnsignedText negative n d.scientific ∧ n.toDecimal = d := by
  have text := digitChars_text d.digits
  have value := naturalOf_digitChars d.digits
  unfold scientific
  split
  next none => exact absurd none text.nonempty
  next lead rest same =>
    rw [same] at text value
    have whole : DigitsText [lead] := ⟨by simp, fun c hc => text.digits c (by simp_all)⟩
    have fraction : FractionText rest (if rest.isEmpty then [] else '.' :: rest) := by
      cases rest with
      | nil => exact .none
      | cons c rest => exact .point ⟨by simp, fun e he => text.digits e (List.mem_cons_of_mem _ he)⟩
    have exponent : ExponentText (d.exponent + rest.length)
        ('e' :: (if d.exponent + rest.length < 0 then '-' else '+') ::
          digitChars (d.exponent + rest.length).natAbs) := by
      have digits := digitChars_text (d.exponent + rest.length).natAbs
      have power := naturalOf_digitChars (d.exponent + rest.length).natAbs
      split
      next below =>
        have mark := ExponentText.minus (.inl rfl) digits
        rwa [power, Int.ofNat_natAbs_of_nonpos (by omega), Int.neg_neg] at mark
      next above =>
        have mark := ExponentText.plus (.inl rfl) digits
        rwa [power, Int.natAbs_of_nonneg (by omega)] at mark
    have numeral : UnsignedText negative _ _ := .intro whole fraction exponent
    refine ⟨_, by simpa using numeral, ?_⟩
    simp [Numeral.toDecimal, value]

end Decimal

namespace Json
open Decimal

theorem decimalChars_cases (d : Decimal) :
    (0 ≤ d.exponent ∧ decimalChars d = d.positional ++ ['.', '0']) ∨
      (d.exponent < 0 ∧ decimalChars d = d.positional) ∨ decimalChars d = d.scientific := by
  unfold decimalChars
  dsimp only
  split
  · split
    next left => exact .inl ⟨left, rfl⟩
    next right => exact .inr (.inl ⟨Int.not_le.1 right, rfl⟩)
  · exact .inr (.inr rfl)

theorem decimalChars_text (negative : Bool) (d : Decimal) :
    ∃ n, UnsignedText negative n (decimalChars d) ∧
      n.toDecimal.toMagnitude? = d.toMagnitude? := by
  rcases decimalChars_cases d with ⟨left, same⟩ | ⟨right, same⟩ | same <;> rw [same]
  · obtain ⟨zeros, digits, value, -⟩ := positional_whole left
    rw [digits]
    apply pointZero_text negative (digitsText_zeros_behind _ _) left
    rw [naturalOf_zeros_behind, value]
  · exact positional_text negative d
  · obtain ⟨n, text, same⟩ := scientific_text negative d
    exact ⟨n, text, congrArg _ same⟩

theorem decimalChars_plain (d : Decimal) : PlainStart (decimalChars d) := by
  rcases decimalChars_cases d with ⟨left, same⟩ | ⟨right, same⟩ | same <;> rw [same]
  · obtain ⟨zeros, digits, -, none⟩ := positional_whole left
    rw [digits]
    by_cases zero : d.digits = 0
    · rw [zero, none zero, digitChars_zero]
      exact PlainStart.zero (Stops.cons rfl)
    · rw [List.append_assoc]
      exact PlainStart.append (digitChars_text d.digits).nonempty (digitChars_head d.digits zero) _
  · obtain ⟨whole, fraction, same, rfl | ⟨nonempty, lead⟩⟩ := positional_point right
    · rw [same]
      exact PlainStart.zero (Stops.cons rfl)
    · rw [same]
      exact PlainStart.append nonempty lead _
  · obtain ⟨lead, rest, same, stop, -⟩ := scientific_cons d
    rw [same]
    exact fun _ => stop

def isIntegerChar (c : Char) : Bool := c.isDigit || c == '-'

theorem digitChars_unmarked (n : Nat) : (digitChars n).all isIntegerChar = true := by
  rw [List.all_eq_true]
  intro c hc
  rw [isIntegerChar, (digitChars_text n).run c hc, Bool.true_or]

theorem decimalChars_marked (d : Decimal) : (decimalChars d).all isIntegerChar = false := by
  rw [List.all_eq_false]
  rcases decimalChars_cases d with ⟨-, same⟩ | ⟨right, same⟩ | same
  · exact ⟨'.', by simp [same], by decide⟩
  · obtain ⟨whole, fraction, point, -⟩ := positional_point right
    exact ⟨'.', by simp [same, point], by decide⟩
  · obtain ⟨lead, rest, cons, -, mark⟩ := scientific_cons d
    exact ⟨'e', by simp [same, cons, mark], by decide⟩

theorem endsNumber_of_stops {rest : List Char} (stop : Stops extendsNumeral rest) :
    endsNumber rest = true := by
  unfold endsNumber
  split
  · exact absurd (stop _ rfl) (by decide)
  · exact absurd (stop _ rfl) (by decide)
  · exact absurd (stop _ rfl) (by decide)
  · rfl

/-- A numeral is read up to its end, as an integer if all of it looks like one. -/
theorem numeral?_text {n : Numeral} {text rest : List Char} (h : NumberText n text)
    (plain : hasPlainWhole n.whole = true) (stop : Stops extendsNumeral rest) :
    numeral? (text ++ rest) = some (if text.all isIntegerChar then
      .integer (if n.negative then -(Numeral.naturalOf n.whole : Int) else Numeral.naturalOf n.whole)
      else .number n.toNumber, rest) := by
  -- The kind of the number is seen from the characters that are gone.
  have consumed : (text ++ rest).take ((text ++ rest).length - rest.length) = text := by simp
  simp only [numeral?, Numeral.scan?_text h stop, plain, endsNumber_of_stops stop, Bool.and_self,
    ↓reduceIte, consumed]
  change (if text.all isIntegerChar = true then _ else _) = _
  split <;> rfl

theorem numberText_chars (negative : Bool) (a : Magnitude) :
    (numberText (.finite negative a)).toList =
      (if negative then ['-'] else []) ++ decimalChars (shortest .even a) := by
  cases negative <;> simp [numberText]

theorem numeral?_numberText (negative : Bool) (a : Magnitude) {rest : List Char}
    (stop : Stops extendsNumeral rest) :
    numeral? ((numberText (.finite negative a)).toList ++ rest) =
      some (.number (.finite negative a), rest) := by
  obtain ⟨n, text, same⟩ := decimalChars_text negative (shortest .even a)
  rw [toMagnitude?_shortest] at same
  have plain := text.hasPlainWhole (decimalChars_plain _)
  have marked := decimalChars_marked (shortest .even a)
  have value := Number.toNumber_of_toMagnitude? text same
  rw [numberText_chars]
  cases negative with
  | false =>
    have read := numeral?_text (.plain text) plain stop
    rw [marked, value] at read
    exact read
  | true =>
    have read := numeral?_text (.minus text) plain stop
    rw [List.all_cons, marked, value, Bool.and_false] at read
    exact read

theorem digitChars_unsigned (negative : Bool) (n : Nat) :
    UnsignedText negative ⟨negative, digitChars n, [], 0⟩ (digitChars n) := by
  have numeral : UnsignedText negative _ _ := .intro (digitChars_text n) .none .none
  simpa using numeral

theorem integer_chars (n : Int) :
    (toString n).toList = (if n < 0 then ['-'] else []) ++ digitChars n.natAbs := by
  rw [Int.toString_eq_repr, Int.repr_eq_if]
  split
  next above =>
    rw [if_neg (by omega), show n.natAbs = n.toNat by omega]
    simp [digitChars]
  next below =>
    rw [if_pos (by omega), show n.natAbs = (-n).toNat by omega]
    simp [digitChars]

theorem numeral?_integer (n : Int) {rest : List Char} (stop : Stops extendsNumeral rest) :
    numeral? ((toString n).toList ++ rest) = some (.integer n, rest) := by
  have value := naturalOf_digitChars n.natAbs
  have text (negative : Bool) := digitChars_unsigned negative n.natAbs
  have plain := (text false).hasPlainWhole (digitChars_plain _)
  have whole := digitChars_unmarked n.natAbs
  rw [integer_chars]
  split
  next below =>
    have read := numeral?_text (.minus (text true)) plain stop
    rw [List.all_cons, whole, value] at read
    simpa [isIntegerChar, Int.ofNat_natAbs_of_nonpos (Int.le_of_lt below)] using read
  next above =>
    have read := numeral?_text (.plain (text false)) plain stop
    rw [whole, value] at read
    simpa [Int.natAbs_of_nonneg (Int.not_lt.1 above)] using read

theorem head_unsigned {negative : Bool} {n : Numeral} {text : List Char}
    (h : UnsignedText negative n text) (sign : Prop) [Decidable sign] :
    ∃ c tail, (if sign then ['-'] else []) ++ text = c :: tail ∧ isIntegerChar c = true := by
  obtain ⟨d, tail, rfl, digit⟩ := Numeral.head?_unsigned h
  split
  · exact ⟨'-', d :: tail, rfl, rfl⟩
  · exact ⟨d, tail, rfl, by rw [isIntegerChar, digit, Bool.true_or]⟩

theorem integer_head (n : Int) :
    ∃ c tail, (toString n).toList = c :: tail ∧ isIntegerChar c = true := by
  rw [integer_chars]
  exact head_unsigned (digitChars_unsigned false n.natAbs) (n < 0)

theorem numberText_head (negative : Bool) (a : Magnitude) :
    ∃ c tail, (numberText (.finite negative a)).toList = c :: tail ∧ isIntegerChar c = true := by
  obtain ⟨n, text, -⟩ := decimalChars_text negative (shortest .even a)
  rw [numberText_chars]
  exact head_unsigned text (negative = true)

end Json
end PageExtract
