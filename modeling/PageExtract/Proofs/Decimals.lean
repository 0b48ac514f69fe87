import PageExtract.Proofs.Numerals
import PageExtract.Proofs.Rounding

/-! The fewest digits that tell a number from others read back to it, and the plain form of a
number is a numeral of the grammar. Only the sign of a zero is lost. -/
namespace PageExtract

namespace Decimal
open Magnitude Grammar

theorem toMagnitude?_strip (fuel : Nat) (d : Decimal) :
    (strip fuel d).toMagnitude? = d.toMagnitude? := by
  induction fuel generalizing d with
  | zero => rfl
  | succ fuel ih =>
    unfold strip
    split
    next zero =>
      simp only [Bool.and_eq_true, beq_iff_eq] at zero
      rw [ih, ← toMagnitude?_zero_behind, Nat.mul_div_cancel' (Nat.dvd_of_mod_eq_zero zero.2)]
    · rfl

theorem toMagnitude?_onGrid {tie : Tie} {a : Magnitude} {exponent : Int} {d : Decimal}
    (h : onGrid? tie a exponent = some d) : d.toMagnitude? = some a := by
  have pick (x : Decimal) (reads : (x.toMagnitude? == some a) = true) (same : some x = some d) :
      d.toMagnitude? = some a := by
    cases same
    exact eq_of_beq reads
  unfold onGrid? at h
  split at h
  next low high half _ =>
    dsimp only at h
    split at h
    next both =>
      rw [Bool.and_eq_true] at both
      split at h
      · exact pick low both.1 h
      · exact pick high both.2 h
      · exact pick high both.2 h
      · split at h
        · exact pick low both.1 h
        · exact pick high both.2 h
    split at h
    next reads => exact pick low reads h
    split at h
    next reads => exact pick high reads h
    cases h

theorem toMagnitude?_fives (a : Magnitude) {n : Nat} (h : unitsPerOne = Nat.pow 2 n) :
    toMagnitude? ⟨a.units * Nat.pow 5 n, -(n : Int)⟩ = some a := by
  have whole : (-(n : Int)).toNat = 0 := by omega
  have places : (- -(n : Int)).toNat = n := by omega
  have tens : Nat.pow 5 n * Nat.pow 2 n = Nat.pow 10 n := (Nat.mul_pow 5 2 n).symm
  rw [toMagnitude?_eq]
  simp only [ratio, whole, places, h]
  rw [show Nat.pow 10 0 = 1 from rfl, Nat.mul_one, Nat.mul_assoc, tens]
  exact ofRatio?_units a (Nat.pow_pos (by decide))

theorem toMagnitude?_exact (a : Magnitude) : (exact a).toMagnitude? = some a := by
  rw [exact, show (-1074 : Int) = -((1074 : Nat) : Int) from rfl]
  apply toMagnitude?_fives
  unfold unitsPerOne
  generalize 1074 = n
  rfl

theorem toMagnitude?_shortest (tie : Tie) (a : Magnitude) :
    (shortest tie a).toMagnitude? = some a := by
  unfold shortest
  split
  next zero => rw [units_eq_zero_iff.1 zero]; rfl
  · dsimp only
    split
    next d found =>
      obtain ⟨n, -, onGrid⟩ := List.exists_of_findSome?_eq_some found
      rw [toMagnitude?_strip, toMagnitude?_onGrid onGrid]
    · exact toMagnitude?_exact a

theorem naturalOf_digitChars (n : Nat) : Numeral.naturalOf (digitChars n) = n := by
  rw [digitChars, Nat.toString_eq_repr, Nat.toList_repr]
  exact Nat.ofDigitChars_ten_toDigits

theorem digitChars_text (n : Nat) : DigitsText (digitChars n) := by
  rw [digitChars, Nat.toString_eq_repr, Nat.toList_repr]
  exact ⟨Nat.toDigits_ne_nil, fun c hc =>
    isDigit_iff.1 (Nat.isDigit_of_mem_toDigits (by decide) (by decide) hc)⟩

theorem naturalOf_zeros_behind (n zeros : Nat) :
    Numeral.naturalOf (digitChars n ++ List.replicate zeros '0') = n * Nat.pow 10 zeros := by
  change Nat.ofDigitChars 10 _ 0 = _
  rw [Nat.ofDigitChars_append, Nat.ofDigitChars_replicate_zero, Nat.mul_comm]
  exact congrArg (· * _) (naturalOf_digitChars n)

theorem naturalOf_zeros_before (n zeros : Nat) :
    Numeral.naturalOf (List.replicate zeros '0' ++ digitChars n) = n := by
  change Nat.ofDigitChars 10 _ 0 = _
  rw [Nat.ofDigitChars_append, Nat.ofDigitChars_replicate_zero, Nat.mul_zero]
  exact naturalOf_digitChars n

theorem isDigit_of_mem_replicate {c : Char} {n : Nat} (h : c ∈ List.replicate n '0') :
    IsDigit c := by
  rw [List.eq_of_mem_replicate h]
  exact isDigit_iff.1 rfl

theorem digitsText_zeros_behind (n zeros : Nat) :
    DigitsText (digitChars n ++ List.replicate zeros '0') where
  nonempty := List.append_ne_nil_of_left_ne_nil (digitChars_text n).nonempty _
  digits _ hc := (List.mem_append.1 hc).elim ((digitChars_text n).digits _) isDigit_of_mem_replicate

theorem wholeText (negative : Bool) {whole : List Char} {d : Decimal} (text : DigitsText whole)
    (left : 0 ≤ d.exponent) (value : Numeral.naturalOf whole = d.digits * Nat.pow 10 d.exponent.toNat) :
    ∃ n, UnsignedText negative n whole ∧ n.toDecimal.toMagnitude? = d.toMagnitude? := by
  refine ⟨⟨negative, whole, [], 0⟩, ?_, ?_⟩
  · have numeral : UnsignedText negative _ _ := .intro text .none .none
    simpa using numeral
  · have places : (-d.exponent).toNat = 0 := by omega
    apply toMagnitude?_congr
    simp [Numeral.toDecimal, ratio, value, places]

theorem pointText (negative : Bool) (d : Decimal) {padded : List Char} {places : Nat}
    (digits : ∀ c ∈ padded, IsDigit c) (value : Numeral.naturalOf padded = d.digits)
    (right : d.exponent = -(places : Int)) (some : 0 < places) (long : places < padded.length) :
    ∃ n, UnsignedText negative n
        (padded.take (padded.length - places) ++ '.' :: padded.drop (padded.length - places)) ∧
      n.toDecimal = d := by
  have whole : DigitsText (padded.take (padded.length - places)) := by
    refine ⟨?_, fun c hc => digits c (List.mem_of_mem_take hc)⟩
    apply List.ne_nil_of_length_pos
    rw [List.length_take]
    omega
  have fraction : DigitsText (padded.drop (padded.length - places)) := by
    refine ⟨?_, fun c hc => digits c (List.mem_of_mem_drop hc)⟩
    apply List.ne_nil_of_length_pos
    rw [List.length_drop]
    omega
  have numeral : UnsignedText negative _ _ := .intro whole (.point fraction) .none
  rw [List.append_nil] at numeral
  refine ⟨_, numeral, ?_⟩
  have length : padded.length - (padded.length - places) = places := by omega
  simp [Numeral.toDecimal, value, length, ← right]

theorem positional_text (negative : Bool) (d : Decimal) :
    ∃ n, UnsignedText negative n d.positional ∧
      n.toDecimal.toMagnitude? = d.toMagnitude? := by
  unfold positional
  dsimp only
  split
  next left =>
    split
    next zero =>
      apply wholeText negative (digitChars_text d.digits) left
      rw [naturalOf_digitChars, zero, Nat.zero_mul]
    · exact wholeText negative (digitsText_zeros_behind _ _) left (naturalOf_zeros_behind _ _)
  next right =>
    have long : (-d.exponent).toNat < (List.replicate ((-d.exponent).toNat + 1 -
        (digitChars d.digits).length) '0' ++ digitChars d.digits).length := by
      rw [List.length_append, List.length_replicate]
      omega
    obtain ⟨n, text, same⟩ := pointText negative d
      (fun c hc => (List.mem_append.1 hc).elim isDigit_of_mem_replicate
        ((digitChars_text d.digits).digits c))
      (naturalOf_zeros_before _ _) (by omega) (by omega) long
    exact ⟨n, text, by rw [same]⟩

end Decimal

namespace Number
open Grammar

/-- The number with the sign of a zero left out. -/
def unsignedZero : Number → Number
  | finite negative a => finite (negative && a.units != 0) a
  | n => n

theorem toNumber_of_toMagnitude? {negative : Bool} {n : Numeral} {text : List Char} {a : Magnitude}
    (h : UnsignedText negative n text) (reads : n.toDecimal.toMagnitude? = some a) :
    n.toNumber = finite negative a := by
  cases h
  rw [Numeral.toNumber, Decimal.toNumber, reads]

theorem toMagnitude?_floor {a : Magnitude} (h : a.isIntegral = true) :
    Decimal.toMagnitude? ⟨a.floor, 0⟩ = some a := by
  have units := Magnitude.ofRatio?_units a (k := 1) (by decide)
  rw [Nat.mul_one, ← Magnitude.floor_mul_of_isIntegral h] at units
  rw [Decimal.toMagnitude?_eq]
  simpa [Decimal.ratio] using units

theorem format_unsigned (negative : Bool) (a : Magnitude) :
    ∃ n, UnsignedText negative n (format (finite false a)).toList ∧
      n.toNumber = finite negative a := by
  simp only [format, Bool.false_and, Bool.false_eq_true, ↓reduceIte, String.empty_append]
  split
  next integral =>
    rw [Bool.and_eq_true] at integral
    obtain ⟨n, text, same⟩ := Decimal.wholeText negative (d := ⟨a.floor, 0⟩)
      (Decimal.digitChars_text a.floor) (Int.le_refl 0)
      (by rw [Decimal.naturalOf_digitChars]; exact (Nat.mul_one _).symm)
    exact ⟨n, text, toNumber_of_toMagnitude? text (same.trans (toMagnitude?_floor integral.1))⟩
  · obtain ⟨n, text, same⟩ := Decimal.positional_text negative (Decimal.shortest .up a)
    rw [Decimal.toMagnitude?_shortest] at same
    exact ⟨n, by rwa [String.toList_ofList], toNumber_of_toMagnitude? text same⟩

theorem format_sign (negative : Bool) (a : Magnitude) :
    (format (finite negative a)).toList =
      (if negative && a.units != 0 then ['-'] else []) ++ (format (finite false a)).toList := by
  simp only [format, Bool.false_and, Bool.false_eq_true, ↓reduceIte, String.empty_append]
  split <;> split <;> simp

theorem format_finite (negative : Bool) (a : Magnitude) :
    ∃ n, NumberText n (format (finite negative a)).toList ∧
      n.toNumber = (finite negative a).unsignedZero := by
  rw [format_sign, unsignedZero]
  cases negative && a.units != 0 with
  | false =>
    obtain ⟨n, text, same⟩ := format_unsigned false a
    exact ⟨n, .plain text, same⟩
  | true =>
    obtain ⟨n, text, same⟩ := format_unsigned true a
    exact ⟨n, .minus text, same⟩

end Number
end PageExtract
