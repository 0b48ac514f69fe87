import Mathlib
import PageExtract.Proofs.BinaryArithmetic
import PageExtract.Proofs.JsonPrinting
import PageExtract.Proofs.Reloading

/-! The plain form of a number and its JSON form are both read back as a number equal to it. JSON
has no form for numbers that are not finite, and writes the integral ones below `2 ^ 53` as
integers. -/
namespace PageExtract

namespace Magnitude
variable {a b : Magnitude}

def value (a : Magnitude) : ℚ := a.units / unitsPerOne

theorem unitsPerOne_ne_zero : (unitsPerOne : ℚ) ≠ 0 := by
  exact_mod_cast unitsPerOne_pos.ne'

theorem value_nonneg (a : Magnitude) : 0 ≤ a.value :=
  div_nonneg (Nat.cast_nonneg _) (Nat.cast_nonneg _)

theorem value_mul (a : Magnitude) : a.value * unitsPerOne = a.units :=
  div_mul_cancel₀ _ unitsPerOne_ne_zero

theorem value_inj : a.value = b.value ↔ a.units = b.units := by
  rw [value, value, div_left_inj' unitsPerOne_ne_zero, Nat.cast_inj]

theorem value_eq_zero : a.value = 0 ↔ a.units = 0 := by
  rw [value, div_eq_zero_iff, or_iff_left unitsPerOne_ne_zero, Nat.cast_eq_zero]

theorem value_of_isIntegral (h : a.isIntegral = true) : a.value = a.floor := by
  rw [value, div_eq_iff unitsPerOne_ne_zero]
  exact_mod_cast (floor_mul_of_isIntegral h).symm

theorem value_natural (n : ℕ) (h : n ≤ Nat.pow 2 53) : (natural n h).value = n := by
  rw [value, units_natural, Nat.cast_mul, mul_div_cancel_right₀ _ unitsPerOne_ne_zero]

theorem isIntegral_of_value {k : ℤ} (h : a.value = k) : a.isIntegral = true := by
  have units : (a.units : ℤ) = k * unitsPerOne := by
    have scaled := a.value_mul
    rw [h] at scaled
    exact_mod_cast scaled.symm
  have whole : unitsPerOne ∣ a.units := Int.natCast_dvd_natCast.1 ⟨k, units.trans (mul_comm _ _)⟩
  exact beq_iff_eq.2 (Nat.mod_eq_zero_of_dvd whole)

def signed (negative : Bool) (a : Magnitude) : ℚ := if negative then -a.value else a.value

@[simp] theorem signed_false (a : Magnitude) : signed false a = a.value := rfl

@[simp] theorem signed_true (a : Magnitude) : signed true a = -a.value := rfl

theorem neg_value_eq_value : -a.value = b.value ↔ a.units = b.units ∧ a.units = 0 := by
  constructor
  · intro opposite
    have none : a.value = 0 := by linarith [a.value_nonneg, b.value_nonneg]
    have none' : b.value = 0 := by rw [← opposite, none, neg_zero]
    rw [value_eq_zero] at none none'
    exact ⟨none.trans none'.symm, none⟩
  · rintro ⟨same, none⟩
    rw [value_eq_zero.2 none, value_eq_zero.2 (same ▸ none), neg_zero]

theorem signed_inj {s t : Bool} :
    signed s a = signed t b ↔ a.units = b.units ∧ (s = t ∨ a.units = 0) := by
  cases s <;> cases t
  · simp [value_inj]
  · rw [eq_comm, signed_true, signed_false, neg_value_eq_value]
    constructor <;> rintro ⟨same, none⟩
    · exact ⟨same.symm, .inr (same ▸ none)⟩
    · exact ⟨same.symm, same ▸ none.resolve_left Bool.false_ne_true⟩
  · simp [neg_value_eq_value]
  · simp [value_inj]

theorem signed_of_isIntegral (negative : Bool) (h : a.isIntegral = true) :
    signed negative a = ((if negative then -(a.floor : ℤ) else a.floor : ℤ) : ℚ) := by
  cases negative <;> simp [value_of_isIntegral h]

theorem isIntegral_of_signed {negative : Bool} {k : ℤ} (h : signed negative a = k) :
    a.isIntegral = true := by
  cases negative with
  | false => exact isIntegral_of_value h
  | true =>
    have opposite : a.value = (-k : ℤ) := by
      rw [Int.cast_neg, ← h, signed_true, neg_neg]
    exact isIntegral_of_value opposite

end Magnitude

namespace Blank

theorem trim_solid {s : List Char} (h : ∀ c ∈ s, isBlank c = false) : trim s = s := by
  have trimmed : Trimmed s :=
    ⟨fun c hc => h c (List.mem_of_head? hc), fun c hc => h c (List.mem_of_getLast? hc)⟩
  have none : ∀ c ∈ ([] : List Char), isBlank c = true := by simp
  simpa using trim_append trimmed none

theorem isBlank_of_graphic {c : Char} (above : 0x20 < c.toNat) (below : c.toNat < 0x7F) :
    isBlank c = false := by
  simp [isBlank, ranges]
  omega

theorem isBlank_of_isDigit {c : Char} (h : c.isDigit = true) : isBlank c = false := by
  rw [Char.isDigit_iff_toNat] at h
  have zero : '0'.toNat = 48 := by decide
  have nine : '9'.toNat = 57 := by decide
  exact isBlank_of_graphic (by omega) (by omega)

end Blank

namespace Number
open Grammar
variable {m n : Number}

def value? : Number → Option ℚ
  | finite negative a => some (a.signed negative)
  | _ => none

theorem value?_finite (negative : Bool) (a : Magnitude) :
    (finite negative a).value? = some (a.signed negative) := rfl

theorem equals_finite {s t : Bool} {a b : Magnitude} :
    (finite s a).equals (finite t b) = true ↔ a.units = b.units ∧ (s = t ∨ a.units = 0) := by
  simp [equals]

theorem equals_iff_value? :
    m.equals n = true ↔
      (∃ q, m.value? = some q ∧ n.value? = some q) ∨
        ∃ negative, m = infinite negative ∧ n = infinite negative := by
  cases m with
  | nan => simp [equals, value?]
  | infinite s =>
    cases n with
    | infinite t => cases s <;> cases t <;> simp [equals, value?]
    | _ => simp [equals, value?]
  | finite s a =>
    cases n with
    | finite t b =>
      rw [equals_finite, ← Magnitude.signed_inj]
      simp [value?, eq_comm]
    | _ => simp [equals, value?]

theorem value?_of_equals (h : m.equals n = true) : m.value? = n.value? := by
  rcases equals_iff_value?.1 h with ⟨q, first, second⟩ | ⟨negative, rfl, rfl⟩
  · rw [first, second]
  · rfl

theorem equals_iff_unsignedZero :
    m.equals n = true ↔ m ≠ nan ∧ m.unsignedZero = n.unsignedZero := by
  cases m with
  | nan => simp [equals]
  | infinite s =>
    cases n <;> simp [equals, unsignedZero]
  | finite s a =>
    cases n with
    | finite t b =>
      have units : a = b ↔ a.units = b.units :=
        ⟨fun same => same ▸ rfl, fun same => Magnitude.eq_of_units same⟩
      rw [equals_finite]
      simp only [unsignedZero, ne_eq, reduceCtorEq, not_false_eq_true, true_and, finite.injEq, units]
      rw [and_comm]
      refine and_congr_left fun same => ?_
      rw [← same]
      by_cases zero : a.units = 0
      · simp [zero]
      · have some : (a.units != 0) = true := bne_iff_ne.2 zero
        simp [zero, some]
    | _ => simp [equals, unsignedZero]

theorem solid_numeral {numeral : Numeral} {text : List Char} (h : NumberText numeral text) :
    ∀ c ∈ text, Blank.isBlank c = false := by
  have graphic : ∀ c ∈ ['.', 'e', 'E', '+', '-'], 0x20 < c.toNat ∧ c.toNat < 0x7F := by simp
  have unsigned {negative : Bool} {text : List Char} (h : UnsignedText negative numeral text) :
      ∀ c ∈ text, Blank.isBlank c = false := by
    intro c hc
    rcases h.chars c hc with digit | marked
    · exact Blank.isBlank_of_isDigit digit
    · exact Blank.isBlank_of_graphic (graphic c marked).1 (graphic c marked).2
  intro c hc
  cases h with
  | plain text => exact unsigned text c hc
  | minus text =>
    rcases List.mem_cons.1 hc with rfl | hc
    · rfl
    · exact unsigned text c hc

theorem nonempty_numeral {numeral : Numeral} {text : List Char} (h : NumberText numeral text) :
    text ≠ [] := by
  cases h with
  | plain text =>
    obtain ⟨d, tail, rfl, -⟩ := Numeral.head?_unsigned text
    exact List.cons_ne_nil d tail
  | minus text => exact List.cons_ne_nil _ _

theorem ofText_numeral {s : String} {numeral : Numeral} (h : NumberText numeral s.toList) :
    ofText s = numeral.toNumber := by
  rw [ofText, Blank.trim_solid (solid_numeral h)]
  split
  next none => exact absurd none (nonempty_numeral h)
  next => rw [read?_text h, Option.getD_some]

theorem ofText_format (n : Number) : ofText n.format = n.unsignedZero := by
  cases n with
  | nan => rfl
  | infinite negative => cases negative <;> rfl
  | finite negative a =>
    obtain ⟨numeral, text, same⟩ := format_finite negative a
    rw [ofText_numeral text, same]

theorem format_inj : m.format = n.format ↔ m.equals n = true ∨ m = nan ∧ n = nan := by
  have forms : m.format = n.format ↔ m.unsignedZero = n.unsignedZero := by
    constructor
    · intro same
      rw [← ofText_format, same, ofText_format]
    · intro same
      rw [← format_unsignedZero, same, format_unsignedZero]
  rw [forms, equals_iff_unsignedZero]
  cases m with
  | nan => cases n <;> simp [unsignedZero]
  | _ => simp

end Number

namespace Json
open Grammar Number

def Value.rational? : Value → Option ℚ
  | .integer k => some k
  | .number n => n.value?
  | _ => none

theorem integer_unmarked (k : ℤ) : (toString k).toList.all isIntegerChar = true := by
  rw [integer_chars, List.all_append, digitChars_unmarked, Bool.and_true]
  split <;> rfl

theorem numberText_marked (negative : Bool) (a : Magnitude) :
    (numberText (.finite negative a)).toList.all isIntegerChar = false := by
  rw [numberText_chars, List.all_append, decimalChars_marked, Bool.and_false]

theorem toString_floor {a : Magnitude} (negative : Bool) (integral : a.isIntegral = true)
    (small : a.floor < plainIntegralBound) :
    toString (if negative then -(a.floor : ℤ) else a.floor) = (finite negative a).format := by
  have zero : a.units = 0 ↔ a.floor = 0 := by
    rw [← Magnitude.floor_mul_of_isIntegral integral, Nat.mul_eq_zero,
      or_iff_left Magnitude.unitsPerOne_pos.ne']
  have plain : (format (finite false a)).toList = Decimal.digitChars a.floor := by
    simp [format, integral, small, Decimal.digitChars]
  rw [← String.toList_inj, integer_chars, format_sign, plain]
  cases negative with
  | false => simp
  | true =>
    by_cases none : a.floor = 0
    · simp [none, zero.2 none]
    · have below := Nat.pos_of_ne_zero none
      simp [none, zero, below]

theorem ofText_numberText (negative : Bool) (a : Magnitude) :
    ofText (numberText (.finite negative a)) = finite negative a := by
  obtain ⟨numeral, text, same⟩ := decimalChars_text negative (Decimal.shortest .even a)
  rw [Decimal.toMagnitude?_shortest] at same
  have value := toNumber_of_toMagnitude? text same
  have chars : NumberText numeral (numberText (.finite negative a)).toList := by
    rw [numberText_chars]
    cases negative with
    | false => exact .plain text
    | true => exact .minus text
  rw [ofText_numeral chars, value]

theorem exists_integer_iff (negative : Bool) (a : Magnitude) :
    (∃ k : ℤ, a.signed negative = k ∧ |k| < 2 ^ 53) ↔
      a.isIntegral = true ∧ a.floor < integerBound := by
  have bound : (integerBound : ℤ) = 2 ^ 53 := by norm_num [integerBound]
  have absolute : |if negative then -(a.floor : ℤ) else a.floor| = a.floor := by
    cases negative <;> simp
  constructor
  · rintro ⟨k, value, small⟩
    have integral := Magnitude.isIntegral_of_signed value
    rw [Magnitude.signed_of_isIntegral negative integral, Int.cast_inj] at value
    rw [← value, absolute, ← bound] at small
    exact ⟨integral, by exact_mod_cast small⟩
  · rintro ⟨integral, small⟩
    refine ⟨_, Magnitude.signed_of_isIntegral negative integral, ?_⟩
    rw [absolute, ← bound]
    exact_mod_cast small

section Kinds
variable {negative : Bool} {a : Magnitude}

theorem ofNumber_integer (h : a.isIntegral = true ∧ a.floor < integerBound) :
    ofNumber (finite negative a) = .integer (if negative then -(a.floor : ℤ) else a.floor) := by
  simp [ofNumber, h]

theorem ofNumber_number (h : ¬(a.isIntegral = true ∧ a.floor < integerBound)) :
    ofNumber (finite negative a) = .number (finite negative a) := by
  rw [ofNumber, if_neg]
  simpa using h

theorem rational?_ofNumber : (ofNumber (finite negative a)).rational? = (finite negative a).value? := by
  by_cases h : a.isIntegral = true ∧ a.floor < integerBound
  · rw [ofNumber_integer h, Value.rational?, value?_finite, Magnitude.signed_of_isIntegral _ h.1]
  · rw [ofNumber_number h, Value.rational?]

theorem ofText_ofNumber :
    (ofText (ofNumber (finite negative a)).compact).value? = (finite negative a).value? := by
  apply value?_of_equals
  by_cases h : a.isIntegral = true ∧ a.floor < integerBound
  · have small : a.floor < plainIntegralBound := lt_of_lt_of_le h.2 (by decide)
    rw [ofNumber_integer h, Value.compact, toString_floor negative h.1 small, ofText_format]
    exact unsignedZero_equals nofun
  · rw [ofNumber_number h, Value.compact, ofText_numberText, equals_finite]
    exact ⟨rfl, .inl rfl⟩

theorem ofNumber_integer_iff :
    (∃ k, ofNumber (finite negative a) = .integer k) ↔
      a.isIntegral = true ∧ a.floor < integerBound := by
  refine ⟨fun ⟨k, same⟩ => ?_, fun h => ⟨_, ofNumber_integer h⟩⟩
  by_contra h
  rw [ofNumber_number h] at same
  cases same

theorem unmarked_ofNumber_iff :
    (ofNumber (finite negative a)).compact.toList.all isIntegerChar = true ↔
      a.isIntegral = true ∧ a.floor < integerBound := by
  constructor
  · intro unmarked
    by_contra h
    rw [ofNumber_number h, Value.compact, numberText_marked] at unmarked
    cases unmarked
  · intro h
    rw [ofNumber_integer h, Value.compact]
    exact integer_unmarked _

end Kinds

end Json

namespace Number

/-- Numbers are rendered without loss. The plain form of a number is read as a number equal to it,
and that of not-a-number as itself; two numbers have the same plain form if they are equal or neither
is a number, and in no other case. As JSON a number that is not finite is null, and a finite one is a
JSON number of the same value. Its text is read as this JSON number, and as a number of the same
value where a text is taken as a number. It is written as an integer, with digits alone behind the
sign, if its value is an integer whose magnitude is below `2 ^ 53`, and in no other case. -/
theorem rendered_without_loss :
    (∀ n : Number, (Literal.string n.format).toNumber = n.unsignedZero ∧
      (n ≠ nan → (Literal.string n.format).toNumber.equals n = true)) ∧
    (∀ m n : Number, m.format = n.format ↔ m.equals n = true ∨ m = nan ∧ n = nan) ∧
    ∀ n : Number,
      (n.value? = none → (Datum.number n).toJson? = some .null) ∧
      ∀ q, n.value? = some q →
        ∃ v, (Datum.number n).toJson? = some v ∧ v.rational? = some q ∧
          Json.parse? v.compact = some v ∧
          (Literal.string v.compact).toNumber.value? = some q ∧
          ((∃ k, v = .integer k) ↔ ∃ k : ℤ, q = k ∧ |k| < 2 ^ 53) ∧
          (v.compact.toList.all Json.isIntegerChar = true ↔ ∃ k : ℤ, q = k ∧ |k| < 2 ^ 53) := by
  refine ⟨fun n => ⟨ofText_format n, fun number => ?_⟩, fun m n => format_inj,
    fun n => ⟨fun infinite => ?_, fun q value => ?_⟩⟩
  · rw [Literal.toNumber, ofText_format]
    exact unsignedZero_equals number
  · cases n with
    | finite negative a => cases infinite
    | _ => rfl
  · cases n with
    | finite negative a =>
      refine ⟨Json.ofNumber (finite negative a), rfl, Json.rational?_ofNumber.trans value,
        (Json.writable_ofNumber _).parse?_compact, Json.ofText_ofNumber.trans value, ?_, ?_⟩
      all_goals
        rw [value?_finite, Option.some.injEq] at value
        rw [← value, Json.exists_integer_iff]
      · exact Json.ofNumber_integer_iff
      · exact Json.unmarked_ofNumber_iff
    | _ => cases value

/-- Minus three is an integer in JSON, and an infinity is null. -/
theorem minus_three_is_integer :
    let three : Number := finite true (Magnitude.natural 3 (by decide))
    (Literal.string three.format).toNumber.equals three = true ∧
      (Datum.number three).toJson? = some (.integer (-3)) ∧
      (Datum.number (infinite true)).toJson? = some .null := by
  intro three
  obtain ⟨plain, -, json⟩ := rendered_without_loss
  have value : three.value? = some (-3) := by
    rw [value?_finite, Magnitude.signed_true, Magnitude.value_natural]
    norm_num
  obtain ⟨v, written, exact, -, -, integer, -⟩ := (json three).2 _ value
  obtain ⟨k, rfl⟩ := integer.2 ⟨-3, by norm_num, by norm_num⟩
  have same : k = -3 := by
    rw [Json.Value.rational?, Option.some.injEq] at exact
    exact_mod_cast exact
  rw [same] at written
  exact ⟨(plain three).2 nofun, written, (json _).1 rfl⟩

end Number
end PageExtract
