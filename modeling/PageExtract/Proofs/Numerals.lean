import PageExtract.Proofs.Characters

/-! A scan takes exactly a numeral of the grammar from the front of a text. -/
namespace PageExtract

namespace Grammar

theorem DigitsText.run {s : List Char} (h : DigitsText s) : ∀ c ∈ s, c.isDigit = true :=
  fun c hc => isDigit_iff.2 (h.digits c hc)

theorem DigitsText.of_takeWhile {s : List Char} (h : s.takeWhile Char.isDigit ≠ []) :
    DigitsText (s.takeWhile Char.isDigit) where
  nonempty := h
  digits c hc := isDigit_iff.1 (List.all_eq_true.1 List.all_takeWhile c hc)

theorem DigitsText.noSign {d : Char} {ds : List Char} (h : DigitsText (d :: ds)) :
    d ≠ '-' ∧ d ≠ '+' := by
  have first := h.run d List.mem_cons_self
  constructor <;> (rintro rfl; exact absurd first (by decide))

def extendsNumeral (c : Char) : Bool := c.isDigit || c == '.' || c == 'e' || c == 'E'

def extendsWhole (c : Char) : Bool := c.isDigit || c == '.'

theorem ExponentText.stops {power : Int} {text rest : List Char} (h : ExponentText power text)
    (stop : Stops extendsNumeral rest) : Stops extendsWhole (text ++ rest) := by
  cases h with
  | none =>
    apply stop.of_imp
    intro c hc
    simp only [extendsWhole, extendsNumeral, Bool.or_eq_true] at hc ⊢
    exact .inl (.inl hc)
  | unsigned marked | plus marked | minus marked =>
    apply Stops.cons
    rcases marked with rfl | rfl <;> rfl

theorem FractionText.stops {digits text rest : List Char} (h : FractionText digits text)
    (stop : Stops extendsWhole rest) : Stops Char.isDigit (text ++ rest) := by
  cases h with
  | none =>
    apply stop.of_imp
    intro c hc
    simp [extendsWhole, hc]
  | point => exact Stops.cons rfl

theorem UnsignedText.chars {negative : Bool} {n : Numeral} {text : List Char}
    (h : UnsignedText negative n text) :
    ∀ c ∈ text, c.isDigit = true ∨ c ∈ ['.', 'e', 'E', '+', '-'] := by
  obtain ⟨wholeText, fractionText, exponentText⟩ := h
  have digit {s : List Char} (text : DigitsText s) {c : Char} (hc : c ∈ s) :
      c.isDigit = true ∨ c ∈ ['.', 'e', 'E', '+', '-'] := .inl (text.run c hc)
  have marks {mark : Char} (marked : MarksExponent mark) : mark ∈ ['.', 'e', 'E', '+', '-'] := by
    rcases marked with rfl | rfl <;> decide
  intro c hc
  rcases List.mem_append.1 hc with hc | hc
  · exact digit wholeText hc
  rcases List.mem_append.1 hc with hc | hc
  · cases fractionText with
    | none => cases hc
    | point text =>
      rcases List.mem_cons.1 hc with rfl | hc
      · exact .inr (by decide)
      · exact digit text hc
  · cases exponentText with
    | none => cases hc
    | unsigned marked text =>
      rcases List.mem_cons.1 hc with rfl | hc
      · exact .inr (marks marked)
      · exact digit text hc
    | plus marked text | minus marked text =>
      rcases List.mem_cons.1 hc with rfl | hc
      · exact .inr (marks marked)
      rcases List.mem_cons.1 hc with rfl | hc
      · exact .inr (by decide)
      · exact digit text hc

end Grammar

namespace Numeral
open Grammar

theorem spanDigits_run {s rest : List Char} (h : DigitsText s) (stop : Stops Char.isDigit rest) :
    spanDigits (s ++ rest) = (s, rest) := by
  rw [spanDigits, stop.takeWhile_run h.run, stop.dropWhile_run h.run]

theorem spanDigits_split {s digits rest : List Char} (h : spanDigits s = (digits, rest)) :
    s = digits ++ rest ∧ (digits ≠ [] → DigitsText digits) := by
  cases h
  exact ⟨List.takeWhile_append_dropWhile.symm, DigitsText.of_takeWhile⟩

theorem scanFraction_sound (s : List Char) :
    ∃ text, s = text ++ (scanFraction s).2 ∧ FractionText (scanFraction s).1 text := by
  unfold scanFraction
  split
  next rest =>
    split
    · exact ⟨[], rfl, .none⟩
    next some =>
      obtain ⟨same, text⟩ := spanDigits_split (s := rest) rfl
      refine ⟨'.' :: (spanDigits rest).1, congrArg ('.' :: ·) same, .point (text ?_)⟩
      intro none
      exact some _ (Prod.ext none rfl)
  · exact ⟨[], rfl, .none⟩

theorem scanExponent_sound (s : List Char) :
    ∃ text, s = text ++ (scanExponent s).2 ∧ ExponentText (scanExponent s).1 text := by
  unfold scanExponent
  split
  next mark rest =>
    split
    next marked =>
      have marks : MarksExponent mark := by simpa [MarksExponent] using marked
      split
      next negative unsigned sign =>
        split
        · exact ⟨[], rfl, .none⟩
        next digits after some found =>
          obtain ⟨same, text⟩ := spanDigits_split found
          have digitsText := text some
          split at sign <;> cases sign
          · exact ⟨mark :: '-' :: digits, by simp [same], .minus marks digitsText⟩
          · exact ⟨mark :: '+' :: digits, by simp [same], .plus marks digitsText⟩
          · exact ⟨mark :: digits, by simp [same], .unsigned marks digitsText⟩
    · exact ⟨[], rfl, .none⟩
  · exact ⟨[], rfl, .none⟩

def scanUnsigned? (negative : Bool) (s : List Char) : Option (Numeral × List Char) :=
  match spanDigits s with
  | ([], _) => none
  | (whole, afterWhole) =>
    let (fraction, afterFraction) := scanFraction afterWhole
    let (exponent, rest) := scanExponent afterFraction
    some (⟨negative, whole, fraction, exponent⟩, rest)

theorem scan?_minus (s : List Char) : scan? ('-' :: s) = scanUnsigned? true s := rfl

theorem scan?_plain {s : List Char} (h : s.head? ≠ some '-') : scan? s = scanUnsigned? false s := by
  unfold scan?
  split
  next sign =>
    split at sign
    · exact absurd rfl h
    · cases sign
      rfl

theorem scanUnsigned?_sound {negative : Bool} {s rest : List Char} {n : Numeral}
    (h : scanUnsigned? negative s = some (n, rest)) :
    ∃ text, s = text ++ rest ∧ UnsignedText negative n text := by
  unfold scanUnsigned? at h
  split at h
  · cases h
  next whole afterWhole some found =>
    obtain ⟨sameWhole, wholeText⟩ := spanDigits_split found
    obtain ⟨fraction, sameFraction, fractionText⟩ := scanFraction_sound afterWhole
    obtain ⟨exponent, sameExponent, exponentText⟩ := scanExponent_sound (scanFraction afterWhole).2
    simp only [Option.some.injEq, Prod.mk.injEq] at h
    rw [← h.1, ← h.2]
    refine ⟨_, ?_, .intro (wholeText some) fractionText exponentText⟩
    rw [sameWhole, List.append_assoc, List.append_assoc, ← sameExponent, ← sameFraction]

theorem scan?_sound {s rest : List Char} {n : Numeral} (h : scan? s = some (n, rest)) :
    ∃ text, s = text ++ rest ∧ NumberText n text := by
  by_cases minus : s.head? = some '-'
  · obtain ⟨s, rfl⟩ := List.head?_eq_some_iff.1 minus
    rw [scan?_minus] at h
    obtain ⟨text, same, unsigned⟩ := scanUnsigned?_sound h
    exact ⟨'-' :: text, congrArg ('-' :: ·) same, .minus unsigned⟩
  · rw [scan?_plain minus] at h
    obtain ⟨text, same, unsigned⟩ := scanUnsigned?_sound h
    exact ⟨text, same, .plain unsigned⟩

theorem scanFraction_text {digits text rest : List Char} (h : FractionText digits text)
    (stop : Stops extendsWhole rest) : scanFraction (text ++ rest) = (digits, rest) := by
  cases h with
  | none =>
    cases rest with
    | nil => rfl
    | cons c rest =>
      have noPoint : c ≠ '.' := by
        rintro rfl
        exact absurd (stop '.' rfl) (by decide)
      simp [scanFraction, noPoint]
  | point text =>
    have span := spanDigits_run text (FractionText.none.stops stop)
    obtain ⟨d, ds, rfl⟩ := List.exists_cons_of_ne_nil text.nonempty
    simp only [List.nil_append, List.cons_append] at span
    simp only [scanFraction, List.cons_append, span]

theorem scanExponent_text {power : Int} {text rest : List Char} (h : ExponentText power text)
    (stop : Stops extendsNumeral rest) : scanExponent (text ++ rest) = (power, rest) := by
  have digitStop : Stops Char.isDigit rest :=
    FractionText.none.stops (ExponentText.none.stops stop)
  cases h with
  | none =>
    cases rest with
    | nil => rfl
    | cons c rest =>
      have ends := stop c rfl
      simp only [extendsNumeral, Bool.or_eq_false_iff, beq_eq_false_iff_ne] at ends
      simp [scanExponent, ends]
  | unsigned marked text =>
    have span := spanDigits_run text digitStop
    obtain ⟨d, ds, rfl⟩ := List.exists_cons_of_ne_nil text.nonempty
    have noSign : d ≠ '-' ∧ d ≠ '+' := text.noSign
    rcases marked with rfl | rfl <;>
      simp_all [scanExponent]
  | plus marked text =>
    have span := spanDigits_run text digitStop
    obtain ⟨d, ds, rfl⟩ := List.exists_cons_of_ne_nil text.nonempty
    rcases marked with rfl | rfl <;>
      simp_all [scanExponent]
  | minus marked text =>
    have span := spanDigits_run text digitStop
    obtain ⟨d, ds, rfl⟩ := List.exists_cons_of_ne_nil text.nonempty
    rcases marked with rfl | rfl <;>
      simp_all [scanExponent]

theorem scanUnsigned?_text {negative : Bool} {n : Numeral} {text rest : List Char}
    (h : UnsignedText negative n text) (stop : Stops extendsNumeral rest) :
    scanUnsigned? negative (text ++ rest) = some (n, rest) := by
  obtain ⟨wholeText, fractionText, exponentText⟩ := h
  next whole digits fraction exponent power =>
  have exponentStop := exponentText.stops stop
  have span := spanDigits_run wholeText (fractionText.stops exponentStop)
  obtain ⟨d, ds, rfl⟩ := List.exists_cons_of_ne_nil wholeText.nonempty
  rw [List.append_assoc, List.append_assoc]
  simp only [scanUnsigned?, span, scanFraction_text fractionText exponentStop,
    scanExponent_text exponentText stop]

theorem head?_unsigned {negative : Bool} {n : Numeral} {text : List Char}
    (h : UnsignedText negative n text) : ∃ d rest, text = d :: rest ∧ d.isDigit = true := by
  obtain ⟨wholeText, -, -⟩ := h
  obtain ⟨d, ds, rfl⟩ := List.exists_cons_of_ne_nil wholeText.nonempty
  exact ⟨d, _, rfl, wholeText.run d List.mem_cons_self⟩

theorem scan?_text {n : Numeral} {text rest : List Char} (h : NumberText n text)
    (stop : Stops extendsNumeral rest) : scan? (text ++ rest) = some (n, rest) := by
  cases h with
  | plain unsigned =>
    rw [← scanUnsigned?_text unsigned stop]
    obtain ⟨d, tail, rfl, digit⟩ := head?_unsigned unsigned
    apply scan?_plain
    rintro ⟨⟩
    exact absurd digit (by decide)
  | minus unsigned => exact scanUnsigned?_text unsigned stop

theorem stops_scanFraction {s : List Char} (h : Stops Char.isDigit s) :
    Stops Char.isDigit (scanFraction s).2 := by
  unfold scanFraction
  split
  · split
    · exact h
    · exact Stops.of_dropWhile Char.isDigit _
  · exact h

theorem stops_scanExponent {s : List Char} (h : Stops Char.isDigit s) :
    Stops Char.isDigit (scanExponent s).2 := by
  unfold scanExponent
  split
  · split
    · split
      split
      · exact h
      next found =>
        cases found
        exact Stops.of_dropWhile Char.isDigit _
    · exact h
  · exact h

theorem stops_of_scanUnsigned?_eq_some {negative : Bool} {s rest : List Char} {n : Numeral}
    (h : scanUnsigned? negative s = some (n, rest)) : Stops Char.isDigit rest := by
  unfold scanUnsigned? at h
  split at h
  · cases h
  next found =>
    cases found
    cases h
    exact stops_scanExponent (stops_scanFraction (Stops.of_dropWhile Char.isDigit s))

theorem stops_of_scan?_eq_some {s rest : List Char} {n : Numeral}
    (h : scan? s = some (n, rest)) : Stops Char.isDigit rest := by
  by_cases minus : s.head? = some '-'
  · obtain ⟨s, rfl⟩ := List.head?_eq_some_iff.1 minus
    exact stops_of_scanUnsigned?_eq_some h
  · rw [scan?_plain minus] at h
    exact stops_of_scanUnsigned?_eq_some h

end Numeral

end PageExtract
