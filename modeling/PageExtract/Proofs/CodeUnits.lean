import PageExtract.Text.Characters

/-! The encoded form of a text, and the characters that a row of code units stands for. Every row
can be decoded: a surrogate without a partner counts as `U+FFFD`. Two rows are decoded one after
the other unless a pair lies across the place where they meet. -/
namespace PageExtract.Utf16

/-- The code units of a character: its code point, or a high surrogate and a low one. -/
def encode (c : Char) : List Nat :=
  if c.toNat < 0x10000 then [c.toNat]
  else [0xD800 + (c.toNat - 0x10000) / 0x400, 0xDC00 + (c.toNat - 0x10000) % 0x400]

def IsPair (high low : Nat) : Prop :=
  (0xD800 ≤ high ∧ high < 0xDC00) ∧ 0xDC00 ≤ low ∧ low < 0xE000

instance (high low : Nat) : Decidable (IsPair high low) := instDecidableAnd

def decode : List Nat → List Char
  | [] => []
  | [u] => [charOf u]
  | u :: v :: rest =>
    if IsPair u v then charOf (combine u v) :: decode rest else charOf u :: decode (v :: rest)

theorem isPair_iff {high low : Nat} :
    IsPair high low ↔ (isHighSurrogate high && isLowSurrogate low) = true := by
  simp [IsPair, isHighSurrogate, isLowSurrogate]

theorem IsPair.not_high {high low : Nat} (h : IsPair high low) (other : Nat) :
    ¬IsPair low other := by
  unfold IsPair at *
  omega

theorem IsPair.not_low {high low : Nat} (h : IsPair high low) (other : Nat) :
    ¬IsPair other high := by
  unfold IsPair at *
  omega

theorem isHighSurrogate_eq_false {u : Nat} (low : isLowSurrogate u = true) :
    isHighSurrogate u = false := by
  simp only [isLowSurrogate, isHighSurrogate, Bool.and_eq_true, decide_eq_true_eq,
    Bool.and_eq_false_iff, decide_eq_false_iff_not] at low ⊢
  omega

theorem charOf_toNat (c : Char) : charOf c.toNat = c := by
  rw [charOf, if_pos (show c.toNat.isValidChar from c.valid), Char.ofNat_toNat]

theorem charOf_surrogate {u : Nat} (above : 0xD800 ≤ u) (below : u < 0xE000) :
    charOf u = '\uFFFD' := by
  rw [charOf, if_neg]
  · rfl
  · unfold Nat.isValidChar
    omega

theorem toNat_bounds (c : Char) : c.toNat < 0xD800 ∨ 0xDFFF < c.toNat ∧ c.toNat < 0x110000 :=
  c.valid

theorem encode_cases (c : Char) :
    (encode c = [c.toNat] ∧ ¬(0xD800 ≤ c.toNat ∧ c.toNat < 0xE000)) ∨
      ∃ high low, encode c = [high, low] ∧ IsPair high low ∧ combine high low = c.toNat := by
  have valid := toNat_bounds c
  unfold encode
  split
  next => exact .inl ⟨rfl, by omega⟩
  next wide =>
    refine .inr ⟨_, _, rfl, ?_, ?_⟩
    · unfold IsPair
      omega
    · unfold combine
      omega

theorem encode_ne_nil (c : Char) : encode c ≠ [] := by
  unfold encode
  split <;> simp

theorem exists_encode_eq {high low : Nat} (h : IsPair high low) :
    ∃ c, encode c = [high, low] ∧ charOf (combine high low) = c := by
  refine ⟨_, ?_, rfl⟩
  have valid : (combine high low).isValidChar := by
    unfold IsPair at h
    unfold combine Nat.isValidChar
    omega
  have code : (charOf (combine high low)).toNat = combine high low := by
    rw [charOf, if_pos valid, Char.ofNat, dif_pos valid]
    rfl
  unfold IsPair at h
  have wide : ¬combine high low < 0x10000 := by
    unfold combine
    omega
  have first : 0xD800 + (combine high low - 0x10000) / 0x400 = high := by
    unfold combine
    omega
  have second : 0xDC00 + (combine high low - 0x10000) % 0x400 = low := by
    unfold combine
    omega
  rw [encode, code, if_neg wide, first, second]

theorem decode_encode (c : Char) : decode (encode c) = [c] := by
  rcases encode_cases c with ⟨one, -⟩ | ⟨high, low, two, pair, code⟩
  · rw [one, decode, charOf_toNat]
  · rw [two, decode, if_pos pair, code, charOf_toNat, decode]

theorem decode_cons_of_apart {u : Nat} {rest : List Nat} (apart : ∀ v ∈ rest.head?, ¬IsPair u v) :
    decode (u :: rest) = charOf u :: decode rest := by
  cases rest with
  | nil => rfl
  | cons v rest => rw [decode, if_neg (apart v rfl)]

theorem decode_append {front back : List Nat}
    (apart : ∀ u ∈ front.getLast?, ∀ v ∈ back.head?, ¬IsPair u v) :
    decode (front ++ back) = decode front ++ decode back := by
  fun_induction decode front with
  | case1 => rfl
  | case2 u => exact decode_cons_of_apart (apart u rfl)
  | case3 u v rest pair ih =>
    rw [List.cons_append, List.cons_append, decode, if_pos pair, ih, List.cons_append]
    cases rest with
    | nil => simp
    | cons w rest => simpa using apart
  | case4 u v rest noPair ih =>
    rw [List.cons_append, List.cons_append, decode, if_neg noPair, ← List.cons_append, ih,
      List.cons_append]
    simpa using apart

theorem not_isPair_head_encode {c : Char} {v : Nat} (h : v ∈ (encode c).head?) (u : Nat) :
    ¬IsPair u v := by
  rcases encode_cases c with ⟨one, apart⟩ | ⟨high, low, two, pair, -⟩
  · obtain rfl : c.toNat = v := by simpa [one] using h
    unfold IsPair
    omega
  · obtain rfl : high = v := by simpa [two] using h
    exact pair.not_low u

theorem not_isPair_getLast_encode {c : Char} {u : Nat} (h : u ∈ (encode c).getLast?) (v : Nat) :
    ¬IsPair u v := by
  rcases encode_cases c with ⟨one, apart⟩ | ⟨high, low, two, pair, -⟩
  · obtain rfl : c.toNat = u := by simpa [one] using h
    unfold IsPair
    omega
  · obtain rfl : low = u := by simpa [two] using h
    exact pair.not_high v

theorem decode_encode_append (c : Char) (rest : List Nat) :
    decode (encode c ++ rest) = c :: decode rest := by
  rw [decode_append fun u last v _ => not_isPair_getLast_encode last v, decode_encode,
    List.singleton_append]

end PageExtract.Utf16
