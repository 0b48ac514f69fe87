import PageExtract.Proofs.JsonNumbers
import PageExtract.Proofs.Printing

/-! A grammar of the texts that are written: with white space in any amount between the parts of a
value. Whatever the white space, the value is read back from its text. -/
namespace PageExtract.Json
open Grammar

def Gap (s : List Char) : Prop := ∀ c ∈ s, isSpace c = true

variable {gap s rest : List Char}

theorem Gap.nil : Gap [] := by simp [Gap]

theorem skipSpace_solid {c : Char} (solid : isSpace c = false) : skipSpace (c :: s) = c :: s :=
  Stops.dropWhile (Stops.cons solid)

theorem Gap.skip (h : Gap gap) (stop : Stops isSpace rest) : skipSpace (gap ++ rest) = rest :=
  stop.dropWhile_run h

theorem Gap.stops (h : Gap gap) (stop : Stops extendsNumeral rest) :
    Stops extendsNumeral (gap ++ rest) := by
  cases gap with
  | nil => exact stop
  | cons c gap =>
    have space := h c List.mem_cons_self
    simp only [isSpace, Bool.or_eq_true, beq_iff_eq] at space
    rcases space with ((rfl | rfl) | rfl) | rfl <;> exact Stops.cons rfl

theorem hexUnit?_text {digits : List Char} {unit : Nat} (four : digits.length = 4)
    (value : Hex.natural? digits = some unit) : hexUnit? (digits ++ rest) = some (unit, rest) := by
  match digits, four with
  | [_, _, _, _], _ => simp [hexUnit?, value]

theorem textBody?_escape (fuel : Nat) (c : Char) (reversed rest : List Char) :
    textBody? (fuel + 1) (some reversed) (Quoted.escape c ++ rest) =
      textBody? fuel (some (c :: reversed)) rest := by
  unfold Quoted.escape
  split
  -- the only case without a letter of its own
  case h_8 =>
    split
    next control =>
      obtain ⟨four, value⟩ := Quoted.padded_control c.toNat (by omega)
      have plain : Utf16.isSurrogate c.toNat = false := by
        simp [Utf16.isSurrogate, Utf16.isHighSurrogate, Utf16.isLowSurrogate]
        omega
      simp [textBody?, escape?, hexUnit?_text four value, plain, Utf16.charOf_toNat]
    next printable => simp [textBody?, show ¬ c.toNat < 0x20 by omega]
  all_goals simp [textBody?, escape?, shortEscape?]

theorem textBody?_encode (fuel : Nat) (s reversed rest : List Char) (long : s.length < fuel) :
    textBody? fuel (some reversed) (s.flatMap Quoted.escape ++ '"' :: rest) =
      some (some (s.reverse ++ reversed), rest) := by
  induction s generalizing fuel reversed with
  | nil =>
    obtain ⟨fuel, rfl⟩ := Nat.exists_eq_add_of_lt long
    simp [textBody?]
  | cons c s ih =>
    obtain ⟨fuel, rfl⟩ : ∃ n, fuel = n + 1 := ⟨fuel - 1, by simp at long; omega⟩
    rw [List.flatMap_cons, List.append_assoc, textBody?_escape, ih _ _ (by simpa using long)]
    simp

theorem length_le_flatMap_escape (s : List Char) : s.length ≤ (s.flatMap Quoted.escape).length := by
  induction s with
  | nil => simp
  | cons c s ih =>
    have some : 0 < (Quoted.escape c).length := by
      unfold Quoted.escape
      split <;> try exact Nat.zero_lt_succ _
      split <;> exact Nat.zero_lt_succ _
    rw [List.flatMap_cons, List.length_append, List.length_cons]
    omega

theorem text?_encode (s rest : List Char) :
    text? (s.flatMap Quoted.escape ++ '"' :: rest) = some (some (String.ofList s), rest) := by
  have long := length_le_flatMap_escape s
  rw [text?, textBody?_encode _ _ _ _ (by rw [List.length_append]; omega)]
  simp

inductive ListText {α : Type} (part : α → List Char → Prop) : List α → List Char → Prop
  | last {a : α} {before s after : List Char} (gapBefore : Gap before) (text : part a s)
      (gapAfter : Gap after) : ListText part [a] (before ++ (s ++ after))
  | more {a : α} {as : List α} {before s after rest : List Char} (gapBefore : Gap before)
      (text : part a s) (gapAfter : Gap after) (others : ListText part as rest) :
      ListText part (a :: as) (before ++ (s ++ (after ++ ',' :: rest)))

inductive FieldText (value : Value → List Char → Prop) : String × Value → List Char → Prop
  | intro {key : String} {v : Value} {between before s : List Char} (gapBetween : Gap between)
      (gapBefore : Gap before) (text : value v s) :
      FieldText value (key, v) (Quoted.encode key.toList ++ (between ++ ':' :: (before ++ s)))

inductive ValueText : Value → List Char → Prop
  | null : ValueText .null ['n', 'u', 'l', 'l']
  | yes : ValueText (.boolean true) ['t', 'r', 'u', 'e']
  | no : ValueText (.boolean false) ['f', 'a', 'l', 's', 'e']
  | integer (n : Int) : ValueText (.integer n) (toString n).toList
  | number (negative : Bool) (a : Magnitude) :
      ValueText (.number (.finite negative a)) (numberText (.finite negative a)).toList
  | string (s : String) : ValueText (.string s) (Quoted.encode s.toList)
  | noItems {gap : List Char} (white : Gap gap) : ValueText (.array []) ('[' :: (gap ++ [']']))
  | items {items : List Value} {s : List Char} (text : ListText ValueText items s) :
      ValueText (.array items) ('[' :: (s ++ [']']))
  | noFields {gap : List Char} (white : Gap gap) :
      ValueText (.object []) ('\x7b' :: (gap ++ ['\x7d']))
  | fields {fields : List (String × Value)} {s : List Char}
      (text : ListText (FieldText ValueText) fields s) :
      ValueText (.object fields) ('\x7b' :: (s ++ ['\x7d']))

theorem ValueText.start {v : Value} (h : ValueText v s) :
    ∃ c tail, s = c :: tail ∧ isSpace c = false ∧ c ≠ ']' := by
  have numeral {c : Char} (h : isIntegerChar c = true) : isSpace c = false ∧ c ≠ ']' := by
    constructor
    · rw [Bool.eq_false_iff]
      intro space
      simp only [isSpace, Bool.or_eq_true, beq_iff_eq] at space
      rcases space with ((rfl | rfl) | rfl) | rfl <;> exact absurd h (by decide)
    · rintro rfl
      exact absurd h (by decide)
  cases h with
  | integer n =>
    obtain ⟨c, tail, same, sound⟩ := integer_head n
    exact ⟨c, tail, same, numeral sound⟩
  | number negative a =>
    obtain ⟨c, tail, same, sound⟩ := numberText_head negative a
    exact ⟨c, tail, same, numeral sound⟩
  | _ => exact ⟨_, _, rfl, by decide, by decide⟩

theorem FieldText.start {value : Value → List Char → Prop} {f : String × Value}
    (h : FieldText value f s) : ∃ c tail, s = c :: tail ∧ isSpace c = false ∧ c ≠ '\x7d' := by
  cases h
  exact ⟨'"', _, rfl, by decide, by decide⟩

theorem ListText.skip {α : Type} {part : α → List Char → Prop} {closing : Char} {as : List α}
    (h : ListText part as s)
    (start : ∀ {a s}, part a s → ∃ c tail, s = c :: tail ∧ isSpace c = false ∧ c ≠ closing)
    (rest : List Char) : ∃ c tail, skipSpace (s ++ rest) = c :: tail ∧ c ≠ closing := by
  cases h with
  | last gapBefore text _ | more gapBefore text _ _ =>
    obtain ⟨c, tail, rfl, solid, open'⟩ := start text
    rw [List.append_assoc, List.cons_append, List.cons_append, gapBefore.skip (Stops.cons solid)]
    exact ⟨c, _, rfl, open'⟩

-- The texts of lists leave one step of the fuel for the list itself, so that their parts are shorter
-- than the fuel that is left for them.

def ReadsValues (fuel : Nat) : Prop :=
  ∀ {v : Value} {gap s rest : List Char}, Gap gap → ValueText v s → Stops extendsNumeral rest →
    s.length < fuel → value? fuel (gap ++ (s ++ rest)) = some (v, rest)

def ReadsItems (fuel : Nat) : Prop :=
  ∀ {items : List Value} {s : List Char} (rest : List Char), ListText ValueText items s →
    s.length + 1 < fuel → items? fuel (s ++ ']' :: rest) = some (items, rest)

def ReadsFields (fuel : Nat) : Prop :=
  ∀ {fields : List (String × Value)} {s : List Char} (rest : List Char),
    ListText (FieldText ValueText) fields s → s.length + 1 < fuel →
      fields? fuel (s ++ '\x7d' :: rest) = some (fields.map fun f => (some f.1, f.2), rest)

theorem objectOf_readable (fields : List (String × Value)) :
    objectOf (fields.map fun f => (some f.1, f.2)) = .object fields := by
  have keys : (fields.map fun f => (some f.1, f.2)).mapM
      (fun (f : Option String × Value) => f.1.map (·, f.2)) = some fields := by
    induction fields with
    | nil => rfl
    | cons f fields ih => simp [ih]
  unfold objectOf
  split
  next readable same =>
    cases keys.symm.trans same
    rfl
  next none => cases keys.symm.trans none

theorem value?_gap (fuel : Nat) (white : Gap gap) (stop : Stops isSpace rest) :
    value? fuel (gap ++ rest) = value? fuel rest := by
  cases fuel with
  | zero => rfl
  | succ fuel => rw [value?, value?, white.skip stop, skipSpace, stop.dropWhile]

theorem value?_numeral (fuel : Nat) (rest : List Char)
    (start : ∃ c tail, s = c :: tail ∧ isIntegerChar c = true) :
    value? (fuel + 1) (s ++ rest) = numeral? (s ++ rest) := by
  obtain ⟨c, tail, rfl, sound⟩ := start
  have none {d : Char} (other : isIntegerChar d = false) : c ≠ d := by
    rintro rfl
    rw [sound] at other
    cases other
  have solid : skipSpace (c :: (tail ++ rest)) = c :: (tail ++ rest) := by
    simp [skipSpace, isSpace, none (d := ' ') rfl, none (d := '\t') rfl, none (d := '\n') rfl,
      none (d := '\r') rfl]
  rw [List.cons_append, value?, solid]
  split
  · contradiction
  next same => cases same; exact absurd rfl (none rfl)
  next same => cases same; exact absurd rfl (none rfl)
  next same => cases same; exact absurd rfl (none rfl)
  next same =>
    cases same
    simp [none (d := 't') rfl, none (d := 'f') rfl, none (d := 'n') rfl]

theorem readsValues_step {fuel : Nat} (items : ReadsItems fuel) (fields : ReadsFields fuel) :
    ReadsValues (fuel + 1) := by
  intro v gap s rest white text stop short
  have solid : Stops isSpace (s ++ rest) := by
    obtain ⟨c, tail, rfl, solid, -⟩ := text.start
    exact Stops.cons solid
  rw [value?_gap _ white solid]
  cases text with
  | null | yes | no => simp [value?, skipSpace, isSpace, word?]
  | integer n =>
    rw [value?_numeral fuel rest (integer_head n)]
    exact numeral?_integer n stop
  | number negative a =>
    rw [value?_numeral fuel rest (numberText_head negative a)]
    exact numeral?_numberText negative a stop
  | string t =>
    have quote := skipSpace_solid (c := '"') (s := t.toList.flatMap Quoted.escape ++ '"' :: rest) rfl
    simp [value?, Quoted.encode, quote, text?_encode]
  | @noItems inside white =>
    have opening := skipSpace_solid (c := '[') (s := inside ++ ']' :: rest) rfl
    simp [value?, opening, white.skip (Stops.cons (c := ']') rfl)]
  | @items vs s list =>
    have opening := skipSpace_solid (c := '[') (s := s ++ ']' :: rest) rfl
    -- the closing bracket does not follow at once, so items are read
    obtain ⟨c, tail, same, differs⟩ := list.skip ValueText.start (']' :: rest)
    have read := items rest list (by simp at short; omega)
    simp [value?, opening, same, differs, read]
  | @noFields inside white =>
    have opening := skipSpace_solid (c := '\x7b') (s := inside ++ '\x7d' :: rest) rfl
    simp [value?, opening, white.skip (Stops.cons (c := '\x7d') rfl)]
  | @fields fs s list =>
    have opening := skipSpace_solid (c := '\x7b') (s := s ++ '\x7d' :: rest) rfl
    obtain ⟨c, tail, same, differs⟩ := list.skip FieldText.start ('\x7d' :: rest)
    have read := fields rest list (by simp at short; omega)
    simp [value?, opening, same, differs, read, objectOf_readable]

theorem readsItems_step {fuel : Nat} (values : ReadsValues fuel) (items : ReadsItems fuel) :
    ReadsItems (fuel + 1) := by
  intro vs s rest list short
  cases list with
  | @last v before text after gapBefore text gapAfter =>
    have close : Stops extendsNumeral (']' :: rest) := Stops.cons (by decide)
    have solid : Stops isSpace (']' :: rest) := Stops.cons (by decide)
    have read := values gapBefore text (gapAfter.stops close) (by simp at short; omega)
    simp [items?, read, gapAfter.skip solid]
  | @more v vs before text after others gapBefore text gapAfter list =>
    have comma : Stops extendsNumeral (',' :: (others ++ ']' :: rest)) := Stops.cons (by decide)
    have solid : Stops isSpace (',' :: (others ++ ']' :: rest)) := Stops.cons (by decide)
    have read := values gapBefore text (gapAfter.stops comma) (by simp at short; omega)
    have more := items rest list (by simp at short; omega)
    simp [items?, read, gapAfter.skip solid, more]

def afterField (fuel : Nat) (key : String) (v : Value) (rest : List Char) :
    Option (List (Option String × Value) × List Char) :=
  match skipSpace rest with
  | '\x7d' :: left => some ([(some key, v)], left)
  | ',' :: more => (fields? fuel more).map fun (fields, left) => ((some key, v) :: fields, left)
  | _ => none

theorem fields?_field {fuel : Nat} (values : ReadsValues fuel) {key : String} {v : Value}
    (gapBefore : Gap gap) (text : FieldText ValueText (key, v) s) (stop : Stops extendsNumeral rest)
    (short : s.length < fuel) :
    fields? (fuel + 1) (gap ++ (s ++ rest)) = afterField fuel key v rest := by
  cases text with
  | @intro _ _ between inside s gapBetween gapInside text =>
    have behind : value? fuel (inside ++ (s ++ rest)) = some (v, rest) :=
      values gapInside text stop (by simp [Quoted.encode] at short; omega)
    have colon : skipSpace (between ++ ':' :: (inside ++ (s ++ rest))) =
        ':' :: (inside ++ (s ++ rest)) := gapBetween.skip (Stops.cons rfl)
    have name : Quoted.encode key.toList ++ (between ++ ':' :: (inside ++ s)) ++ rest =
        '"' :: (key.toList.flatMap Quoted.escape ++
          '"' :: (between ++ ':' :: (inside ++ (s ++ rest)))) := by
      simp [Quoted.encode]
    rw [fields?, name, gapBefore.skip (Stops.cons rfl)]
    simp only [text?_encode, colon, behind, String.ofList_toList]
    rfl

theorem readsFields_step {fuel : Nat} (values : ReadsValues fuel) (fields : ReadsFields fuel) :
    ReadsFields (fuel + 1) := by
  intro fs s rest list short
  cases list with
  | @last f before text after gapBefore text gapAfter =>
    have close : Stops extendsNumeral ('\x7d' :: rest) := Stops.cons rfl
    have read := fields?_field values gapBefore text (gapAfter.stops close)
      (by simp at short; omega)
    rw [afterField, gapAfter.skip (Stops.cons rfl)] at read
    simpa using read
  | @more f fs before text after others gapBefore text gapAfter list =>
    have comma : Stops extendsNumeral (',' :: (others ++ '\x7d' :: rest)) := Stops.cons rfl
    have read := fields?_field values gapBefore text (gapAfter.stops comma)
      (by simp at short; omega)
    have more := fields rest list (by simp at short; omega)
    rw [afterField, gapAfter.skip (Stops.cons rfl)] at read
    simpa [more] using read

/-- All texts that are short enough are read: each step of the fuel takes one level of brackets or
one part of a list. -/
theorem reads (fuel : Nat) : ReadsValues fuel ∧ ReadsItems fuel ∧ ReadsFields fuel := by
  induction fuel with
  | zero =>
    refine ⟨?_, ?_, ?_⟩
    · intro _ _ _ _ _ _ _ short
      cases short
    · intro _ _ _ _ short
      cases short
    · intro _ _ _ _ short
      cases short
  | succ fuel ih =>
    obtain ⟨values, items, fields⟩ := ih
    exact ⟨readsValues_step items fields, readsItems_step values items,
      readsFields_step values fields⟩

theorem parse?_text {v : Value} {before s after : List Char} (gapBefore : Gap before)
    (text : ValueText v s) (gapAfter : Gap after) :
    parse? (String.ofList (before ++ (s ++ after))) = some v := by
  have read := (reads ((before ++ (s ++ after)).length + 1)).1 gapBefore text
    (gapAfter.stops Stops.nil) (by simp; omega)
  rw [List.append_nil] at read
  have blank := gapAfter.skip Stops.nil
  rw [List.append_nil] at blank
  simp only [parse?, String.length_ofList, String.toList_ofList, read, blank]
  rfl

end PageExtract.Json
