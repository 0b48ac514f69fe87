import PageExtract.Proofs.JsonReading

/-! The compact form and the indented form are both texts of the value, so both are read back. The
compact form is one line, whatever the value. -/
namespace PageExtract.Json
open Grammar

/-- All numbers are finite, and all texts are known. -/
inductive Writable : Value → Prop
  | null : Writable .null
  | boolean (b : Bool) : Writable (.boolean b)
  | integer (n : Int) : Writable (.integer n)
  | number (negative : Bool) (a : Magnitude) : Writable (.number (.finite negative a))
  | string (s : String) : Writable (.string s)
  | array {items : List Value} (parts : ∀ v ∈ items, Writable v) : Writable (.array items)
  | object {fields : List (String × Value)} (parts : ∀ f ∈ fields, Writable f.2) :
      Writable (.object fields)

theorem writable_ofNumber (n : Number) : Writable (ofNumber n) := by
  cases n with
  | nan => exact .null
  | infinite negative => exact .null
  | finite negative a =>
    simp only [ofNumber]
    split
    · exact .integer _
    · exact .number negative a

theorem ListText.joined {α : Type} {part : α → List Char → Prop} {write : α → List Char}
    {gap gapLast : List Char} (white : Gap gap) (whiteLast : Gap gapLast) {as : List α}
    (some : as ≠ []) (text : ∀ a ∈ as, part a (write a)) :
    ListText part as (gap ++ (List.intercalate (',' :: gap) (as.map write) ++ gapLast)) := by
  induction as with
  | nil => exact absurd rfl some
  | cons a as ih =>
    have first := text a List.mem_cons_self
    cases as with
    | nil =>
      have last := ListText.last white first whiteLast
      simpa using last
    | cons b as =>
      have rest := ih (by simp) fun b hb => text b (List.mem_cons_of_mem a hb)
      have more := ListText.more white first Gap.nil rest
      simpa using more

theorem compactItems_eq_map (items : List Value) : compactItems items = items.map Value.compact := by
  induction items with
  | nil => rfl
  | cons v items ih => rw [compactItems, ih, List.map_cons]

theorem compactFields_eq_map (fields : List (String × Value)) :
    compactFields fields = fields.map fun f => Quoted.quote f.1 ++ ":" ++ f.2.compact := by
  induction fields with
  | nil => rfl
  | cons f fields ih => rw [compactFields, ih, List.map_cons]

theorem prettyItems_eq_map (depth : Nat) (items : List Value) :
    prettyItems depth items = items.map (Value.pretty depth) := by
  induction items with
  | nil => rfl
  | cons v items ih => rw [prettyItems, ih, List.map_cons]

theorem prettyFields_eq_map (depth : Nat) (fields : List (String × Value)) :
    prettyFields depth fields =
      fields.map fun f => Quoted.quote f.1 ++ ": " ++ f.2.pretty depth := by
  induction fields with
  | nil => rfl
  | cons f fields ih => rw [prettyFields, ih, List.map_cons]

theorem FieldText.written {value : Value → List Char → Prop} {f : String × Value}
    {gap : List Char} {s : List Char} (white : Gap gap) (text : value f.2 s) :
    FieldText value f (Quoted.encode f.1.toList ++ ':' :: (gap ++ s)) :=
  FieldText.intro Gap.nil white text

theorem Writable.compact_text {v : Value} (h : Writable v) : ValueText v v.compact.toList := by
  induction h with
  | null => exact .null
  | boolean b =>
    cases b with
    | false => exact .no
    | true => exact .yes
  | integer n => exact .integer n
  | number negative a => exact .number negative a
  | string s =>
    have text := ValueText.string s
    rwa [← String.toList_ofList (l := Quoted.encode _)] at text
  | @array items _ ih =>
    have chars : (Value.array items).compact.toList =
        '[' :: ([] ++ (List.intercalate [','] (items.map fun v => v.compact.toList) ++ []) ++ [']']) := by
      simp [Value.compact, compactItems_eq_map, separated, Function.comp_def]
    rw [chars]
    by_cases none : items = []
    · subst none
      exact .noItems Gap.nil
    · exact .items (ListText.joined Gap.nil Gap.nil none ih)
  | @object fields _ ih =>
    have chars : (Value.object fields).compact.toList =
        '\x7b' :: ([] ++ (List.intercalate [','] (fields.map fun f =>
          Quoted.encode f.1.toList ++ ':' :: ([] ++ f.2.compact.toList)) ++ []) ++ ['\x7d']) := by
      simp [Value.compact, compactFields_eq_map, separated, Function.comp_def, Quoted.quote]
    rw [chars]
    by_cases none : fields = []
    · subst none
      exact .noFields Gap.nil
    · exact .fields (ListText.joined Gap.nil Gap.nil none
        fun f member => FieldText.written Gap.nil (ih f member))

theorem Writable.parse?_compact {v : Value} (h : Writable v) : parse? v.compact = some v := by
  have read := parse?_text Gap.nil h.compact_text Gap.nil
  simpa using read

def lineStart (depth : Nat) : List Char := '\n' :: List.replicate (2 * depth) ' '

theorem gap_lineStart (depth : Nat) : Gap (lineStart depth) := by
  intro c hc
  rcases List.mem_cons.1 hc with rfl | blank
  · rfl
  · rw [List.eq_of_mem_replicate blank]
    rfl

theorem block_chars (depth : Nat) (opening closing : String) {lines : List String}
    (some : lines ≠ []) :
    (block depth opening closing lines).toList = opening.toList ++ ((lineStart (depth + 1) ++
      (List.intercalate (',' :: lineStart (depth + 1)) (lines.map String.toList) ++
        lineStart depth)) ++ closing.toList) := by
  cases lines with
  | nil => exact absurd rfl some
  | cons line lines => simp [block, separated, indentation, lineStart]

theorem Writable.pretty_text {v : Value} (h : Writable v) (depth : Nat) :
    ValueText v (v.pretty depth).toList := by
  induction h generalizing depth with
  | null => exact Writable.null.compact_text
  | boolean b => exact (Writable.boolean b).compact_text
  | integer n => exact (Writable.integer n).compact_text
  | number negative a => exact (Writable.number negative a).compact_text
  | string s => exact (Writable.string s).compact_text
  | @array items _ ih =>
    rw [Value.pretty, prettyItems_eq_map]
    by_cases none : items = []
    · subst none
      simpa [block] using ValueText.noItems Gap.nil
    · rw [block_chars depth _ _ (by simpa using none), List.map_map]
      exact .items (ListText.joined (gap_lineStart _) (gap_lineStart _) none
        fun v member => ih v member (depth + 1))
  | @object fields _ ih =>
    rw [Value.pretty, prettyFields_eq_map]
    by_cases none : fields = []
    · subst none
      simpa [block] using ValueText.noFields Gap.nil
    · have space : Gap [' '] := by simp [Gap, isSpace]
      have written (f : String × Value) :
          (Quoted.quote f.1 ++ ": " ++ f.2.pretty (depth + 1)).toList =
            Quoted.encode f.1.toList ++ ':' :: ([' '] ++ (f.2.pretty (depth + 1)).toList) := by
        simp [Quoted.quote]
      rw [block_chars depth _ _ (by simpa using none), List.map_map, Function.comp_def]
      simp only [written]
      exact .fields (ListText.joined (gap_lineStart _) (gap_lineStart _) none
        fun f member => FieldText.written space (ih f member (depth + 1)))

theorem Writable.parse?_pretty {v : Value} (h : Writable v) :
    parse? (v.pretty 0 ++ "\n") = some v := by
  have ending : Gap ['\n'] := by simp [Gap, isSpace]
  have read := parse?_text Gap.nil (h.pretty_text 0) ending
  simpa using read

def OneLine (s : List Char) : Prop := ∀ c ∈ s, 0x20 ≤ c.toNat

theorem OneLine.append {s t : List Char} (first : OneLine s) (second : OneLine t) :
    OneLine (s ++ t) := fun c hc => (List.mem_append.1 hc).elim (first c) (second c)

theorem OneLine.no_break {s : List Char} (h : OneLine s) : '\n' ∉ s :=
  fun newline => absurd (h _ newline) (by decide)

theorem OneLine.cons {c : Char} {s : List Char} (first : 0x20 ≤ c.toNat) (rest : OneLine s) :
    OneLine (c :: s) := by
  intro d hd
  rcases List.mem_cons.1 hd with rfl | hd
  · exact first
  · exact rest d hd

theorem oneLine_digits {s : List Char} (h : DigitsText s) : OneLine s := by
  intro c hc
  have zero : '0'.toNat ≤ c.toNat := (h.digits c hc).1
  exact Nat.le_trans (by decide) zero

theorem oneLine_unsigned {negative : Bool} {n : Numeral} {text : List Char}
    (h : UnsignedText negative n text) : OneLine text := by
  have marks : ∀ c ∈ ['.', 'e', 'E', '+', '-'], 0x20 ≤ c.toNat := by simp
  intro c hc
  rcases h.chars c hc with digit | mark
  · exact oneLine_digits (s := [c]) ⟨by simp, by simpa using isDigit_iff.1 digit⟩ c (by simp)
  · exact marks c mark

theorem oneLine_signed {text : List Char} (h : OneLine text) (sign : Prop) [Decidable sign] :
    OneLine ((if sign then ['-'] else []) ++ text) := by
  split
  · exact .cons (by decide) h
  · exact h

theorem oneLine_integer (n : Int) : OneLine (toString n).toList := by
  rw [integer_chars]
  exact oneLine_signed (oneLine_digits (Decimal.digitChars_text n.natAbs)) (n < 0)

theorem oneLine_numberText (n : Number) : OneLine (numberText n).toList := by
  cases n with
  | nan => simp [numberText, OneLine]
  | infinite negative => simp [numberText, OneLine]
  | finite negative a =>
    obtain ⟨n, text, -⟩ := decimalChars_text negative (Decimal.shortest .even a)
    rw [numberText_chars]
    exact oneLine_signed (oneLine_unsigned text) (negative = true)

theorem oneLine_escape (c : Char) : OneLine (Quoted.escape c) := by
  unfold Quoted.escape
  split
  case h_8 =>
    split
    next control =>
      have digits : ∀ n < 0x20, (Hex.padded 4 n).all (fun d => 0x20 ≤ d.toNat) = true := by decide
      have code := digits c.toNat (by omega)
      exact .cons (by decide) (.cons (by decide) fun d hd => by simpa using List.all_eq_true.1 code d hd)
    next printable =>
      exact .cons (Nat.not_le.1 printable) (by simp [OneLine])
  all_goals simp [OneLine]

theorem oneLine_quote (s : String) : OneLine (Quoted.quote s).toList := by
  rw [Quoted.quote, String.toList_ofList, Quoted.encode]
  refine .cons (by decide) (OneLine.append ?_ (by simp [OneLine]))
  intro c hc
  obtain ⟨d, -, inside⟩ := List.mem_flatMap.1 hc
  exact oneLine_escape d c inside

theorem oneLine_separated {texts : List String} (parts : ∀ t ∈ texts, OneLine t.toList) :
    OneLine (separated "," texts).toList := by
  induction texts with
  | nil => simp [separated, OneLine]
  | cons t texts ih =>
    have first := parts t List.mem_cons_self
    have rest := ih fun u hu => parts u (List.mem_cons_of_mem t hu)
    cases texts with
    | nil => simpa [separated] using first
    | cons u texts =>
      have comma : OneLine [','] := by simp [OneLine]
      simpa [separated, String.intercalate_cons_cons] using first.append (comma.append rest)

mutual

theorem oneLine_compact : (v : Value) → OneLine v.compact.toList
  | .null => by simp [Value.compact, OneLine]
  | .boolean b => by cases b <;> simp [Value.compact, OneLine]
  | .integer n => oneLine_integer n
  | .number n => oneLine_numberText n
  | .string s => oneLine_quote s
  | .array items => by
    have inside := oneLine_separated (oneLine_compactItems items)
    rw [Value.compact, String.toList_append, String.toList_append]
    exact (OneLine.append (by simp [OneLine]) inside).append (by simp [OneLine])
  | .object fields => by
    have inside := oneLine_separated (oneLine_compactFields fields)
    rw [Value.compact, String.toList_append, String.toList_append]
    exact (OneLine.append (by simp [OneLine]) inside).append (by simp [OneLine])
  | .unreadable => by simp [Value.compact, OneLine]

theorem oneLine_compactItems : (items : List Value) → ∀ t ∈ compactItems items, OneLine t.toList
  | [], _, hu => by cases hu
  | v :: items, t, ht => by
    rcases List.mem_cons.1 ht with rfl | ht
    · exact oneLine_compact v
    · exact oneLine_compactItems items t ht

theorem oneLine_compactFields :
    (fields : List (String × Value)) → ∀ t ∈ compactFields fields, OneLine t.toList
  | [], _, hu => by cases hu
  | (key, v) :: fields, t, ht => by
    rcases List.mem_cons.1 ht with rfl | ht
    · rw [String.toList_append, String.toList_append]
      exact ((oneLine_quote key).append (by simp [OneLine])).append (oneLine_compact v)
    · exact oneLine_compactFields fields t ht

end

end PageExtract.Json
