import Mathlib
import PageExtract.Proofs.Cuts
import PageExtract.Proofs.IntegerArguments
import PageExtract.Proofs.NumberTexts
import PageExtract.Proofs.Parsing

/-! The strings that are taken as numbers: blank ones, decimal numerals and infinities. A word for
infinity is taken in any case, and cut short to its first three letters as well; every other string
is not a number, and as an integer it is zero. -/
namespace PageExtract

namespace Grammar

/-- What a string without white space at its ends writes: nothing is zero, and all else is a decimal
numeral or `Infinity` with an optional sign. -/
inductive NumericText : Number → List Char → Prop
  | blank : NumericText .zero []
  | decimal {negative : Bool} {n : Numeral} {sign s : List Char} (mark : SignText negative sign)
      (text : LooseText negative n s) : NumericText n.toNumber (sign ++ s)
  | infinity {negative : Bool} {sign : List Char} (mark : SignText negative sign) :
      NumericText (.infinite negative) (sign ++ "Infinity".toList)

/-- An infinity with an optional sign that is not spelled `Infinity`. -/
inductive OtherInfinity : Bool → List Char → Prop
  | intro {negative : Bool} {sign s : List Char} (mark : SignText negative sign)
      (word : WordForInfinity s) (other : s ≠ "Infinity".toList) : OtherInfinity negative (sign ++ s)

end Grammar

namespace Number
open Grammar
variable {negative : Bool} {s : List Char}

theorem wordForInfinity_spelled : WordForInfinity "Infinity".toList := by decide

theorem read?_infinity {sign : List Char} (mark : SignText negative sign) (word : WordForInfinity s) :
    read? (sign ++ s) = some (infinite negative) :=
  read?_eq_some_iff.2 ⟨negative, sign, s, mark, rfl, readUnsigned?_word word⟩

theorem read?_numeric {x : Number} (h : NumericText x s) :
    s = [] ∧ x = zero ∨ read? s = some x := by
  cases h with
  | blank => exact .inl ⟨rfl, rfl⟩
  | decimal mark text =>
    exact .inr (read?_eq_some_iff.2 ⟨_, _, _, mark, rfl, readUnsigned?_loose text⟩)
  | infinity mark => exact .inr (read?_infinity mark wordForInfinity_spelled)

theorem read?_otherInfinity (h : OtherInfinity negative s) : read? s = some (infinite negative) := by
  obtain ⟨mark, word, -⟩ := h
  exact read?_infinity mark word

theorem read?_sound {x : Number} (h : read? s = some x) (number : x ≠ nan) :
    NumericText x s ∨ ∃ negative, OtherInfinity negative s ∧ x = infinite negative := by
  obtain ⟨negative, sign, rest, mark, rfl, unsigned⟩ := read?_eq_some_iff.1 h
  rcases readUnsigned?_sound unsigned with ⟨word, rfl⟩ | rfl | ⟨n, text, rfl⟩
  · by_cases spelled : rest = "Infinity".toList
    · rw [spelled]
      exact .inl (.infinity mark)
    · exact .inr ⟨negative, .intro mark word spelled, rfl⟩
  · exact absurd rfl number
  · exact .inl (.decimal mark text)

theorem ofText_blank {s : String} (blank : Blank.trim s.toList = []) : ofText s = zero := by
  rw [ofText, blank]

theorem ofText_read {s : String} {x : Number} (h : read? (Blank.trim s.toList) = some x) :
    ofText s = x := by
  unfold ofText
  split
  next blank =>
    rw [blank] at h
    cases h
  next => rw [h, Option.getD_some]

theorem ofText_numeric {s : String} {x : Number} (h : NumericText x (Blank.trim s.toList)) :
    ofText s = x := by
  rcases read?_numeric h with ⟨blank, rfl⟩ | read
  · exact ofText_blank blank
  · exact ofText_read read

theorem numeric_ne_nan {x : Number} (h : NumericText x s) : x ≠ nan := by
  cases h with
  | blank => nofun
  | decimal _ _ => exact Numeral.toNumber_ne_nan _
  | infinity _ => nofun

theorem ofText_sound {s : String} (number : ofText s ≠ nan) :
    NumericText (ofText s) (Blank.trim s.toList) ∨
      ∃ negative, OtherInfinity negative (Blank.trim s.toList) := by
  by_cases blank : Blank.trim s.toList = []
  · rw [ofText_blank blank, blank]
    exact .inl .blank
  cases read : read? (Blank.trim s.toList) with
  | none =>
    refine absurd ?_ number
    unfold ofText
    split
    next => contradiction
    next => rw [read, Option.getD_none]
  | some x =>
    rw [ofText_read read] at number ⊢
    exact (read?_sound read number).imp_right fun ⟨negative, other, _⟩ => ⟨negative, other⟩

end Number

namespace Grammar
variable {w : List Char}

theorem identifier_of_all {c : Char} {rest : List Char} (first : Parser.isIdentifierStart c = true)
    (others : rest.all Parser.isIdentifierPart = true) : IdentifierText (c :: rest) :=
  .intro (isIdentifierStart_iff.1 first) fun d hd =>
    isIdentifierPart_iff.1 (List.all_eq_true.1 others d hd)

theorem toNat_mem {lo hi c : Char} (above : lo ≤ c) (below : c ≤ hi) :
    lo.toNat ≤ c.toNat ∧ c.toNat ≤ hi.toNat := ⟨above, below⟩

theorem toNat_letter {c : Char} (h : IsLetter c) : 65 ≤ c.toNat ∧ c.toNat ≤ 122 := by
  rcases h with ⟨above, below⟩ | ⟨above, below⟩ <;>
    have bounds := toNat_mem above below <;>
    simp at bounds <;> omega

theorem graphic_identifier (h : IdentifierText w) : ∀ c ∈ w, 0x20 < c.toNat ∧ c.toNat < 0x7F := by
  have start {c : Char} (h : StartsIdentifier c) : 0x20 < c.toNat ∧ c.toNat < 0x7F := by
    rcases h with letter | rfl | rfl | rfl
    · have bounds := toNat_letter letter
      omega
    all_goals simp
  have part {c : Char} (h : ContinuesIdentifier c) : 0x20 < c.toNat ∧ c.toNat < 0x7F := by
    rcases h with first | ⟨above, below⟩
    · exact start first
    · have bounds := toNat_mem above below
      simp at bounds
      omega
  obtain ⟨first, others⟩ := h
  exact List.forall_mem_cons.2 ⟨start first, fun d hd => part (others d hd)⟩

theorem noNumber_start {c : Char} (h : StartsIdentifier c) :
    c.isDigit = false ∧ c ≠ '.' ∧ c ≠ '+' := by
  rcases h with letter | rfl | rfl | rfl
  · have bounds := toNat_letter letter
    refine ⟨?_, ?_, ?_⟩
    · rw [← Bool.not_eq_true, Char.isDigit_iff_toNat]
      have nine : '9'.toNat = 57 := rfl
      omega
    all_goals
      rintro rfl
      simp at bounds
  all_goals decide

theorem unsigned_identifier {negative : Bool} {sign rest : List Char} (mark : SignText negative sign)
    (h : IdentifierText (sign ++ rest)) (notMinus : (sign ++ rest).head? ≠ some '-') : sign = [] := by
  cases mark with
  | none => rfl
  | minus => exact absurd rfl notMinus
  | plus =>
    obtain ⟨first, -⟩ := h
    exact absurd rfl (noNumber_start first).2.2

theorem numeric_identifier {x : Number} (h : NumericText x w) (word : IdentifierText w)
    (notMinus : w.head? ≠ some '-') : w = "Infinity".toList := by
  cases h with
  | blank => cases word
  | decimal mark text =>
    rw [unsigned_identifier mark word notMinus, List.nil_append] at word
    obtain ⟨c, rest, rfl, number⟩ := Number.head_loose text
    obtain ⟨first, -⟩ := word
    rcases number with digit | point
    · rw [(noNumber_start first).1] at digit
      cases digit
    · exact absurd point (noNumber_start first).2.1
  | infinity mark =>
    rw [unsigned_identifier mark word notMinus]
    rfl

end Grammar

namespace Number
open Grammar

theorem ofText_word_iff {s : String} (word : IdentifierText s.toList)
    (notMinus : s.toList.head? ≠ some '-') : ofText s ≠ nan ↔ WordForInfinity s.toList := by
  have graphic := graphic_identifier word
  have trimmed : Blank.trim s.toList = s.toList :=
    Blank.trim_solid fun c hc => Blank.isBlank_of_graphic (graphic c hc).1 (graphic c hc).2
  constructor
  · intro number
    rcases ofText_sound number with numeric | ⟨negative, other⟩
    · rw [trimmed] at numeric
      rw [numeric_identifier numeric word notMinus]
      exact wordForInfinity_spelled
    · rw [trimmed] at other
      generalize s.toList = w at *
      obtain ⟨mark, infinity, -⟩ := other
      rwa [unsigned_identifier mark word notMinus]
  · intro infinity
    have read := read?_infinity .none infinity
    rw [List.nil_append, ← trimmed] at read
    rw [ofText_read read]
    nofun

end Number

namespace Literal
open Grammar

theorem parse_word {f w : List Char} (name : IdentifierText f) (word : IdentifierText w)
    (notMinus : w.head? ≠ some '-') (notKeyword : String.ofList w ∉ keywords.map Prod.fst) :
    Expression.parse ("p|" ++ String.ofList f ++ "(" ++ String.ofList w ++ ")") =
      .ok (.query "p" [⟨String.ofList f, [.string (String.ofList w)]⟩]) := by
  have list : ArgumentsText [.string (String.ofList w)] ([] ++ (w ++ [])) :=
    .last Spaces.nil (.word word notMinus notKeyword) Spaces.nil
  have chain : ChainText _ _ := .cons (.applied Spaces.nil name Spaces.nil list Spaces.nil) .nil
  have text : ExpressionText _ (['p'] ++ _) := .query (by decide) chain (by simp)
  have trimmed : Blank.trim ['p'] = ['p'] := by decide
  rw [trimmed] at text
  rw [Expression.parse_eq_ok_iff]
  simpa using text

/-- Numeric strings convert to their numbers, none of which is not-a-number. So does every other
spelling of a word for infinity, with an optional sign. But for these, no string that is not numeric
converts to a number, and wherever a transform takes an integer it acts as zero. A word can be given
without quotes, and it is a number if it is a word for infinity in any case, and in no other case. -/
theorem numeric_strings (s : String) :
    (∀ x, NumericText x (Blank.trim s.toList) → (string s).toNumber = x ∧ x ≠ .nan) ∧
      (∀ negative, OtherInfinity negative (Blank.trim s.toList) →
        (string s).toNumber = .infinite negative) ∧
      ((∀ negative, ¬OtherInfinity negative (Blank.trim s.toList)) →
        ((string s).toNumber ≠ .nan ↔ ∃ x, NumericText x (Blank.trim s.toList)) ∧
        ((¬∃ x, NumericText x (Blank.trim s.toList)) → (string s).toNumber = .nan ∧
          ∀ name index args d, (name, index) ∈ Call.integerPlaces →
            Arguments.get args index = string s →
            (∀ default, Arguments.integer args index default = .int 0) ∧
            Call.run Lookup.builtin [⟨name, args⟩] d =
              Call.run Lookup.builtin [⟨name, args.set index (.number .zero)⟩] d)) ∧
      (IdentifierText s.toList → s.toList.head? ≠ some '-' → s ∉ keywords.map Prod.fst →
        (∀ f : String, IdentifierText f.toList →
          Expression.parse ("p|" ++ f ++ "(" ++ s ++ ")") = .ok (.query "p" [⟨f, [string s]⟩])) ∧
        ((string s).toNumber ≠ .nan ↔ WordForInfinity s.toList)) := by
  refine ⟨fun x numeric => ⟨Number.ofText_numeric numeric, Number.numeric_ne_nan numeric⟩,
    fun negative other => Number.ofText_read (Number.read?_otherInfinity other), fun plain => ?_,
    fun word notMinus notKeyword => ⟨fun f name => ?_, Number.ofText_word_iff word notMinus⟩⟩
  · have number : (string s).toNumber ≠ .nan ↔ ∃ x, NumericText x (Blank.trim s.toList) := by
      constructor
      · intro number
        rcases Number.ofText_sound number with numeric | ⟨negative, other⟩
        · exact ⟨_, numeric⟩
        · exact absurd other (plain negative)
      · rintro ⟨x, numeric⟩
        rw [toNumber, Number.ofText_numeric numeric]
        exact Number.numeric_ne_nan numeric
    refine ⟨number, fun none => ?_⟩
    have noNumber : (string s).toNumber = .nan := not_not.1 (number.not.2 none)
    refine ⟨noNumber, fun name index args d place given => ⟨fun default => ?_, ?_⟩⟩
    · rw [Arguments.integer_given given (string_ne_undefined s), noNumber]
      rfl
    · apply Call.run_noNumber place <;> rw [given]
      · exact string_ne_undefined s
      · exact noNumber
  · have parsed := parse_word name word notMinus (by rwa [String.ofList_toList])
    rwa [String.ofList_toList, String.ofList_toList] at parsed

/-- A word that stands for no number is the start of the text as a position. -/
theorem foo_acts_as_zero :
    (string "foo").toNumber = .nan ∧
      Call.run Lookup.builtin [⟨"slice", [string "foo"]⟩] (.string "abc") = .ok (.string "abc") := by
  obtain ⟨numeric, infinite, converts, words⟩ := numeric_strings "foo"
  have word : IdentifierText "foo".toList := identifier_of_all rfl rfl
  have noNumber : (string "foo").toNumber = .nan := by
    have iff := (words word (by decide) (by decide)).2
    exact not_not.1 (iff.not.2 (by decide))
  have plain : ∀ negative, ¬OtherInfinity negative (Blank.trim "foo".toList) := by
    intro negative other
    have number := infinite negative other
    rw [noNumber] at number
    cases number
  have none : ¬∃ x, NumericText x (Blank.trim "foo".toList) := by
    rintro ⟨x, text⟩
    obtain ⟨value, number⟩ := numeric x text
    exact number (value.symm.trans noNumber)
  obtain ⟨-, zero⟩ := ((converts plain).2 none).2 "slice" 0 [string "foo"] (.string "abc")
    (by decide) rfl
  have start : Call.run Lookup.builtin [⟨"slice", [.number .zero]⟩] (.string "abc") =
      .ok (.string "abc") := by
    apply Call.run_found (t := Transform.slice) rfl
    rw [Transform.slice_string, Transform.sliced_from, Transform.cutAt, Arguments.integer_zero]
    rfl
  exact ⟨noNumber, zero.trans start⟩

/-- A word for infinity that is cut short is infinite, although it is not numeric, and a slice from
there is empty. -/
theorem inf_is_infinite :
    ¬((string "inf").toNumber ≠ .nan ↔ ∃ x, NumericText x (Blank.trim "inf".toList)) ∧
      Call.run Lookup.builtin [⟨"slice", [string "inf"]⟩] (.string "abc") = .ok (.string "") := by
  have word : IdentifierText "inf".toList := identifier_of_all rfl rfl
  have number : (string "inf").toNumber ≠ .nan := (Number.ofText_word_iff word (by decide)).2 (by decide)
  refine ⟨fun claimed => ?_, Call.run_found (t := Transform.slice) rfl rfl⟩
  obtain ⟨x, numeric⟩ := claimed.1 number
  have trimmed : Blank.trim "inf".toList = "inf".toList := by decide
  rw [trimmed] at numeric
  exact absurd (numeric_identifier numeric word (by decide)) (by decide)

end Literal
end PageExtract
