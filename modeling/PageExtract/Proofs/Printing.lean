import PageExtract.Expr.Printer
import PageExtract.Proofs.CodeUnits
import PageExtract.Proofs.Decimals
import PageExtract.Proofs.Parsing

/-! What is printed is a form of the expression, up to the sign of zeros, if the expression is well
formed; and only well formed expressions are ever read. -/
namespace PageExtract
open Grammar PageExtract.Parser

def Call.WellFormed (c : Call) : Prop :=
  IdentifierText c.name.toList ∧ ∀ literal ∈ c.args, literal ≠ .number .nan

/-- Constants are unrestricted. A selector has no pipe and no white space at its ends. -/
def Expression.WellFormed : Expression → Prop
  | .constant _ => True
  | .query selector calls =>
    Blank.Trimmed selector.toList ∧ '|' ∉ selector.toList ∧ ∀ c ∈ calls, c.WellFormed

def Literal.unsignedZero : Literal → Literal
  | .number n => .number n.unsignedZero
  | literal => literal

def Call.unsignedZeros (c : Call) : Call := ⟨c.name, c.args.map Literal.unsignedZero⟩

def Expression.unsignedZeros : Expression → Expression
  | .constant text => .constant text
  | .query selector calls => .query selector (calls.map Call.unsignedZeros)

namespace Quoted

theorem padded_control (n : Nat) (h : n < 32) :
    (Hex.padded 4 n).length = 4 ∧ Hex.natural? (Hex.padded 4 n) = some n := by
  revert n
  decide

theorem decode_control {c : Char} (h : c.toNat ≤ 0x1F) (pieces : List Piece) :
    decode (.unit c.toNat :: pieces) = c :: decode pieces := by
  have notHigh : Utf16.isHighSurrogate c.toNat = false := by
    rw [Utf16.isHighSurrogate, decide_eq_false (by omega), Bool.false_and]
  cases pieces with
  | nil => simp [decode, Utf16.charOf_toNat]
  | cons p pieces =>
    cases p with
    | char d => simp [decode, Utf16.charOf_toNat]
    | unit low => simp [decode, notHigh, Utf16.charOf_toNat]

theorem escape_piece (c : Char) :
    ∃ p, PieceText '"' p (escape c) ∧ ∀ pieces, decode (p :: pieces) = c :: decode pieces := by
  unfold escape
  split
  next => exact ⟨.char '"', .escape (by decide), fun _ => rfl⟩
  next => exact ⟨.char '\\', .escape (by decide), fun _ => rfl⟩
  next => exact ⟨.char '\n', .escape (by decide), fun _ => rfl⟩
  next => exact ⟨.char '\r', .escape (by decide), fun _ => rfl⟩
  next => exact ⟨.char '\t', .escape (by decide), fun _ => rfl⟩
  next => exact ⟨.char '\x08', .escape (by decide), fun _ => rfl⟩
  next => exact ⟨.char '\x0c', .escape (by decide), fun _ => rfl⟩
  next notQuote notBackslash _ _ _ _ _ =>
    split
    next control =>
      obtain ⟨four, value⟩ := padded_control c.toNat (by omega)
      exact ⟨.unit c.toNat, .unit four value, decode_control control⟩
    next printable => exact ⟨.char c, .raw notQuote notBackslash (by omega), fun _ => rfl⟩

theorem encode_pieces (s : List Char) :
    ∃ pieces, PiecesText '"' pieces (s.flatMap escape) ∧ decode pieces = s := by
  induction s with
  | nil => exact ⟨[], .nil, rfl⟩
  | cons c s ih =>
    obtain ⟨p, head, value⟩ := escape_piece c
    obtain ⟨pieces, tail, same⟩ := ih
    refine ⟨p :: pieces, .cons head tail, ?_⟩
    rw [value, same]

end Quoted

theorem Number.format_text {n : Number} (h : n ≠ .nan) :
    ArgumentText (.number n.unsignedZero) (Literal.number n).chars := by
  cases n with
  | nan => exact absurd rfl h
  | infinite negative =>
    have digits : DigitsText ['9', '9', '9'] := ⟨by decide, by simp [IsDigit]⟩
    have huge : UnsignedText negative ⟨negative, ['1'], [], 999⟩ ['1', 'e', '9', '9', '9'] :=
      .intro ⟨by decide, by simp [IsDigit]⟩ .none (.unsigned (.inl rfl) digits)
    cases negative with
    | false => exact .number (.plain huge) (read?_text (.plain huge))
    | true => exact .number (.minus huge) (read?_text (.minus huge))
  | finite negative a =>
    obtain ⟨numeral, text, same⟩ := format_finite negative a
    rw [← same]
    exact .number text (read?_text text)

theorem Literal.chars_text {literal : Literal} (h : literal ≠ .number .nan) :
    ArgumentText literal.unsignedZero literal.chars := by
  cases literal with
  | string s =>
    obtain ⟨pieces, text, same⟩ := Quoted.encode_pieces s.toList
    have argument := ArgumentText.quoted (.inl rfl) text
    rw [same, String.ofList_toList] at argument
    exact argument
  | number n => exact Number.format_text fun nan => h (congrArg Literal.number nan)
  | boolean b => cases b <;> exact .keyword (by decide)
  | null => exact .keyword (by decide)
  | undefined => exact .keyword (by decide)

theorem Grammar.ArgumentsText.space {literals : List Literal} {list : List Char}
    (h : ArgumentsText literals list) : ArgumentsText literals (' ' :: list) := by
  cases h with
  | last spacesBefore text spacesAfter => exact .last spacesBefore.cons text spacesAfter
  | more spacesBefore text spacesAfter others =>
    exact .more spacesBefore.cons text spacesAfter others

theorem Literal.list_text {literals : List Literal} (h : ∀ literal ∈ literals, literal ≠ .number .nan)
    (some : literals ≠ []) :
    ArgumentsText (literals.map Literal.unsignedZero)
      (joinWith [',', ' '] (literals.map Literal.chars)) := by
  induction literals with
  | nil => exact absurd rfl some
  | cons literal others ih =>
    have first := Literal.chars_text (h literal List.mem_cons_self)
    cases others with
    | nil =>
      have last := ArgumentsText.last Spaces.nil first Spaces.nil
      simpa [joinWith] using last
    | cons second others =>
      have rest := ih (fun l hl => h l (List.mem_cons_of_mem literal hl)) (by simp)
      have more := ArgumentsText.more Spaces.nil first Spaces.nil rest.space
      simpa [joinWith] using more

theorem Call.chars_text {c : Call} (h : c.WellFormed) {after : List Char} (spaces : Spaces after) :
    StageText c.unsignedZeros (' ' :: (c.chars ++ after)) := by
  obtain ⟨name, args⟩ := c
  obtain ⟨identifier, numbers⟩ := h
  have space := Spaces.nil.cons
  cases args with
  | nil =>
    have bare := StageText.bare space identifier spaces
    rw [String.ofList_toList] at bare
    exact bare
  | cons literal others =>
    have list := Literal.list_text numbers (by simp)
    have applied := StageText.applied space identifier Spaces.nil list spaces
    rw [String.ofList_toList] at applied
    simpa [Call.chars, Call.unsignedZeros] using applied

theorem Call.chain_text {c : Call} {calls : List Call} (h : ∀ d ∈ c :: calls, d.WellFormed) :
    ∃ rest, ((c :: calls).flatMap fun d => ' ' :: '|' :: ' ' :: d.chars) = ' ' :: rest ∧
      ChainText ((c :: calls).map Call.unsignedZeros) rest := by
  induction calls generalizing c with
  | nil =>
    have stage := Call.chars_text (h c List.mem_cons_self) Spaces.nil
    exact ⟨_, by simp, .cons stage .nil⟩
  | cons d calls ih =>
    obtain ⟨rest, same, chain⟩ := ih fun e he => h e (List.mem_cons_of_mem c he)
    have stage := Call.chars_text (h c List.mem_cons_self) Spaces.nil.cons
    refine ⟨_, ?_, .cons stage chain⟩
    rw [List.flatMap_cons, same]
    simp

namespace Grammar

theorem ArgumentText.ne_nan {literal : Literal} {s : List Char} (h : ArgumentText literal s) :
    literal ≠ .number .nan := by
  cases h with
  | @number numeral n _ text value =>
    rw [Number.read?_text text, Option.some.injEq] at value
    rintro ⟨⟩
    exact numeral.toNumber_ne_nan value
  | quoted => simp
  | @keyword word _ known =>
    rintro rfl
    exact absurd known (by simp [keywords])
  | word => simp

theorem ArgumentsText.ne_nan {literals : List Literal} {list : List Char}
    (h : ArgumentsText literals list) : ∀ literal ∈ literals, literal ≠ .number .nan := by
  induction h with
  | last _ text _ =>
    intro literal member
    rw [List.mem_singleton.1 member]
    exact text.ne_nan
  | more _ text _ _ ih =>
    intro literal member
    rcases List.mem_cons.1 member with rfl | member
    · exact text.ne_nan
    · exact ih literal member

theorem StageText.wellFormed {c : Call} {s : List Char} (h : StageText c s) : c.WellFormed := by
  cases h with
  | bare _ identifier _ =>
    refine ⟨by rwa [String.toList_ofList], ?_⟩
    simp
  | applied _ identifier _ arguments _ =>
    exact ⟨by rwa [String.toList_ofList], arguments.ne_nan⟩

theorem ChainText.wellFormed {calls : List Call} {s : List Char} (h : ChainText calls s) :
    ∀ c ∈ calls, c.WellFormed := by
  induction h with
  | nil => simp
  | cons stage _ ih =>
    intro c member
    rcases List.mem_cons.1 member with rfl | member
    · exact stage.wellFormed
    · exact ih c member

theorem ExpressionText.wellFormed {e : Expression} {s : List Char} (h : ExpressionText e s) :
    e.WellFormed := by
  cases h with
  | constant => trivial
  | query noPipe chain _ =>
    refine ⟨?_, ?_, chain.wellFormed⟩
    · rw [String.toList_ofList]
      exact Blank.trimmed_trim _
    · rw [String.toList_ofList]
      exact fun pipe => noPipe (Blank.mem_of_mem_trim pipe)

end Grammar

theorem listEquals_map {α : Type} {same : α → α → Bool} {f : α → α} {items : List α}
    (h : ∀ a ∈ items, same (f a) a = true) : listEquals same (items.map f) items = true := by
  induction items with
  | nil => rfl
  | cons a items ih =>
    rw [List.map_cons, listEquals, h a List.mem_cons_self, Bool.true_and]
    exact ih fun b hb => h b (List.mem_cons_of_mem a hb)

theorem exists_of_listEquals {α : Type} {same : α → α → Bool} {as bs : List α}
    (h : listEquals same as bs = true) : ∀ b ∈ bs, ∃ a ∈ as, same a b = true := by
  induction as generalizing bs with
  | nil =>
    cases bs with
    | nil => simp
    | cons b bs => cases h
  | cons a as ih =>
    cases bs with
    | nil => simp
    | cons b bs =>
      rw [listEquals, Bool.and_eq_true] at h
      intro c hc
      rcases List.mem_cons.1 hc with rfl | hc
      · exact ⟨a, List.mem_cons_self, h.1⟩
      · obtain ⟨d, hd, same⟩ := ih h.2 c hc
        exact ⟨d, List.mem_cons_of_mem a hd, same⟩

theorem Number.unsignedZero_equals {n : Number} (h : n ≠ .nan) :
    n.unsignedZero.equals n = true := by
  cases n with
  | nan => exact absurd rfl h
  | infinite negative => simp [unsignedZero, equals]
  | finite negative a => by_cases zero : a.units = 0 <;> simp [unsignedZero, equals, zero]

theorem Literal.unsignedZero_equals {literal : Literal} (h : literal ≠ .number .nan) :
    literal.unsignedZero.equals literal = true := by
  cases literal with
  | number n => exact Number.unsignedZero_equals fun nan => h (congrArg Literal.number nan)
  | _ => simp [unsignedZero, equals]

theorem Call.unsignedZeros_equals {c : Call} (h : c.WellFormed) :
    c.unsignedZeros.equals c = true := by
  rw [equals, Bool.and_eq_true]
  exact ⟨beq_self_eq_true _, listEquals_map fun literal hl => Literal.unsignedZero_equals (h.2 literal hl)⟩

theorem Literal.ne_nan_of_equals {a b : Literal} (h : a.equals b = true) : b ≠ .number .nan := by
  rintro rfl
  cases a with
  | number n => cases n <;> cases h
  | _ => simp [equals] at h

theorem Call.wellFormed_of_equals {a b : Call} (h : a.equals b = true) (ha : a.WellFormed) :
    b.WellFormed := by
  rw [equals, Bool.and_eq_true, beq_iff_eq] at h
  refine ⟨h.1 ▸ ha.1, fun literal member => ?_⟩
  obtain ⟨other, -, same⟩ := exists_of_listEquals h.2 literal member
  exact Literal.ne_nan_of_equals same

namespace Expression

theorem chars_text {e : Expression} (h : e.WellFormed) : ExpressionText e.unsignedZeros e.chars := by
  cases e with
  | constant text =>
    have constant := ExpressionText.constant text.toList
    rw [String.ofList_toList] at constant
    exact constant
  | query selector calls =>
    obtain ⟨trimmed, noPipe, stages⟩ := h
    have keep (blanks : List Char) {rest : List Char} (blank : Spaces blanks)
        (chain : ChainText (calls.map Call.unsignedZeros) rest) :
        ExpressionText (.query selector (calls.map Call.unsignedZeros))
          (selector.toList ++ blanks ++ rest) := by
      have before : '|' ∉ selector.toList ++ blanks := by
        intro pipe
        rcases List.mem_append.1 pipe with pipe | pipe
        · exact noPipe pipe
        · exact absurd (blank _ pipe) (by decide)
      have query := ExpressionText.query before chain (chain_notConstant before chain)
      rw [Blank.trim_append trimmed, String.ofList_toList] at query
      · exact query
      · intro c hc
        rw [blank c hc]
        decide
    cases calls with
    | nil =>
      have bare := keep [] Spaces.nil .nil
      simpa [chars, unsignedZeros] using bare
    | cons c calls =>
      obtain ⟨rest, same, chain⟩ := Call.chain_text stages
      have piped := keep [' '] Spaces.nil.cons chain
      rw [chars, same]
      simpa [unsignedZeros] using piped

theorem parse_print {e : Expression} (h : e.WellFormed) : parse e.print = .ok e.unsignedZeros := by
  rw [parse_eq_ok_iff, print, String.toList_ofList]
  exact chars_text h

theorem unsignedZeros_equals {e : Expression} (h : e.WellFormed) :
    e.unsignedZeros.equals e = true := by
  cases e with
  | constant text => simp [unsignedZeros, equals]
  | query selector calls =>
    rw [unsignedZeros, equals, Bool.and_eq_true]
    exact ⟨beq_self_eq_true _, listEquals_map fun c hc => Call.unsignedZeros_equals (h.2.2 c hc)⟩

theorem wellFormed_of_equals {a b : Expression} (h : a.equals b = true) (ha : a.WellFormed) :
    b.WellFormed := by
  cases a with
  | constant text =>
    cases b with
    | constant => trivial
    | query => cases h
  | query selector calls =>
    cases b with
    | constant => cases h
    | query selector' calls' =>
      rw [equals, Bool.and_eq_true, beq_iff_eq] at h
      refine ⟨h.1 ▸ ha.1, h.1 ▸ ha.2.1, fun c member => ?_⟩
      obtain ⟨other, found, same⟩ := exists_of_listEquals h.2 c member
      exact Call.wellFormed_of_equals same (ha.2.2 other found)

/-- Everything that is read is well formed, and an expression is read back from what is printed
exactly when it is well formed. -/
theorem reads_back_iff_wellFormed :
    (∀ (text : String) (e : Expression), parse text = .ok e → e.WellFormed) ∧
      ∀ e : Expression, (∃ e', parse e.print = .ok e' ∧ e'.equals e = true) ↔ e.WellFormed := by
  refine ⟨fun text e read => (parse_eq_ok_iff.1 read).wellFormed, fun e => ⟨?_, ?_⟩⟩
  · rintro ⟨e', read, same⟩
    exact wellFormed_of_equals same (parse_eq_ok_iff.1 read).wellFormed
  · intro h
    exact ⟨e.unsignedZeros, parse_print h, unsignedZeros_equals h⟩

end Expression
end PageExtract
