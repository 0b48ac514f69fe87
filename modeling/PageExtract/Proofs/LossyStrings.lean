import Mathlib
import PageExtract.Proofs.SyntaxErrors

/-! Every item of a quoted string stands for code units: an escaped unit for itself, a character
for its encoded form. The string that is read is what the row of all units is decoded to, so a high
and a low surrogate that are escaped one directly behind the other are one character, and every
other escaped surrogate is `U+FFFD`. -/
namespace PageExtract.Grammar
open PageExtract.Parser

def Piece.units : Piece → List Nat
  | .char c => Utf16.encode c
  | .unit u => [u]

def units (pieces : List Piece) : List Nat := pieces.flatMap Piece.units

theorem units_cons (p : Piece) (pieces : List Piece) :
    units (p :: pieces) = p.units ++ units pieces := List.flatMap_cons

theorem units_append (front back : List Piece) :
    units (front ++ back) = units front ++ units back := List.flatMap_append

theorem Piece.units_ne_nil (p : Piece) : p.units ≠ [] := by
  cases p with
  | char c => exact Utf16.encode_ne_nil c
  | unit u => exact List.cons_ne_nil u []

theorem head?_units_cons (p : Piece) (pieces : List Piece) :
    (units (p :: pieces)).head? = p.units.head? := by
  obtain ⟨u, rest, same⟩ := List.exists_cons_of_ne_nil p.units_ne_nil
  rw [units_cons, same]
  rfl

theorem getLast?_units_concat (pieces : List Piece) (p : Piece) :
    (units (pieces ++ [p])).getLast? = p.units.getLast? := by
  have row : units (pieces ++ [p]) = units pieces ++ p.units := by
    rw [units_append, units_cons]
    exact congrArg (units pieces ++ ·) p.units.append_nil
  rw [row, List.getLast?_append]
  cases last : p.units.getLast? with
  | none => exact absurd (List.getLast?_eq_none_iff.1 last) p.units_ne_nil
  | some u => rfl

theorem head_of_pair {pieces : List Piece} {high low : Nat} (h : low ∈ (units pieces).head?)
    (pair : Utf16.IsPair high low) : pieces.head? = some (.unit low) := by
  cases pieces with
  | nil => cases h
  | cons p pieces =>
    rw [head?_units_cons] at h
    cases p with
    | char c => exact absurd pair (Utf16.not_isPair_head_encode h high)
    | unit u =>
      cases h
      rfl

theorem getLast_of_pair {pieces : List Piece} {high low : Nat} (h : high ∈ (units pieces).getLast?)
    (pair : Utf16.IsPair high low) : pieces.getLast? = some (.unit high) := by
  rcases List.eq_nil_or_concat pieces with rfl | ⟨front, p, rfl⟩
  · cases h
  rw [List.concat_eq_append, getLast?_units_concat] at h
  rw [List.concat_eq_append, List.getLast?_concat]
  cases p with
  | char c => exact absurd pair (Utf16.not_isPair_getLast_encode h low)
  | unit u =>
    cases h
    rfl

/-- The characters of the items are those of their code units. -/
theorem decode_units (pieces : List Piece) : Utf16.decode (units pieces) = decode pieces := by
  fun_induction decode pieces with
  | case1 => rfl
  | case2 c rest ih => rw [units_cons, Piece.units, Utf16.decode_encode_append, ih]
  | case3 high low rest pair ih =>
    rw [units_cons, units_cons, Piece.units, Piece.units, List.singleton_append,
      List.singleton_append, Utf16.decode, if_pos (Utf16.isPair_iff.2 pair), ih]
  | case4 high low rest noPair ih =>
    rw [units_cons, Piece.units, List.singleton_append, Utf16.decode_cons_of_apart, ih]
    intro v first pair
    cases head_of_pair first pair
    exact noPair (Utf16.isPair_iff.1 pair)
  | case5 u rest noUnit ih =>
    rw [units_cons, Piece.units, List.singleton_append, Utf16.decode_cons_of_apart, ih]
    intro v first pair
    obtain ⟨others, rfl⟩ := List.head?_eq_some_iff.1 (head_of_pair first pair)
    exact noUnit v others rfl

theorem decode_units_pair {high low : Nat} (pair : Utf16.IsPair high low) :
    ∃ c, Utf16.encode c = [high, low] ∧ ∀ front back : List Piece,
      Utf16.decode (units (front ++ .unit high :: .unit low :: back)) =
        Utf16.decode (units front) ++ c :: Utf16.decode (units back) := by
  obtain ⟨c, code, -⟩ := Utf16.exists_encode_eq pair
  refine ⟨c, code, fun front back => ?_⟩
  have row : units (front ++ .unit high :: .unit low :: back) =
      units front ++ (Utf16.encode c ++ units back) := by
    rw [units_append, units_cons, units_cons, code]
    rfl
  rw [row, Utf16.decode_append, Utf16.decode_encode_append]
  intro u _ v first
  rw [code] at first
  cases first
  exact pair.not_low u

theorem decode_units_lone {u : Nat} {front back : List Piece} (above : 0xD800 ≤ u)
    (below : u < 0xE000)
    (before : ∀ high, front.getLast? = some (.unit high) → ¬Utf16.IsPair high u)
    (behind : ∀ low, back.head? = some (.unit low) → ¬Utf16.IsPair u low) :
    Utf16.decode (units (front ++ .unit u :: back)) =
      Utf16.decode (units front) ++ '\uFFFD' :: Utf16.decode (units back) := by
  have row : units (front ++ .unit u :: back) = units front ++ u :: units back := by
    rw [units_append, units_cons]
    rfl
  have next : ∀ v ∈ (units back).head?, ¬Utf16.IsPair u v :=
    fun v first pair => behind v (head_of_pair first pair) pair
  rw [row, Utf16.decode_append, Utf16.decode_cons_of_apart next,
    Utf16.charOf_surrogate above below]
  intro v last w first pair
  cases first
  exact before v (getLast_of_pair last pair) pair

end PageExtract.Grammar

namespace PageExtract.Parser
open Grammar

theorem argument_quoted_iff {quote : Char} (mark : IsQuote quote) {s rest : List Char}
    {literal : Literal} :
    argument (quote :: s) = .ok (literal, rest) ↔
      ∃ pieces body, s = body ++ quote :: rest ∧ PiecesText quote pieces body ∧
        literal = .string (String.ofList (Utf16.decode (units pieces))) := by
  constructor
  · intro h
    have opened : argument (quote :: s) =
        (quoted quote s).map fun found => (.string (String.ofList found.1), found.2) := by
      rcases mark with rfl | rfl <;> rfl
    rw [opened] at h
    obtain ⟨⟨text, left⟩, read, same⟩ := map_ok h
    cases same
    obtain ⟨pieces, body, rfl, items, rfl⟩ := quoted_sound read
    exact ⟨pieces, body, rfl, items, by rw [decode_units]⟩
  · rintro ⟨pieces, body, rfl, items, rfl⟩
    have read : argument (quote :: (body ++ [quote]) ++ rest) = _ := argument_quoted mark items
    rw [decode_units]
    simpa using read

theorem arguments_head {s left : List Char} {literals : List Literal}
    (h : arguments s = .ok (literals, left)) :
    ∃ literal rest others,
      spacedArgument s = .ok (literal, rest) ∧ literals = literal :: others := by
  rw [arguments] at h
  split at h
  · cases h
  next literal rest spaced =>
    cases h
    exact ⟨literal, _, [], spaced, rfl⟩
  next literal rest spaced =>
    obtain ⟨⟨others, _⟩, -, same⟩ := map_ok h
    cases same
    exact ⟨literal, _, others, spaced, rfl⟩
  · cases h

/-- A quoted string where an argument is due in an accepted text is an argument of the
expression. -/
theorem quoted_of_accepted {quote : Char} (mark : IsQuote quote) {front before s : List Char}
    {e : Expression} (due : ArgumentDue front) (spaces : Spaces before)
    (h : expression (front ++ (before ++ quote :: s)) = .ok e) :
    ∃ pieces body after, s = body ++ quote :: after ∧ PiecesText quote pieces body ∧
      ∃ c ∈ e.calls, .string (String.ofList (Utf16.decode (units pieces))) ∈ c.args := by
  obtain ⟨build, within, read⟩ := expression_of_arguments due
  rw [read] at h
  cases list : arguments (before ++ quote :: s) with
  | error f =>
    rw [list] at h
    cases h
  | ok found =>
    rw [list] at h
    obtain ⟨c, member, last⟩ := within found e h
    obtain ⟨literal, rest, others, spaced, first⟩ := arguments_head list
    have noSpace : Stops (· == ' ') (quote :: s) :=
      Stops.cons (by rcases mark with rfl | rfl <;> rfl)
    rw [spacedArgument, skipSpaces_text spaces noSpace] at spaced
    obtain ⟨⟨value, after⟩, opened, same⟩ := map_ok spaced
    cases same
    obtain ⟨pieces, body, rfl, items, rfl⟩ := (argument_quoted_iff mark).1 opened
    rw [first] at last
    exact ⟨pieces, body, after, rfl, items, c, member, last.subset List.mem_cons_self⟩

end PageExtract.Parser

namespace PageExtract.Expression
open Grammar PageExtract.Parser

/-- A quoted string is read as the characters that the code units of its items are decoded to, as an
argument by itself and where an argument is due in an accepted text. Wherever they stand, a high and
a low surrogate that are escaped one directly behind the other are one character, and any other
escaped surrogate is `U+FFFD`. -/
theorem quoted_strings_decode_units {quote : Char} (mark : IsQuote quote) :
    (∀ (s rest : List Char) (literal : Literal),
      argument (quote :: s) = .ok (literal, rest) ↔
        ∃ pieces body, s = body ++ quote :: rest ∧ PiecesText quote pieces body ∧
          literal = .string (String.ofList (Utf16.decode (units pieces)))) ∧
    (∀ (text : String) (e : Expression) (front before s : List Char), parse text = .ok e →
      text.toList = front ++ (before ++ quote :: s) → ArgumentDue front → Spaces before →
        ∃ pieces body after, s = body ++ quote :: after ∧ PiecesText quote pieces body ∧
          ∃ c ∈ e.calls, .string (String.ofList (Utf16.decode (units pieces))) ∈ c.args) ∧
    (∀ high low : Nat, Utf16.IsPair high low →
      ∃ c, Utf16.encode c = [high, low] ∧ ∀ front back : List Piece,
        Utf16.decode (units (front ++ .unit high :: .unit low :: back)) =
          Utf16.decode (units front) ++ c :: Utf16.decode (units back)) ∧
    (∀ (u : Nat) (front back : List Piece), 0xD800 ≤ u → u < 0xE000 →
      (∀ high, front.getLast? = some (.unit high) → ¬Utf16.IsPair high u) →
      (∀ low, back.head? = some (.unit low) → ¬Utf16.IsPair u low) →
        Utf16.decode (units (front ++ .unit u :: back)) =
          Utf16.decode (units front) ++ '\uFFFD' :: Utf16.decode (units back)) := by
  refine ⟨fun s rest literal => argument_quoted_iff mark, ?_, fun high low => decode_units_pair,
    fun u front back => decode_units_lone⟩
  intro text e front before s read same due spaces
  have accepted := expression_text (parse_eq_ok_iff.1 read)
  rw [same] at accepted
  exact quoted_of_accepted mark due spaces accepted

/-- The first of two high surrogates is not drawn into the pair that the second one makes. -/
theorem two_high_surrogates_read :
    IsQuote '"' ∧
      argument "\"\\ud83d\\ud83d\\ude00\")".toList = .ok (.string "\uFFFD😀", [')']) ∧
      (parse "h1 | f(\"\\ud83d\\ud83d\\ude00\")" = .ok (.query "h1" [⟨"f", [.string "\uFFFD😀"]⟩]) ∧
        ArgumentDue "h1 | f(".toList ∧
        ∃ pieces body after, "\\ud83d\\ud83d\\ude00\")".toList = body ++ '"' :: after ∧
          PiecesText '"' pieces body ∧ ∃ c ∈ [Call.mk "f" [.string "\uFFFD😀"]],
            .string (String.ofList (Utf16.decode (units pieces))) ∈ c.args) ∧
      (Utf16.IsPair 0xD83D 0xDE00 ∧ ∃ c, Utf16.encode c = [0xD83D, 0xDE00] ∧
        Utf16.decode (units [.unit 0xD83D, .unit 0xDE00]) = [c]) ∧
      ¬Utf16.IsPair 0xD83D 0xD83D ∧
        Utf16.decode (units [.unit 0xD83D, .unit 0xD83D, .unit 0xDE00]) =
          '\uFFFD' :: Utf16.decode (units [.unit 0xD83D, .unit 0xDE00]) := by
  have items : PiecesText '"' [.unit 0xD83D, .unit 0xD83D, .unit 0xDE00]
      "\\ud83d\\ud83d\\ude00".toList :=
    .cons (@PieceText.unit _ ['d', '8', '3', 'd'] _ rfl rfl)
      (.cons (@PieceText.unit _ ['d', '8', '3', 'd'] _ rfl rfl)
        (.cons (@PieceText.unit _ ['d', 'e', '0', '0'] _ rfl rfl) .nil))
  have parsed : parse "h1 | f(\"\\ud83d\\ud83d\\ude00\")" =
      .ok (.query "h1" [⟨"f", [.string "\uFFFD😀"]⟩]) := by
    have arguments := ArgumentsText.last Spaces.nil (.quoted (.inl rfl) items) Spaces.nil
    have stage := @StageText.applied _ ['f'] [' '] _ _ _ (by simp [Spaces])
      (.letter (.inr (by decide))) Spaces.nil arguments Spaces.nil
    have form := @ExpressionText.query _ ['h', '1', ' '] _ (by decide) (.cons stage .nil)
      (by decide)
    have selector : Blank.trim ['h', '1', ' '] = ['h', '1'] := by cbv
    rw [selector] at form
    exact parse_eq_ok_iff.2 form
  obtain ⟨reads, accepted, pair, lone⟩ := @quoted_strings_decode_units '"' (.inl rfl)
  have isPair : Utf16.IsPair 0xD83D 0xDE00 := by decide
  obtain ⟨c, code, read⟩ := pair 0xD83D 0xDE00 isPair
  refine ⟨.inl rfl, (reads _ _ _).2 ⟨_, _, rfl, items, rfl⟩,
    ⟨parsed, list_opened, accepted _ _ _ [] _ parsed rfl list_opened Spaces.nil⟩,
    ⟨isPair, c, code, read [] []⟩, by decide, ?_⟩
  exact lone 0xD83D [] [.unit 0xD83D, .unit 0xDE00] (by decide) (by decide) (by simp) (by
    intro low same
    cases same
    decide)

end PageExtract.Expression
