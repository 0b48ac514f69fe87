import PageExtract.Proofs.Parsing

/-! Texts that stop inside an expression, by what is due where they stop. Each of them is the front
of a whole expression. -/
namespace PageExtract.Grammar
open PageExtract.Parser

/-- All up to a pipe: a stage is due. -/
inductive StageDue : List Char → Prop
  | first {before : List Char} (noPipe : '|' ∉ before) : StageDue (before ++ ['|'])
  | next {call : Call} {front s : List Char} (due : StageDue front) (stage : StageText call s) :
      StageDue (front ++ (s ++ ['|']))

/-- All up to the parenthesis of a list, or to a comma in it: an argument is due. -/
inductive ArgumentDue : List Char → Prop
  | first {front before name between : List Char} (due : StageDue front)
      (spacesBefore : Spaces before) (identifier : IdentifierText name)
      (spacesBetween : Spaces between) :
      ArgumentDue (front ++ (before ++ (name ++ (between ++ ['(']))))
  | next {literal : Literal} {front before s after : List Char} (due : ArgumentDue front)
      (spacesBefore : Spaces before) (text : ArgumentText literal s) (spacesAfter : Spaces after) :
      ArgumentDue (front ++ (before ++ (s ++ (after ++ [',']))))

/-- All up to a place between the items of a string. -/
inductive ItemDue (quote : Char) : List Char → Prop
  | intro {pieces : List Piece} {front before body : List Char} (due : ArgumentDue front)
      (spacesBefore : Spaces before) (mark : IsQuote quote) (text : PiecesText quote pieces body) :
      ItemDue quote (front ++ (before ++ quote :: body))

def EndsInNumber (front : List Char) : Prop :=
  ∃ numeral stem before s, front = stem ++ (before ++ s) ∧ ArgumentDue stem ∧ Spaces before ∧
    NumberText numeral s

theorem StageDue.ne_nil {front : List Char} (due : StageDue front) : front ≠ [] := by
  cases due <;> simp

theorem ArgumentDue.ne_nil {front : List Char} (due : ArgumentDue front) : front ≠ [] := by
  cases due <;> simp

theorem ItemDue.ne_nil {quote : Char} {front : List Char} (due : ItemDue quote front) :
    front ≠ [] := by
  cases due
  simp

theorem ItemDue.mark {quote : Char} {front : List Char} (due : ItemDue quote front) :
    IsQuote quote := by
  cases due
  assumption

theorem IsQuote.ne_backslash {quote : Char} (h : IsQuote quote) : quote ≠ '\\' := by
  rcases h with rfl | rfl <;> decide

theorem IdentifierText.letter {c : Char} (h : IsLetter c) : IdentifierText [c] :=
  .intro (.inl h) (List.forall_mem_nil _)

theorem letter_argument : ArgumentText (.string "a") ['a'] :=
  .word (.letter (.inr (by decide))) (by decide) (by decide)

theorem StageDue.complete {front : List Char} (due : StageDue front) {calls : List Call}
    {s : List Char} (h : ChainText calls ('|' :: s)) : ∃ e, ExpressionText e (front ++ s) := by
  induction due generalizing calls s with
  | @first before noPipe =>
    have text := ExpressionText.query noPipe h (chain_notConstant noPipe h)
    exact ⟨_, by simpa using text⟩
  | @next call front stageText _ stage ih =>
    obtain ⟨e, text⟩ := ih (.cons stage h)
    exact ⟨e, by simpa using text⟩

theorem StageDue.complete_stage {front : List Char} (due : StageDue front) {call : Call}
    {s : List Char} (h : StageText call s) : ∃ e, ExpressionText e (front ++ s) := by
  have last : ChainText [call] ('|' :: s) := by simpa using ChainText.cons h .nil
  exact due.complete last

theorem ArgumentDue.complete {front : List Char} (due : ArgumentDue front) {literals : List Literal}
    {list : List Char} (h : ArgumentsText literals list) :
    ∃ e, ExpressionText e (front ++ (list ++ [')'])) := by
  induction due generalizing literals list with
  | first due spacesBefore identifier spacesBetween =>
    have stage := StageText.applied spacesBefore identifier spacesBetween h Spaces.nil
    obtain ⟨e, text⟩ := due.complete_stage stage
    exact ⟨e, by simpa using text⟩
  | next _ spacesBefore text spacesAfter ih =>
    obtain ⟨e, whole⟩ := ih (.more spacesBefore text spacesAfter h)
    exact ⟨e, by simpa using whole⟩

theorem ArgumentDue.complete_argument {front : List Char} (due : ArgumentDue front)
    {literal : Literal} {before s after : List Char} (spacesBefore : Spaces before)
    (text : ArgumentText literal s) (spacesAfter : Spaces after) :
    ∃ e, ExpressionText e (front ++ (before ++ (s ++ (after ++ [')'])))) := by
  obtain ⟨e, whole⟩ := due.complete (.last spacesBefore text spacesAfter)
  exact ⟨e, by simpa using whole⟩

theorem PiecesText.append {quote : Char} {first second : List Piece} {s t : List Char}
    (h : PiecesText quote first s) (h' : PiecesText quote second t) :
    PiecesText quote (first ++ second) (s ++ t) := by
  induction h with
  | nil => exact h'
  | cons head _ ih =>
    rw [List.append_assoc]
    exact .cons head ih

theorem PiecesText.single {quote : Char} {p : Piece} {s : List Char} (h : PieceText quote p s) :
    PiecesText quote [p] s := by
  simpa using PiecesText.cons h .nil

theorem ItemDue.append {quote : Char} {front : List Char} (due : ItemDue quote front)
    {pieces : List Piece} {body : List Char} (text : PiecesText quote pieces body) :
    ItemDue quote (front ++ body) := by
  cases due with
  | intro due spacesBefore mark earlier =>
    have items := ItemDue.intro due spacesBefore mark (earlier.append text)
    simpa using items

theorem ItemDue.complete {quote : Char} {front : List Char} (due : ItemDue quote front) :
    ∃ e, ExpressionText e (front ++ [quote, ')']) := by
  cases due with
  | intro due spacesBefore mark text =>
    obtain ⟨e, whole⟩ := due.complete_argument spacesBefore (.quoted mark text) Spaces.nil
    exact ⟨e, by simpa using whole⟩

end PageExtract.Grammar

namespace PageExtract.Hex

theorem exists_natural?_iff {s : List Char} :
    (∃ u, natural? s = some u) ↔ ∀ d ∈ s, isDigit d = true := by
  have start (n : Nat) :
      (∃ u, s.foldlM (fun n c => (value? c).map (16 * n + ·)) n = some u) ↔
        ∀ d ∈ s, isDigit d = true := by
    induction s generalizing n with
    | nil => simp
    | cons d s ih =>
      rw [List.foldlM_cons, List.forall_mem_cons, isDigit]
      cases value? d with
      | none => simp
      | some value => simpa using ih (16 * n + value)
  exact start 0

end PageExtract.Hex

namespace PageExtract.Grammar

/-- The text stops among the digits of a `\u` escape in a string. -/
structure CutUnit (quote : Char) (front digits : List Char) : Prop where
  due : ItemDue quote front
  short : digits.length < 4
  hex : ∀ d ∈ digits, Hex.isDigit d = true

theorem CutUnit.complete {quote : Char} {front digits : List Char}
    (cut : CutUnit quote front digits) :
    ∃ more e, ExpressionText e (front ++ '\\' :: 'u' :: (digits ++ more)) := by
  have zeros : ∀ d ∈ List.replicate (4 - digits.length) '0', Hex.isDigit d = true := by
    intro d hd
    rw [List.eq_of_mem_replicate hd]
    rfl
  obtain ⟨u, value⟩ := Hex.exists_natural?_iff.2 (List.forall_mem_append.2 ⟨cut.hex, zeros⟩)
  have four : (digits ++ List.replicate (4 - digits.length) '0').length = 4 := by
    have short := cut.short
    simp only [List.length_append, List.length_replicate]
    omega
  obtain ⟨e, whole⟩ := (cut.due.append (.single (.unit four value))).complete
  exact ⟨_, e, by simpa using whole⟩

end PageExtract.Grammar

namespace PageExtract.Grammar
open PageExtract.Parser
variable {front rest : List Char}

theorem StageDue.notConstant (due : StageDue front) (stop : Stops (· == '|') rest) :
    ¬['|', '|'] <+: front ++ rest := by
  induction due generalizing rest with
  | @first before noPipe =>
    rintro ⟨tail, same⟩
    cases before with
    | nil =>
      have second : '|' :: tail = rest := (List.cons.inj same).2
      rw [← second] at stop
      exact absurd (stop '|' rfl) (by decide)
    | cons c before =>
      have head : '|' = c := (List.cons.inj same).1
      exact noPipe (head ▸ List.mem_cons_self)
  | next _ stage ih =>
    rw [List.append_assoc, List.append_assoc]
    exact ih (stage_start stage _)

theorem ArgumentDue.notConstant (due : ArgumentDue front) (rest : List Char) :
    ¬['|', '|'] <+: front ++ rest := by
  induction due generalizing rest with
  | first due spacesBefore identifier _ =>
    rw [List.append_assoc, List.append_assoc, List.append_assoc]
    exact due.notConstant (stops_spaces spacesBefore rfl (identifier_start identifier rfl _))
  | next _ _ _ _ ih =>
    rw [List.append_assoc]
    exact ih _

end PageExtract.Grammar

namespace PageExtract.Parser
open Grammar
variable {front : List Char}

theorem expression_of_chain (due : StageDue front) :
    ∃ build : List Call → Expression, (∀ calls, calls <:+ (build calls).calls) ∧
      ∀ rest, ¬['|', '|'] <+: front ++ rest →
        expression (front ++ rest) = (chain ('|' :: rest)).map build := by
  induction due with
  | @first before noPipe =>
    refine ⟨.query (selectorOf (before ++ ['|'])), fun calls => List.suffix_refl calls,
      fun rest notConstant => ?_⟩
    have ends : EndsStage ('|' :: rest) := by simp [EndsStage]
    obtain ⟨selector, back⟩ := takeWhile_pipe noPipe ends
    have single : EndsStage ['|'] := by simp [EndsStage]
    obtain ⟨selector', -⟩ := takeWhile_pipe noPipe single
    rw [List.append_assoc, List.singleton_append] at notConstant ⊢
    unfold expression
    split
    next same => exact absurd (by rw [same]; simp) notConstant
    · rw [back, selectorOf, selectorOf, selector, selector']
  | @next c front s _ stage ih =>
    obtain ⟨build, last, read⟩ := ih
    refine ⟨fun calls => build (c :: calls),
      fun calls => (List.suffix_cons c calls).trans (last (c :: calls)), fun rest notConstant => ?_⟩
    have ends : EndsStage ('|' :: rest) := by simp [EndsStage]
    rw [List.append_assoc, List.append_assoc, List.singleton_append] at notConstant ⊢
    rw [read _ notConstant, chain_stage (call_text stage ends)]
    cases chain ('|' :: rest) <;> rfl

theorem chain_call (s : List Char) :
    chain ('|' :: s) = (call s).bind fun (c, left) => (chain left).map (c :: ·) := by
  rw [chain]
  split <;> simp_all [Except.bind]

theorem expression_of_arguments (due : ArgumentDue front) :
    ∃ build : List Literal × List Char → Except Failure Expression,
      (∀ found e, build found = .ok e → ∃ c ∈ e.calls, found.1 <:+ c.args) ∧
        ∀ rest, expression (front ++ rest) = (arguments rest).bind build := by
  have notConstant := due.notConstant
  induction due with
  | @first front before name between due spacesBefore identifier spacesBetween =>
    obtain ⟨build, last, read⟩ := expression_of_chain due
    refine ⟨fun found =>
      ((chain (skipSpaces found.2)).map (⟨String.ofList name, found.1⟩ :: ·)).map build, ?_, ?_⟩
    · rintro ⟨literals, left⟩ e built
      cases others : chain (skipSpaces left) with
      | error f => simp [others, Except.map] at built
      | ok calls =>
        simp only [others, Except.map, Except.ok.injEq] at built
        subst built
        exact ⟨_, (last _).subset List.mem_cons_self, List.suffix_refl literals⟩
    · intro rest
      have shape : front ++ (before ++ (name ++ (between ++ ['(']))) ++ rest =
          front ++ (before ++ (name ++ (between ++ '(' :: rest))) := by simp
      have nameEnds : Stops isIdentifierPart (between ++ '(' :: rest) :=
        stops_spaces spacesBetween rfl (Stops.cons rfl)
      rw [shape, read _ (shape ▸ notConstant rest), chain_call, call,
        skipSpaces_text spacesBefore (identifier_start identifier rfl _),
        identifier_text identifier nameEnds]
      dsimp only
      rw [skipSpaces_text spacesBetween (Stops.cons rfl), argumentList]
      cases arguments rest <;> rfl
  | @next literal front before s after due spacesBefore text spacesAfter ih =>
    obtain ⟨build, last, read⟩ := ih due.notConstant
    refine ⟨fun found => build (literal :: found.1, found.2), ?_, ?_⟩
    · rintro ⟨literals, left⟩ e built
      obtain ⟨c, member, suffix⟩ := last _ e built
      exact ⟨c, member, (List.suffix_cons literal literals).trans suffix⟩
    · intro rest
      have shape : front ++ (before ++ (s ++ (after ++ [',']))) ++ rest =
          front ++ (before ++ (s ++ (after ++ ',' :: rest))) := by simp
      rw [shape, read, arguments_more (spacedArgument_text spacesBefore text spacesAfter (by simp))]
      cases arguments rest <;> rfl

end PageExtract.Parser
