import PageExtract.Expr.Parser
import PageExtract.Proofs.Grammar

/-! A reader takes the longest run of a class. It takes exactly what the grammar writes when
something outside of the class follows. -/
namespace PageExtract

/-- What follows a run: nothing, or a character outside of the class. -/
def Stops (p : Char → Bool) (rest : List Char) : Prop := ∀ c ∈ rest.head?, p c = false

namespace Stops
variable {p q : Char → Bool} {c : Char} {rest s : List Char}

theorem nil : Stops p [] := by simp [Stops]

theorem cons (h : p c = false) : Stops p (c :: rest) := by simpa [Stops] using h

theorem of_imp (h : Stops p rest) (imp : ∀ c, q c = true → p c = true) : Stops q rest := by
  intro c hc
  have outside := h c hc
  cases inside : q c with
  | false => rfl
  | true => rw [imp c inside] at outside; exact outside

theorem of_head (h : Stops p s) (same : s.head? = rest.head?) : Stops p rest := by
  rwa [Stops, ← same]

theorem takeWhile (h : Stops p rest) : rest.takeWhile p = [] := by
  cases rest with
  | nil => rfl
  | cons c rest => simp [h c rfl]

theorem dropWhile (h : Stops p rest) : rest.dropWhile p = rest := by
  cases rest with
  | nil => rfl
  | cons c rest => simp [h c rfl]

theorem takeWhile_run (h : Stops p rest) (run : ∀ c ∈ s, p c = true) :
    (s ++ rest).takeWhile p = s := by
  rw [List.takeWhile_append_of_pos run, h.takeWhile, List.append_nil]

theorem dropWhile_run (h : Stops p rest) (run : ∀ c ∈ s, p c = true) :
    (s ++ rest).dropWhile p = rest := by
  rw [List.dropWhile_append_of_pos run, h.dropWhile]

theorem of_dropWhile (p : Char → Bool) (s : List Char) : Stops p (s.dropWhile p) := by
  intro c hc
  have first := List.head?_dropWhile_not p s
  rw [hc] at first
  exact first

end Stops

namespace Grammar

theorem isDigit_iff {c : Char} : c.isDigit = true ↔ IsDigit c := by
  simp [Char.isDigit, IsDigit, Char.le_def]

theorem isAlpha_iff {c : Char} : c.isAlpha = true ↔ IsLetter c := by
  have upper : c.isUpper = true ↔ 'A' ≤ c ∧ c ≤ 'Z' := decide_eq_true_iff
  have lower : c.isLower = true ↔ 'a' ≤ c ∧ c ≤ 'z' :=
    (Bool.and_eq_true_iff).trans (and_congr decide_eq_true_iff decide_eq_true_iff)
  exact (Bool.or_eq_true_iff).trans (or_congr upper lower)

theorem isIdentifierStart_iff {c : Char} :
    Parser.isIdentifierStart c = true ↔ StartsIdentifier c := by
  simp only [Parser.isIdentifierStart, StartsIdentifier, Bool.or_eq_true, beq_iff_eq, isAlpha_iff,
    or_assoc]
  rw [or_comm (a := c = '-')]

theorem isIdentifierPart_iff {c : Char} :
    Parser.isIdentifierPart c = true ↔ ContinuesIdentifier c := by
  simp only [Parser.isIdentifierPart, ContinuesIdentifier, Bool.or_eq_true, isDigit_iff,
    isIdentifierStart_iff]

theorem Spaces.nil : Spaces [] := by simp [Spaces]

theorem Spaces.cons {s : List Char} (h : Spaces s) : Spaces (' ' :: s) := by
  intro c hc
  rcases List.mem_cons.1 hc with rfl | hc
  · rfl
  · exact h c hc

end Grammar

namespace Blank

structure Trimmed (s : List Char) : Prop where
  first : Stops isBlank s
  last : ∀ c ∈ s.getLast?, isBlank c = false

theorem trimEnd_front (s : List Char) : trimEnd s <+: s := by
  have tail := List.dropWhile_suffix (l := s.reverse) isBlank
  have front := List.reverse_prefix.2 tail
  rwa [List.reverse_reverse] at front

theorem mem_of_mem_trim {c : Char} {s : List Char} (h : c ∈ trim s) : c ∈ s :=
  (List.dropWhile_suffix isBlank).subset ((trimEnd_front _).subset h)

theorem trimmed_trim (s : List Char) : Trimmed (trim s) where
  first := by
    intro c hc
    obtain ⟨tail, same⟩ := trimEnd_front (trimStart s)
    apply Stops.of_dropWhile isBlank s c
    change c ∈ (trimStart s).head?
    rw [← same, List.head?_append]
    exact Option.or_eq_some_iff.2 (.inl hc)
  last := by
    intro c hc
    rw [trim, trimEnd, List.getLast?_reverse] at hc
    exact Stops.of_dropWhile isBlank _ c hc

theorem trim_append {s blanks : List Char} (h : Trimmed s) (hb : ∀ c ∈ blanks, isBlank c = true) :
    trim (s ++ blanks) = s := by
  cases s with
  | nil =>
    have none : blanks.dropWhile isBlank = [] := by
      simpa using Stops.nil.dropWhile_run hb
    simp [trim, trimStart, trimEnd, none]
  | cons c s =>
    have start : trimStart (c :: s ++ blanks) = c :: s ++ blanks := by
      simp [trimStart, h.first c rfl]
    have stop : Stops isBlank (c :: s).reverse := by
      intro d hd
      rw [List.head?_reverse] at hd
      exact h.last d hd
    have run : ∀ d ∈ blanks.reverse, isBlank d = true := fun d hd => hb d (List.mem_reverse.1 hd)
    rw [trim, start, trimEnd, List.reverse_append, stop.dropWhile_run run, List.reverse_reverse]

theorem trim_blanks {s : List Char} (h : ∀ c ∈ s, isBlank c = true) : trim s = [] :=
  trim_append (s := []) ⟨Stops.nil, by simp⟩ h

end Blank
end PageExtract
