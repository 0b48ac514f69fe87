import Mathlib
import PageExtract.Proofs.Characters
import PageExtract.Proofs.Elementwise
import PageExtract.Proofs.WildcardMatching

/-! A text that is a pattern spells one list of wildcards, and the pattern matches exactly the URLs
that these stand for. -/
namespace PageExtract.Wildcard

/-- The content of a class. A closing bracket can only come first. -/
def IsContent (content : List Char) : Prop := ∃ first rest, content = first :: rest ∧ ']' ∉ rest

/-- The content of a class writes the entries: two characters with a hyphen between them stand for
all from the one to the other, and any other character stands for itself. -/
inductive ClassText : List CharSpan → List Char → Prop
  | nil : ClassText [] []
  | range {first last : Char} {entries : List CharSpan} {text : List Char}
      (others : ClassText entries text) :
      ClassText (⟨first, last⟩ :: entries) (first :: '-' :: last :: text)
  | single {c : Char} {entries : List CharSpan} {text : List Char}
      (alone : ∀ last rest, text ≠ '-' :: last :: rest) (others : ClassText entries text) :
      ClassText (⟨c, c⟩ :: entries) (c :: text)

/-- The text writes the wildcards, one after the other. -/
inductive Spells : List Wildcard → List Char → Prop
  | nil : Spells [] []
  | literal {c : Char} {ws : List Wildcard} {text : List Char}
      (plain : c ≠ '?' ∧ c ≠ '*' ∧ c ≠ '[') (others : Spells ws text) :
      Spells (.literal c :: ws) (c :: text)
  | anyChar {ws : List Wildcard} {text : List Char} (others : Spells ws text) :
      Spells (.anyChar :: ws) ('?' :: text)
  | within {content : List Char} {entries : List CharSpan} {ws : List Wildcard} {text : List Char}
      (sound : IsContent content) (plain : content.head? ≠ some '!')
      (written : ClassText entries content) (others : Spells ws text) :
      Spells (.within entries :: ws) ('[' :: content ++ ']' :: text)
  | except {content : List Char} {entries : List CharSpan} {ws : List Wildcard} {text : List Char}
      (sound : IsContent content) (written : ClassText entries content) (others : Spells ws text) :
      Spells (.except entries :: ws) ('[' :: '!' :: content ++ ']' :: text)
  | run {ws : List Wildcard} {text : List Char} (single : text.head? ≠ some '*')
      (others : Spells ws text) : Spells (.run :: ws) ('*' :: text)
  | deep {ws : List Wildcard} {text : List Char} (others : Spells ws text) :
      Spells (.deep :: ws) ('*' :: '*' :: '/' :: text)
  | lastDeep : Spells [.deep] ['*', '*']

theorem classText_spans (content : List Char) : ClassText (spans content) content := by
  fun_induction spans content with
  | case1 first last rest ih => exact .range ih
  | case2 c rest alone ih =>
    refine .single (fun last others same => ?_) ih
    exact alone last others same
  | case3 => exact .nil

theorem ClassText.eq_spans {entries : List CharSpan} {content : List Char}
    (h : ClassText entries content) : entries = spans content := by
  induction h with
  | nil => rfl
  | range _ ih => rw [spans, ← ih]
  | single alone _ ih => rw [spans.eq_2 _ _ alone, ← ih]

theorem classContent?_eq_some {s content after : List Char}
    (h : classContent? s = some (content, after)) :
    IsContent content ∧ s = content ++ ']' :: after := by
  unfold classContent? at h
  split at h
  next first rest =>
    split at h
    next bracket _ left =>
      cases h
      have closing : bracket = ']' := by
        simpa [left] using List.head?_dropWhile_not (· != ']') rest
      refine ⟨⟨first, _, rfl, fun inside => ?_⟩, ?_⟩
      · simpa using List.mem_takeWhile_imp inside
      · have parts := List.takeWhile_append_dropWhile (p := (· != ']')) (l := rest)
        rw [left, closing] at parts
        rw [List.cons_append, parts]
    · cases h
  · cases h

theorem class?_eq_some {s after : List Char} {w : Wildcard} (h : class? s = some (w, after)) :
    after.length < s.length ∧ w ≠ .deep ∧
      ∀ ws, Spells ws after → Spells (w :: ws) ('[' :: s) := by
  unfold class? at h
  split at h
  next rest =>
    obtain ⟨⟨content, left⟩, found, same⟩ := Option.map_eq_some_iff.1 h
    cases same
    obtain ⟨sound, rfl⟩ := classContent?_eq_some found
    exact ⟨by simp; omega, nofun, fun ws others => .except sound (classText_spans _) others⟩
  next plain =>
    obtain ⟨⟨content, left⟩, found, same⟩ := Option.map_eq_some_iff.1 h
    cases same
    obtain ⟨sound, rfl⟩ := classContent?_eq_some found
    refine ⟨by simp; omega, nofun,
      fun ws others => .within sound (fun negated => ?_) (classText_spans _) others⟩
    obtain ⟨first, rest, rfl, _⟩ := sound
    cases negated
    exact plain _ rfl

theorem IsContent.eq_of_append {content content' text text' : List Char} (sound : IsContent content)
    (sound' : IsContent content') (same : content ++ ']' :: text = content' ++ ']' :: text') :
    content = content' ∧ text = text' := by
  obtain ⟨first, rest, rfl, clear⟩ := sound
  obtain ⟨first', rest', rfl, clear'⟩ := sound'
  have run : ∀ {s : List Char}, ']' ∉ s → ∀ c ∈ s, (c != ']') = true := by
    intro s clear c hc
    simpa using ne_of_mem_of_not_mem hc clear
  have stop : ∀ t : List Char, Stops (· != ']') (']' :: t) := fun t => Stops.cons (by simp)
  rw [List.cons_append, List.cons_append, List.cons.injEq] at same
  have contents := (stop text).takeWhile_run (run clear)
  rw [same.2, (stop text').takeWhile_run (run clear')] at contents
  rw [contents, List.append_right_inj, List.cons.injEq] at same
  exact ⟨by rw [same.1, contents], same.2.2⟩

theorem Spells.unique {ws ws' : List Wildcard} {text : List Char} (h : Spells ws text)
    (h' : Spells ws' text) : ws = ws' := by
  induction h generalizing ws' with
  | nil =>
    cases h'
    rfl
  | literal plain _ ih =>
    cases h' with
    | literal _ others => rw [ih others]
    | anyChar => exact absurd rfl plain.1
    | run | deep | lastDeep => exact absurd rfl plain.2.1
    | within | except => exact absurd rfl plain.2.2
  | anyChar _ ih =>
    cases h' with
    | literal plain => exact absurd rfl plain.1
    | anyChar others => rw [ih others]
  | run single _ ih =>
    cases h' with
    | literal plain => exact absurd rfl plain.2.1
    | run _ others => rw [ih others]
    | deep | lastDeep => exact absurd rfl single
  | deep _ ih =>
    cases h' with
    | literal plain => exact absurd rfl plain.2.1
    | run single => exact absurd rfl single
    | deep others => rw [ih others]
  | lastDeep =>
    cases h' with
    | literal plain => exact absurd rfl plain.2.1
    | run single => exact absurd rfl single
    | lastDeep => rfl
  | @within content entries ws text sound plain entry _ ih =>
    generalize written : '[' :: content ++ ']' :: text = t at h'
    cases h' with
    | literal plain =>
      cases written
      exact absurd rfl plain.2.2
    | within sound' _ entry' others =>
      rw [List.cons_append, List.cons_append, List.cons.injEq] at written
      obtain ⟨rfl, rfl⟩ := sound.eq_of_append sound' written.2
      rw [ih others, entry.eq_spans, entry'.eq_spans]
    | except =>
      obtain ⟨first, rest, rfl, _⟩ := sound
      simp only [List.cons_append, List.cons.injEq] at written
      exact absurd (congrArg some written.2.1) plain
    | _ => cases written
  | @except content entries ws text sound entry _ ih =>
    generalize written : '[' :: '!' :: content ++ ']' :: text = t at h'
    cases h' with
    | literal plain =>
      cases written
      exact absurd rfl plain.2.2
    | within sound' plain =>
      obtain ⟨first, rest, rfl, _⟩ := sound'
      simp only [List.cons_append, List.cons.injEq] at written
      exact absurd (congrArg some written.2.1.symm) plain
    | except sound' entry' others =>
      simp only [List.cons_append, List.cons.injEq, true_and] at written
      obtain ⟨rfl, rfl⟩ := sound.eq_of_append sound' written
      rw [ih others, entry.eq_spans, entry'.eq_spans]
    | _ => cases written

theorem Guarded.cons {w : Wildcard} {ws : List Wildcard} (h : Guarded ws)
    (first : ws.head? = some .deep → w = .literal '/' ∨ w = .deep) : Guarded (w :: ws) :=
  List.isChain_cons.2 ⟨fun _ hv same => first (same ▸ hv), h⟩

theorem scan_sound {fuel position : Nat} {before : Option Char} {s : List Char}
    {ws : List Wildcard} (h : scan fuel position before s = .ok ws) (enough : s.length < fuel) :
    Spells ws s ∧ Guarded ws ∧
      (ws.head? = some .deep → before.all (· == '/') = true) := by
  fun_induction scan fuel position before s generalizing ws with
  | case1 => omega
  | case2 =>
    cases h
    exact ⟨.nil, .nil, nofun⟩
  | case3 _ _ _ rest ih =>
    obtain ⟨others, read, rfl⟩ := exists_of_map_eq_ok h
    obtain ⟨spelled, guarded, start⟩ := ih read (Nat.lt_of_succ_lt_succ enough)
    exact ⟨.anyChar spelled, guarded.cons fun first => absurd (start first) (by decide), nofun⟩
  | case4 => cases h
  | case5 _ _ _ rest w after found ih =>
    obtain ⟨others, read, rfl⟩ := exists_of_map_eq_ok h
    obtain ⟨shorter, notDeep, spell⟩ := class?_eq_some found
    obtain ⟨spelled, guarded, start⟩ := ih read (shorter.trans (Nat.lt_of_succ_lt_succ enough))
    exact ⟨spell others spelled, guarded.cons fun first => absurd (start first) (by decide),
      fun first => absurd (Option.some.inj first) notDeep⟩
  | case6 => cases h
  | case7 _ _ _ start =>
    cases h
    exact ⟨.lastDeep, .singleton _, fun _ => start⟩
  | case8 _ _ _ start after _ ih =>
    obtain ⟨others, read, rfl⟩ := exists_of_map_eq_ok h
    obtain ⟨spelled, guarded, _⟩ := ih read (by simp only [List.length_cons] at enough; omega)
    exact ⟨.deep spelled, guarded.cons fun _ => .inr rfl, fun _ => start⟩
  | case9 => cases h
  | case10 => cases h
  | case11 _ _ _ rest _ single ih =>
    obtain ⟨others, read, rfl⟩ := exists_of_map_eq_ok h
    obtain ⟨spelled, guarded, start⟩ := ih read (Nat.lt_of_succ_lt_succ enough)
    refine ⟨.run (fun star => ?_) spelled,
      guarded.cons fun first => absurd (start first) (by decide), nofun⟩
    obtain ⟨more, rfl⟩ := List.head?_eq_some_iff.1 star
    exact single more rfl
  | case12 _ _ _ c rest notAny notClass _ _ notRun ih =>
    obtain ⟨others, read, rfl⟩ := exists_of_map_eq_ok h
    obtain ⟨spelled, guarded, start⟩ := ih read (Nat.lt_of_succ_lt_succ enough)
    refine ⟨.literal ⟨notAny, notRun, notClass⟩ spelled, guarded.cons fun first => ?_, nofun⟩
    have slash : c = '/' := by simpa using start first
    exact .inl (by rw [slash])

end PageExtract.Wildcard

namespace PageExtract.UrlPattern
open Wildcard

theorem parse_eq_ok {text : String} {p : UrlPattern} (h : parse text = .ok p) :
    p.text = text ∧ ∃ ws, Spells ws text.toList ∧ Guarded ws ∧ p.wildcards = ws.foldl push [] := by
  obtain ⟨ws, read, rfl⟩ := exists_of_map_eq_ok h
  obtain ⟨spelled, guarded, _⟩ := scan_sound read (by simp [String.length_toList])
  exact ⟨rfl, ws, spelled, guarded, rfl⟩

theorem walk_everything (s : List Char) : walk [.deep] s = .covered := by
  rw [walk_covered_iff (.singleton _), ← List.append_nil s]
  exact .cons (.inl rfl) .nil

theorem isMatch_iff_walk {text : String} {p : UrlPattern} (h : parse text = .ok p) (url : String) :
    p.isMatch url = true ↔ walk p.wildcards url.toList = .covered := by
  rw [isMatch, Bool.or_eq_true, decide_eq_true_eq, or_iff_right_of_imp]
  intro everything
  obtain ⟨rfl, _⟩ := parse_eq_ok h
  have all : parse "**" = .ok p := by rwa [← eq_of_beq everything]
  cases all
  exact walk_everything _

/-- A pattern matches exactly the URLs that can be cut into pieces for the wildcards that its text
spells, one after the other. The search alone finds out, also for the pattern of all URLs. -/
theorem matches_what_is_spelled {text : String} {p : UrlPattern} (h : parse text = .ok p) :
    (∃ ws, Spells ws text.toList) ∧
    (∀ ws, Spells ws text.toList →
      ∀ url : String, p.isMatch url = true ↔ Covers ws url.toList) ∧
    ∀ url : String, p.isMatch url = true ↔ walk p.wildcards url.toList = .covered := by
  obtain ⟨_, ws, spelled, guarded, wildcards⟩ := parse_eq_ok h
  refine ⟨⟨ws, spelled⟩, fun ws' spelled' url => ?_, isMatch_iff_walk h⟩
  have pushed : Guarded (ws.foldl push []) := Guarded.foldl_push (by simpa using guarded)
  rw [spelled'.unique spelled, isMatch_iff_walk h, wildcards, walk_covered_iff pushed,
    covers_foldl_push, List.nil_append]

/-- A component ends in `b` and one more letter, below any others. -/
theorem last_component_matched :
    ∃ p, parse "/**/*b?" = .ok p ∧ p.isMatch "/ab/cbd" = true ∧
      Covers [.literal '/', .deep, .run, .literal 'b', .anyChar] "/ab/cbd".toList := by
  let p : UrlPattern := ⟨"/**/*b?", [.literal '/', .deep, .run, .literal 'b', .anyChar]⟩
  have read : parse "/**/*b?" = .ok p := by decide
  have spelled : Spells [.literal '/', .deep, .run, .literal 'b', .anyChar] "/**/*b?".toList :=
    .literal (by decide) (.deep (.run (by decide) (.literal (by decide) (.anyChar .nil))))
  have found : p.isMatch "/ab/cbd" = true := by decide
  exact ⟨p, read, found, ((matches_what_is_spelled read).2.1 _ spelled _).1 found⟩

end PageExtract.UrlPattern
