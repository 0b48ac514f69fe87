import Mathlib
import PageExtract.UrlPattern

/-! What wildcards stand for, said without a search, and why the search finds it. The search gives
up early where a text ends before the wildcards do. That is safe because a deep wildcard stands
only at the start of a component: behind any other one the search would lose matches. -/
namespace PageExtract.Wildcard

/-- A wildcard stands for a piece of text. A deep one that ends its pattern is not bound to whole
components. -/
def Takes (w : Wildcard) (isLast : Bool) (piece : List Char) : Prop :=
  match w with
  | literal c => piece = [c]
  | anyChar => ∃ c, piece = [c] ∧ c ≠ '/'
  | within spans => ∃ c, piece = [c] ∧ c ≠ '/' ∧ ∃ r ∈ spans, r.first ≤ c ∧ c ≤ r.last
  | except spans => ∃ c, piece = [c] ∧ c ≠ '/' ∧ ∀ r ∈ spans, ¬(r.first ≤ c ∧ c ≤ r.last)
  | run => '/' ∉ piece
  | deep => isLast ∨ piece = [] ∨ ∃ front, piece = front ++ ['/']

/-- The text can be cut into pieces that the wildcards stand for, one after the other. -/
inductive Covers : List Wildcard → List Char → Prop
  | nil : Covers [] []
  | cons {w : Wildcard} {ws : List Wildcard} {piece rest : List Char}
      (takes : w.Takes ws.isEmpty piece) (others : Covers ws rest) : Covers (w :: ws) (piece ++ rest)

theorem covers_nil_iff {s : List Char} : Covers [] s ↔ s = [] := by
  constructor
  · rintro ⟨⟩
    rfl
  · rintro rfl
    exact .nil

theorem covers_cons_iff {w : Wildcard} {ws : List Wildcard} {s : List Char} :
    Covers (w :: ws) s ↔
      ∃ piece rest, s = piece ++ rest ∧ w.Takes ws.isEmpty piece ∧ Covers ws rest := by
  constructor
  · intro h
    cases h with
    | cons takes others => exact ⟨_, _, rfl, takes, others⟩
  · rintro ⟨piece, rest, rfl, takes, others⟩
    exact .cons takes others

def IsSingle (w : Wildcard) : Prop := w ≠ run ∧ w ≠ deep

theorem IsSingle.takes_iff {w : Wildcard} (single : w.IsSingle) {isLast : Bool}
    {piece : List Char} : w.Takes isLast piece ↔ ∃ c, piece = [c] ∧ w.admits c = true := by
  cases w with
  | literal d => simp [Takes, admits]
  | anyChar => simp [Takes, admits]
  | within spans => simp [Takes, admits, CharSpan.holds]
  | except spans => simp [Takes, admits, CharSpan.holds]
  | run => exact absurd rfl single.1
  | deep => exact absurd rfl single.2

theorem IsSingle.walk_cons {w : Wildcard} (single : w.IsSingle) (ws : List Wildcard) (c : Char)
    (rest : List Char) :
    walk (w :: ws) (c :: rest) = if w.admits c then walk ws rest else .missed := by
  cases w with
  | run => exact absurd rfl single.1
  | deep => exact absurd rfl single.2
  | _ => rfl

theorem IsSingle.walk_nil {w : Wildcard} (single : w.IsSingle) (ws : List Wildcard) :
    walk (w :: ws) [] = .hopeless := by
  cases w with
  | run => exact absurd rfl single.1
  | deep => exact absurd rfl single.2
  | _ => rfl

theorem mem_afterRun_iff {s t : List Char} :
    t ∈ afterRun s ↔ ∃ piece, s = piece ++ t ∧ '/' ∉ piece := by
  induction s with
  | nil => simp [afterRun, eq_comm]
  | cons c rest ih =>
    rw [afterRun, List.mem_cons]
    constructor
    · rintro (rfl | later)
      · exact ⟨[], rfl, by simp⟩
      · split at later
        · cases later
        next plain =>
          obtain ⟨piece, rfl, clear⟩ := ih.1 later
          exact ⟨c :: piece, rfl, by simp [clear, Ne.symm plain]⟩
    · rintro ⟨piece, same, clear⟩
      cases piece with
      | nil => exact .inl same.symm
      | cons d piece =>
        cases same
        rw [List.mem_cons, not_or] at clear
        rw [if_neg (Ne.symm clear.1)]
        exact .inr (ih.2 ⟨piece, rfl, clear.2⟩)

theorem suffix_of_afterRun {s t : List Char} (h : t ∈ afterRun s) : t <:+ s := by
  obtain ⟨piece, rfl, _⟩ := mem_afterRun_iff.1 h
  exact List.suffix_append _ _

theorem afterRun_between {s t u : List Char} (reached : t ∈ afterRun s) (around : t <:+ u)
    (inside : u <:+ s) : u ∈ afterRun s := by
  obtain ⟨piece, rfl, clear⟩ := mem_afterRun_iff.1 reached
  obtain ⟨middle, rfl⟩ := around
  obtain ⟨front, same⟩ := inside
  rw [← List.append_assoc, List.append_left_inj] at same
  rw [← same, List.mem_append, not_or] at clear
  exact mem_afterRun_iff.2 ⟨front, by rw [← same, List.append_assoc], clear.1⟩

theorem mem_afterSlashes_iff {s t : List Char} :
    t ∈ afterSlashes s ↔ ∃ front, s = front ++ '/' :: t := by
  induction s with
  | nil => simp [afterSlashes]
  | cons c rest ih =>
    rw [afterSlashes]
    constructor
    · intro h
      split at h
      next slash =>
        rcases List.mem_cons.1 h with rfl | later
        · exact ⟨[], by rw [slash]; rfl⟩
        · obtain ⟨front, rfl⟩ := ih.1 later
          exact ⟨c :: front, rfl⟩
      · obtain ⟨front, rfl⟩ := ih.1 h
        exact ⟨c :: front, rfl⟩
    · rintro ⟨front, same⟩
      cases front with
      | nil =>
        cases same
        rw [if_pos rfl]
        exact List.mem_cons_self
      | cons d front =>
        cases same
        have later := ih.2 ⟨front, rfl⟩
        split
        · exact List.mem_cons_of_mem _ later
        · exact later

theorem mem_afterDeep_iff {s t : List Char} :
    t ∈ afterDeep s ↔ t = s ∨ t = [] ∨ ∃ front, s = front ++ '/' :: t := by
  rw [afterDeep, List.mem_append, List.mem_cons, mem_afterSlashes_iff, List.mem_singleton, or_assoc,
    or_comm (a := ∃ _, _)]

theorem afterDeep_trans {s t u : List Char} (first : t ∈ afterDeep s) (second : u ∈ afterDeep t) :
    u ∈ afterDeep s := by
  rw [mem_afterDeep_iff] at *
  rcases second with rfl | rfl | ⟨front, rfl⟩
  · exact first
  · exact .inr (.inl rfl)
  · rcases first with same | none | ⟨front', rfl⟩
    · exact .inr (.inr ⟨front, same.symm⟩)
    · simp at none
    · exact .inr (.inr ⟨front' ++ '/' :: front, by simp⟩)

theorem suffix_of_afterDeep {s t : List Char} (h : t ∈ afterDeep s) : t <:+ s := by
  rcases mem_afterDeep_iff.1 h with rfl | rfl | ⟨front, rfl⟩
  · exact List.suffix_rfl
  · exact List.nil_suffix
  · exact ⟨front ++ ['/'], by simp⟩

theorem pairwise_afterRun (s : List Char) : (afterRun s).Pairwise fun t u => u <:+ t := by
  induction s with
  | nil => exact List.pairwise_singleton _ _
  | cons c rest ih =>
    rw [afterRun, List.pairwise_cons]
    split
    · exact ⟨by simp, .nil⟩
    · refine ⟨fun u hu => ?_, ih⟩
      obtain ⟨piece, rfl, _⟩ := mem_afterRun_iff.1 hu
      exact ⟨c :: piece, rfl⟩

theorem pairwise_afterSlashes (s : List Char) :
    (afterSlashes s).Pairwise fun t u => u ∈ afterDeep t := by
  induction s with
  | nil => exact .nil
  | cons c rest ih =>
    rw [afterSlashes]
    split
    · refine List.pairwise_cons.2 ⟨fun u hu => ?_, ih⟩
      exact List.mem_append_left _ (List.mem_cons_of_mem _ hu)
    · exact ih

theorem pairwise_afterDeep (s : List Char) : (afterDeep s).Pairwise fun t u => u ∈ afterDeep t := by
  refine List.pairwise_append.2 ⟨?_, List.pairwise_singleton _ _, fun t _ u hu => ?_⟩
  · refine List.pairwise_cons.2 ⟨fun u hu => ?_, pairwise_afterSlashes s⟩
    exact List.mem_append_left _ (List.mem_cons_of_mem _ hu)
  · rw [List.mem_singleton.1 hu]
    exact mem_afterDeep_iff.2 (.inr (.inl rfl))

section Attempts
variable {follow : List Char → Verdict} {places : List (List Char)} {s : List Char}

theorem exists_of_attempt_covered (h : attempt follow places = .covered) :
    ∃ s ∈ places, follow s = .covered := by
  induction places with
  | nil => cases h
  | cons first others ih =>
    rw [attempt] at h
    split at h
    · obtain ⟨s, member, found⟩ := ih h
      exact ⟨s, List.mem_cons_of_mem _ member, found⟩
    · exact ⟨first, List.mem_cons_self, h⟩

theorem exists_of_attempt_hopeless (h : attempt follow places = .hopeless) :
    ∃ before s after, places = before ++ s :: after ∧ follow s = .hopeless ∧
      ∀ t ∈ before, follow t = .missed := by
  induction places with
  | nil => cases h
  | cons first others ih =>
    rw [attempt] at h
    split at h
    next missed =>
      obtain ⟨before, s, after, rfl, stuck, earlier⟩ := ih h
      exact ⟨first :: before, s, after, rfl, stuck, List.forall_mem_cons.2 ⟨missed, earlier⟩⟩
    · exact ⟨[], first, others, rfl, h, by simp⟩

theorem attempt_ne_hopeless {R : List Char → List Char → Prop} (ordered : places.Pairwise R)
    (safe : ∀ t u, R t u → follow t = .hopeless → follow u ≠ .covered) (member : s ∈ places)
    (found : follow s = .covered) : attempt follow places ≠ .hopeless := by
  intro h
  obtain ⟨before, t, after, rfl, stuck, earlier⟩ := exists_of_attempt_hopeless h
  rcases List.mem_append.1 member with first | later
  · rw [earlier s first] at found
    cases found
  · rcases List.mem_cons.1 later with rfl | later
    · rw [stuck] at found
      cases found
    · have related := (List.pairwise_cons.1 (List.pairwise_append.1 ordered).2.1).1 s later
      exact safe t s related stuck found

theorem attempt_ne_missed (member : s ∈ places) (found : follow s = .covered) :
    attempt follow places ≠ .missed := by
  induction places with
  | nil => cases member
  | cons first others ih =>
    rw [attempt]
    split
    next missed =>
      rcases List.mem_cons.1 member with rfl | later
      · rw [missed] at found
        cases found
      · exact ih later
    next decided => exact decided

theorem attempt_covered_iff {R : List Char → List Char → Prop} (ordered : places.Pairwise R)
    (safe : ∀ t u, R t u → follow t = .hopeless → follow u ≠ .covered) :
    attempt follow places = .covered ↔ ∃ s ∈ places, follow s = .covered := by
  constructor
  · exact exists_of_attempt_covered
  · rintro ⟨s, member, found⟩
    cases verdict : attempt follow places with
    | covered => rfl
    | missed => exact absurd verdict (attempt_ne_missed member found)
    | hopeless => exact absurd verdict (attempt_ne_hopeless ordered safe member found)

end Attempts

def MayPrecede (v w : Wildcard) : Prop := w = deep → v = literal '/' ∨ v = deep

def Guarded (ws : List Wildcard) : Prop := ws.IsChain MayPrecede

/-- The later text is one that wildcards are tried on after the earlier one: any end part of it, or
where a deep wildcard comes first what is left after a slash, and nothing. -/
def Later (ws : List Wildcard) (s t : List Char) : Prop :=
  if ws.head? = some deep then t ∈ afterDeep s else t <:+ s

theorem Later.of_afterDeep {ws : List Wildcard} {s t : List Char} (h : t ∈ afterDeep s) :
    Later ws s t := by
  rw [Later]
  split
  · exact h
  · exact suffix_of_afterDeep h

theorem Guarded.tail {w : Wildcard} {ws : List Wildcard} (h : Guarded (w :: ws)) : Guarded ws :=
  List.IsChain.tail h

theorem Guarded.head {v : Wildcard} {ws : List Wildcard} (h : Guarded (v :: ws))
    (deepFirst : ws.head? = some deep) : v = literal '/' ∨ v = deep :=
  (List.isChain_cons.1 h).1 deep deepFirst rfl

theorem Guarded.later_of_suffix {v : Wildcard} {ws : List Wildcard} (h : Guarded (v :: ws))
    (other : v ≠ literal '/' ∧ v ≠ deep) {s t : List Char} (later : t <:+ s) : Later ws s t := by
  rw [Later, if_neg]
  · exact later
  · intro deepFirst
    rcases h.head deepFirst with slash | deep
    · exact other.1 slash
    · exact other.2 deep

theorem Guarded.later_of_cons {w : Wildcard} {ws : List Wildcard} (h : Guarded (w :: ws))
    (single : w.IsSingle) {c d : Char} {s t : List Char} (later : d :: t <:+ c :: s)
    (admitted : w.admits d = true) : Later ws s t := by
  rcases List.suffix_cons_iff.1 later with same | ⟨front, inside⟩
  · cases same
    exact .of_afterDeep (mem_afterDeep_iff.2 (.inl rfl))
  · rw [Later]
    split
    next deepFirst =>
      -- A deep wildcard follows, so this one is a slash and a component starts behind it.
      rcases h.head deepFirst with rfl | rfl
      · have slash : d = '/' := by simpa [admits] using admitted
        exact mem_afterDeep_iff.2 (.inr (.inr ⟨front, by rw [← inside, slash]⟩))
      · exact absurd rfl single.2
    · exact ⟨front ++ [d], by rw [← inside]; simp⟩

/-- Where the search gave up, no later text is covered. -/
theorem walk_ne_covered_of_hopeless {ws : List Wildcard} (guarded : Guarded ws) {s t : List Char}
    (later : Later ws s t) (hopeless : walk ws s = .hopeless) : walk ws t ≠ .covered := by
  induction ws generalizing s t with
  | nil =>
    rw [walk] at hopeless
    split at hopeless <;> cases hopeless
  | cons w ws ih =>
    intro covered
    by_cases isRun : w = run
    · subst isRun
      have safe : ∀ a b, b <:+ a → walk ws a = .hopeless → walk ws b ≠ .covered := fun a b suffix =>
        ih guarded.tail (guarded.later_of_suffix ⟨nofun, nofun⟩ suffix)
      have suffix : t <:+ s := by simpa [Later] using later
      obtain ⟨u, place, found⟩ := exists_of_attempt_covered covered
      obtain ⟨before, v, after, places, stuck, _⟩ := exists_of_attempt_hopeless hopeless
      have stuckPlace : v ∈ afterRun s := by simp [places]
      have inside : u <:+ s := (suffix_of_afterRun place).trans suffix
      rcases List.suffix_or_suffix_of_suffix inside (suffix_of_afterRun stuckPlace) with
        behind | around
      · exact safe v u behind stuck found
      · have member := afterRun_between stuckPlace around inside
        exact attempt_ne_hopeless (pairwise_afterRun s) safe member found hopeless
    by_cases isDeep : w = deep
    · subst isDeep
      have safe : ∀ a b, b ∈ afterDeep a → walk ws a = .hopeless → walk ws b ≠ .covered :=
        fun a b place => ih guarded.tail (.of_afterDeep place)
      have start : t ∈ afterDeep s := by simpa [Later] using later
      obtain ⟨u, place, found⟩ := exists_of_attempt_covered covered
      have member := afterDeep_trans start place
      exact attempt_ne_hopeless (pairwise_afterDeep s) safe member found hopeless
    · have single : w.IsSingle := ⟨isRun, isDeep⟩
      have suffix : t <:+ s := by simpa [Later, isDeep] using later
      cases t with
      | nil =>
        rw [single.walk_nil] at covered
        cases covered
      | cons d t =>
        cases s with
        | nil => exact absurd (List.suffix_nil.1 suffix) (by simp)
        | cons c s =>
          rw [single.walk_cons] at hopeless covered
          split at covered
          next admitted =>
            split at hopeless
            · have next := guarded.later_of_cons single suffix admitted
              exact ih guarded.tail next hopeless covered
            · cases hopeless
          · cases covered

theorem walk_run_iff {ws : List Wildcard} (guarded : Guarded (run :: ws)) {s : List Char} :
    walk (run :: ws) s = .covered ↔ ∃ t ∈ afterRun s, walk ws t = .covered :=
  attempt_covered_iff (pairwise_afterRun s) fun _ _ suffix =>
    walk_ne_covered_of_hopeless guarded.tail (guarded.later_of_suffix ⟨nofun, nofun⟩ suffix)

theorem walk_deep_iff {ws : List Wildcard} (guarded : Guarded (deep :: ws)) {s : List Char} :
    walk (deep :: ws) s = .covered ↔ ∃ t ∈ afterDeep s, walk ws t = .covered :=
  attempt_covered_iff (pairwise_afterDeep s) fun _ _ place =>
    walk_ne_covered_of_hopeless guarded.tail (.of_afterDeep place)

theorem covers_run_iff {ws : List Wildcard} {s : List Char} :
    Covers (run :: ws) s ↔ ∃ t ∈ afterRun s, Covers ws t := by
  rw [covers_cons_iff]
  constructor
  · rintro ⟨piece, rest, rfl, clear, others⟩
    exact ⟨rest, mem_afterRun_iff.2 ⟨piece, rfl, clear⟩, others⟩
  · rintro ⟨rest, place, others⟩
    obtain ⟨piece, rfl, clear⟩ := mem_afterRun_iff.1 place
    exact ⟨piece, rest, rfl, clear, others⟩

theorem covers_component {ws : List Wildcard} (some : ws ≠ []) (nothing : Covers ws [])
    {s : List Char} (clear : '/' ∉ s) : Covers ws s := by
  induction ws with
  | nil => exact absurd rfl some
  | cons w ws ih =>
    obtain ⟨piece, rest, same, takes, others⟩ := covers_cons_iff.1 nothing
    obtain ⟨rfl, rfl⟩ := List.append_eq_nil_iff.1 same.symm
    by_cases last : ws = []
    · subst last
      rw [← List.append_nil s]
      refine .cons ?_ .nil
      cases w with
      | run => exact clear
      | deep => exact .inl rfl
      | _ => simp [Takes] at takes
    · exact .cons takes (ih last others)

theorem exists_last_component (s : List Char) :
    ∃ t, '/' ∉ t ∧ (s = t ∨ ∃ front, s = front ++ '/' :: t) := by
  induction s with
  | nil => exact ⟨[], by simp, .inl rfl⟩
  | cons c s ih =>
    obtain ⟨t, clear, rfl | ⟨front, rfl⟩⟩ := ih
    · by_cases slash : c = '/'
      · exact ⟨s, clear, .inr ⟨[], by rw [slash]; rfl⟩⟩
      · exact ⟨c :: s, by simp [clear, Ne.symm slash], .inl rfl⟩
    · exact ⟨t, clear, .inr ⟨c :: front, rfl⟩⟩

theorem covers_deep_of_covers {ws : List Wildcard} {s : List Char} (h : Covers ws s) :
    Covers (deep :: ws) s := by
  rw [← List.nil_append s]
  exact .cons (.inr (.inl rfl)) h

theorem covers_deep_of_slash {ws : List Wildcard} {front t : List Char} (h : Covers ws t) :
    Covers (deep :: ws) (front ++ '/' :: t) := by
  have pieces : front ++ '/' :: t = (front ++ ['/']) ++ t := by simp
  rw [pieces]
  exact .cons (.inr (.inr ⟨front, rfl⟩)) h

theorem covers_deep_iff {ws : List Wildcard} {s : List Char} :
    Covers (deep :: ws) s ↔ ∃ t ∈ afterDeep s, Covers ws t := by
  constructor
  · intro h
    obtain ⟨piece, rest, rfl, takes, others⟩ := covers_cons_iff.1 h
    refine ⟨rest, mem_afterDeep_iff.2 ?_, others⟩
    rcases takes with last | rfl | ⟨front, rfl⟩
    · rw [List.isEmpty_iff.1 last] at others
      exact .inr (.inl (covers_nil_iff.1 others))
    · exact .inl rfl
    · exact .inr (.inr ⟨front, by simp⟩)
  · rintro ⟨t, place, others⟩
    rcases mem_afterDeep_iff.1 place with rfl | rfl | ⟨front, rfl⟩
    · exact covers_deep_of_covers others
    · by_cases last : ws = []
      · subst last
        rw [← List.append_nil s]
        exact .cons (.inl rfl) .nil
      · -- At the end of the text only runs are left, and these take the last component.
        obtain ⟨t, clear, rfl | ⟨front, rfl⟩⟩ := exists_last_component s
        · exact covers_deep_of_covers (covers_component last others clear)
        · exact covers_deep_of_slash (covers_component last others clear)
    · exact covers_deep_of_slash others

/-- The search covers a text exactly if the text can be cut into pieces for the wildcards. -/
theorem walk_covered_iff {ws : List Wildcard} (guarded : Guarded ws) {s : List Char} :
    walk ws s = .covered ↔ Covers ws s := by
  induction ws generalizing s with
  | nil =>
    rw [covers_nil_iff, walk]
    cases s with
    | nil => simp
    | cons c s => simp
  | cons w ws ih =>
    by_cases isRun : w = run
    · subst isRun
      simp only [walk_run_iff guarded, covers_run_iff, ih guarded.tail]
    by_cases isDeep : w = deep
    · subst isDeep
      simp only [walk_deep_iff guarded, covers_deep_iff, ih guarded.tail]
    · have single : w.IsSingle := ⟨isRun, isDeep⟩
      simp only [covers_cons_iff, single.takes_iff]
      cases s with
      | nil =>
        rw [single.walk_nil]
        simp
      | cons c s =>
        rw [single.walk_cons]
        constructor
        · intro h
          split at h
          next admitted => exact ⟨[c], s, rfl, ⟨c, rfl, admitted⟩, (ih guarded.tail).1 h⟩
          · cases h
        · rintro ⟨_, rest, same, ⟨d, rfl, admitted⟩, others⟩
          cases same
          rw [if_pos admitted]
          exact (ih guarded.tail).2 others

theorem covers_deep_deep {front ws : List Wildcard} {s : List Char} :
    Covers (front ++ deep :: deep :: ws) s ↔ Covers (front ++ deep :: ws) s := by
  induction front generalizing s with
  | nil =>
    simp only [List.nil_append, covers_deep_iff]
    constructor
    · rintro ⟨t, first, u, second, others⟩
      exact ⟨u, afterDeep_trans first second, others⟩
    · rintro ⟨t, place, others⟩
      exact ⟨t, place, t, mem_afterDeep_iff.2 (.inl rfl), others⟩
  | cons w front ih =>
    have tail : ∀ rest : List Wildcard, (front ++ deep :: rest).isEmpty = false := by simp
    simp only [List.cons_append, covers_cons_iff, ih, tail]

theorem covers_foldl_push {read ws : List Wildcard} {s : List Char} :
    Covers (ws.foldl push read) s ↔ Covers (read ++ ws) s := by
  induction ws generalizing read with
  | nil => simp
  | cons w ws ih =>
    rw [List.foldl_cons, ih, push]
    split
    next repeated =>
      simp only [Bool.and_eq_true, decide_eq_true_eq] at repeated
      obtain ⟨⟨rfl, _⟩, last⟩ := repeated
      obtain ⟨front, rfl⟩ := List.getLast?_eq_some_iff.1 last
      simp only [List.append_assoc, List.singleton_append]
      exact covers_deep_deep.symm
    · simp

theorem Guarded.foldl_push {read ws : List Wildcard} (h : Guarded (read ++ ws)) :
    Guarded (ws.foldl push read) := by
  induction ws generalizing read with
  | nil => simpa using h
  | cons w ws ih =>
    rw [List.foldl_cons, push]
    split
    next repeated =>
      simp only [Bool.and_eq_true, decide_eq_true_eq] at repeated
      obtain ⟨⟨rfl, _⟩, last⟩ := repeated
      obtain ⟨guarded, others, _⟩ := List.isChain_append.1 h
      refine ih (List.isChain_append.2 ⟨guarded, List.IsChain.tail others, fun v hv w _ _ => ?_⟩)
      rw [last] at hv
      exact .inr (Option.some.inj hv).symm
    · exact ih (by simpa using h)

end PageExtract.Wildcard
