import Mathlib
import PageExtract.Html.Location

/-! The place of an element is the way down to it. Places tell which of two elements comes first,
and which one stands in the other. -/
namespace PageExtract.Html

def Frame.path (frames : List Frame) : List Nat :=
  (frames.map fun frame => frame.before.length).reverse

theorem Frame.path_append (inner frames : List Frame) :
    path (inner ++ frames) = path frames ++ path inner := by
  rw [path, List.map_append, List.reverse_append]
  rfl

theorem Frame.path_cons (frame : Frame) (frames : List Frame) :
    path (frame :: frames) = path frames ++ [frame.before.length] := by
  rw [path, List.map_cons, List.reverse_cons]
  rfl

namespace Location

def path (l : Location) : List Nat := Frame.path l.frames

/-- Document order: an element comes before the elements in it and before what follows it. -/
def Precedes (a b : Location) : Prop := List.Lex (· < ·) a.path b.path

instance : DecidableRel Precedes := fun a b =>
  inferInstanceAs (Decidable (List.Lex (· < ·) a.path b.path))

/-- The way to the second element goes on from the first one. -/
def Encloses (a b : Location) : Prop := ∃ step rest, b.path = a.path ++ step :: rest

/-- The ways to the elements part, and the first one turns off earlier. -/
def StandsBefore (a b : Location) : Prop :=
  ∃ common i j rest rest', i < j ∧ a.path = common ++ i :: rest ∧ b.path = common ++ j :: rest'

variable {a b c : Location}

theorem Precedes.trans (h : a.Precedes b) (h' : b.Precedes c) : a.Precedes c :=
  List.lex_trans (fun first second => Nat.lt_trans first second) h h'

theorem Precedes.path_ne (h : a.Precedes b) : a.path ≠ b.path := by
  intro same
  rw [Precedes, same] at h
  exact List.lex_irrefl Nat.lt_irrefl _ h

theorem Precedes.asymm (h : a.Precedes b) : ¬b.Precedes a :=
  fun back => (h.trans back).path_ne rfl

theorem Encloses.precedes (h : a.Encloses b) : a.Precedes b := by
  obtain ⟨step, rest, way⟩ := h
  rw [Precedes, way]
  simpa using List.Lex.append_left (· < ·) (List.Lex.nil (a := step) (l := rest)) a.path

theorem Encloses.length_lt (h : a.Encloses b) : a.path.length < b.path.length := by
  obtain ⟨step, rest, way⟩ := h
  rw [way, List.length_append, List.length_cons]
  omega

theorem StandsBefore.precedes (h : a.StandsBefore b) : a.Precedes b := by
  obtain ⟨common, i, j, rest, rest', less, first, second⟩ := h
  rw [Precedes, first, second]
  exact List.Lex.append_left _ (.rel less) common

theorem StandsBefore.not_encloses (h : a.StandsBefore b) : ¬a.Encloses b := by
  obtain ⟨common, i, j, rest, rest', less, first, second⟩ := h
  rintro ⟨step, deeper, way⟩
  rw [first, second, List.append_assoc, List.append_cancel_left_eq, List.cons_append,
    List.cons.injEq] at way
  omega

theorem StandsBefore.not_enclosed (h : a.StandsBefore b) : ¬b.Encloses a :=
  fun around => h.precedes.asymm around.precedes

theorem precedes_iff : a.Precedes b ↔ a.StandsBefore b ∨ a.Encloses b := by
  constructor
  · rw [Precedes, StandsBefore, Encloses]
    intro h
    generalize a.path = first at h ⊢
    generalize b.path = second at h ⊢
    induction h with
    | @nil step rest => exact .inr ⟨step, rest, rfl⟩
    | @rel i rest j rest' less => exact .inl ⟨[], i, j, rest, rest', less, rfl, rfl⟩
    | @cons step _ _ _ ih =>
      obtain ⟨common, i, j, rest, rest', less, first, second⟩ | ⟨next, rest, way⟩ := ih
      · refine .inl ⟨step :: common, i, j, rest, rest', less, ?_, ?_⟩
        · rw [first, List.cons_append]
        · rw [second, List.cons_append]
      · exact .inr ⟨next, rest, by rw [way, List.cons_append]⟩
  · rintro (h | h)
    · exact h.precedes
    · exact h.precedes

theorem StandsBefore.inside {x y : Location} (h : a.StandsBefore b) (hx : a.Encloses x)
    (hy : b.Encloses y) : x.StandsBefore y := by
  obtain ⟨common, i, j, rest, rest', less, first, second⟩ := h
  obtain ⟨step, deeper, way⟩ := hx
  obtain ⟨step', deeper', way'⟩ := hy
  refine ⟨common, i, j, rest ++ step :: deeper, rest' ++ step' :: deeper', less, ?_, ?_⟩
  · rw [way, first, List.append_assoc, List.cons_append]
  · rw [way', second, List.append_assoc, List.cons_append]

mutual

theorem exists_of_mem_within {frames : List Frame} {l : Location} :
    ∀ {n : Node}, l ∈ within frames n → ∃ inner, l.frames = inner ++ frames
  | .element e children, h => by
    rcases List.mem_cons.1 (by simpa only [within] using h) with rfl | h
    · exact ⟨[], rfl⟩
    · obtain ⟨inner, frame, steps, _⟩ := exists_of_mem_among h
      exact ⟨inner ++ [frame], by simp [steps]⟩
  | .fragment children, h => by
    obtain ⟨inner, frame, steps, _⟩ := exists_of_mem_among (by simpa only [within] using h)
    exact ⟨inner ++ [frame], by simp [steps]⟩
  | .text _, h => by simp [within] at h
  | .comment _, h => by simp [within] at h
  | .doctype _, h => by simp [within] at h

theorem exists_of_mem_among {holder : Holder} {frames : List Frame} {l : Location} :
    ∀ {before ns : List Node}, l ∈ among holder frames before ns →
      ∃ inner frame, l.frames = inner ++ frame :: frames ∧ frame.holder = holder ∧
        before.length ≤ frame.before.length
  | before, [], h => by simp [among] at h
  | before, n :: after, h => by
    rcases List.mem_append.1 (by simpa only [among] using h) with h | h
    · obtain ⟨inner, steps⟩ := exists_of_mem_within h
      exact ⟨inner, _, steps, rfl, le_refl _⟩
    · obtain ⟨inner, frame, steps, same, further⟩ := exists_of_mem_among h
      exact ⟨inner, frame, steps, same, (Nat.le_succ _).trans further⟩

end

section Row
variable {holder : Holder} {frames : List Frame} {before after ns : List Node} {n : Node}

theorem path_of_mem_among {l : Location} (h : l ∈ among holder frames before ns) :
    ∃ i rest, before.length ≤ i ∧ l.path = Frame.path frames ++ i :: rest := by
  obtain ⟨inner, frame, steps, _, further⟩ := exists_of_mem_among h
  refine ⟨frame.before.length, Frame.path inner, further, ?_⟩
  rw [path, steps, Frame.path_append, Frame.path_cons, List.append_assoc, List.singleton_append]

theorem path_of_mem_within {l : Location} (h : l ∈ within (⟨holder, before, after⟩ :: frames) n) :
    ∃ rest, l.path = Frame.path frames ++ before.length :: rest := by
  obtain ⟨inner, steps⟩ := exists_of_mem_within h
  refine ⟨Frame.path inner, ?_⟩
  rw [path, steps, Frame.path_append, Frame.path_cons, List.append_assoc, List.singleton_append]

theorem encloses_of_mem_descendants {a l : Location} (h : l ∈ a.descendants) : a.Encloses l := by
  obtain ⟨i, rest, _, way⟩ := path_of_mem_among h
  exact ⟨i, rest, way⟩

theorem standsBefore_of_row {a b : Location}
    (ha : a ∈ within (⟨holder, before, after⟩ :: frames) n)
    (hb : b ∈ among holder frames (n :: before) after) : a.StandsBefore b := by
  obtain ⟨rest, first⟩ := path_of_mem_within ha
  obtain ⟨j, rest', further, second⟩ := path_of_mem_among hb
  exact ⟨Frame.path frames, before.length, j, rest, rest', further, first, second⟩

end Row

mutual

theorem pairwise_within : ∀ (frames : List Frame) (n : Node),
    (within frames n).Pairwise Precedes
  | frames, .element e children => by
    rw [within, List.pairwise_cons]
    refine ⟨fun l h => ?_, pairwise_among (.element e) frames [] children⟩
    exact (encloses_of_mem_descendants (a := ⟨e, children, frames⟩) h).precedes
  | frames, .fragment children => pairwise_among .template frames [] children
  | _, .text _ => .nil
  | _, .comment _ => .nil
  | _, .doctype _ => .nil

theorem pairwise_among : ∀ (holder : Holder) (frames : List Frame) (before ns : List Node),
    (among holder frames before ns).Pairwise Precedes
  | _, _, _, [] => .nil
  | holder, frames, before, n :: after => by
    rw [among, List.pairwise_append]
    exact ⟨pairwise_within _ n, pairwise_among holder frames (n :: before) after,
      fun a ha b hb => (standsBefore_of_row ha hb).precedes⟩

end

mutual

theorem within_of_mem_descendants {l x : Location} (hx : x ∈ l.descendants) :
    ∀ {frames : List Frame} {n : Node}, l ∈ within frames n → x ∈ within frames n
  | frames, .element e children, h => by
    simp only [within, List.mem_cons] at h ⊢
    rcases h with rfl | h
    · exact .inr hx
    · exact .inr (among_of_mem_descendants hx h)
  | frames, .fragment children, h => by
    simp only [within] at h ⊢
    exact among_of_mem_descendants hx h
  | _, .text _, h => by simp [within] at h
  | _, .comment _, h => by simp [within] at h
  | _, .doctype _, h => by simp [within] at h

theorem among_of_mem_descendants {l x : Location} (hx : x ∈ l.descendants) :
    ∀ {holder : Holder} {frames : List Frame} {before ns : List Node},
      l ∈ among holder frames before ns → x ∈ among holder frames before ns
  | _, _, _, [], h => by simp [among] at h
  | _, _, _, n :: after, h => by
    simp only [among, List.mem_append] at h ⊢
    exact h.imp (within_of_mem_descendants hx) (among_of_mem_descendants hx)

end

mutual

theorem descendant_of_within {a b : Location} (around : a.Encloses b) :
    ∀ {frames : List Frame} {n : Node}, a ∈ within frames n → b ∈ within frames n →
      b ∈ a.descendants
  | frames, .element e children, ha, hb => by
    simp only [within, List.mem_cons] at ha hb
    rcases ha with rfl | ha
    · rcases hb with rfl | hb
      · exact absurd rfl around.precedes.path_ne
      · exact hb
    · rcases hb with rfl | hb
      · have outer := encloses_of_mem_descendants (a := ⟨e, children, frames⟩) ha
        exact absurd around.precedes outer.precedes.asymm
      · exact descendant_of_among around ha hb
  | frames, .fragment children, ha, hb => by
    simp only [within] at ha hb
    exact descendant_of_among around ha hb
  | _, .text _, ha, _ => by simp [within] at ha
  | _, .comment _, ha, _ => by simp [within] at ha
  | _, .doctype _, ha, _ => by simp [within] at ha

theorem descendant_of_among {a b : Location} (around : a.Encloses b) :
    ∀ {holder : Holder} {frames : List Frame} {before ns : List Node},
      a ∈ among holder frames before ns → b ∈ among holder frames before ns → b ∈ a.descendants
  | _, _, _, [], ha, _ => by simp [among] at ha
  | _, _, _, n :: after, ha, hb => by
    simp only [among, List.mem_append] at ha hb
    -- Places in different trees of the row part there, so neither of them goes on from the other.
    rcases ha with ha | ha
    · rcases hb with hb | hb
      · exact descendant_of_within around ha hb
      · exact absurd around (standsBefore_of_row ha hb).not_encloses
    · rcases hb with hb | hb
      · exact absurd around (standsBefore_of_row hb ha).not_enclosed
      · exact descendant_of_among around ha hb

end

/-- In one row of trees, an element stands in another exactly if its place is below that of the
other. -/
theorem encloses_iff_mem_descendants {holder : Holder} {frames : List Frame} {before ns : List Node}
    {a b : Location} (ha : a ∈ among holder frames before ns)
    (hb : b ∈ among holder frames before ns) : a.Encloses b ↔ b ∈ a.descendants :=
  ⟨fun around => descendant_of_among around ha hb, encloses_of_mem_descendants⟩

end Location
end PageExtract.Html
