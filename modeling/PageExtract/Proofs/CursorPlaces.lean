import Mathlib
import PageExtract.Proofs.CursorReading
import PageExtract.Proofs.SyntaxErrors
import PageExtract.Proofs.Padding

/-! A run of the cursor does what the readers do: where they have a rest of the text, the cursor is
at the byte where it begins. So the cursor is never behind the end or inside a character, and an
error shows the character that begins at its position. -/
namespace PageExtract

namespace Utf8

theorem splitAt?_zero (s : List Char) : splitAt? s 0 = some ([], s) := by
  cases s <;> rfl

theorem splitAt?_append (front rest : List Char) :
    splitAt? (front ++ rest) (size front) = some (front, rest) := by
  induction front with
  | nil => exact splitAt?_zero rest
  | cons c front ih =>
    have positive := c.utf8Size_pos
    obtain ⟨n, bytes⟩ := Nat.exists_eq_succ_of_ne_zero
      (show size (c :: front) ≠ 0 by rw [size]; omega)
    have fits : c.utf8Size ≤ n + 1 := by rw [size] at bytes; omega
    have left : n + 1 - c.utf8Size = size front := by rw [size] at bytes; omega
    rw [bytes, List.cons_append, splitAt?, if_pos fits, left, ih, Option.map_some]

theorem splitAt?_eq_some {s front rest : List Char} {n : Nat}
    (h : splitAt? s n = some (front, rest)) : s = front ++ rest ∧ size front = n := by
  fun_induction splitAt? s n generalizing front rest with
  | case1 =>
    cases h
    exact ⟨rfl, rfl⟩
  | case2 => cases h
  | case3 c s n fits ih =>
    obtain ⟨⟨before, behind⟩, split, same⟩ := Option.map_eq_some_iff.1 h
    cases same
    obtain ⟨rfl, bytes⟩ := ih split
    exact ⟨rfl, by rw [size, bytes]; omega⟩
  | case4 => cases h

theorem splitAt?_eq_some_iff {s front rest : List Char} {n : Nat} :
    splitAt? s n = some (front, rest) ↔ s = front ++ rest ∧ size front = n := by
  constructor
  · exact splitAt?_eq_some
  · rintro ⟨rfl, rfl⟩
    exact splitAt?_append front rest

end Utf8

/-- A byte of the text where a character begins, or its end. -/
def IsPlace (text : String) (p : Nat) : Prop := (⟨p⟩ : String.Pos.Raw).IsValid text

theorem isPlace_iff {text : String} {p : Nat} :
    IsPlace text p ↔ ∃ front rest, text.toList = front ++ rest ∧ Utf8.size front = p := by
  have bytes (front : List Char) : (String.ofList front).utf8ByteSize = Utf8.size front := by
    rw [← Utf8.size_toList, String.toList_ofList]
  have valid := String.Pos.Raw.isValid_ofList (l := text.toList) (p := ⟨p⟩)
  rw [String.ofList_toList] at valid
  simp only [IsPlace, valid, bytes]
  constructor
  · rintro ⟨i, same⟩
    exact ⟨text.toList.take i, text.toList.drop i, (List.take_append_drop i _).symm, same.symm⟩
  · rintro ⟨front, rest, same, rfl⟩
    exact ⟨front.length, by rw [same, List.take_left']; rfl⟩

theorem IsPlace.le {text : String} {p : Nat} (h : IsPlace text p) : p ≤ text.utf8ByteSize :=
  String.Pos.Raw.IsValid.le_utf8ByteSize h

namespace Walk
open PageExtract.Parser

def place (text : String) (rest : List Char) : Nat := Utf8.size text.toList - Utf8.size rest

section
variable {text : String} {s front rest left : List Char}

theorem place_append (same : text.toList = front ++ rest) : place text rest = Utf8.size front := by
  rw [place, same, Utf8.size_append]
  omega

theorem place_whole : place text text.toList = 0 := Nat.sub_self _

theorem place_nil : place text [] = text.utf8ByteSize := Utf8.size_toList text

theorem isPlace_place (within : rest <:+ text.toList) : IsPlace text (place text rest) := by
  obtain ⟨front, same⟩ := within
  exact isPlace_iff.2 ⟨front, rest, same.symm, (place_append same.symm).symm⟩

theorem place_add (within : front ++ rest <:+ text.toList) :
    place text (front ++ rest) + Utf8.size front = place text rest := by
  obtain ⟨before, same⟩ := within
  have later : text.toList = (before ++ front) ++ rest := by rw [List.append_assoc, same]
  rw [place_append same.symm, place_append later, Utf8.size_append]

theorem place_lt (within : rest <:+ text.toList) (within' : left <:+ text.toList)
    (shorter : left.length < rest.length) : place text rest < place text left := by
  obtain ⟨part, rfl⟩ := List.suffix_of_suffix_length_le within' within (Nat.le_of_lt shorter)
  have moved := place_add within
  have some : Utf8.size part ≠ 0 := by
    rw [Ne, Utf8.size_eq_zero_iff]
    rintro rfl
    exact Nat.lt_irrefl _ shorter
  omega

theorem place_cons_lt {c : Char} (within : c :: rest <:+ text.toList) :
    place text (c :: rest) < place text rest :=
  place_lt within ((List.suffix_cons c rest).trans within) (Nat.lt_succ_self _)

theorem place_lt_size {c : Char} (within : c :: rest <:+ text.toList) :
    place text (c :: rest) < text.utf8ByteSize := by
  rw [← place_nil]
  exact place_lt within List.nil_suffix (Nat.succ_pos _)

theorem place_eq_size_iff (within : rest <:+ text.toList) :
    place text rest = text.utf8ByteSize ↔ rest = [] := by
  cases rest with
  | nil => simp [place_nil]
  | cons c rest => simp [Nat.ne_of_lt (place_lt_size within)]

theorem isPlace_places {earlier : List Nat} (within : rest <:+ text.toList)
    (placed : ∀ p ∈ earlier, IsPlace text p) :
    ∀ p ∈ (Cursor.mk (place text rest) earlier).places, IsPlace text p :=
  List.forall_mem_cons.2 ⟨isPlace_place within, placed⟩

end

/-- What a run comes to is what the reader gives: a value or the error of a failure, with the cursor
where the rest begins. Before that the cursor was only where characters begin. -/
inductive Agrees {α : Type} (text : String) : Except Stop α × Cursor → Reading α → Prop
  | ok {value : α} {left : List Char} {earlier : List Nat} (within : left <:+ text.toList)
    (placed : ∀ p ∈ earlier, IsPlace text p) :
    Agrees text (.ok value, ⟨place text left, earlier⟩) (.ok (value, left))
  | error {f : Failure} {earlier : List Nat} (within : f.rest <:+ text.toList)
    (placed : ∀ p ∈ earlier, IsPlace text p) :
    Agrees text (.error (.refused (.ofFailure text f)), ⟨place text f.rest, earlier⟩) (.error f)

/-- From the place where a rest of the text begins, a run does what a reader does with that rest. -/
def Gives {α : Type} (text : String) (walk : Walk α) (rest : List Char) (reading : Reading α) :
    Prop :=
  rest <:+ text.toList → ∀ earlier : List Nat, (∀ p ∈ earlier, IsPlace text p) →
    Agrees text (walk.runFrom ⟨place text rest, earlier⟩) reading

section
variable {text : String} {s front rest left : List Char} {α β : Type} {walk : Walk α}
  {after : α → Walk β} {value : α} {f : Failure} {reading : Reading β}

theorem bind_runFrom (k : Cursor) :
    (walk >>= after).runFrom k =
      match walk.runFrom k with
      | (.ok value, next) => (after value).runFrom next
      | (.error stop, next) => (.error stop, next) := by
  rw [runFrom, runFrom, ExceptT.run_bind, StateT.run_bind]
  rcases walk.run.run k with ⟨(stop | value), next⟩ <;> rfl

theorem gives_pure : Gives text (pure value) rest (.ok (value, rest)) :=
  fun within _ placed => .ok within placed

theorem Agrees.exists_ok {run : Except Stop α × Cursor} (h : Agrees text run (.ok (value, left))) :
    left <:+ text.toList ∧ ∃ earlier : List Nat, (∀ p ∈ earlier, IsPlace text p) ∧
      run = (.ok value, ⟨place text left, earlier⟩) := by
  cases h with
  | ok within placed => exact ⟨within, _, placed, rfl⟩

theorem Agrees.exists_error {run : Except Stop α × Cursor} (h : Agrees text run (.error f)) :
    f.rest <:+ text.toList ∧ ∃ earlier : List Nat, (∀ p ∈ earlier, IsPlace text p) ∧
      run = (.error (.refused (.ofFailure text f)), ⟨place text f.rest, earlier⟩) := by
  cases h with
  | error within placed => exact ⟨within, _, placed, rfl⟩

theorem Gives.of_eq {first second : Reading α} (h : Gives text walk rest first)
    (same : first = second) : Gives text walk rest second :=
  same ▸ h

theorem Gives.bind (first : Gives text walk rest (.ok (value, left)))
    (second : Gives text (after value) left reading) :
    Gives text (walk >>= after) rest reading := by
  intro within earlier placed
  obtain ⟨within', earlier', placed', same⟩ := (first within earlier placed).exists_ok
  rw [bind_runFrom, same]
  exact second within' earlier' placed'

theorem Gives.bind_error (first : Gives text walk rest (.error f)) :
    Gives text (walk >>= after) rest (.error f) := by
  intro within earlier placed
  obtain ⟨within', earlier', placed', same⟩ := (first within earlier placed).exists_error
  rw [bind_runFrom, same]
  exact .error within' placed'

theorem Gives.map {reading : Reading α} (g : α → β) (h : Gives text walk rest reading) :
    Gives text (walk >>= fun value => pure (g value)) rest
      (reading.map fun (value, left) => (g value, left)) := by
  cases reading with
  | ok found => exact h.bind gives_pure
  | error f => exact h.bind_error

theorem gives_here : Gives text here rest (.ok (place text rest, rest)) :=
  fun within _ placed => .ok within placed

theorem gives_moveTo (within : left <:+ text.toList) :
    Gives text (moveTo (place text left)) rest (.ok ((), left)) := by
  intro within' earlier placed
  exact .ok within (isPlace_places within' placed)

theorem gives_advance :
    Gives text (advance (Utf8.size front)) (front ++ rest) (.ok ((), rest)) := by
  intro within
  have moved : Gives text (moveTo (place text rest)) (front ++ rest) (.ok ((), rest)) :=
    gives_moveTo ((List.suffix_append front rest).trans within)
  rw [← place_add within] at moved
  exact gives_here.bind moved within

theorem gives_slice (same : text.toList = front ++ rest) {first : Nat} {before part : List Char}
    (parts : front = before ++ part) (start : Utf8.size before = first) :
    Gives text (slice text first (place text rest)) s (.ok (part, s)) := by
  rw [slice, place_append same, Utf8.splitAt?_eq_some_iff.2 ⟨same, rfl⟩]
  dsimp only
  rw [Utf8.splitAt?_eq_some_iff.2 ⟨parts, start⟩]
  exact gives_pure

theorem gives_remaining : Gives text (remaining text) rest (.ok (rest, rest)) := by
  intro within
  refine gives_here.bind ?_ within
  obtain ⟨front, same⟩ := within
  rw [← place_nil]
  exact gives_slice (by simp) same.symm (place_append same.symm).symm

theorem gives_peek : Gives text (peek text) rest (.ok (rest.head?, rest)) :=
  gives_remaining.bind gives_pure

theorem gives_step {c : Char} {bytes : Nat} (width : c.utf8Size = bytes) :
    Gives text (advance bytes) (c :: rest) (.ok ((), rest)) := by
  have moved : Gives text (advance (Utf8.size [c])) ([c] ++ rest) (.ok ((), rest)) := gives_advance
  rwa [Utf8.size, Utf8.size, width] at moved

theorem gives_next {c : Char} : Gives text (next text) (c :: rest) (.ok ((), rest)) :=
  gives_peek.bind (gives_step rfl)

theorem gives_refuse {expected : Expected} :
    Gives text (refuse text expected : Walk α) rest (.error ⟨rest, expected⟩) := by
  refine gives_peek.bind (gives_here.bind ?_)
  intro within earlier placed
  exact Agrees.error (f := ⟨rest, expected⟩) within placed

variable {turn : Walk (Turn α)} {item : α} {items : Reading (List α)}

theorem repeated_runFrom (k : Cursor) : (repeated text turn).runFrom k = loop text turn k := rfl

theorem gives_done (h : Gives text turn rest (.ok (.done, left))) :
    Gives text (repeated text turn) rest (.ok ([], left)) := by
  intro within earlier placed
  obtain ⟨within', earlier', placed', same⟩ := (h within earlier placed).exists_ok
  rw [repeated_runFrom, loop, same]
  exact .ok within' placed'

theorem gives_last (h : Gives text turn rest (.ok (.last item, left))) :
    Gives text (repeated text turn) rest (.ok ([item], left)) := by
  intro within earlier placed
  obtain ⟨within', earlier', placed', same⟩ := (h within earlier placed).exists_ok
  rw [repeated_runFrom, loop, same]
  exact .ok within' placed'

theorem gives_broken (h : Gives text turn rest (.error f)) :
    Gives text (repeated text turn) rest (.error f) := by
  intro within earlier placed
  obtain ⟨within', earlier', placed', same⟩ := (h within earlier placed).exists_error
  rw [repeated_runFrom, loop, same]
  exact .error within' placed'

theorem gives_more (h : Gives text turn rest (.ok (.more item, left)))
    (shorter : left.length < rest.length) (others : Gives text (repeated text turn) left items) :
    Gives text (repeated text turn) rest
      (items.map fun (items, left) => (item :: items, left)) := by
  intro within earlier placed
  obtain ⟨within', earlier', placed', same⟩ := (h within earlier placed).exists_ok
  have progress : place text rest < place text left ∧ place text left ≤ text.utf8ByteSize :=
    ⟨place_lt within within' shorter, (isPlace_place within').le⟩
  rw [repeated_runFrom, loop, same]
  dsimp only
  rw [if_pos progress]
  have behind := others within' earlier' placed'
  rw [repeated_runFrom] at behind
  generalize loop text turn ⟨place text left, earlier'⟩ = run at behind
  cases behind with
  | ok within placed => exact .ok within placed
  | error within placed => exact .error within placed

end

end Walk
end PageExtract
