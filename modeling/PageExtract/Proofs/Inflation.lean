import Mathlib
import PageExtract.Gzip.Inflate

/-! Inflating ends with the last block. Bytes behind it do not change what is read or written, and
they are left as they are. -/
namespace PageExtract.Gzip

namespace Inflation

def followedBy (s : Inflation) (more : List UInt8) : Inflation :=
  { s with bytes := s.bytes ++ more }

@[simp] theorem followedBy_output (s : Inflation) (more : List UInt8) :
    (s.followedBy more).output = s.output := rfl

@[simp] theorem followedBy_bytes (s : Inflation) (more : List UInt8) :
    (s.followedBy more).bytes = s.bytes ++ more := rfl

def Sound (s : Inflation) : Prop := s.used ≠ 0 → s.bytes ≠ []

def Aligned (s : Inflation) : Prop := s.used = 0

theorem Aligned.sound {s : Inflation} (h : s.Aligned) : s.Sound := fun part => absurd h part

end Inflation

namespace Inflate
open Inflation
variable {α β : Type} {more : List UInt8} {before between after : Inflation → Prop}

/-- Whenever a reader gives a value, another one that has more bytes behind gives the same value and
does the same, and leaves these bytes. -/
def Carried (more : List UInt8) (before : Inflation → Prop) (m m' : Inflate α)
    (after : Inflation → Prop) : Prop :=
  ∀ s, before s → ∀ a t, m.run s = some (a, t) →
    after t ∧ m'.run (s.followedBy more) = some (a, t.followedBy more)

namespace Carried
variable {m m' : Inflate α}

theorem bind {f f' : α → Inflate β} (first : Carried more before m m' between)
    (second : ∀ a, Carried more between (f a) (f' a) after) :
    Carried more before (m >>= f) (m' >>= f') after := by
  intro s sound b u h
  rw [StateT.run_bind] at h ⊢
  obtain ⟨⟨a, t⟩, read, later⟩ := Option.bind_eq_some_iff.1 h
  obtain ⟨middle, same⟩ := first s sound a t read
  rw [same]
  exact second a t middle b u later

theorem pure (a : α) : Carried more after (Pure.pure a) (Pure.pure a) after := by
  intro s sound b t h
  cases h
  exact ⟨sound, rfl⟩

theorem fail : Carried more before (Inflate.fail (α := α)) m after := by
  intro s sound b t h
  cases h

theorem fail_bind {f : β → Inflate α} : Carried more before (Inflate.fail >>= f) m after := by
  intro s sound b t h
  cases h

theorem ite {c : Prop} [Decidable c] {n n' : Inflate α} (yes : Carried more before m m' after)
    (no : Carried more before n n' after) :
    Carried more before (if c then m else n) (if c then m' else n') after := by
  split
  · exact yes
  · exact no

theorem guarded {c : Prop} [Decidable c] {f f' : Unit → Inflate α}
    (h : Carried more before (f ()) (f' ()) after) :
    Carried more before (if c then Inflate.fail >>= f else f ())
      (if c then Inflate.fail >>= f' else f' ()) after :=
  .ite .fail_bind h

theorem get {f f' : Inflation → Inflate α}
    (h : ∀ s, before s → Carried more before (f s) (f' (s.followedBy more)) after) :
    Carried more before (MonadState.get >>= f) (MonadState.get >>= f') after :=
  fun s sound => h s sound s sound

theorem set {s : Inflation} (sound : after s) :
    Carried more before (MonadStateOf.set s) (MonadStateOf.set (s.followedBy more)) after := by
  intro _ _ a t h
  cases h
  exact ⟨sound, rfl⟩

theorem weaken {before' after' : Inflation → Prop} (h : Carried more before m m' after)
    (pre : ∀ s, before' s → before s) (post : ∀ s, after s → after' s) :
    Carried more before' m m' after' := by
  intro s sound a t read
  obtain ⟨done, same⟩ := h s (pre s sound) a t read
  exact ⟨post t done, same⟩

end Carried

theorem bit_carried : Carried more Sound bit bit Sound := by
  intro s sound a t h
  obtain ⟨bytes, used, output⟩ := s
  cases bytes with
  | nil => cases h
  | cons b rest =>
    cases h
    constructor
    · intro part
      by_cases last : used = 7
      · simp [last] at part
      · simp [last]
    · by_cases last : used = 7 <;> simp [bit, followedBy, last]

theorem bits_carried (count : Nat) : Carried more Sound (bits count) (bits count) Sound := by
  induction count with
  | zero => exact .pure 0
  | succ count ih => exact .bind bit_carried fun _ => .bind ih fun _ => .pure _

theorem align_carried : Carried more Sound align align Aligned := by
  intro s sound a t h
  by_cases part : s.used = 0
  · have same : align.run s = some ((), s) := by simp [align, part]
    obtain ⟨rfl, rfl⟩ := Prod.mk.inj (Option.some.inj (same.symm.trans h))
    refine ⟨part, ?_⟩
    simp [align, followedBy, part]
  · have same : align.run s = some ((), { s with bytes := s.bytes.drop 1, used := 0 }) := by
      simp [align, part]
    obtain ⟨rfl, rfl⟩ := Prod.mk.inj (Option.some.inj (same.symm.trans h))
    obtain ⟨b, rest, left⟩ := List.exists_cons_of_ne_nil (sound part)
    refine ⟨rfl, ?_⟩
    simp [align, followedBy, part, left]

theorem byte_carried : Carried more Aligned byte byte Aligned := by
  intro s aligned a t h
  obtain ⟨bytes, used, output⟩ := s
  cases bytes with
  | nil => cases h
  | cons b rest =>
    cases h
    exact ⟨aligned, rfl⟩

theorem short_carried : Carried more Aligned short short Aligned :=
  .bind byte_carried fun _ => .bind byte_carried fun _ => .pure _

theorem write_carried (b : UInt8) : Carried more Sound (write b) (write b) Sound := by
  intro s sound a t h
  cases h
  exact ⟨sound, rfl⟩

theorem readFrom_carried (c : PrefixCode) (counts : List Nat) (code first index : Nat) :
    Carried more Sound (c.readFrom counts code first index) (c.readFrom counts code first index)
      Sound := by
  induction counts generalizing code first index with
  | nil => exact .fail
  | cons count counts ih =>
    refine .bind bit_carried fun b => .ite ?_ (ih _ _ _)
    split
    · exact .pure _
    · exact .fail

theorem read_carried (c : PrefixCode) : Carried more Sound c.read c.read Sound :=
  readFrom_carried c c.counts 0 0 0

theorem fromRow_carried (rows : List (Nat × Nat)) (symbol : Nat) :
    Carried more Sound (fromRow rows symbol) (fromRow rows symbol) Sound := by
  unfold fromRow
  split
  next extra least _ => exact .bind (bits_carried extra) fun n => .pure _
  · exact .fail

theorem copy_carried (distance length : Nat) :
    Carried more Sound (copy distance length) (copy distance length) Sound := by
  induction length with
  | zero => exact .pure ()
  | succ length ih =>
    refine .get fun s _ => .ite ?_ .fail
    rw [followedBy_output]
    split
    next b _ => exact .bind (write_carried b) fun _ => ih
    · exact .fail

theorem codes_carried (literals distances : PrefixCode) {fuel fuel' : Nat} (le : fuel ≤ fuel') :
    Carried more Sound (codes literals distances fuel) (codes literals distances fuel') Sound := by
  induction fuel generalizing fuel' with
  | zero => exact .fail
  | succ fuel ih =>
    obtain ⟨fuel', rfl⟩ : ∃ n, fuel' = n + 1 := ⟨fuel' - 1, by omega⟩
    refine .bind (read_carried literals) fun symbol => .ite (.pure ()) (.ite ?_ ?_)
    · exact .bind (write_carried _) fun _ => ih (by omega)
    · refine .bind (fromRow_carried _ _) fun length => .bind (read_carried distances) fun far => ?_
      refine .bind (fromRow_carried _ _) fun distance => .bind (copy_carried _ _) fun _ => ?_
      exact ih (by omega)

theorem times_carried {read : Inflate α} (h : Carried more Sound read read Sound) (count : Nat) :
    Carried more Sound (times read count) (times read count) Sound := by
  induction count with
  | zero => exact .pure []
  | succ count ih => exact .bind h fun _ => .bind ih fun _ => .pure _

theorem lengthCode_carried (count : Nat) :
    Carried more Sound (lengthCode count) (lengthCode count) Sound :=
  .bind (times_carried (bits_carried 3) count) fun _ => .ite (.pure _) .fail

theorem lengths_carried (code : PrefixCode) (count fuel : Nat) (found : List Nat) :
    Carried more Sound (lengths code count fuel found) (lengths code count fuel found) Sound := by
  induction fuel generalizing found with
  | zero =>
    unfold lengths
    exact .ite (.pure _) .fail
  | succ fuel ih =>
    unfold lengths
    refine .ite (.pure _) (.guarded (.bind (read_carried code) fun symbol => ?_))
    refine .ite (ih _) (.ite ?_ (.ite ?_ ?_))
    · split
      · exact .bind (bits_carried 2) fun _ => ih _
      · exact .fail
    · exact .bind (bits_carried 3) fun _ => ih _
    · exact .bind (bits_carried 7) fun _ => ih _

theorem checkedCode_carried (found : List Nat) :
    Carried more Sound (checkedCode found) (checkedCode found) Sound :=
  .ite (.pure _) .fail

theorem ownCodes_carried : Carried more Sound ownCodes ownCodes Sound := by
  refine .bind (bits_carried 5) fun _ => .bind (bits_carried 5) fun _ => ?_
  refine .bind (bits_carried 4) fun _ => .bind (lengthCode_carried _) fun code => ?_
  refine .guarded (.bind (lengths_carried code _ _ []) fun found => ?_)
  exact .bind (checkedCode_carried _) fun _ => .bind (checkedCode_carried _) fun _ => .pure _

theorem stored_carried : Carried more Sound stored stored Sound := by
  refine .bind align_carried fun _ => ?_
  refine .bind short_carried fun count => .bind short_carried fun _ => ?_
  refine .guarded (.get fun s aligned => ?_)
  by_cases short : s.bytes.length < count
  · rw [if_pos short]
    exact .fail_bind
  · have enough : ¬(s.followedBy more).bytes.length < count := by
      simp only [followedBy_bytes, List.length_append]
      omega
    have fits : count ≤ s.bytes.length := by omega
    rw [if_neg short, if_neg enough, followedBy_bytes, List.drop_append_of_le_length fits,
      List.take_append_of_le_length fits]
    exact .set (show Sound _ from Aligned.sound aligned)

theorem run_steps (f : Nat → Inflate α) (s : Inflation) :
    (steps >>= f).run s = (f (8 * s.bytes.length + 1)).run s := rfl

/-- The codes of a block are read with enough steps for the bytes that are left, and with more steps
where more bytes are left. -/
theorem counted_carried (literals distances : PrefixCode) {f f' : Unit → Inflate α}
    (next : Carried more Sound (f ()) (f' ()) after) :
    Carried more Sound (steps >>= fun n => codes literals distances n >>= f)
      (steps >>= fun n => codes literals distances n >>= f') after := by
  intro s sound a t h
  rw [run_steps] at h ⊢
  have enough : 8 * s.bytes.length + 1 ≤ 8 * (s.followedBy more).bytes.length + 1 := by simp
  exact (codes_carried literals distances enough).bind (fun _ => next) s sound a t h

theorem blocks_carried {fuel fuel' : Nat} (le : fuel ≤ fuel') :
    Carried more Sound (blocks fuel) (blocks fuel') Sound := by
  induction fuel generalizing fuel' with
  | zero => exact .fail
  | succ fuel ih =>
    obtain ⟨fuel', rfl⟩ : ∃ n, fuel' = n + 1 := ⟨fuel' - 1, by omega⟩
    have next (isLast : Nat) : Carried more Sound (if isLast = 1 then align else blocks fuel)
        (if isLast = 1 then align else blocks fuel') Sound :=
      .ite (align_carried.weaken (fun _ h => h) fun _ h => h.sound) (ih (by omega))
    refine .bind bit_carried fun isLast => .bind (bits_carried 2) fun kind => ?_
    match kind with
    | 0 => exact .bind stored_carried fun _ => next isLast
    | 1 => exact counted_carried fixedLiterals fixedDistances (next isLast)
    | 2 => exact .bind ownCodes_carried fun found => counted_carried found.1 found.2 (next isLast)
    | _ + 3 => exact .fail_bind

end Inflate

theorem inflate?_append {bytes data left : List UInt8} (h : inflate? bytes = some (data, left))
    (more : List UInt8) : inflate? (bytes ++ more) = some (data, left ++ more) := by
  obtain ⟨⟨u, t⟩, read, result⟩ := Option.map_eq_some_iff.1 h
  have enough : 8 * bytes.length + 1 ≤ 8 * (bytes ++ more).length + 1 := by simp
  have start : Inflation.Sound ⟨bytes, 0, #[]⟩ := fun part => absurd rfl part
  have carried : Inflate.Carried more _ _ _ _ := Inflate.blocks_carried enough
  have again := (carried _ start u t read).2
  obtain ⟨rfl, rfl⟩ := Prod.mk.inj result
  exact Option.map_eq_some_iff.2 ⟨_, again, rfl⟩

end PageExtract.Gzip
