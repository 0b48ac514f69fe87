import PageExtract.Proofs.BinaryArithmetic
import PageExtract.Proofs.Splitting

/-! An argument that a built-in transform takes as an integer matters to it as an integer only. So
it can be replaced by any literal for the same integer, and one that is not a number by zero. -/
namespace PageExtract

namespace Arguments
variable {index j : ℕ} {args args' : List Literal}

structure SameInteger (index : ℕ) (args args' : List Literal) : Prop where
  length : args.length = args'.length
  others : ∀ j, j ≠ index → get args j = get args' j
  given : get args index ≠ .undefined
  given' : get args' index ≠ .undefined
  integer : (get args index).toNumber.toExtInt = (get args' index).toNumber.toExtInt

namespace SameInteger

theorem integer_eq (h : SameInteger index args args') (j : ℕ) (default : ExtInt) :
    Arguments.integer args j default = Arguments.integer args' j default := by
  by_cases there : j = index
  · subst there
    rw [integer_given rfl h.given, integer_given rfl h.given', h.integer]
  · rw [Arguments.integer, Arguments.integer, h.others j there]

theorem text_eq (h : SameInteger index args args') (elsewhere : j ≠ index) (default : String) :
    text args j default = text args' j default := by
  rw [text, text, h.others j elsewhere]

theorem isEmpty_eq (h : SameInteger index args args') : args.isEmpty = args'.isEmpty := by
  rw [Bool.eq_iff_iff, List.isEmpty_iff_length_eq_zero, List.isEmpty_iff_length_eq_zero, h.length]

end SameInteger

theorem get_set_self (given : get args index ≠ .undefined) (x : Literal) :
    get (args.set index x) index = x := by
  have inside : index < args.length := by
    by_contra outside
    exact given (List.getD_eq_default _ _ (Nat.le_of_not_lt outside))
  simp [get, List.getD_eq_getElem?_getD, inside]

theorem get_set_ne (elsewhere : j ≠ index) (x : Literal) : get (args.set index x) j = get args j := by
  simp [get, List.getD_eq_getElem?_getD, List.getElem?_set_ne elsewhere.symm]

theorem sameInteger_zero (given : get args index ≠ .undefined)
    (noNumber : (get args index).toNumber = .nan) :
    SameInteger index args (args.set index (.number .zero)) where
  length := List.length_set.symm
  others j elsewhere := (get_set_ne elsewhere _).symm
  given := given
  given' := by
    rw [get_set_self given]
    nofun
  integer := by
    rw [get_set_self given, noNumber, Literal.toNumber, Number.toExtInt_zero]
    rfl

end Arguments

namespace Transform
open Arguments
variable {α : Type} {index : ℕ} {args args' : List Literal}

/-- A transform that looks at the argument there as an integer only. -/
def TakesInteger (t : Transform) (index : ℕ) : Prop :=
  ∀ (args args' : List Literal), SameInteger index args args' → ∀ d, t d args = t d args'

theorem padding_sameInteger (h : SameInteger 0 args args') (s : List Char) :
    padding s args = padding s args' := by
  simp only [padding, h.integer_eq, h.text_eq Nat.one_ne_zero]

theorem sliced_sameInteger (h : SameInteger index args args') (s : List α) :
    sliced s args = sliced s args' := by
  simp only [sliced, h.integer_eq]

theorem limited_sameInteger (h : SameInteger 1 args args') (found : List (List Char)) :
    limited args found = limited args' found := by
  rw [limited_given rfl h.given, limited_given rfl h.given', h.integer]

theorem padStart_takesInteger : TakesInteger padStart 0 := fun args args' h d => by
  simp only [padStart, padding_sameInteger h]

theorem padEnd_takesInteger : TakesInteger padEnd 0 := fun args args' h d => by
  simp only [padEnd, padding_sameInteger h]

theorem repeated_takesInteger : TakesInteger repeated 0 := fun args args' h d => by
  simp only [repeated, h.integer_eq]

theorem substring_takesInteger (index : ℕ) : TakesInteger substring index := fun args args' h d => by
  simp only [substring, h.integer_eq]

theorem split_takesInteger : TakesInteger split 1 := fun args args' h d => by
  simp only [split, limited_sameInteger h, h.others 0 Nat.zero_ne_one]

theorem slice_takesInteger (index : ℕ) : TakesInteger slice index := fun args args' h d => by
  simp only [slice, sliced_sameInteger h]

theorem splice_takesInteger (index : ℕ) : TakesInteger splice index := fun args args' h d => by
  simp only [splice, spliceCount, h.integer_eq, h.isEmpty_eq, h.length]

end Transform

namespace Call
open Arguments Transform

def integerPlaces : List (String × ℕ) :=
  [("padStart", 0), ("padEnd", 0), ("repeat", 0), ("substring", 0), ("substring", 1), ("split", 1),
   ("slice", 0), ("slice", 1), ("splice", 0), ("splice", 1)]

theorem builtin_takesInteger :
    ∀ place ∈ integerPlaces, ∃ t, Lookup.builtin place.1 = some t ∧ TakesInteger t place.2 := by
  simp only [integerPlaces, List.forall_mem_cons]
  exact ⟨⟨_, rfl, padStart_takesInteger⟩, ⟨_, rfl, padEnd_takesInteger⟩,
    ⟨_, rfl, repeated_takesInteger⟩, ⟨_, rfl, substring_takesInteger 0⟩,
    ⟨_, rfl, substring_takesInteger 1⟩, ⟨_, rfl, split_takesInteger⟩, ⟨_, rfl, slice_takesInteger 0⟩,
    ⟨_, rfl, slice_takesInteger 1⟩, ⟨_, rfl, splice_takesInteger 0⟩, ⟨_, rfl, splice_takesInteger 1⟩,
    by simp⟩

theorem run_sameInteger {name : String} {index : ℕ} {args args' : List Literal}
    (place : (name, index) ∈ integerPlaces) (h : SameInteger index args args') (d : Datum) :
    run Lookup.builtin [⟨name, args⟩] d = run Lookup.builtin [⟨name, args'⟩] d := by
  obtain ⟨t, found, takes⟩ := builtin_takesInteger _ place
  rw [run_alone found, run_alone found, takes args args' h d]

theorem run_noNumber {name : String} {index : ℕ} {args : List Literal}
    (place : (name, index) ∈ integerPlaces) (given : get args index ≠ .undefined)
    (noNumber : (get args index).toNumber = .nan) (d : Datum) :
    run Lookup.builtin [⟨name, args⟩] d =
      run Lookup.builtin [⟨name, args.set index (.number .zero)⟩] d :=
  run_sameInteger place (sameInteger_zero given noNumber) d

end Call
end PageExtract
