import Mathlib
import PageExtract.Evaluation
import PageExtract.Proofs.Printing
import PageExtract.Proofs.Registries

/-! An expression that is printed and read again has the outcome of the first one on every page. It
has lost the signs of its zeros, which no built-in transform takes notice of. -/
namespace PageExtract
open Grammar PageExtract.Parser

/-- The errors of transforms up to the argument that is refused, which only shows in the wording. -/
inductive TransformError.Alike : TransformError → TransformError → Prop
  | same (e : TransformError) : Alike e e
  | refused {index : Nat} {f g : ArgumentFault} (wording : f.message = g.message) :
      Alike (.invalidArgument index f) (.invalidArgument index g)

inductive EvalError.Alike : EvalError → EvalError → Prop
  | same (e : EvalError) : Alike e e
  | transform {name : String} {e e' : TransformError} (causes : e.Alike e') :
      Alike (.transform name e) (.transform name e')

inductive SameOutcome {ε α : Type} (alike : ε → ε → Prop) : Except ε α → Except ε α → Prop
  | value (v : α) : SameOutcome alike (.ok v) (.ok v)
  | failure {e e' : ε} (errors : alike e e') : SameOutcome alike (.error e) (.error e')

theorem SameOutcome.refl {ε α : Type} {alike : ε → ε → Prop} (same : ∀ e, alike e e)
    (outcome : Except ε α) : SameOutcome alike outcome outcome := by
  cases outcome with
  | error e => exact .failure (same e)
  | ok v => exact .value v

theorem SameOutcome.map {ε α β : Type} {alike : ε → ε → Prop} {first second : Except ε α}
    (h : SameOutcome alike first second) (f : α → β) :
    SameOutcome alike (first.map f) (second.map f) := by
  cases h with
  | value v => exact .value (f v)
  | failure errors => exact .failure errors

theorem SameOutcome.mapError {ε ε' α : Type} {alike : ε → ε → Prop} {alike' : ε' → ε' → Prop}
    {first second : Except ε α} (h : SameOutcome alike first second) {f : ε → ε'}
    (keep : ∀ e e', alike e e' → alike' (f e) (f e')) :
    SameOutcome alike' (first.mapError f) (second.mapError f) := by
  cases h with
  | value v => exact .value v
  | failure errors => exact .failure (keep _ _ errors)

theorem SameOutcome.mono {ε α : Type} {alike alike' : ε → ε → Prop} {first second : Except ε α}
    (h : SameOutcome alike first second) (weaker : ∀ e e', alike e e' → alike' e e') :
    SameOutcome alike' first second := by
  cases h with
  | value v => exact .value v
  | failure errors => exact .failure (weaker _ _ errors)

theorem TransformError.Alike.message?_eq {e e' : TransformError} (h : e.Alike e') :
    e.message? = e'.message? := by
  cases h with
  | same => rfl
  | refused wording => rw [message?, message?, wording]

theorem EvalError.Alike.message?_eq {e e' : EvalError} (h : e.Alike e') :
    e.message? = e'.message? := by
  cases h with
  | same => rfl
  | transform causes => rw [message?, message?, causes.message?_eq]

namespace Number

theorem toExtInt_unsignedZero (n : Number) : n.unsignedZero.toExtInt = n.toExtInt := by
  cases n with
  | nan => rfl
  | infinite negative => rfl
  | finite negative a =>
    by_cases zero : a.units = 0
    · have none : a.floor = 0 := by rw [Magnitude.floor, zero, Nat.zero_div]
      simp [unsignedZero, toExtInt, zero, none]
    · simp [unsignedZero, toExtInt, zero]

theorem format_unsignedZero (n : Number) : n.unsignedZero.format = n.format := by
  cases n with
  | nan => rfl
  | infinite negative => rfl
  | finite negative a =>
    rw [unsignedZero, ← String.toList_inj, format_sign, format_sign negative, Bool.and_assoc,
      Bool.and_self]

end Number

namespace Literal

theorem print_unsignedZero (literal : Literal) : literal.unsignedZero.print = literal.print := by
  cases literal with
  | number n =>
    cases n with
    | nan => rfl
    | infinite negative => rfl
    | finite negative a =>
      exact congrArg (fun text => String.ofList text.toList) (Number.format_unsignedZero _)
  | _ => rfl

end Literal

namespace Arguments

theorem get_unsigned (args : List Literal) (index : Nat) :
    get (args.map Literal.unsignedZero) index = (get args index).unsignedZero := by
  rw [get, get, List.getD_eq_getElem?_getD, List.getD_eq_getElem?_getD, List.getElem?_map]
  cases args[index]? <;> rfl

@[simp] theorem integer_unsigned (args : List Literal) (index : Nat) (default : ExtInt) :
    integer (args.map Literal.unsignedZero) index default = integer args index default := by
  rw [integer, integer, get_unsigned]
  cases get args index with
  | number n => exact n.toExtInt_unsignedZero
  | _ => rfl

@[simp] theorem text_unsigned (args : List Literal) (index : Nat) (default : String) :
    text (args.map Literal.unsignedZero) index default = text args index default := by
  rw [text, text, get_unsigned]
  cases get args index with
  | number n => exact n.format_unsignedZero
  | _ => rfl

end Arguments

theorem TransformError.refused_unsigned (index : Nat) (fault : Literal → ArgumentFault)
    {start : String} (worded : ∀ given, (fault given).message = start ++ given.print)
    (given : Literal) :
    Alike (.invalidArgument index (fault given))
      (.invalidArgument index (fault given.unsignedZero)) := by
  refine .refused ?_
  rw [worded, worded, given.print_unsignedZero]

namespace Transform
open Arguments (get get_unsigned integer_unsigned text_unsigned)

@[simp] theorem padding_unsigned (s : List Char) (args : List Literal) :
    padding s (args.map Literal.unsignedZero) = padding s args := by
  simp only [padding, text_unsigned, integer_unsigned]

@[simp] theorem limited_unsigned (args : List Literal) (found : List (List Char)) :
    limited (args.map Literal.unsignedZero) found = limited args found := by
  rw [limited, limited, integer_unsigned, get_unsigned]
  cases get args 1 <;> rfl

@[simp] theorem sliced_unsigned {α : Type} (items : List α) (args : List Literal) :
    sliced items (args.map Literal.unsignedZero) = sliced items args := by
  simp only [sliced, integer_unsigned]

@[simp] theorem spliceCount_unsigned (args : List Literal) (left : Nat) :
    spliceCount (args.map Literal.unsignedZero) left = spliceCount args left := by
  simp only [spliceCount, integer_unsigned, List.length_map]

/-- A transform with the same outcome whatever the signs of the zeros in its arguments. -/
def IgnoresZeroSigns (t : Transform) : Prop :=
  ∀ (d : Datum) (args : List Literal),
    SameOutcome TransformError.Alike (t d args) (t d (args.map Literal.unsignedZero))

theorem ignores_of_eq {t : Transform}
    (h : ∀ (d : Datum) (args : List Literal), t d (args.map Literal.unsignedZero) = t d args) :
    IgnoresZeroSigns t := by
  intro d args
  rw [h]
  exact .refl .same _

theorem text_ignores : IgnoresZeroSigns text := ignores_of_eq fun _ _ => rfl

theorem markup_ignores : IgnoresZeroSigns markup := ignores_of_eq fun _ _ => rfl

theorem toArray_ignores : IgnoresZeroSigns toArray := ignores_of_eq fun _ _ => rfl

theorem mapped_ignores (f : List Char → List Char) : IgnoresZeroSigns (mapped f) :=
  ignores_of_eq fun _ _ => rfl

theorem attributeValue_ignores : IgnoresZeroSigns attributeValue := by
  intro d args
  rw [attributeValue, attributeValue, get_unsigned]
  cases get args 0 with
  | number n =>
    have alike := TransformError.refused_unsigned 0 .attributeName (fun _ => rfl) (.number n)
    exact .failure alike
  | _ => exact .refl .same _

theorem find_ignores : IgnoresZeroSigns find := by
  intro d args
  rw [find, find, get_unsigned]
  cases get args 0 with
  | number n =>
    have alike := TransformError.refused_unsigned 0 .selectorText (fun _ => rfl) (.number n)
    exact .failure alike
  | _ => exact .refl .same _

theorem padStart_ignores : IgnoresZeroSigns padStart :=
  ignores_of_eq fun d args => by simp only [padStart, padding_unsigned]

theorem padEnd_ignores : IgnoresZeroSigns padEnd :=
  ignores_of_eq fun d args => by simp only [padEnd, padding_unsigned]

theorem repeated_ignores : IgnoresZeroSigns repeated :=
  ignores_of_eq fun d args => by simp only [repeated, integer_unsigned]

theorem substring_ignores : IgnoresZeroSigns substring :=
  ignores_of_eq fun d args => by simp only [substring, integer_unsigned]

theorem split_ignores : IgnoresZeroSigns split := by
  refine ignores_of_eq fun d args => ?_
  simp only [split, limited_unsigned, get_unsigned]
  cases get args 0 with
  | number n => simp only [Literal.unsignedZero, Literal.toText, Number.format_unsignedZero]
  | _ => rfl

theorem join_ignores : IgnoresZeroSigns join :=
  ignores_of_eq fun d args => by simp only [join, text_unsigned]

theorem slice_ignores : IgnoresZeroSigns slice :=
  ignores_of_eq fun d args => by simp only [slice, sliced_unsigned]

theorem splice_ignores : IgnoresZeroSigns splice :=
  ignores_of_eq fun d args => by
    simp only [splice, spliceCount_unsigned, integer_unsigned, List.isEmpty_map]

end Transform

def Lookup.IgnoresZeroSigns (lookup : Lookup) : Prop :=
  ∀ (name : String) (t : Transform), lookup name = some t → Transform.IgnoresZeroSigns t

theorem Lookup.builtin_ignores : Lookup.builtin.IgnoresZeroSigns := by
  intro name t found
  refine Registry.of_find?_ofList (P := fun _ t => Transform.IgnoresZeroSigns t) ?_ found
  simp only [List.forall_mem_cons]
  open Transform in
  exact ⟨text_ignores, markup_ignores, attributeValue_ignores, toArray_ignores, toArray_ignores,
    find_ignores, mapped_ignores _, mapped_ignores _, mapped_ignores _, mapped_ignores _,
    mapped_ignores _, mapped_ignores _, mapped_ignores _, padStart_ignores, padEnd_ignores,
    repeated_ignores, substring_ignores, split_ignores, join_ignores, slice_ignores, splice_ignores,
    by simp⟩

namespace Call
variable {lookup : Lookup}

theorem apply_unsignedZeros (ignores : lookup.IgnoresZeroSigns) (c : Call) (d : Datum) :
    SameOutcome EvalError.Alike (c.apply lookup d) (c.unsignedZeros.apply lookup d) := by
  rw [apply, apply, unsignedZeros]
  cases found : lookup c.name with
  | none => exact .failure (.same _)
  | some t => exact (ignores c.name t found d c.args).mapError fun _ _ causes => .transform causes

theorem run_unsignedZeros (ignores : lookup.IgnoresZeroSigns) (calls : List Call) (d : Datum) :
    SameOutcome EvalError.Alike (run lookup calls d) (run lookup (calls.map unsignedZeros) d) := by
  induction calls generalizing d with
  | nil => exact .value d
  | cons c calls ih =>
    rw [List.map_cons, run, run]
    have outcomes := apply_unsignedZeros ignores c d
    generalize c.apply lookup d = first at outcomes ⊢
    generalize c.unsignedZeros.apply lookup d = second at outcomes ⊢
    cases outcomes with
    | value next => exact ih next
    | failure errors => exact .failure errors

end Call

namespace Expression
variable {lookup : Lookup}

theorem finish_unsignedZeros (ignores : lookup.IgnoresZeroSigns) (found : NodeSet)
    (calls : List Call) :
    SameOutcome EvalError.Alike (finish lookup found calls)
      (finish lookup found (calls.map Call.unsignedZeros)) := by
  cases calls with
  | nil => exact .refl .same _
  | cons c calls =>
    have outcomes := Call.run_unsignedZeros ignores (c :: calls) (.nodes found)
    unfold finish
    split
    · exact .value Extraction.noMatch
    · exact outcomes.map Extraction.value

theorem evaluate_unsignedZeros (ignores : lookup.IgnoresZeroSigns) (page : Html.Document)
    (e : Expression) :
    SameOutcome EvalError.Alike (evaluate lookup page e) (evaluate lookup page e.unsignedZeros) := by
  cases e with
  | constant text => exact .value _
  | query selector calls =>
    rw [unsignedZeros, evaluate, evaluate]
    cases page.query selector with
    | error e => exact .failure (.same _)
    | ok found => exact finish_unsignedZeros ignores found calls

/-- What is read, printed and read again has the outcome of what was read first on every page, with
the same wording if it is an error. -/
theorem reloading_keeps_outcomes {text : String} {e : Expression} (h : parse text = .ok e) :
    ∃ e', parse e.print = .ok e' ∧ ∀ page : Html.Document,
      SameOutcome (fun cause cause' => cause.Alike cause' ∧ cause.message? = cause'.message?)
        (evaluate Lookup.builtin page e) (evaluate Lookup.builtin page e') := by
  refine ⟨e.unsignedZeros, parse_print (parse_eq_ok_iff.1 h).wellFormed, fun page => ?_⟩
  have outcomes := evaluate_unsignedZeros Lookup.builtin_ignores page e
  exact outcomes.mono fun _ _ errors => ⟨errors, errors.message?_eq⟩

/-- A negative zero is a position like any other zero. -/
theorem reload_negative_zero :
    ∃ e : Expression, parse "h1 | slice(-0)" = .ok e ∧
      e = .query "h1" [⟨"slice", [.number (.finite true .zero)]⟩] ∧
      ∃ e', parse e.print = .ok e' ∧ ∀ page : Html.Document,
        SameOutcome (fun cause cause' => cause.Alike cause' ∧ cause.message? = cause'.message?)
          (evaluate Lookup.builtin page e) (evaluate Lookup.builtin page e') := by
  have stage : call " slice(-0)".toList =
      .ok (⟨"slice", [.number (.finite true .zero)]⟩, []) := by cbv
  obtain ⟨text, split, written⟩ := call_sound stage
  have stages : ChainText [⟨"slice", [.number (.finite true .zero)]⟩] ('|' :: " slice(-0)".toList) := by
    rw [split]
    exact .cons written .nil
  have noPipe : '|' ∉ "h1 ".toList := by decide
  have read : parse "h1 | slice(-0)" =
      .ok (.query "h1" [⟨"slice", [.number (.finite true .zero)]⟩]) :=
    parse_eq_ok_iff.2 (.query noPipe stages (chain_notConstant noPipe stages))
  exact ⟨_, read, rfl, reloading_keeps_outcomes read⟩

end Expression
end PageExtract
