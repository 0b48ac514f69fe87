import Mathlib
import PageExtract.Proofs.Conversions
import PageExtract.Proofs.Rounding

/-! A text is cut where the separator occurs, at the leftmost place first and then behind it.
Joining the pieces with the separator gives the text back, and a limit keeps the first pieces. -/
namespace PageExtract

theorem Literal.number_ne_undefined (n : Number) : Literal.number n ≠ .undefined := nofun

theorem Literal.string_ne_undefined (s : String) : Literal.string s ≠ .undefined := nofun

namespace Arguments
variable {args : List Literal} {index : Nat} {x : Literal}

theorem get_zero (x : Literal) (rest : List Literal) : get (x :: rest) 0 = x := rfl

theorem get_one (x y : Literal) (rest : List Literal) : get (x :: y :: rest) 1 = y := rfl

theorem text_given (h : get args index = x) (given : x ≠ .undefined) (default : String) :
    text args index default = x.toText := by
  unfold text
  split
  next missing => exact absurd (h.symm.trans missing) given
  next => rw [h]

theorem integer_given (h : get args index = x) (given : x ≠ .undefined) (default : ExtInt) :
    integer args index default = x.toNumber.toExtInt := by
  unfold integer
  split
  next missing => exact absurd (h.symm.trans missing) given
  next => rw [h]

end Arguments

namespace Transform

/-- The pieces of a text between the occurrences of a separator, each the leftmost one behind the
one before. -/
inductive Cut (separator : List Char) : List Char → List (List Char) → Prop
  | whole {s : List Char} (absent : ¬separator <:+: s) : Cut separator s [s]
  | first {p rest : List Char} {pieces : List (List Char)}
      (leftmost : ∀ q r, p ++ (separator ++ rest) = q ++ (separator ++ r) → p.length ≤ q.length)
      (others : Cut separator rest pieces) : Cut separator (p ++ (separator ++ rest)) (p :: pieces)

namespace Cut
variable {separator s : List Char} {pieces pieces' : List (List Char)}

theorem ne_nil (h : Cut separator s pieces) : pieces ≠ [] := by
  cases h <;> simp

theorem intercalate (h : Cut separator s pieces) : separator.intercalate pieces = s := by
  induction h with
  | whole => simp
  | @first p rest pieces _ others ih =>
    obtain ⟨next, pieces, rfl⟩ := List.exists_cons_of_ne_nil others.ne_nil
    rw [List.intercalate_cons_cons, ih, List.append_assoc]

theorem absent (h : Cut separator s pieces) (some : separator ≠ []) :
    ∀ p ∈ pieces, ¬separator <:+: p := by
  induction h with
  | whole absent => simpa using absent
  | @first p rest pieces leftmost _ ih =>
    refine List.forall_mem_cons.2 ⟨?_, ih⟩
    rintro ⟨before, behind, rfl⟩
    have early := leftmost before (behind ++ (separator ++ rest)) (by simp)
    have long := List.length_pos_iff.2 some
    simp only [List.length_append] at early
    omega

theorem unique (h : Cut separator s pieces) (h' : Cut separator s pieces') : pieces = pieces' := by
  induction h generalizing pieces' with
  | whole absent =>
    cases h' with
    | whole => rfl
    | @first p rest =>
      exact absurd ⟨p, rest, by simp⟩ absent
  | @first p rest pieces leftmost _ ih =>
    generalize whole : p ++ (separator ++ rest) = s at h'
    cases h' with
    | whole absent => exact absurd ⟨p, rest, by simp [← whole]⟩ absent
    | @first p' rest' pieces' leftmost' others' =>
      have same : p.length = p'.length :=
        Nat.le_antisymm (leftmost p' rest' whole) (leftmost' p rest whole.symm)
      obtain ⟨rfl, back⟩ := List.append_inj whole same
      rw [List.append_cancel_left back] at ih
      rw [ih others']

end Cut

theorem partsFrom_cut {separator : List Char} (some : separator ≠ []) (part s : List Char)
    (early : ∀ q r, part.reverse ++ s = q ++ (separator ++ r) → part.length ≤ q.length) :
    Cut separator (part.reverse ++ s) (partsFrom separator part s) := by
  have long := List.length_pos_iff.2 some
  fun_induction partsFrom separator part s with
  | case1 part =>
    rw [List.append_nil] at early ⊢
    refine .whole ?_
    rintro ⟨q, r, same⟩
    have late := early q r (by simp [← same])
    have lengths := congrArg List.length same
    simp only [List.length_append, List.length_reverse] at lengths
    omega
  | case2 part c rest found ih =>
    obtain ⟨tail, same⟩ := List.isPrefixOf_iff_prefix.1 found
    have behind : rest.drop (separator.length - 1) = tail := by
      rw [← List.drop_succ_cons (a := c), Nat.sub_add_cancel long, ← same, List.drop_left]
    rw [behind] at ih ⊢
    rw [← same]
    refine .first (fun q r whole => ?_) (ih (by simp))
    rw [List.length_reverse]
    exact early q r (same ▸ whole)
  | case3 part c rest other ih =>
    have shape : (c :: part).reverse ++ rest = part.reverse ++ c :: rest := by simp
    rw [← shape]
    refine ih fun q r whole => ?_
    rw [shape] at whole
    have late := early q r whole
    by_contra short
    have same : part.reverse.length = q.length := by
      simp only [List.length_cons, List.length_reverse] at short ⊢
      omega
    obtain ⟨-, back⟩ := List.append_inj whole same
    exact other (List.isPrefixOf_iff_prefix.2 ⟨r, back.symm⟩)

theorem intercalate_parts (separator s : List Char) :
    separator.intercalate (parts separator s) = s := by
  cases separator with
  | nil =>
    have flat : ([] : List Char).intercalate (s.map fun c => [c]) = s := by
      induction s with
      | nil => rfl
      | cons c s ih => cases s <;> simp_all
    exact flat
  | cons c rest =>
    have cut := partsFrom_cut (List.cons_ne_nil c rest) [] s (by simp)
    exact cut.intercalate

theorem parts_cut {separator : List Char} (some : separator ≠ []) (s : List Char) :
    Cut separator s (parts separator s) := by
  have cut := partsFrom_cut some [] s (by simp)
  rwa [parts, if_neg (by simpa using some)]

def piecesAt (x : Literal) (s : List Char) : List (List Char) :=
  match x with
  | .undefined => [s]
  | separator => parts separator.toText.toList s

theorem piecesAt_eq {x : Literal} (given : x ≠ .undefined) (s : List Char) :
    piecesAt x s = parts x.toText.toList s := by
  unfold piecesAt
  split
  · exact absurd rfl given
  · rfl

theorem split_string (s : String) (args : List Literal) :
    split (.string s) args =
      .ok (.list ((limited args (piecesAt (Arguments.get args 0) s.toList)).map ofChars)) := by
  rw [split, onStrings]
  rfl

theorem split_alone (s : String) (x : Literal) :
    split (.string s) [x] = .ok (.list ((piecesAt x s.toList).map ofChars)) :=
  split_string s [x]

theorem join_pieces (pieces : List (List Char)) (args : List Literal) :
    join (.list (pieces.map ofChars)) args =
      .ok (ofChars ((Arguments.text args 0 ",").toList.intercalate pieces)) := by
  have texts : (pieces.map ofChars).map Datum.itemText = pieces.map String.ofList := by
    simp [ofChars, Function.comp_def, Datum.itemText, Datum.toText]
  have joined : Datum.joinTexts (Arguments.text args 0 ",") (pieces.map String.ofList) =
      String.ofList ((Arguments.text args 0 ",").toList.intercalate pieces) := by
    rw [← String.toList_inj, Datum.joinTexts, String.toList_intercalate]
    simp [Function.comp_def]
  rw [join, sequence, Except.map]
  simp only [texts, joined, ofChars]

theorem join_piecesAt (x : Literal) (s : List Char) :
    (Arguments.text [x] 0 ",").toList.intercalate (piecesAt x s) = s := by
  by_cases given : x = .undefined
  · subst given
    simp [piecesAt]
  · rw [Arguments.text_given (Arguments.get_zero x []) given, piecesAt_eq given, intercalate_parts]

theorem limited_given {args : List Literal} {limit : Literal} (h : Arguments.get args 1 = limit)
    (given : limit ≠ .undefined) (found : List (List Char)) :
    limited args found = found.take (partLimit limit.toNumber.toExtInt) := by
  unfold limited
  split
  next missing => exact absurd (h.symm.trans missing) given
  next => rw [Arguments.integer_given h given]

theorem partLimit_int (n : Int) : (partLimit (.int n) : Int) = n % 2 ^ 32 := by
  have bound : (partBound : Int) = 2 ^ 32 := rfl
  rw [partLimit, bound]
  exact Int.toNat_of_nonneg (Int.emod_nonneg n (by decide))

end Transform

namespace Call
variable {lookup : Lookup}

theorem apply_found {c : Call} {t : Transform} {d next : Datum} (found : lookup c.name = some t)
    (h : t d c.args = .ok next) : c.apply lookup d = .ok next := by
  simp only [apply, found, h, Except.mapError]

theorem run_cons_found {name : String} {args : List Literal} {t : Transform} {d next : Datum}
    (found : lookup name = some t) (h : t d args = .ok next) (rest : List Call) :
    run lookup (⟨name, args⟩ :: rest) d = run lookup rest next :=
  run_cons_ok (apply_found found h)

theorem run_found {name : String} {args : List Literal} {t : Transform} {d next : Datum}
    (found : lookup name = some t) (h : t d args = .ok next) :
    run lookup [⟨name, args⟩] d = .ok next := by
  rw [run_cons_found found h, run]

theorem run_alone {name : String} {t : Transform} (found : lookup name = some t) (d : Datum)
    (args : List Literal) :
    run lookup [⟨name, args⟩] d = (t d args).mapError (.transform name) := by
  rw [run, apply]
  simp only [found]
  cases t d args <;> rfl

/-- Splitting and joining at a literal give a text back. The pieces at a text that is not empty are
those between its leftmost occurrences that do not overlap, and it is in none of them; the pieces at
an empty text are the characters; and a limit keeps as many pieces as its whole part counts modulo
`2 ^ 32`, none if it is not finite. -/
theorem split_exact_and_undone_by_join (s : String) (x : Literal) :
    run Lookup.builtin [⟨"split", [x]⟩, ⟨"join", [x]⟩] (.string s) = .ok (.string s) ∧
      ∃ pieces : List String,
        run Lookup.builtin [⟨"split", [x]⟩] (.string s) = .ok (.list (pieces.map .string)) ∧
        (x ≠ .undefined → x.toText ≠ "" →
          (∀ p ∈ pieces, ¬x.toText.toList <:+: p.toList) ∧
            ∀ others : List String,
              Transform.Cut x.toText.toList s.toList (others.map String.toList) ↔ others = pieces) ∧
        (x ≠ .undefined → x.toText = "" → pieces = s.toList.map fun c => String.ofList [c]) ∧
        ∀ limit : Literal, limit ≠ .undefined → ∃ K : Nat,
          (∀ negative a, limit.toNumber = .finite negative a →
            (K : Int) = (if negative then -(a.floor : Int) else a.floor) % 2 ^ 32) ∧
          (limit.toNumber = .nan ∨ (∃ negative, limit.toNumber = .infinite negative) → K = 0) ∧
          run Lookup.builtin [⟨"split", [x, limit]⟩] (.string s) =
            .ok (.list ((pieces.take (min pieces.length K)).map .string)) := by
  have strings (pieces : List (List Char)) :
      pieces.map Transform.ofChars = (pieces.map String.ofList).map .string := by
    simp [Transform.ofChars, Function.comp_def]
  refine ⟨?_, (Transform.piecesAt x s.toList).map String.ofList, ?_, ?_, ?_, ?_⟩
  · rw [run_cons_found rfl (Transform.split_alone s x),
      run_found rfl (Transform.join_pieces _ [x]), Transform.join_piecesAt, Transform.ofChars,
      String.ofList_toList]
  · rw [run_found rfl (Transform.split_alone s x), strings]
  · intro given some
    have some : x.toText.toList ≠ [] := by simpa using some
    have cut := Transform.parts_cut some s.toList
    rw [Transform.piecesAt_eq given]
    refine ⟨by simpa using cut.absent some, fun others => ⟨fun h => ?_, ?_⟩⟩
    · rw [cut.unique h]
      simp [Function.comp_def]
    · rintro rfl
      simpa [Function.comp_def] using cut
  · intro given none
    rw [Transform.piecesAt_eq given, none]
    simp [Transform.parts, Function.comp_def]
  · intro limit given
    refine ⟨Transform.partLimit limit.toNumber.toExtInt, fun negative a finite => ?_, ?_, ?_⟩
    · rw [finite]
      exact Transform.partLimit_int _
    · rintro (nan | ⟨negative, infinite⟩)
      · rw [nan]
        rfl
      · rw [infinite]
        cases negative <;> rfl
    · rw [run_found rfl (Transform.split_string s [x, limit]),
        Transform.limited_given (Arguments.get_one x limit []) given, strings, List.map_take,
        Nat.min_comm, ← List.take_eq_take_min]
      rfl

/-- Occurrences that overlap count once, and a limit of minus one is far above the count. -/
theorem overlapping_separator_split :
    run Lookup.builtin [⟨"split", [.string "aa"]⟩, ⟨"join", [.string "aa"]⟩] (.string "aaa") =
        .ok (.string "aaa") ∧
      run Lookup.builtin [⟨"split", [.string "aa"]⟩] (.string "aaa") =
        .ok (.list [.string "", .string "a"]) ∧
      run Lookup.builtin [⟨"split", [.string "aa", .number (.finite true .one)]⟩] (.string "aaa") =
        .ok (.list [.string "", .string "a"]) ∧
      run Lookup.builtin [⟨"split", [.string "aa", .number .nan]⟩] (.string "aaa") =
        .ok (.list []) ∧
      run Lookup.builtin [⟨"split", [.string ""]⟩] (.string "é😀") =
        .ok (.list [.string "é", .string "😀"]) := by
  obtain ⟨back, pieces, split, cut, -, limited⟩ :=
    split_exact_and_undone_by_join "aaa" (.string "aa")
  obtain ⟨-, only⟩ := cut nofun (by decide)
  have overlapping : Transform.Cut ['a', 'a'] ['a', 'a', 'a'] [[], ['a']] :=
    @Transform.Cut.first _ [] ['a'] _ (by simp) (.whole (by decide))
  obtain rfl : ["", "a"] = pieces := (only ["", "a"]).1 overlapping
  obtain ⟨K, minusOne, -, many⟩ := limited (.number (.finite true .one)) nofun
  obtain ⟨L, -, none, few⟩ := limited (.number .nan) nofun
  have wrapped : K = 4294967295 := by
    have whole := minusOne true .one (by rw [Literal.toNumber])
    rw [Magnitude.floor_one] at whole
    simp only [↓reduceIte] at whole
    omega
  obtain ⟨-, characters, chars, -, single, -⟩ := split_exact_and_undone_by_join "é😀" (.string "")
  rw [wrapped] at many
  rw [none (.inl rfl)] at few
  rw [single nofun rfl] at chars
  exact ⟨back, split, many, few, chars⟩

end Call
end PageExtract
