import Mathlib
import PageExtract.Evaluation
import PageExtract.Proofs.Parsing
import PageExtract.Transform.Strings

/-! Putting one pipeline behind another in the text puts its stages behind those of the other, and
its evaluation goes on where the other stops. -/
namespace PageExtract
open Grammar PageExtract.Parser

namespace Grammar

theorem Spaces.append {s t : List Char} (hs : Spaces s) (ht : Spaces t) : Spaces (s ++ t) := by
  intro c hc
  exact (List.mem_append.1 hc).elim (hs c) (ht c)

theorem Spaces.noPipe {s : List Char} (h : Spaces s) : '|' ∉ s :=
  fun pipe => absurd (h '|' pipe) (by decide)

theorem StageText.append_spaces {c : Call} {s spaces : List Char} (h : StageText c s)
    (hs : Spaces spaces) : StageText c (s ++ spaces) := by
  cases h with
  | bare spacesBefore identifier spacesAfter =>
    have stage := StageText.bare spacesBefore identifier (spacesAfter.append hs)
    simpa using stage
  | applied spacesBefore identifier spacesBetween arguments spacesAfter =>
    have stage := StageText.applied spacesBefore identifier spacesBetween arguments
      (spacesAfter.append hs)
    simpa using stage

/-- The spaces between two chains belong to the last stage of the first one. -/
theorem ChainText.append {first second : List Call} {s spaces t : List Char}
    (h : ChainText first s) (nonempty : first ≠ []) (hs : Spaces spaces) (h' : ChainText second t) :
    ChainText (first ++ second) (s ++ (spaces ++ t)) := by
  induction h with
  | nil => exact absurd rfl nonempty
  | @cons c calls s rest stage others ih =>
    cases others with
    | nil =>
      have last := ChainText.cons (stage.append_spaces hs) h'
      simpa using last
    | cons stage' others' =>
      have tail := ih (by simp)
      have chain := ChainText.cons stage tail
      simpa using chain

theorem expression_split {selector : String} {calls : List Call} {s : List Char}
    (h : ExpressionText (.query selector calls) s) :
    ∃ before rest, s = before ++ rest ∧ '|' ∉ before ∧ ChainText calls rest ∧
      selector = String.ofList (Blank.trim before) := by
  cases h with
  | query noPipe chain _ => exact ⟨_, _, rfl, noPipe, chain, rfl⟩

end Grammar

namespace Call
variable {lookup : Lookup}

/-- The first stage that does not resolve or whose transform fails, and its error. -/
inductive FailsAt (lookup : Lookup) : List Call → Datum → EvalError → Prop
  | unknown {call : Call} {rest : List Call} {d : Datum} (missing : lookup call.name = none) :
      FailsAt lookup (call :: rest) d (.unknownTransform call.name)
  | failed {call : Call} {rest : List Call} {d : Datum} {t : Transform} {cause : TransformError}
      (found : lookup call.name = some t) (failure : t d call.args = .error cause) :
      FailsAt lookup (call :: rest) d (.transform call.name cause)
  | later {call : Call} {rest : List Call} {d next : Datum} {t : Transform} {e : EvalError}
      (found : lookup call.name = some t) (success : t d call.args = .ok next)
      (others : FailsAt lookup rest next e) : FailsAt lookup (call :: rest) d e

theorem run_eq_foldlM (calls : List Call) (d : Datum) :
    run lookup calls d = calls.foldlM (fun d call => Call.apply lookup call d) d := by
  induction calls generalizing d with
  | nil => rfl
  | cons call calls ih =>
    rw [run, List.foldlM_cons]
    cases call.apply lookup d with
    | error e => rfl
    | ok next => exact ih next

theorem run_append (first second : List Call) (d : Datum) :
    run lookup (first ++ second) d =
      match run lookup first d with
      | .error e => .error e
      | .ok v => run lookup second v := by
  induction first generalizing d with
  | nil => rfl
  | cons call first ih =>
    rw [List.cons_append, run, run]
    cases call.apply lookup d with
    | error e => rfl
    | ok next => exact ih next

theorem FailsAt.run_eq {calls : List Call} {d : Datum} {e : EvalError}
    (h : FailsAt lookup calls d e) : run lookup calls d = .error e := by
  induction h with
  | unknown missing => rw [run, apply, missing]
  | failed found failure =>
    rw [run, apply, found]
    simp only [failure, Except.mapError]
  | later found success _ ih =>
    rw [run, apply, found]
    simp only [success, Except.mapError]
    exact ih

theorem failsAt_of_run {calls : List Call} {d : Datum} {e : EvalError}
    (h : run lookup calls d = .error e) : FailsAt lookup calls d e := by
  induction calls generalizing d with
  | nil => cases h
  | cons call calls ih =>
    rw [run, apply] at h
    cases found : lookup call.name with
    | none =>
      rw [found] at h
      cases h
      exact .unknown found
    | some t =>
      simp only [found] at h
      cases result : t d call.args with
      | error cause =>
        rw [result] at h
        cases h
        exact .failed found result
      | ok next =>
        rw [result] at h
        exact .later found result (ih h)

theorem run_eq_error_iff {calls : List Call} {d : Datum} {e : EvalError} :
    run lookup calls d = .error e ↔ FailsAt lookup calls d e :=
  ⟨failsAt_of_run, FailsAt.run_eq⟩

end Call

namespace Expression
variable {lookup : Lookup} {page : Html.Document}

theorem evaluate_query {selector : String} {calls : List Call} (nonempty : calls ≠ []) :
    evaluate lookup page (.query selector calls) =
      match page.query selector with
      | .error e => .error (.selector e)
      | .ok found =>
        if found.isEmpty then .ok .noMatch
        else (Call.run lookup calls (.nodes found)).map .value := by
  rw [evaluate]
  cases page.query selector with
  | error e => rfl
  | ok found =>
    obtain ⟨call, calls, rfl⟩ := List.exists_cons_of_ne_nil nonempty
    rfl

theorem chain_of_parse {q selector : String} {calls : List Call} {spaces after : List Char}
    (shape : q.toList = spaces ++ '|' :: after) (hs : Spaces spaces)
    (read : parse q = .ok (.query selector calls)) :
    selector = "" ∧ ChainText calls ('|' :: after) := by
  obtain ⟨before, rest, split, noPipe, chain, same⟩ := expression_split (parse_eq_ok_iff.1 read)
  have ends : EndsStage ('|' :: after) := by simp [EndsStage]
  have piped := takeWhile_pipe hs.noPipe ends
  have read := takeWhile_pipe noPipe (chain_ends chain)
  rw [← split, shape] at read
  obtain ⟨rfl, rfl⟩ : before = spaces ∧ rest = '|' :: after :=
    ⟨read.1.symm.trans piped.1, read.2.symm.trans piped.2⟩
  have blank : ∀ c ∈ before, Blank.isBlank c = true := by
    intro c hc
    rw [hs c hc]
    decide
  refine ⟨?_, chain⟩
  rw [same, Blank.trim_blanks blank]

theorem parse_append {p q selector : String} {first second : List Call} {spaces after : List Char}
    (hp : parse p = .ok (.query selector first)) (nonempty : first ≠ [])
    (shape : q.toList = spaces ++ '|' :: after) (hs : Spaces spaces)
    (chain : ChainText second ('|' :: after)) :
    parse (p ++ q) = .ok (.query selector (first ++ second)) := by
  obtain ⟨before, rest, split, noPipe, stages, rfl⟩ := expression_split (parse_eq_ok_iff.1 hp)
  have joined := stages.append nonempty hs chain
  have text := ExpressionText.query noPipe joined (chain_notConstant noPipe joined)
  rw [parse_eq_ok_iff, String.toList_append, split, shape, List.append_assoc]
  exact text

theorem evaluate_append {selector : String} {first : List Call} (second : List Call)
    (nonempty : first ≠ []) :
    evaluate lookup page (.query selector (first ++ second)) =
      match evaluate lookup page (.query selector first) with
      | .error e => .error e
      | .ok .noMatch => .ok .noMatch
      | .ok (.value v) => (Call.run lookup second v).map .value := by
  rw [evaluate_query nonempty, evaluate_query (List.append_ne_nil_of_left_ne_nil nonempty second)]
  cases page.query selector with
  | error e => rfl
  | ok found =>
    cases empty : found.isEmpty with
    | true => simp only [empty, if_true]
    | false =>
      simp only [empty, Bool.false_eq_true, if_false, Call.run_append]
      cases Call.run lookup first (.nodes found) with
      | error e => rfl
      | ok v => rfl

/-- The text of a chain behind the text of a pipeline is read as the longer pipeline. It has the
errors and the missing matches of the shorter one; its value is folded on over the further stages,
and what fails then is the first stage of them that cannot be run. -/
theorem pipelines_compose {p q selector blank : String} {first second : List Call}
    {spaces after : List Char} (hp : parse p = .ok (.query selector first)) (nonempty : first ≠ [])
    (shape : q.toList = spaces ++ '|' :: after) (hs : Spaces spaces)
    (hq : parse q = .ok (.query blank second)) :
    blank = "" ∧ parse (p ++ q) = .ok (.query selector (first ++ second)) ∧
      ∀ (lookup : Lookup) (page : Html.Document),
        (∀ e, evaluate lookup page (.query selector first) = .error e →
          evaluate lookup page (.query selector (first ++ second)) = .error e) ∧
        (evaluate lookup page (.query selector first) = .ok .noMatch →
          evaluate lookup page (.query selector (first ++ second)) = .ok .noMatch) ∧
        ∀ v, evaluate lookup page (.query selector first) = .ok (.value v) →
          evaluate lookup page (.query selector (first ++ second)) =
            (second.foldlM (fun d call => Call.apply lookup call d) v).map .value ∧
          ∀ e, evaluate lookup page (.query selector (first ++ second)) = .error e ↔
            Call.FailsAt lookup second v e := by
  obtain ⟨empty, chain⟩ := chain_of_parse shape hs hq
  refine ⟨empty, parse_append hp nonempty shape hs chain, fun lookup page => ⟨?_, ?_, ?_⟩⟩
  · intro e failed
    rw [evaluate_append second nonempty, failed]
  · intro missing
    rw [evaluate_append second nonempty, missing]
  · intro v value
    have further : evaluate lookup page (.query selector (first ++ second)) =
        (Call.run lookup second v).map .value := by
      rw [evaluate_append second nonempty, value]
    rw [further, ← Call.run_eq_foldlM]
    refine ⟨rfl, fun e => ?_⟩
    rw [← Call.run_eq_error_iff]
    cases Call.run lookup second v with
    | error cause => simp [Except.map]
    | ok w => simp [Except.map]

/-- A heading is trimmed by the shorter pipeline, and only the stage behind that is not known. -/
theorem compose_trimmed_heading :
    parse ("h1 | trim" ++ "  | join") = .ok (.query "h1" [⟨"trim", []⟩, ⟨"join", []⟩]) ∧
      evaluate (fun name => if name = "trim" then some Transform.trim else none)
        ⟨[.element ⟨0, .html, "h1", []⟩ [.text " a "]], []⟩
        (.query "h1" [⟨"trim", []⟩, ⟨"join", []⟩]) = .error (.unknownTransform "join") := by
  have composed := pipelines_compose (p := "h1 | trim") (q := "  | join") (by cbv) (by simp) (by cbv)
    Spaces.nil.cons.cons (by cbv)
  have value := (composed.2.2 (fun name => if name = "trim" then some Transform.trim else none)
    ⟨[.element ⟨0, .html, "h1", []⟩ [.text " a "]], []⟩).2.2 (.string "a") (by cbv)
  exact ⟨composed.2.1, (value.2 _).2 (.unknown rfl)⟩

end Expression
end PageExtract
