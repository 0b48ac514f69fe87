import PageExtract.Proofs.SchemaSteps
import PageExtract.SchemaFile

/-! A file is refused for the first of its schemas that is not sound, and a schema for its pattern
or else for the first expression that cannot be read. The key of that expression is in the
wording. -/
namespace PageExtract.Schema

theorem fieldsOf_eq_error_iff {calls : List (String × String)} {e : SchemaError} :
    fieldsOf calls = .error e ↔
      ∃ before key text after cause, calls = before ++ (key, text) :: after ∧
        (∀ call ∈ before, ∃ read, Expression.parse call.2 = .ok read) ∧
        Expression.parse text = .error cause ∧ e = .invalidExpression key cause := by
  induction calls with
  | nil => simp [fieldsOf]
  | cons first rest ih =>
    obtain ⟨key, text⟩ := first
    rw [fieldsOf]
    cases parsed : Expression.parse text with
    | error cause =>
      constructor
      · intro h
        cases h
        exact ⟨[], key, text, rest, cause, rfl, by simp, parsed, rfl⟩
      · rintro ⟨before, key', text', after, cause', split, read, fails, rfl⟩
        cases before with
        | nil =>
          cases split
          cases parsed.symm.trans fails
          rfl
        | cons head before =>
          cases split
          obtain ⟨e', ok⟩ := read (key, text) List.mem_cons_self
          cases parsed.symm.trans ok
    | ok e' =>
      have later : (fieldsOf rest).map ((key, e') :: ·) = .error e ↔ fieldsOf rest = .error e := by
        cases fieldsOf rest <;> simp [Except.map]
      rw [later, ih]
      constructor
      · rintro ⟨before, key', text', after, cause, rfl, read, fails⟩
        refine ⟨(key, text) :: before, key', text', after, cause, rfl, ?_, fails⟩
        exact List.forall_mem_cons.2 ⟨⟨e', parsed⟩, read⟩
      · rintro ⟨before, key', text', after, cause, split, read, fails⟩
        cases before with
        | nil =>
          cases split
          cases parsed.symm.trans fails.1
        | cons head before =>
          cases split
          exact ⟨before, key', text', after, cause, rfl, (List.forall_mem_cons.1 read).2, fails⟩

theorem ofConfig_eq_error_iff {c : SchemaConfig} {e : SchemaError} :
    ofConfig c = .error e ↔
      (∃ pattern cause, c.pageUrl = some pattern ∧ UrlPattern.parse pattern = .error cause ∧
        e = .invalidUrlPattern pattern cause) ∨
      (∀ pattern ∈ c.pageUrl, ∃ p, UrlPattern.parse pattern = .ok p) ∧ fieldsOf c.keys = .error e := by
  rw [ofConfig]
  have later (pattern : Option UrlPattern) :
      (fieldsOf c.keys).map (fun fields => Schema.mk pattern
        ((c.pageSelector.map SelectorList.toList).getD []) (putEntries [] fields)) = .error e ↔
        fieldsOf c.keys = .error e := by
    cases fieldsOf c.keys <;> simp [Except.map]
  cases c.pageUrl with
  | none => simp [patternOf, later]
  | some pattern =>
    cases parsed : UrlPattern.parse pattern with
    | error cause => simp [patternOf, parsed, eq_comm]
    | ok p => simp [patternOf, parsed, later]

theorem listOf_eq_unsound_iff {read : Notation.Readers} {format format' : Notation} {text : String}
    {cause : SchemaError} :
    listOf read format text = .error (.unsound format' cause) ↔
      format' = format ∧ ∃ content before t after c, read format text = some content ∧
        SchemaConfig.items? format.isStrict content = some (before ++ t :: after) ∧
        (∀ b ∈ before, ∃ s, ofTree format b = .ok s) ∧
        SchemaConfig.ofTree? format.isStrict t = some c ∧ ofConfig c = .error cause := by
  have item {t : Tree} : ofTree format t = .error (.unsound format' cause) ↔
      format' = format ∧ ∃ c, SchemaConfig.ofTree? format.isStrict t = some c ∧
        ofConfig c = .error cause := by
    rw [ofTree]
    cases SchemaConfig.ofTree? format.isStrict t with
    | none => simp
    | some c =>
      cases outcome : ofConfig c with
      | error e => simp [outcome, Except.mapError, eq_comm]
      | ok s => simp [outcome, Except.mapError]
  rw [listOf]
  cases content : read format text with
  | none => simp
  | some tree =>
    rw [Option.bind_some]
    cases items : SchemaConfig.items? format.isStrict tree with
    | none => simp [items]
    | some items =>
      dsimp only
      rw [mapM_eq_error_iff]
      constructor
      · rintro ⟨before, t, after, rfl, sound, fails⟩
        obtain ⟨same, c, written, refused⟩ := item.1 fails
        exact ⟨same, tree, before, t, after, c, rfl, by assumption, sound, written, refused⟩
      · rintro ⟨same, _, before, t, after, c, ⟨⟩, split, sound, written, refused⟩
        cases items.symm.trans split
        exact ⟨before, t, after, rfl, sound, item.2 ⟨same, c, written, refused⟩⟩

theorem loadList_eq_error_iff {read : Notation.Readers} {path text : String} {bytes : ByteArray}
    {format : Notation} {fault : SchemaTextError} (decoded : String.fromUTF8? bytes = some text)
    (extension : Notation.ofExtension? ((Path.extension? path).getD "").toLower = some format) :
    loadList read path (some bytes) = .error (.content path fault) ↔
      listOf read format text = .error fault := by
  rw [loadList, Option.bind_some, decoded]
  dsimp only
  rw [parseList, extension]
  dsimp only
  cases listOf read format text <;> simp [Except.mapError]

/-- The cause that a refused file shows names the first expression that cannot be read, in the first
schema that is not sound. -/
theorem loadList_refuses_key_iff {read : Notation.Readers} {path text : String} {bytes : ByteArray}
    {format : Notation} {key : String} {cause : SyntaxError}
    (decoded : String.fromUTF8? bytes = some text)
    (extension : Notation.ofExtension? ((Path.extension? path).getD "").toLower = some format) :
    loadList read path (some bytes) =
        .error (.content path (.unsound format (.invalidExpression key cause))) ↔
      ∃ content before t after c, read format text = some content ∧
        SchemaConfig.items? format.isStrict content = some (before ++ t :: after) ∧
        (∀ b ∈ before, ∃ s, ofTree format b = .ok s) ∧
        SchemaConfig.ofTree? format.isStrict t = some c ∧
        (∀ pattern ∈ c.pageUrl, ∃ p, UrlPattern.parse pattern = .ok p) ∧
        ∃ first written rest, c.keys = first ++ (key, written) :: rest ∧
          (∀ call ∈ first, ∃ e, Expression.parse call.2 = .ok e) ∧
          Expression.parse written = .error cause := by
  have refused {c : SchemaConfig} : ofConfig c = .error (.invalidExpression key cause) ↔
      (∀ pattern ∈ c.pageUrl, ∃ p, UrlPattern.parse pattern = .ok p) ∧
        ∃ first written rest, c.keys = first ++ (key, written) :: rest ∧
          (∀ call ∈ first, ∃ e, Expression.parse call.2 = .ok e) ∧
          Expression.parse written = .error cause := by
    rw [ofConfig_eq_error_iff, fieldsOf_eq_error_iff]
    constructor
    · rintro (⟨_, _, -, -, ⟨⟩⟩ | ⟨patterns, first, _, written, rest, _, keys, read, fails, ⟨⟩⟩)
      exact ⟨patterns, first, written, rest, keys, read, fails⟩
    · rintro ⟨patterns, first, written, rest, keys, read, fails⟩
      exact .inr ⟨patterns, first, key, written, rest, cause, keys, read, fails, rfl⟩
  rw [loadList_eq_error_iff decoded extension, listOf_eq_unsound_iff]
  simp only [true_and, refused]

end PageExtract.Schema
