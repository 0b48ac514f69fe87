import Mathlib
import PageExtract.PageFile

/-! No text starts with the two bytes of a compressed file: the first of them is a character of its
own and the second starts none. So a page that is a text is loaded as it is, and a file without the
name of a compressed one is loaded as the same bytes at the standard input are. -/
namespace PageExtract

namespace Utf8

def bytes (s : List Char) : List UInt8 := s.flatMap String.utf8EncodeChar

theorem toUTF8_data (text : String) : text.toUTF8.data.toList = bytes text.toList := by
  rw [String.toUTF8_eq_toByteArray, ← String.utf8Encode_toList, List.utf8Encode,
    List.toList_data_toByteArray, bytes]

theorem head?_bytes (c : Char) (s : List Char) :
    (bytes (c :: s)).head? = (String.utf8EncodeChar c).head? := by
  rw [bytes, List.flatMap_cons, List.head?_append_of_ne_nil _ String.utf8EncodeChar_ne_nil]

theorem firstByte_of_head? {s : List Char} {b : UInt8} (h : (bytes s).head? = some b) :
    b.IsUTF8FirstByte := by
  cases s with
  | nil => cases h
  | cons c s =>
    rw [head?_bytes, List.head?_eq_getElem?] at h
    obtain ⟨_, rfl⟩ := List.getElem?_eq_some_iff.1 h
    exact UInt8.isUTF8FirstByte_getElem_zero_utf8EncodeChar

theorem utf8EncodeChar_of_ascii {c : Char} {b : UInt8}
    (h : (String.utf8EncodeChar c).head? = some b) (ascii : b.toNat < 128) :
    String.utf8EncodeChar c = [b] := by
  have high (x : UInt8) (mark : UInt8) (large : 128 ≤ mark.toNat) : 128 ≤ (x ||| mark).toNat := by
    rw [UInt8.toNat_or]
    exact large.trans Nat.right_le_or
  rcases c.utf8Size_eq with one | two | three | four
  · rw [String.utf8EncodeChar_eq_singleton one] at h ⊢
    simpa using h
  · rw [String.utf8EncodeChar_eq_cons_cons two] at h
    obtain rfl := Option.some.inj h
    exact absurd ascii (Nat.not_lt.2 (high _ 0xc0 (by decide)))
  · rw [String.utf8EncodeChar_eq_cons_cons_cons three] at h
    obtain rfl := Option.some.inj h
    exact absurd ascii (Nat.not_lt.2 (high _ 0xe0 (by decide)))
  · rw [String.utf8EncodeChar_eq_cons_cons_cons_cons four] at h
    obtain rfl := Option.some.inj h
    exact absurd ascii (Nat.not_lt.2 (high _ 0xf0 (by decide)))

end Utf8

theorem Gzip.isGzip_bytes (s : List Char) : isGzip (Utf8.bytes s) = false := by
  refine Bool.eq_false_iff.2 fun starts => ?_
  obtain ⟨rest, same⟩ := List.isPrefixOf_iff_prefix.1 starts
  cases s with
  | nil => cases same
  | cons c s =>
    -- The first byte is a character of its own, so the second would have to start the next one.
    have first : (String.utf8EncodeChar c).head? = some 0x1F := by
      rw [← Utf8.head?_bytes c s, ← same]
      rfl
    have alone := Utf8.utf8EncodeChar_of_ascii first (by decide)
    rw [Utf8.bytes, List.flatMap_cons, alone] at same
    have second : (Utf8.bytes s).head? = some 0x8B := by
      have behind : 0x8B :: rest = Utf8.bytes s := (List.cons.inj same).2
      rw [← behind, List.head?_cons]
    exact absurd (Utf8.firstByte_of_head? second) (by decide)

namespace PageSource

theorem fromUTF8?_toUTF8 (text : String) : String.fromUTF8? text.toUTF8 = some text := by
  rw [String.fromUTF8?, String.toUTF8_eq_toByteArray, dif_pos text.isValidUTF8]
  rfl

theorem hasGzipName_eq_false_iff {path : String} :
    hasGzipName path = false ↔ Path.extension? path ≠ some "gz" := by
  simp [hasGzipName]

theorem isGzip_toUTF8 (text : String) : Gzip.isGzip text.toUTF8.data.toList = false := by
  rw [Utf8.toUTF8_data, Gzip.isGzip_bytes]

theorem inputText_toUTF8 (text : String) : inputText text.toUTF8 = .ok text := by
  rw [inputText, isGzip_toUTF8, if_neg Bool.false_ne_true, fromUTF8?_toUTF8]

theorem fileText_toUTF8 {path : String} (plain : hasGzipName path = false) (text : String) :
    fileText path text.toUTF8 = .ok text := by
  rw [fileText, plain, isGzip_toUTF8, Bool.or_false, if_neg Bool.false_ne_true, fromUTF8?_toUTF8]

theorem texts_agree {path : String} (plain : hasGzipName path = false) (bytes : ByteArray) :
    (∃ text, inputText bytes = .ok text ∧ fileText path bytes = .ok text) ∨
      ∃ fault, inputText bytes = .error ⟨input, fault⟩ ∧
        fileText path bytes = .error ⟨file path, fault⟩ := by
  rw [inputText, fileText, plain, Bool.false_or]
  cases Gzip.isGzip bytes.data.toList with
  | true =>
    cases decompress? bytes with
    | some text => exact .inl ⟨text, rfl, rfl⟩
    | none => exact .inr ⟨.damaged, rfl, rfl⟩
  | false =>
    cases String.fromUTF8? bytes with
    | some text => exact .inl ⟨text, rfl, rfl⟩
    | none => exact .inr ⟨.notText, rfl, rfl⟩

/-- A page that is a text is never taken for a compressed one, and at the standard input bytes are
loaded as in a file whose extension is not `gz`. -/
theorem plain_pages_loaded :
    (∀ text : String, input.load (some text.toUTF8) = .ok text ∧
        ∀ path, Path.extension? path ≠ some "gz" →
          (file path).load (some text.toUTF8) = .ok text) ∧
      ∀ (bytes : ByteArray) (path : String), Path.extension? path ≠ some "gz" →
        (∃ text, input.load (some bytes) = .ok text ∧ (file path).load (some bytes) = .ok text) ∨
          ∃ fault, input.load (some bytes) = .error ⟨input, fault⟩ ∧
            (file path).load (some bytes) = .error ⟨file path, fault⟩ := by
  constructor
  · intro text
    exact ⟨inputText_toUTF8 text,
      fun path other => fileText_toUTF8 (hasGzipName_eq_false_iff.2 other) text⟩
  · intro bytes path other
    exact texts_agree (hasGzipName_eq_false_iff.2 other) bytes

theorem page_with_capital_extension :
    Path.extension? "pages/é.GZ" ≠ some "gz" ∧
      (file "pages/é.GZ").load (some "\x1f<p>".toUTF8) = .ok "\x1f<p>" := by
  have other : Path.extension? "pages/é.GZ" ≠ some "gz" := by decide
  exact ⟨other, (plain_pages_loaded.1 "\x1f<p>").2 _ other⟩

end PageSource
end PageExtract
