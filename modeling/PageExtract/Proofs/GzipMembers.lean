import Mathlib
import PageExtract.Gzip.Member
import PageExtract.Proofs.Inflation
import PageExtract.Proofs.PageTexts

/-! A compressed file is a series of members, each with a header, deflated data, and the checksum
and size of the data. Only the first member is decompressed: what stands behind it is not looked
at. -/
namespace PageExtract.Gzip

def littleEndian : Nat → Nat → List UInt8
  | 0, _ => []
  | count + 1, n => n.toUInt8 :: littleEndian count (n / 256)

@[simp] theorem length_littleEndian (count n : Nat) : (littleEndian count n).length = count := by
  induction count generalizing n with
  | zero => rfl
  | succ count ih => rw [littleEndian, List.length_cons, ih]

theorem naturalOf_littleEndian {count n : Nat} (h : n < 256 ^ count) :
    naturalOf (littleEndian count n) = n := by
  induction count generalizing n with
  | zero =>
    obtain rfl : n = 0 := by simpa using h
    rfl
  | succ count ih =>
    have high : n / 256 < 256 ^ count := Nat.div_lt_of_lt_mul (by rwa [← Nat.pow_succ'])
    have low : (n.toUInt8).toNat = n % 256 := by simp [Nat.toUInt8]
    have rest :
        List.foldr (fun b n => b.toNat + 256 * n) 0 (littleEndian count (n / 256)) = n / 256 :=
      ih high
    rw [littleEndian, naturalOf, List.foldr_cons, rest, low]
    omega

theorem split?_append (front rest : List UInt8) :
    split? front.length (front ++ rest) = some (front, rest) := by
  simp [split?]

theorem split?_of_length {count : Nat} {front : List UInt8} (h : front.length = count)
    (rest : List UInt8) : split? count (front ++ rest) = some (front, rest) := by
  rw [← h, split?_append]

structure Header where
  isText : Bool
  isChecked : Bool
  origin : List UInt8
  extra : Option (List UInt8)
  name : Option (List UInt8)
  comment : Option (List UInt8)
  origin_length : origin.length = 6
  extra_length : ∀ field ∈ extra, field.length < Nat.pow 2 16
  name_text : ∀ field ∈ name, 0 ∉ field ∧ field.length ≤ fieldBound
  comment_text : ∀ field ∈ comment, 0 ∉ field ∧ field.length ≤ fieldBound

namespace Header

def flags (h : Header) : UInt8 :=
  (cond h.isText 1 0) + (cond h.isChecked 2 0) + (cond h.extra.isSome 4 0)
    + (cond h.name.isSome 8 0) + (cond h.comment.isSome 16 0)

def extraBytes (h : Header) : List UInt8 :=
  match h.extra with
  | some field => littleEndian 2 field.length ++ field
  | none => []

def textBytes : Option (List UInt8) → List UInt8
  | some field => field ++ [0]
  | none => []

def content (h : Header) : List UInt8 :=
  magic ++ 8 :: h.flags :: (h.origin ++ (h.extraBytes ++ (textBytes h.name ++ textBytes h.comment)))

def checkBytes (h : Header) : List UInt8 :=
  if h.isChecked then littleEndian 2 ((checksum h.content).toNat % Nat.pow 2 16) else []

def bytes (h : Header) : List UInt8 := h.content ++ h.checkBytes

theorem hasFlag_flags (h : Header) :
    h.flags.toNat < 32 ∧ hasFlag h.flags 1 = h.isChecked ∧ hasFlag h.flags 2 = h.extra.isSome ∧
      hasFlag h.flags 3 = h.name.isSome ∧ hasFlag h.flags 4 = h.comment.isSome := by
  unfold flags
  generalize h.isText = a, h.isChecked = b, h.extra.isSome = c, h.name.isSome = d,
    h.comment.isSome = e
  revert a b c d e
  decide

theorem afterExtra?_extraBytes (h : Header) (rest : List UInt8) :
    optionally h.extra.isSome afterExtra? (h.extraBytes ++ rest) = some rest := by
  unfold extraBytes
  cases found : h.extra with
  | none => rfl
  | some field =>
    have short : field.length < 256 ^ 2 := h.extra_length field (by simp [found])
    have two := split?_of_length (length_littleEndian 2 field.length) (field ++ rest)
    have all :
        split? (naturalOf (littleEndian 2 field.length)) (field ++ rest) = some (field, rest) := by
      rw [naturalOf_littleEndian short, split?_append]
    simp [optionally, afterExtra?, two, all]

theorem afterText?_textBytes {field : Option (List UInt8)}
    (text : ∀ bytes ∈ field, 0 ∉ bytes ∧ bytes.length ≤ fieldBound) (rest : List UInt8) :
    optionally field.isSome afterText? (textBytes field ++ rest) = some rest := by
  cases field with
  | none => rfl
  | some bytes =>
    obtain ⟨noZero, short⟩ := text bytes rfl
    have run : (bytes ++ 0 :: rest).takeWhile (· != 0) = bytes := by
      rw [List.takeWhile_append_of_pos fun b member => ?_]
      · simp
      · exact bne_iff_ne.2 fun zero => noZero (zero ▸ member)
    simp [optionally, textBytes, afterText?, run, short]

theorem afterCheck?_checkBytes (h : Header) (rest : List UInt8) :
    optionally h.isChecked (afterCheck? h.content) (h.checkBytes ++ rest) = some rest := by
  unfold checkBytes
  cases checked : h.isChecked with
  | false => rfl
  | true =>
    have small : (checksum h.content).toNat % Nat.pow 2 16 < 256 ^ 2 := Nat.mod_lt _ (by decide)
    have two := split?_of_length
      (length_littleEndian 2 ((checksum h.content).toNat % Nat.pow 2 16)) rest
    simp only [optionally, afterCheck?, two, Option.bind_some, naturalOf_littleEndian small, if_pos]

theorem afterHeader?_bytes (h : Header) (rest : List UInt8) :
    afterHeader? (h.bytes ++ rest) = some rest := by
  obtain ⟨low, checked, extra, name, comment⟩ := h.hasFlag_flags
  have ten : (magic ++ 8 :: h.flags :: h.origin).length = 10 := by simp [magic, h.origin_length]
  have whole : h.bytes ++ rest = (magic ++ 8 :: h.flags :: h.origin) ++
      (h.extraBytes ++ (textBytes h.name ++ (textBytes h.comment ++ (h.checkBytes ++ rest)))) := by
    simp [bytes, content]
  have before : (h.bytes ++ rest).take ((h.bytes ++ rest).length - (h.checkBytes ++ rest).length) =
      h.content := by
    have same : h.bytes ++ rest = h.content ++ (h.checkBytes ++ rest) := by simp [bytes]
    rw [same, List.length_append, Nat.add_sub_cancel, List.take_left]
  have start := split?_of_length ten
    (h.extraBytes ++ (textBytes h.name ++ (textBytes h.comment ++ (h.checkBytes ++ rest))))
  rw [← whole] at start
  have front : h.bytes ++ rest = 0x1F :: 0x8B :: 8 :: h.flags :: (h.bytes ++ rest).drop 4 := by
    simp [bytes, content, magic]
  rw [front, afterHeader?, ← front, if_pos (by simpa [magic] using low), start]
  simp only [Option.bind_eq_bind, Option.bind_some, extra, afterExtra?_extraBytes, name, comment,
    afterText?_textBytes h.name_text, afterText?_textBytes h.comment_text, before, checked,
    afterCheck?_checkBytes]

end Header

/-- A member with these data: a header, deflated data, their checksum and their size. -/
def IsMember (bytes data : List UInt8) : Prop :=
  ∃ (h : Header) (body : List UInt8), inflate? body = some (data, []) ∧
    bytes = h.bytes ++ (body ++ (littleEndian 4 (checksum data).toNat ++
      littleEndian 4 (data.length % Nat.pow 2 32)))

theorem isEnding_ending (data rest : List UInt8) :
    isEnding data (littleEndian 4 (checksum data).toNat ++
      littleEndian 4 (data.length % Nat.pow 2 32) ++ rest) = true := by
  have eight : (littleEndian 4 (checksum data).toNat ++
      littleEndian 4 (data.length % Nat.pow 2 32)).length = 8 := by simp
  have sum : (checksum data).toNat < 256 ^ 4 := (checksum data).toNat_lt
  have size : data.length % Nat.pow 2 32 < 256 ^ 4 := Nat.mod_lt _ (by decide)
  have sumField : (littleEndian 4 (checksum data).toNat ++
      littleEndian 4 (data.length % Nat.pow 2 32)).take 4 = littleEndian 4 (checksum data).toNat :=
    List.take_left' (length_littleEndian 4 _)
  have sizeField : (littleEndian 4 (checksum data).toNat ++
      littleEndian 4 (data.length % Nat.pow 2 32)).drop 4 =
        littleEndian 4 (data.length % Nat.pow 2 32) :=
    List.drop_left' (length_littleEndian 4 _)
  rw [isEnding, split?_of_length eight]
  simp only [sumField, sizeField, naturalOf_littleEndian sum, naturalOf_littleEndian size,
    BEq.rfl, Bool.and_self]

theorem IsMember.decompress? {bytes data : List UInt8} (h : IsMember bytes data)
    (more : List UInt8) : decompress? (bytes ++ more) = some data := by
  obtain ⟨header, body, inflates, rfl⟩ := h
  have ending := isEnding_ending data more
  rw [Gzip.decompress?, List.append_assoc, header.afterHeader?_bytes, Option.bind_some,
    List.append_assoc, inflate?_append inflates, List.nil_append]
  exact if_pos ending

theorem IsMember.isGzip {bytes data : List UInt8} (h : IsMember bytes data) (more : List UInt8) :
    isGzip (bytes ++ more) = true := by
  obtain ⟨header, body, -, rfl⟩ := h
  rw [Gzip.isGzip, List.isPrefixOf_iff_prefix, Header.bytes, Header.content]
  simp only [List.append_assoc]
  exact List.prefix_append _ _

def Header.bare : Header where
  isText := false
  isChecked := false
  origin := [0, 0, 0, 0, 0, 0xFF]
  extra := none
  name := none
  comment := none
  origin_length := rfl
  extra_length := nofun
  name_text := nofun
  comment_text := nofun

def storedBlock (data : List UInt8) : List UInt8 :=
  1 :: (littleEndian 2 data.length ++ (littleEndian 2 (0xFFFF - data.length) ++ data))

def storedMember (data : List UInt8) : List UInt8 :=
  Header.bare.bytes ++ (storedBlock data ++ (littleEndian 4 (checksum data).toNat ++
    littleEndian 4 (data.length % Nat.pow 2 32)))

theorem run_short {n : Nat} (small : n < 256 ^ 2) (rest : List UInt8) (output : Array UInt8) :
    Inflate.short.run ⟨littleEndian 2 n ++ rest, 0, output⟩ = some (n, ⟨rest, 0, output⟩) := by
  have value : (n.toUInt8).toNat + 256 * ((n / 256).toUInt8).toNat = n :=
    naturalOf_littleEndian small
  have run : Inflate.short.run ⟨littleEndian 2 n ++ rest, 0, output⟩ =
      some ((n.toUInt8).toNat + 256 * ((n / 256).toUInt8).toNat, ⟨rest, 0, output⟩) := rfl
  rw [run, value]

theorem run_stored {data : List UInt8} (short : data.length < 256 ^ 2) :
    Inflate.stored.run ⟨storedBlock data, 3, #[]⟩ = some ((), ⟨[], 0, data.toArray⟩) := by
  have aligned : Inflate.align.run ⟨storedBlock data, 3, #[]⟩ =
      some ((), ⟨littleEndian 2 data.length ++ (littleEndian 2 (0xFFFF - data.length) ++ data), 0,
        #[]⟩) := rfl
  have count := run_short short (littleEndian 2 (0xFFFF - data.length) ++ data) #[]
  have turned : 0xFFFF - data.length < 256 ^ 2 := by omega
  have again := run_short turned data #[]
  have sum : data.length + (0xFFFF - data.length) = 0xFFFF := by omega
  simp [Inflate.stored, aligned, count, again, sum]

theorem inflate?_storedBlock {data : List UInt8} (short : data.length < 256 ^ 2) :
    inflate? (storedBlock data) = some (data, []) := by
  have last : Inflate.bit.run ⟨storedBlock data, 0, #[]⟩ =
      some (1, ⟨storedBlock data, 1, #[]⟩) := by
    simp [Inflate.bit, storedBlock]
  have kind : (Inflate.bits 2).run ⟨storedBlock data, 1, #[]⟩ =
      some (0, ⟨storedBlock data, 3, #[]⟩) := by
    simp [Inflate.bits, Inflate.bit, storedBlock]
  simp [inflate?, Inflate.blocks, last, kind, run_stored short, Inflate.align]

/-- The change by a byte can be computed without the changes by all bytes. -/
theorem addByte_eq (r : UInt32) (b : UInt8) :
    addByte r b = (r >>> 8) ^^^ byteRemainder ((r ^^^ b.toUInt32) &&& 0xFF) := by
  have small : ((r ^^^ b.toUInt32) &&& 0xFF).toNat < remainders.size := by
    rw [UInt32.toNat_and, remainders, Array.size_map, Array.size_range]
    exact Nat.lt_succ_of_le Nat.and_le_right
  rw [addByte, Array.getD_eq_getD_getElem?, Array.getElem?_eq_getElem small, Option.getD_some]
  simp [remainders]

theorem checksum_single (b : UInt8) : checksum [b] = addByte 0xFFFFFFFF b ^^^ 0xFFFFFFFF := rfl

theorem isMember_storedMember {data : List UInt8} (short : data.length < 256 ^ 2) :
    IsMember (storedMember data) data :=
  ⟨Header.bare, storedBlock data, inflate?_storedBlock short, rfl⟩

end PageExtract.Gzip

namespace PageExtract.PageSource
open Gzip

/-- The members of a compressed file, one for each of the texts. -/
def IsSeries (texts : List String) (members : List (List UInt8)) : Prop :=
  List.Forall₂ (fun text bytes => IsMember bytes text.toUTF8.data.toList) texts members

theorem load_member {text : String} {member : List UInt8}
    (h : IsMember member text.toUTF8.data.toList) (more : List UInt8) (source : PageSource) :
    source.load (some ⟨(member ++ more).toArray⟩) = .ok text := by
  have compressed := h.isGzip more
  have whole : PageSource.decompress? ⟨(member ++ more).toArray⟩ = some text := by
    rw [PageSource.decompress?, h.decompress?, Option.bind_some, Array.toArray_toList]
    exact fromUTF8?_toUTF8 text
  cases source with
  | file path => simp only [load, fileText, compressed, Bool.or_true, if_true, whole]
  | input => simp only [load, inputText, compressed, if_true, whole]

/-- Of a series of members the first one is the page, at every source. So the page is whole exactly
if the other members are empty. -/
theorem series_loaded_iff {text : String} {texts : List String} {members : List (List UInt8)}
    (series : IsSeries (text :: texts) members) (source : PageSource) :
    source.load (some ⟨members.flatten.toArray⟩) = .ok text ∧
      (source.load (some ⟨members.flatten.toArray⟩) = .ok (String.join (text :: texts)) ↔
        ∀ other ∈ texts, other = "") := by
  obtain ⟨member, others, first, -, rfl⟩ := List.forall₂_cons_left_iff.1 series
  rw [List.flatten_cons, load_member first others.flatten source, String.join_cons]
  refine ⟨rfl, ?_⟩
  rw [Except.ok.injEq, ← String.toList_inj, String.toList_append, List.self_eq_append_right,
    String.toList_join, List.flatMap_eq_nil_iff]
  simp only [String.toList_eq_nil_iff]

theorem empty_member_behind :
    IsSeries ["<p>", ""] [storedMember "<p>".toUTF8.data.toList, storedMember []] ∧
      input.load (some ⟨[storedMember "<p>".toUTF8.data.toList, storedMember []].flatten.toArray⟩) =
        .ok (String.join ["<p>", ""]) := by
  have series : IsSeries ["<p>", ""] [storedMember "<p>".toUTF8.data.toList, storedMember []] :=
    .cons (isMember_storedMember (by decide)) (.cons (isMember_storedMember (by decide)) .nil)
  exact ⟨series, (series_loaded_iff series input).2.2 (by simp)⟩

def twoMembers : List UInt8 :=
  [0x1F, 0x8B, 8, 0, 0, 0, 0, 0, 0, 0xFF, 1, 1, 0, 0xFE, 0xFF, 0x61,
    0x43, 0xBE, 0xB7, 0xE8, 1, 0, 0, 0,
    0x1F, 0x8B, 8, 0, 0, 0, 0, 0, 0, 0xFF, 1, 1, 0, 0xFE, 0xFF, 0x62,
    0xF9, 0xEF, 0xBE, 0x71, 1, 0, 0, 0]

/-- The second of two members with text in them is lost, in a file and at the standard input. -/
theorem second_member_lost :
    IsSeries ["a", "b"] [twoMembers.take 24, twoMembers.drop 24] ∧
      [twoMembers.take 24, twoMembers.drop 24].flatten = twoMembers ∧
      (file "page.html.gz").load (some ⟨twoMembers.toArray⟩) = .ok "a" ∧
      input.load (some ⟨twoMembers.toArray⟩) = .ok "a" ∧ "a" ≠ String.join ["a", "b"] := by
  have first : IsMember (twoMembers.take 24) "a".toUTF8.data.toList := by
    have front : twoMembers.take 24 = storedMember [0x61] := by
      rw [storedMember, checksum_single, addByte_eq]
      decide +kernel
    exact front ▸ isMember_storedMember (by decide)
  have second : IsMember (twoMembers.drop 24) "b".toUTF8.data.toList := by
    have behind : twoMembers.drop 24 = storedMember [0x62] := by
      rw [storedMember, checksum_single, addByte_eq]
      decide +kernel
    exact behind ▸ isMember_storedMember (by decide)
  have loaded (source : PageSource) : source.load (some ⟨twoMembers.toArray⟩) = .ok "a" := by
    rw [← List.take_append_drop 24 twoMembers]
    exact load_member first _ source
  exact ⟨.cons first (.cons second .nil), by decide, loaded _, loaded _, by decide⟩

end PageExtract.PageSource
