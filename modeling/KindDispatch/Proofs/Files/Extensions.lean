import KindDispatch.Proofs.Files.Collected
import KindDispatch.Proofs.Files.Encoding
import KindDispatch.Proofs.Source.Slices

/-!
# Extensions and bytes

Extensions can be told apart by bytes: a name ends with the bytes of an extension only if it ends
with its characters, since no character begins inside another one.  So what stands in front of an
extension is there to be sliced off whenever it is looked at, and `hasExtension?` has an answer.
-/

namespace KindDispatch

/-! ## Ends of a text -/

namespace Utf8

theorem encode_append (text more : String) :
    encode (text ++ more) = encode text ++ encode more := by
  simp [encode_eq]

theorem encode_injective {text text' : String} (same : encode text = encode text') :
    text = text' := by
  have read : decode (encode text) = .ok text' := decode_eq_ok_iff.mpr same
  rw [decode_eq_ok_iff.mpr rfl] at read
  exact Except.ok.inj read

private theorem getElem?_encode {text : String} {place : String.Pos.Raw}
    (within : place < text.rawEndPos) :
    (encode text)[place.byteIdx]? = some (text.getUTF8Byte place within) := by
  have within' : place.byteIdx < text.toByteArray.data.toList.length := by
    simpa [String.Pos.Raw.lt_iff] using within
  rw [encode, List.getElem?_eq_getElem within', String.getUTF8Byte,
    ByteArray.getElem_eq_getElem_data, Array.getElem_toList]

/-- A text can be split in front of the bytes of another one that it ends with, as the first of
these begins a character. -/
private theorem isValid_of_encode_eq {text ending : String} {bytes : List UInt8}
    (split : encode text = bytes ++ encode ending) :
    String.Pos.Raw.IsValid text ⟨bytes.length⟩ := by
  have length : text.utf8ByteSize = bytes.length + ending.utf8ByteSize := by
    simpa using congrArg List.length split
  rw [String.Pos.Raw.isValid_iff_isUTF8FirstByte]
  rcases Nat.eq_zero_or_pos ending.utf8ByteSize with empty | nonempty
  · left
    rw [String.Pos.Raw.ext_iff, String.byteIdx_rawEndPos, length, empty, Nat.add_zero]
  · right
    have within : ⟨bytes.length⟩ < text.rawEndPos := by
      show bytes.length < text.utf8ByteSize
      omega
    have starts : 0 < ending.rawEndPos := by
      rwa [String.Pos.Raw.lt_iff, String.byteIdx_rawEndPos]
    -- the byte at the place is the first one of the ending
    have byte := getElem?_encode within
    rw [split, List.getElem?_append_right (Nat.le_refl _), Nat.sub_self] at byte
    have same := (getElem?_encode starts).symm.trans byte
    exact ⟨within, Option.some.inj same ▸ String.isUTF8FirstByte_getUTF8Byte_zero⟩

theorem encode_suffix_iff {text ending : String} :
    encode ending <:+ encode text ↔ ∃ front, text = front ++ ending := by
  constructor
  · rintro ⟨bytes, split⟩
    obtain ⟨front, rest, rfl, place⟩ :=
      String.Pos.Raw.isValid_iff_exists_append.mp (isValid_of_encode_eq split.symm)
    have sameLength : bytes.length = (encode front).length := by
      simpa [String.Pos.Raw.ext_iff] using place
    rw [encode_append] at split
    obtain ⟨-, sameRest⟩ := List.append_inj split sameLength
    exact ⟨front, by rw [encode_injective sameRest]⟩
  · rintro ⟨front, rfl⟩
    exact ⟨encode front, (encode_append front ending).symm⟩

end Utf8

namespace Path

open Utf8 Source

/-! ## Extensions by bytes -/

/-- What stands in front of the last bytes of a text; none if the text is shorter or a character
stands across the place. -/
def beforeLast? (text : String) (bytes : Nat) : Option (List Char) :=
  if bytes ≤ text.utf8ByteSize then slice? text.toList ⟨0, text.utf8ByteSize - bytes⟩ else none

/-- Whether a name has an extension, found by its bytes; there is no answer if the slice in front of
the extension is looked at and is not there. -/
def nameHasExtension? (name ext : String) : Option Bool :=
  if ext.utf8ByteSize + 1 < name.utf8ByteSize ∧ encode ext <:+ encode name then
    (beforeLast? name ext.utf8ByteSize).map (·.getLast? = some '.')
  else some false

def hasExtension? (path : String) (extensions : List String) : Option Bool :=
  match fileName? path with
  | none => some false
  | some name => extensions.anyM (nameHasExtension? name)

private theorem beforeLast?_append (front ending : String) :
    beforeLast? (front ++ ending) ending.utf8ByteSize = some front.toList := by
  have slice := slice?_append [] front.toList ending.toList
  simp only [List.nil_append, byteLength_nil, byteLength_toList] at slice
  rw [beforeLast?, String.utf8ByteSize_append, if_pos (Nat.le_add_left ..), Nat.add_sub_cancel,
    String.toList_append, slice]

/-- What would cut a character is not sliced off. -/
example : beforeLast? "a.é" 1 = none := by decide +kernel

private theorem utf8ByteSize_dotted (stem : String) :
    (stem ++ ".").utf8ByteSize = stem.utf8ByteSize + 1 :=
  String.utf8ByteSize_append

private theorem getLast?_eq_dot_iff {front : String} :
    front.toList.getLast? = some '.' ↔ ∃ stem, front = stem ++ "." := by
  rw [List.getLast?_eq_some_iff]
  constructor
  · rintro ⟨stem, split⟩
    exact ⟨String.ofList stem, String.toList_inj.mp (by simpa using split)⟩
  · rintro ⟨stem, rfl⟩
    exact ⟨stem.toList, String.toList_append⟩

/-- The bytes that are asked for in front of the extension leave some for the stem: its dot is only
one of them. -/
theorem nameHasExtension?_eq (name ext : String) :
    nameHasExtension? name ext = some (nameHasExtension name.toList ext.toList) := by
  rw [nameHasExtension?]
  split
  case isTrue looked =>
    obtain ⟨long, ending⟩ := looked
    obtain ⟨front, rfl⟩ := encode_suffix_iff.mp ending
    rw [beforeLast?_append, Option.map_some, Option.some_inj, Bool.eq_iff_iff, decide_eq_true_iff,
      getLast?_eq_dot_iff, nameHasExtension_toList_iff]
    constructor
    · rintro ⟨stem, rfl⟩
      refine ⟨stem, ?_, rfl⟩
      rintro rfl
      rw [String.utf8ByteSize_append, utf8ByteSize_dotted, String.utf8ByteSize_empty] at long
      omega
    · rintro ⟨stem, -, same⟩
      exact ⟨stem, (String.append_left_inj ext).mp same⟩
  case isFalse unlike =>
    rw [eq_comm, Option.some_inj, Bool.eq_false_iff, Ne, nameHasExtension_toList_iff]
    rintro ⟨stem, nonempty, rfl⟩
    refine unlike ⟨?_, encode_suffix_iff.mpr ⟨stem ++ ".", rfl⟩⟩
    have positive : stem.utf8ByteSize ≠ 0 := by simpa using nonempty
    rw [String.utf8ByteSize_append, utf8ByteSize_dotted]
    omega

private theorem anyM_some {α : Type} (test : α → Bool) (items : List α) :
    items.anyM (fun item => some (test item)) = some (items.any test) := by
  induction items with
  | nil => rfl
  | cons item items ih => cases fits : test item <;> simp [List.anyM, fits, ih]

theorem hasExtension?_eq (path : String) (extensions : List String) :
    hasExtension? path extensions = some (hasExtension path extensions) := by
  rw [hasExtension?, hasExtension]
  cases fileName? path with
  | none => rfl
  | some name =>
      refine Eq.trans ?_ (anyM_some _ extensions)
      exact congrArg extensions.anyM (funext (nameHasExtension?_eq name))

/-- A path has an extension if its file name is something that is not empty, a dot and the
extension.  Wherever something is to be sliced off a name, the name splits there. -/
theorem hasExtension_is_suffix (path : String) (extensions : List String) :
    hasExtension? path extensions = some (hasExtension path extensions) ∧
    (∀ name, fileName? path = some name →
      (hasExtension path extensions ↔
        ∃ ext ∈ extensions, ∃ stem, stem ≠ "" ∧ name = stem ++ "." ++ ext)) ∧
    (fileName? path = none → hasExtension path extensions = false) ∧
    ∀ name ext : String, ext.utf8ByteSize + 1 < name.utf8ByteSize → encode ext <:+ encode name →
      ext.utf8ByteSize ≤ name.utf8ByteSize ∧ ∃ front, name = front ++ ext ∧
        front.utf8ByteSize = name.utf8ByteSize - ext.utf8ByteSize ∧
        slice? name.toList ⟨0, name.utf8ByteSize - ext.utf8ByteSize⟩ = some front.toList := by
  refine ⟨hasExtension?_eq path extensions, fun name named => ?_, fun unnamed => ?_,
    fun name ext long ending => ?_⟩
  · rw [hasExtension, named]
    simp only [List.any_eq_true, nameHasExtension_toList_iff]
  · rw [hasExtension, unnamed]
  · obtain ⟨front, rfl⟩ := encode_suffix_iff.mp ending
    refine ⟨by omega, front, rfl, ?_, ?_⟩
    · rw [String.utf8ByteSize_append, Nat.add_sub_cancel]
    · have slice := beforeLast?_append front ext
      rwa [beforeLast?, if_pos (by omega)] at slice

theorem hasExtension_of_accented_name :
    fileName? "gen/tàblé.é.in" = some "tàblé.é.in" ∧
      hasExtension? "gen/tàblé.é.in" ["", "blé.é.in", "é.in"] =
        some (hasExtension "gen/tàblé.é.in" ["", "blé.é.in", "é.in"]) ∧
      hasExtension "gen/tàblé.é.in" ["", "blé.é.in", "é.in"] ∧
      fileName? "gen/.." = none ∧ hasExtension "gen/.." ["", "."] = false ∧
      "é.in".utf8ByteSize + 1 < "tàblé.é.in".utf8ByteSize ∧ encode "é.in" <:+ encode "tàblé.é.in" ∧
      ∃ front, "tàblé.é.in" = front ++ "é.in" ∧ front.utf8ByteSize = 8 ∧
        slice? "tàblé.é.in".toList ⟨0, 8⟩ = some front.toList := by
  have named : fileName? "gen/tàblé.é.in" = some "tàblé.é.in" := by decide +kernel
  have unnamed : fileName? "gen/.." = none := by decide +kernel
  have long : "é.in".utf8ByteSize + 1 < "tàblé.é.in".utf8ByteSize := by decide +kernel
  have ending : encode "é.in" <:+ encode "tàblé.é.in" := by decide +kernel
  obtain ⟨answer, matches_iff, -, slices⟩ :=
    hasExtension_is_suffix "gen/tàblé.é.in" ["", "blé.é.in", "é.in"]
  obtain ⟨-, -, unmatched, -⟩ := hasExtension_is_suffix "gen/.." ["", "."]
  obtain ⟨-, sliced⟩ := slices "tàblé.é.in" "é.in" long ending
  refine ⟨named, answer, ?_, unnamed, unmatched unnamed, long, ending, sliced⟩
  exact (matches_iff _ named).mpr ⟨"é.in", by simp, "tàblé", by decide, by decide⟩

end Path

end KindDispatch
