/-
**Contents there and back.**

A text stores a content if it is the text that the content writes in UTF-8, or the base 64 of some
compressed file of it (`Stores`); it does not matter how that was compressed.

* `decode_of_stores`: a text that stores a content is read back as that content;
* `stores_of_encode`: what is encoded is stored, in ASCII if it is compressed;
* `encode_eq_error_iff`: only what is no UTF-8 cannot be encoded, and only uncompressed.
-/
import WatchedNode.Codec.Content
import WatchedNode.Proofs.Codec.Archive
import WatchedNode.Proofs.Codec.Base64

namespace WatchedNode

/-! ## UTF-8 -/

/-- The bytes write letters in UTF-8. -/
def IsUtf8 (bytes : List UInt8) : Prop :=
  ∃ letters : List Char, bytes = letters.flatMap String.utf8EncodeChar

theorem utf8Bytes_eq (text : String) :
    utf8Bytes text = text.toList.flatMap String.utf8EncodeChar := by
  rw [utf8Bytes, String.toUTF8, ← String.utf8Encode_toList, List.utf8Encode, List.data_toByteArray]

/-- The bytes of a text are UTF-8. -/
theorem isUtf8_utf8Bytes (text : String) : IsUtf8 (utf8Bytes text) :=
  ⟨text.toList, utf8Bytes_eq text⟩

theorem isUtf8_iff {bytes : List UInt8} : IsUtf8 bytes ↔
    (⟨bytes.toArray⟩ : ByteArray).IsValidUTF8 := by
  have whole (written : List UInt8) : written.toByteArray = ⟨written.toArray⟩ :=
    ByteArray.ext List.data_toByteArray
  constructor
  · rintro ⟨letters, rfl⟩
    exact ⟨letters, (whole _).symm⟩
  · rintro ⟨letters, same⟩
    have same : (⟨bytes.toArray⟩ : ByteArray) = ⟨(letters.flatMap String.utf8EncodeChar).toArray⟩ :=
      same.trans (whole _)
    exact ⟨letters, congrArg (·.data.toList) same⟩

/-- **A text is what its bytes write**, and nothing else is. -/
theorem utf8Text?_eq_some_iff {bytes : List UInt8} {text : String} :
    utf8Text? bytes = some text ↔ utf8Bytes text = bytes := by
  unfold utf8Text? String.fromUTF8?
  split
  · next isValid =>
    rw [Option.some_inj, ← String.toByteArray_inj]
    constructor
    · intro same
      exact congrArg (·.data.toList) same.symm
    · rintro rfl
      rfl
  · next isOther =>
    refine iff_of_false nofun ?_
    rintro rfl
    exact isOther text.isValidUTF8

theorem utf8Text?_eq_none_iff {bytes : List UInt8} : utf8Text? bytes = none ↔ ¬IsUtf8 bytes := by
  rw [isUtf8_iff, utf8Text?, String.fromUTF8?]
  split
  · next isValid => simp [isValid]
  · next isOther => simp [isOther]

namespace Codec.Content

/-! ## Texts that store a content -/

/-- A text stores a content, compressed or not. -/
inductive Stores (content : List UInt8) : Bool → String → Prop
  | plain {text : String} (isWritten : utf8Bytes text = content) : Stores content false text
  | packed {file : List UInt8} (isFile : Archive.IsFileOf content file) :
      Stores content true (String.ofList (Base64.encode file))

variable {content : List UInt8} {compress : Bool} {text : String}

/-- What is stored compressed is ASCII. -/
theorem Stores.isAscii (stores : Stores content true text) :
    ∀ letter ∈ text.toList, letter.toNat < 128 := by
  cases stores with
  | @packed file isFile =>
    rw [String.toList_ofList]
    exact Base64.isAscii_encode file

/-- **What is stored is read back.** -/
theorem decode_of_stores (stores : Stores content compress text) :
    decode (some text) compress = .ok content := by
  cases stores with
  | plain isWritten =>
    rw [← isWritten]
    rfl
  | @packed file isFile =>
    have allAscii : (String.ofList (Base64.encode file)).toList.all (·.toNat < 128) = true :=
      List.all_eq_true.mpr fun letter isThere =>
        decide_eq_true ((Stores.packed isFile).isAscii letter isThere)
    show unpackText _ = _
    rw [unpackText, if_pos allAscii, String.toList_ofList, Base64.decode_encode]
    show (Archive.unpack file).mapError archiveError = _
    rw [Archive.unpack_of_isFileOf isFile]
    rfl

/-! ## Encoding -/

/-- **What is encoded is stored.** -/
theorem stores_of_encode (isEncoded : encode content compress = .ok text) :
    Stores content compress text := by
  unfold encode at isEncoded
  split at isEncoded
  · next isPacked =>
    cases isEncoded
    rw [isPacked]
    exact .packed (Archive.pack_isFileOf content)
  · next isPlain =>
    split at isEncoded
    · next found =>
      cases isEncoded
      rw [Bool.eq_false_iff.mpr isPlain]
      exact .plain (utf8Text?_eq_some_iff.mp found)
    · cases isEncoded

/-- **What cannot be encoded**: bytes that are no UTF-8, if they are not to be compressed. -/
theorem encode_eq_error_iff (content : List UInt8) (compress : Bool) :
    encode content compress = .error .noText ↔ compress = false ∧ ¬IsUtf8 content := by
  rw [← utf8Text?_eq_none_iff]
  unfold encode
  cases compress with
  | true => simp
  | false => cases utf8Text? content <;> simp

/-- Whatever else can. -/
theorem encode_cases (content : List UInt8) (compress : Bool) :
    encode content compress = .error .noText ∨ ∃ text, encode content compress = .ok text := by
  unfold encode
  split
  · exact .inr ⟨_, rfl⟩
  · split
    · exact .inr ⟨_, rfl⟩
    · exact .inl rfl

end Codec.Content

end WatchedNode
