/-
**Compressed files there and back.**

A file of a content is any header, any stream that is inflated to the content, and the content's
checksum and size (`IsFileOf`); how the stream was made does not matter.

* `unpack_of_isFileOf`: such a file is unpacked to its content;
* `pack_isFileOf`: what is packed is such a file.
-/
import WatchedNode.Proofs.Codec.Inflate

namespace WatchedNode.Codec.Archive

/-! ## Files of a content -/

/-- Bytes that are read as a header, whatever follows them. -/
def IsHeader (head : List UInt8) : Prop := ∀ rest, header (head ++ rest) = .ok (some rest)

/-- Bytes that are inflated to a content, whatever follows them. -/
def IsStreamOf (content stream : List UInt8) : Prop :=
  ∀ rest, Inflate.inflate (stream ++ rest) = .ok (content, rest)

/-- The checksum and the size of a content. -/
def trailer (content : List UInt8) : List UInt8 :=
  wordBytes (crc32 content).toNat ++ wordBytes content.length

/-- A file with one member, for a content. -/
inductive IsFileOf (content : List UInt8) : List UInt8 → Prop
  | member {head stream : List UInt8} (isHeader : IsHeader head)
      (isStream : IsStreamOf content stream) :
      IsFileOf content (head ++ (stream ++ trailer content))

/-! ## Reading -/

theorem wordBytes_length (number : Nat) : (wordBytes number).length = 4 := by
  simp [wordBytes]

/-- A number is read off its four bytes, but for what does not fit into them. -/
theorem word_wordBytes (number : Nat) (rest : List UInt8) :
    word (wordBytes number ++ rest) = number % Nat.pow 2 32 := by
  have four :
      wordBytes number = [UInt8.ofNat number, UInt8.ofNat (number / 256),
        UInt8.ofNat (number / 65536),
      UInt8.ofNat (number / 16777216)] := by
    simp [wordBytes, List.range_succ]
  rw [word, List.take_left' (wordBytes_length number), four]
  simp [UInt8.toNat_ofNat']
  omega

/-- A member is read, if its stream gives its content. -/
theorem member_of_isStreamOf {content stream : List UInt8} (isStream : IsStreamOf content stream) :
    member (stream ++ trailer content) = .ok (content, []) := by
  have checksum : word (trailer content) = (crc32 content).toNat := by
    rw [trailer, word_wordBytes]
    exact Nat.mod_eq_of_lt (crc32 content).toNat_lt
  have later : (trailer content).drop 4 = wordBytes content.length ++ [] := by
    rw [trailer, List.drop_left' (wordBytes_length _), List.append_nil]
  have length : (trailer content).length = 8 := by
    rw [trailer, List.length_append, wordBytes_length, wordBytes_length]
  have none : (trailer content).drop 8 = [] := List.drop_eq_nil_of_le (Nat.le_of_eq length)
  rw [member, isStream]
  simp only [length, checksum, later, word_wordBytes, none, Nat.lt_irrefl, ne_eq,
    not_true_eq_false, if_false]

/-- **A file of a content is unpacked to it.** -/
theorem unpack_of_isFileOf {content file : List UInt8} (isFile : IsFileOf content file) :
    unpack file = .ok content := by
  obtain ⟨isHeader, isStream⟩ := isFile
  next head stream =>
  obtain ⟨fuel, enough⟩ : ∃ fuel, (head ++ (stream ++ trailer content)).length = fuel + 1 := by
    refine Nat.exists_eq_succ_of_ne_zero ?_
    simp [trailer, wordBytes_length]
  rw [unpack, enough, members, isHeader]
  show (member _ >>= _) = _
  rw [member_of_isStreamOf isStream]
  show Except.ok (content ++ []) = _
  rw [List.append_nil]

/-! ## Writing -/

/-- The header that is written. -/
theorem plainHeader_isHeader : IsHeader plainHeader := fun _ => rfl

/-- **What is packed is a file of its content.** -/
theorem pack_isFileOf (content : List UInt8) : IsFileOf content (pack content) := by
  have isFile := IsFileOf.member plainHeader_isHeader (Inflate.inflate_storedStream content)
  rw [trailer, ← List.append_assoc, ← List.append_assoc] at isFile
  exact isFile

end WatchedNode.Codec.Archive
