/-
**Base 64 there and back.**

* `decodeFrom_letter`: one letter of the alphabet adds its six bits to the group that is open;
* `decode_encode`: what was written is read back, whatever its length;
* `isAscii_encode`: only ASCII is written.
-/
import WatchedNode.Codec.Base64
import Mathlib.Tactic.Common

namespace WatchedNode.Codec.Base64

/-! ## Letters -/

theorem letter_ne_pad {value : Nat} (small : value < 64) : letter value ≠ '=' := by
  intro isPad
  have read := value?_letter small
  rw [isPad] at read
  cases read

/-- A letter of the alphabet adds its value, and the fourth one completes the group. -/
theorem decodeFrom_letter {value : Nat} (small : value < 64) (held : List Nat) (pads : Nat)
    (rest : List Char) :
    decodeFrom held pads (letter value :: rest) =
      if held.length = 3 then (decodeFrom [] 0 rest).map (bytes (held ++ [value]) ++ ·)
      else decodeFrom (held ++ [value]) 0 rest := by
  rw [decodeFrom, if_neg (letter_ne_pad small)]
  simp only [value?_letter small]

/-- A complete group. -/
theorem decodeFrom_group {first second third fourth : Nat} (small₁ : first < 64)
    (small₂ : second < 64) (small₃ : third < 64) (small₄ : fourth < 64) (rest : List Char) :
    decodeFrom [] 0 (letter first :: letter second :: letter third :: letter fourth :: rest) =
      (decodeFrom [] 0 rest).map (bytes [first, second, third, fourth] ++ ·) := by
  simp [decodeFrom_letter, small₁, small₂, small₃, small₄]

/-- A group that is padded to four. -/
theorem decodeFrom_padded {first second : Nat} (small₁ : first < 64) (small₂ : second < 64) :
    decodeFrom [] 0 [letter first, letter second, '=', '='] = some (bytes [first, second]) := by
  rw [decodeFrom_letter small₁, if_neg (by simp), decodeFrom_letter small₂, if_neg (by simp)]
  rfl

theorem decodeFrom_padded_once {first second third : Nat} (small₁ : first < 64)
    (small₂ : second < 64) (small₃ : third < 64) :
    decodeFrom [] 0 [letter first, letter second, letter third, '='] =
      some (bytes [first, second, third]) := by
  rw [decodeFrom_letter small₁, if_neg (by simp), decodeFrom_letter small₂, if_neg (by simp),
    decodeFrom_letter small₃, if_neg (by simp)]
  rfl

/-! ## Bytes -/

section Groups

variable (first second third : UInt8)

/-- A byte is the number that its parts make up. -/
theorem ofNat_eq {byte : UInt8} {number : Nat} (same : number = byte.toNat) :
    UInt8.ofNat number = byte := by
  rw [same, UInt8.ofNat_toNat]

theorem bytes_one : bytes [first.toNat / 4, first.toNat % 4 * 16] = [first] := by
  have whole : UInt8.ofNat (first.toNat / 4 * 4 + first.toNat % 4 * 16 / 16) = first :=
    ofNat_eq (by omega)
  rw [bytes, whole]

theorem bytes_two :
    bytes [first.toNat / 4, first.toNat % 4 * 16 + second.toNat / 16, second.toNat % 16 * 4] =
      [first, second] := by
  have bound := second.toNat_lt
  have whole₁ :
      UInt8.ofNat (first.toNat / 4 * 4 + (first.toNat % 4 * 16 + second.toNat / 16) / 16) = first :=
    ofNat_eq (by omega)
  have whole₂ :
      UInt8.ofNat
        ((first.toNat % 4 * 16 + second.toNat / 16) % 16 * 16 + second.toNat % 16 * 4 / 4) =
      second := ofNat_eq (by omega)
  rw [bytes, whole₁, whole₂]

theorem bytes_three :
    bytes [first.toNat / 4, first.toNat % 4 * 16 + second.toNat / 16,
      second.toNat % 16 * 4 + third.toNat / 64,
      third.toNat % 64] = [first, second, third] := by
  have bound₂ := second.toNat_lt
  have bound₃ := third.toNat_lt
  have whole₁ :
      UInt8.ofNat (first.toNat / 4 * 4 + (first.toNat % 4 * 16 + second.toNat / 16) / 16) = first :=
    ofNat_eq (by omega)
  have whole₂ : UInt8.ofNat ((first.toNat % 4 * 16 + second.toNat / 16) % 16 * 16
      + (second.toNat % 16 * 4 + third.toNat / 64) / 4) = second := ofNat_eq (by omega)
  have whole₃ :
      UInt8.ofNat ((second.toNat % 16 * 4 + third.toNat / 64) % 4 * 64 + third.toNat % 64) =
        third :=
    ofNat_eq (by omega)
  rw [bytes, whole₁, whole₂, whole₃]

end Groups

/-- **What was written is read back.** -/
theorem decode_encode (content : List UInt8) : decode (encode content) = some content := by
  unfold decode
  induction content using encode.induct with
  | case1 => rfl
  | case2 first =>
    have bound := first.toNat_lt
    rw [encode, decodeFrom_padded (by omega) (by omega), bytes_one]
  | case3 first second =>
    have bound₁ := first.toNat_lt
    have bound₂ := second.toNat_lt
    rw [encode, decodeFrom_padded_once (by omega) (by omega) (by omega), bytes_two]
  | case4 first second third rest more =>
    have bound₁ := first.toNat_lt
    have bound₂ := second.toNat_lt
    have bound₃ := third.toNat_lt
    rw [encode, decodeFrom_group (by omega) (by omega) (by omega) (by omega), more, bytes_three]
    rfl

/-! ## Letters that are written -/

theorem letter_isAscii {value : Nat} (small : value < 64) : (letter value).toNat < 128 := by
  have every : ∀ value : Fin 64, (letter value).toNat < 128 := by decide
  exact every ⟨value, small⟩

/-- **Only ASCII is written.** -/
theorem isAscii_encode (content : List UInt8) : ∀ letter ∈ encode content, letter.toNat < 128 := by
  induction content using encode.induct with
  | case1 => simp [encode]
  | case2 first =>
    have bound := first.toNat_lt
    simp only [encode, List.forall_mem_cons]
    refine ⟨letter_isAscii (by omega), letter_isAscii (by omega), by decide, by decide, by simp⟩
  | case3 first second =>
    have bound₁ := first.toNat_lt
    have bound₂ := second.toNat_lt
    simp only [encode, List.forall_mem_cons]
    refine ⟨letter_isAscii (by omega), letter_isAscii (by omega), letter_isAscii (by omega), by
      decide, by simp⟩
  | case4 first second third rest more =>
    have bound₁ := first.toNat_lt
    have bound₂ := second.toNat_lt
    have bound₃ := third.toNat_lt
    simp only [encode, List.forall_mem_cons]
    exact ⟨letter_isAscii (by omega), letter_isAscii (by omega), letter_isAscii (by omega),
      letter_isAscii (by omega), more⟩

end WatchedNode.Codec.Base64
