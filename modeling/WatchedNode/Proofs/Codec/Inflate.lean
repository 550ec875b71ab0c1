/-
**Stored blocks are inflated to what they store.**

* `number_lowBits`: a number is read off its bits, and further bits can be read after them;
* `number_bitsOf`: bytes that are read as one number, the lowest first;
* `blocks_storedBlock`: a stored block, and the blocks after it if there are any;
* `inflate_storedStream`: the stream of stored blocks gives back what it stores, and the bytes after
  it.
-/
import WatchedNode.Codec.Archive
import Mathlib.Algebra.Order.Ring.Nat
import Mathlib.Tactic.Common

namespace WatchedNode.Codec.Inflate

/-! ## Bits -/

/-- The lowest bits of a number. -/
def lowBits (count value : Nat) : List Bool := (List.range count).map (value.testBit ·)

@[simp] theorem lowBits_length (count value : Nat) : (lowBits count value).length = count := by
  simp [lowBits]

theorem lowBits_succ (count value : Nat) :
    lowBits (count + 1) value = value.testBit 0 :: lowBits count (value / 2) := by
  simp [lowBits, List.range_succ_eq_map, Nat.testBit_succ]

/-- Bits in two parts. -/
theorem lowBits_add (low high value : Nat) :
    lowBits (low + high) value = lowBits low value ++ lowBits high (value / 2 ^ low) := by
  simp [lowBits, List.range_add, Nat.testBit_div_two_pow, Nat.add_comm]

/-- Higher bits do not count. -/
theorem lowBits_mod (count value : Nat) :
    lowBits count (value % 2 ^ count) = lowBits count value := by
  refine List.map_congr_left fun place isPlace => ?_
  rw [Nat.testBit_mod_two_pow, decide_eq_true (List.mem_range.mp isPlace), Bool.true_and]

theorem toNat_testBit_zero (value : Nat) : (value.testBit 0).toNat = value % 2 := by
  rw [Nat.testBit_zero]
  rcases Nat.mod_two_eq_zero_or_one value with even | odd
  · simp [even]
  · simp [odd]

/-- **A number is read off its bits.** -/
theorem number_lowBits (count value : Nat) (rest : List Bool) :
    number count (lowBits count value ++ rest) = .ok (value % 2 ^ count, rest) := by
  induction count generalizing value with
  | zero => simp [number, lowBits, Nat.mod_one]
  | succ count step =>
    have whole : 2 * (value / 2 % 2 ^ count) + value % 2 = value % 2 ^ (count + 1) := by
      rw [Nat.pow_succ', Nat.mod_mul]
      omega
    rw [lowBits_succ, List.cons_append, number, step]
    show Except.ok (2 * (value / 2 % 2 ^ count) + (value.testBit 0).toNat, rest) = _
    rw [toNat_testBit_zero, whole]

/-! ## Bytes -/

/-- The number that bytes write, the lowest first. -/
def total : List UInt8 → Nat
  | [] => 0
  | byte :: rest => byte.toNat + 256 * total rest

theorem total_lt (bytes : List UInt8) : total bytes < 2 ^ (8 * bytes.length) := by
  induction bytes with
  | nil => decide
  | cons byte rest step =>
    have bound := byte.toNat_lt
    have power : 2 ^ (8 * (rest.length + 1)) = 256 * 2 ^ (8 * rest.length) := by
      rw [Nat.mul_succ, Nat.add_comm, Nat.pow_add]
    rw [total, List.length_cons, power]
    omega

theorem bitsOf_cons (byte : UInt8) (rest : List UInt8) :
    bitsOf (byte :: rest) = lowBits 8 byte.toNat ++ bitsOf rest := by
  simp [bitsOf, byteBits, lowBits]

theorem bitsOf_append (front back : List UInt8) :
    bitsOf (front ++ back) = bitsOf front ++ bitsOf back := by
  simp [bitsOf]

/-- The bits of bytes are those of the number that they write. -/
theorem bitsOf_eq (bytes : List UInt8) :
    bitsOf bytes = lowBits (8 * bytes.length) (total bytes) := by
  induction bytes with
  | nil => rfl
  | cons byte rest step =>
    have bound := byte.toNat_lt
    have low : (byte.toNat + 256 * total rest) % 2 ^ 8 = byte.toNat := by omega
    have high : (byte.toNat + 256 * total rest) / 2 ^ 8 = total rest := by omega
    rw [bitsOf_cons, step, List.length_cons, Nat.mul_succ, Nat.add_comm, lowBits_add, total, high,
      ← lowBits_mod 8 (byte.toNat + _), low]

@[simp] theorem bitsOf_length (bytes : List UInt8) : (bitsOf bytes).length = 8 * bytes.length := by
  rw [bitsOf_eq, lowBits_length]

/-- **A number is read off its bytes.** -/
theorem number_bitsOf (bytes : List UInt8) (rest : List Bool) :
    number (8 * bytes.length) (bitsOf bytes ++ rest) = .ok (total bytes, rest) := by
  rw [bitsOf_eq, number_lowBits, Nat.mod_eq_of_lt (total_lt bytes)]

/-- As many bytes as there are, before whatever follows. -/
theorem storedBytes_bitsOf (content : List UInt8) (rest : List Bool) (output : List UInt8) :
    storedBytes content.length (bitsOf content ++ rest) output =
      .ok (rest, content.reverse ++ output) := by
  induction content generalizing output with
  | nil => rfl
  | cons byte more step =>
    have one := number_bitsOf [byte] (bitsOf more ++ rest)
    have whole : total [byte] = byte.toNat := by simp [total]
    rw [List.length_cons, storedBytes, ← List.singleton_append, bitsOf_append, List.append_assoc]
    show (number (8 * [byte].length) _ >>= _) = _
    rw [one, whole]
    show storedBytes more.length (bitsOf more ++ rest) (UInt8.ofNat byte.toNat :: output) = _
    rw [UInt8.ofNat_toNat, step]
    simp

/-! ## Stored blocks -/

/-- The first three bits of a stored block, and the rest of its first byte. -/
def blockHead (isLast : Bool) : UInt8 := if isLast then 1 else 0

/-- The four bytes of a size, and of the size with all bits turned over. -/
def sizeBytes (size : Nat) : List UInt8 :=
  [UInt8.ofNat size, UInt8.ofNat (size / 256), UInt8.ofNat (0xffff - size),
    UInt8.ofNat ((0xffff - size) / 256)]

theorem total_sizeBytes {size : Nat} (small : size ≤ 0xffff) :
    total (sizeBytes size) = size + 0x10000 * (0xffff - size) := by
  simp [sizeBytes, total, UInt8.toNat_ofNat']
  omega

theorem storedBlock_eq (isLast : Bool) (content : List UInt8) :
    Archive.storedBlock isLast content =
      blockHead isLast :: (sizeBytes content.length ++ content) := rfl

/-- A stored block is read after its first three bits. -/
theorem stored_block {content : List UInt8} (small : content.length ≤ 0xffff) (spare : List Bool)
    (few : spare.length < 8) (rest output : List UInt8) :
    stored (spare ++ bitsOf (sizeBytes content.length ++ content ++ rest)) output =
      .ok (bitsOf rest, content.reverse ++ output) := by
  have aligned : align (spare ++ bitsOf (sizeBytes content.length ++ content ++ rest)) =
      bitsOf (sizeBytes content.length) ++ (bitsOf content ++ bitsOf rest) := by
    have places : (spare ++ bitsOf (sizeBytes content.length ++ content ++ rest)).length % 8 =
        spare.length := by
      rw [List.length_append, bitsOf_length]
      omega
    rw [align, places, List.drop_left, bitsOf_append, bitsOf_append, List.append_assoc]
  have sizes := number_bitsOf (sizeBytes content.length) (bitsOf content ++ bitsOf rest)
  rw [total_sizeBytes small] at sizes
  have low : (content.length + 0x10000 * (0xffff - content.length)) % 0x10000 = content.length := by
    omega
  have high : (content.length + 0x10000 * (0xffff - content.length)) / 0x10000 =
      0xffff - content.length := by omega
  rw [stored, aligned]
  show (number (8 * (sizeBytes content.length).length) _ >>= _) = _
  rw [sizes]
  show (if (content.length + 0x10000 * (0xffff - content.length)) % 0x10000
      + (content.length + 0x10000 * (0xffff - content.length)) / 0x10000 = 0xffff
    then storedBytes ((content.length + 0x10000 * (0xffff - content.length)) % 0x10000) _ output
    else throw .corrupt) = _
  rw [low, high, if_pos (by omega), storedBytes_bitsOf]

/-- **One stored block**: the last one ends the stream, another one is followed by more. -/
theorem blocks_storedBlock (isLast : Bool) {content : List UInt8}
    (small : content.length ≤ 0xffff) (fuel : Nat) (rest output : List UInt8) :
    blocks (fuel + 1) (bitsOf (Archive.storedBlock isLast content ++ rest)) output =
      if isLast then .ok (bitsOf rest, content.reverse ++ output)
      else blocks fuel (bitsOf rest) (content.reverse ++ output) := by
  have bits : bitsOf (Archive.storedBlock isLast content ++ rest) =
      lowBits 3 (blockHead isLast).toNat ++
        (lowBits 5 ((blockHead isLast).toNat / 2 ^ 3) ++
          bitsOf (sizeBytes content.length ++ content ++ rest)) := by
    rw [storedBlock_eq, List.cons_append, bitsOf_cons, ← List.append_assoc, ← lowBits_add]
  have body :=
    stored_block small (lowBits 5 ((blockHead isLast).toNat / 2 ^ 3)) (by simp) rest output
  rw [bits, blocks, number_lowBits]
  cases isLast
  · show (stored _ output >>= _) = _
    rw [body]
    rfl
  · show (stored _ output >>= _) = _
    rw [body]
    rfl

/-- **The stream of stored blocks**, one after the other; the fuels are enough for all of them. -/
theorem blocks_storedStream (chunks : Nat) {content : List UInt8}
    (enough : content.length ≤ chunks) (fuel : Nat) (isMore : chunks < fuel)
    (rest output : List UInt8) :
    blocks fuel (bitsOf (Archive.storedStream chunks content ++ rest)) output =
      .ok (bitsOf rest, content.reverse ++ output) := by
  induction chunks generalizing content fuel output with
  | zero =>
    obtain ⟨fuel, rfl⟩ := Nat.exists_eq_succ_of_ne_zero (Nat.ne_of_gt isMore)
    exact blocks_storedBlock true (by omega) fuel rest output
  | succ chunks step =>
    obtain ⟨fuel, rfl⟩ := Nat.exists_eq_succ_of_ne_zero (Nat.ne_of_gt (Nat.zero_lt_of_lt isMore))
    rw [Archive.storedStream]
    split
    · next small => exact blocks_storedBlock true small fuel rest output
    · next isLong =>
      have isLong : 0xffff < content.length := Nat.lt_of_not_le isLong
      have size : (content.take Archive.blockSize).length ≤ 0xffff := by
        rw [List.length_take]
        exact Nat.min_le_left _ _
      have fewer : (content.drop Archive.blockSize).length ≤ chunks := by
        rw [List.length_drop, Archive.blockSize]
        omega
      rw [List.append_assoc, blocks_storedBlock false size, if_neg Bool.false_ne_true,
        step fewer fuel (by omega), ← List.append_assoc, ← List.reverse_append,
          List.take_append_drop]

theorem storedBlock_length (isLast : Bool) (content : List UInt8) :
    (Archive.storedBlock isLast content).length = content.length + 5 := by
  simp [Archive.storedBlock]

theorem storedStream_length (chunks : Nat) (content : List UInt8) :
    content.length < (Archive.storedStream chunks content).length := by
  induction chunks generalizing content with
  | zero =>
    rw [Archive.storedStream, storedBlock_length]
    omega
  | succ chunks step =>
    rw [Archive.storedStream]
    split
    · rw [storedBlock_length]
      omega
    · have later := step (content.drop Archive.blockSize)
      rw [List.length_drop] at later
      rw [List.length_append, storedBlock_length, List.length_take]
      omega

/-- **What is stored is inflated to itself**, and the bytes after it are left. -/
theorem inflate_storedStream (content rest : List UInt8) :
    inflate (Archive.storedStream content.length content ++ rest) = .ok (content, rest) := by
  have enough := storedStream_length content.length content
  have whole := blocks_storedStream content.length (Nat.le_refl content.length)
    ((bitsOf (Archive.storedStream content.length content ++ rest)).length + 1)
    (by rw [bitsOf_length, List.length_append]; omega) rest []
  rw [inflate]
  show (blocks _ _ [] >>= _) = _
  rw [whole]
  show Except.ok ((content.reverse ++ []).reverse, _) = _
  rw [List.append_nil, List.reverse_reverse, bitsOf_length, Nat.mul_div_cancel_left _ (by decide),
    List.length_append, Nat.add_sub_cancel, List.drop_left]

end WatchedNode.Codec.Inflate
