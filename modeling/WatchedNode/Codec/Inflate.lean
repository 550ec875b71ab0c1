/-
**Inflating compressed blocks.**

A compressed stream is a list of bits, the lowest bit of each byte first. It consists of blocks:
stored bytes, or symbols of two prefix codes that stand for bytes and for copies of earlier output.
The codes are fixed, or written at the front of the block.

* `inflate` gives the bytes of the first stream in a list of bytes, and the bytes after it;
* a stream that breaks off (`.truncated`) is told apart from one that is wrong (`.corrupt`): a fault
  counts once all bits that show it are there.
-/
import WatchedNode.Codec.CodeTree

namespace WatchedNode.Codec.Inflate

/-- Why a stream cannot be inflated. -/
inductive Fault
  | truncated
  | corrupt
  deriving Repr, DecidableEq

/-! ## Bits -/

/-- The bits of a byte, the lowest first. -/
def byteBits (byte : UInt8) : List Bool :=
  (List.range 8).map fun place => byte.toNat.testBit place

/-- The bits of a list of bytes. -/
def bitsOf (bytes : List UInt8) : List Bool := bytes.flatMap byteBits

/-- The number in the first bits, the lowest first, and the bits after it. -/
def number : Nat → List Bool → Except Fault (Nat × List Bool)
  | 0, bits => .ok (0, bits)
  | _ + 1, [] => .error .truncated
  | count + 1, bit :: rest => do
    let (high, rest) ← number count rest
    return (2 * high + bit.toNat, rest)

/-- One symbol of a code. -/
def symbol (code : CodeTree) (bits : List Bool) : Except Fault (Nat × List Bool) :=
  match code.decode bits with
  | .symbol value rest => .ok (value, rest)
  | .noSuchWord => .error .corrupt
  | .endOfBits => .error .truncated

/-- The bits from the next byte on; a stream's bits end with a byte. -/
def align (bits : List Bool) : List Bool := bits.drop (bits.length % 8)

/-! ## Copies -/

/-- The least length for a length symbol, counted from 257, and its number of further bits. -/
def lengthTable : List (Nat × Nat) :=
  [(3, 0), (4, 0), (5, 0), (6, 0), (7, 0), (8, 0), (9, 0), (10, 0), (11, 1), (13, 1), (15, 1),
    (17, 1), (19, 2), (23, 2), (27, 2), (31, 2), (35, 3), (43, 3), (51, 3), (59, 3), (67, 4),
    (83, 4), (99, 4), (115, 4), (131, 5), (163, 5), (195, 5), (227, 5), (258, 0)]

/-- The least distance for a distance symbol, and its number of further bits. -/
def distanceTable : List (Nat × Nat) :=
  [(1, 0), (2, 0), (3, 0), (4, 0), (5, 1), (7, 1), (9, 2), (13, 2), (17, 3), (25, 3), (33, 4),
    (49, 4), (65, 5), (97, 5), (129, 6), (193, 6), (257, 7), (385, 7), (513, 8), (769, 8),
    (1025, 9), (1537, 9), (2049, 10), (3073, 10), (4097, 11), (6145, 11), (8193, 12),
    (12289, 12), (16385, 13), (24577, 13)]

/-- The number that a table entry and the bits after its symbol give. -/
def extended (table : List (Nat × Nat)) (entry : Nat) (bits : List Bool) :
    Except Fault (Nat × List Bool) :=
  match table[entry]? with
  | none => .error .corrupt
  | some (least, further) => do
    let (more, rest) ← number further bits
    return (least + more, rest)

/-- Repeats bytes from `distance` back, one after the other; output is held with the last byte
first. -/
def copy (distance : Nat) : Nat → List UInt8 → Except Fault (List UInt8)
  | 0, output => .ok output
  | length + 1, output =>
    match output[distance - 1]? with
    | none => .error .corrupt
    | some byte => copy distance length (byte :: output)

/-! ## Blocks -/

/-- The symbol that ends a block. -/
def endSymbol : Nat := 256

/-- The two codes of a block. -/
structure Codes where
  lengths : CodeTree
  distances : CodeTree

/-- The symbols of a block up to its end; the fuel bounds their number. -/
def symbols (codes : Codes) : Nat → List Bool → List UInt8 →
    Except Fault (List Bool × List UInt8)
  | 0, _, _ => .error .truncated
  | fuel + 1, bits, output => do
    let (value, bits) ← symbol codes.lengths bits
    if value < endSymbol then symbols codes fuel bits (UInt8.ofNat value :: output)
    else if value = endSymbol then return (bits, output)
    else
      let (length, bits) ← extended lengthTable (value - 257) bits
      let (entry, bits) ← symbol codes.distances bits
      let (distance, bits) ← extended distanceTable entry bits
      let output ← copy distance length output
      symbols codes fuel bits output

/-- The codes of a block that brings none of its own. -/
def fixedCodes : Codes where
  lengths := .ofLengths (List.replicate 144 8 ++ List.replicate 112 9 ++ List.replicate 24 7
    ++ List.replicate 8 8)
  distances := .ofLengths (List.replicate 32 5)

/-- A number of stored bytes. -/
def storedBytes : Nat → List Bool → List UInt8 → Except Fault (List Bool × List UInt8)
  | 0, bits, output => .ok (bits, output)
  | count + 1, bits, output => do
    let (byte, bits) ← number 8 bits
    storedBytes count bits (UInt8.ofNat byte :: output)

/-- A stored block: its size, the size with all bits turned over, and the bytes. -/
def stored (bits : List Bool) (output : List UInt8) : Except Fault (List Bool × List UInt8) := do
  let (sizes, bits) ← number 32 (align bits)
  let size := sizes % 0x10000
  if size + sizes / 0x10000 = 0xffff then storedBytes size bits output else throw .corrupt

/-! ## Codes written in a block -/

/-- The order in which the lengths of the code for code lengths are written. -/
def orderOfLengths : List Nat :=
  [16, 17, 18, 0, 8, 7, 9, 6, 10, 5, 11, 4, 12, 3, 13, 2, 14, 1, 15]

/-- As many numbers of three bits. -/
def triples : Nat → List Bool → Except Fault (List Nat × List Bool)
  | 0, bits => .ok ([], bits)
  | count + 1, bits => do
    let (first, bits) ← number 3 bits
    let (rest, bits) ← triples count bits
    return (first :: rest, bits)

/-- The lengths by symbol, from the lengths in the order in which they are written. -/
def arrange (written : List Nat) : List Nat :=
  (List.range orderOfLengths.length).map fun place =>
    ((orderOfLengths.zip written).find? (·.1 = place)).elim 0 (·.2)

/-- The code for code lengths; without any word, each bit stands for the length 0. -/
def lengthCode (lengths : List Nat) : Except Fault CodeTree :=
  if isEmptyCode lengths then .ok (.fork (.leaf 0) (.leaf 0))
  else if isComplete lengths then .ok (.ofLengths lengths)
  else .error .corrupt

/-- Code lengths up to `total` of them; `known` holds those read, the last one first. -/
def codeLengths (code : CodeTree) (total : Nat) : Nat → List Nat → List Bool →
    Except Fault (List Nat × List Bool)
  | 0, _, _ => .error .truncated
  | fuel + 1, known, bits => do
    if total ≤ known.length then return (known.reverse, bits)
    let (value, bits) ← symbol code bits
    if value < 16 then codeLengths code total fuel (value :: known) bits
    else
      let (repeated, bits) ← (
        if value = 16 then do
          let (more, bits) ← number 2 bits
          match known with
          | [] => throw .corrupt
          | last :: _ => return (List.replicate (3 + more) last, bits)
        else if value = 17 then do
          let (more, bits) ← number 3 bits
          return (List.replicate (3 + more) 0, bits)
        else do
          let (more, bits) ← number 7 bits
          return (List.replicate (11 + more) 0, bits) : Except Fault (List Nat × List Bool))
      if total < known.length + repeated.length then throw .corrupt
      codeLengths code total fuel (repeated ++ known) bits

/-- The codes at the front of a block. -/
def writtenCodes (bits : List Bool) : Except Fault (Codes × List Bool) := do
  let (counts, bits) ← number 14 bits
  let symbolCount := counts % 32 + 257
  let distanceCount := counts / 32 % 32 + 1
  let lengthCount := counts / 1024 + 4
  if 286 < symbolCount ∨ 30 < distanceCount then throw .corrupt
  let (written, bits) ← triples lengthCount bits
  let code ← lengthCode (arrange written)
  let total := symbolCount + distanceCount
  let (lengths, bits) ← codeLengths code total (total + 1) [] bits
  let symbolLengths := lengths.take symbolCount
  let distanceLengths := lengths.drop symbolCount
  if symbolLengths[endSymbol]? = some 0 then throw .corrupt
  if !isUsable symbolLengths || !isUsable distanceLengths then throw .corrupt
  return (⟨.ofLengths symbolLengths, .ofLengths distanceLengths⟩, bits)

/-! ## Streams -/

/-- The blocks of a stream up to the last one; the fuel bounds their number. -/
def blocks : Nat → List Bool → List UInt8 → Except Fault (List Bool × List UInt8)
  | 0, _, _ => .error .truncated
  | fuel + 1, bits, output => do
    let (head, bits) ← number 3 bits
    let (bits, output) ← (match head / 2 with
      | 0 => stored bits output
      | 1 => symbols fixedCodes (bits.length + 1) bits output
      | 2 => do
        let (codes, bits) ← writtenCodes bits
        symbols codes (bits.length + 1) bits output
      | _ => throw .corrupt : Except Fault (List Bool × List UInt8))
    if head % 2 = 1 then return (bits, output) else blocks fuel bits output

/-- The bytes of the stream at the front, and the bytes after it. -/
def inflate (bytes : List UInt8) : Except Fault (List UInt8 × List UInt8) := do
  let bits := bitsOf bytes
  let (rest, output) ← blocks (bits.length + 1) bits []
  return (output.reverse, bytes.drop (bytes.length - rest.length / 8))

end WatchedNode.Codec.Inflate
