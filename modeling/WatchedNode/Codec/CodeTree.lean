/-
**Prefix codes.**

A prefix code is given by the length of each symbol's word; equal lengths are told apart by the
order of the symbols. `CodeTree.ofLengths` builds its decision tree from the deepest level up: the
words that end at a level come before the nodes that go on below it.

* `spare`: how many words of a length are left over, negative if there are too many;
* `CodeTree.decode`: one symbol from the front of a list of bits.
-/

namespace WatchedNode.Codec

/-- The decision tree of a prefix code. -/
inductive CodeTree
  | gap
  | leaf (symbol : Nat)
  | fork (zero one : CodeTree)
  deriving Repr

/-- What reading a symbol ends in. -/
inductive Decoded
  | symbol (value : Nat) (rest : List Bool)
  | noSuchWord
  | endOfBits
  deriving Repr, DecidableEq

namespace CodeTree

/-- Reads one symbol. -/
def decode : CodeTree → List Bool → Decoded
  | .gap, _ => .noSuchWord
  | .leaf symbol, bits => .symbol symbol bits
  | .fork _ _, [] => .endOfBits
  | .fork zero one, bit :: rest => if bit then one.decode rest else zero.decode rest

/-- The greatest length of a word. -/
def maxLength : Nat := 15

/-- The symbols whose words have that length, in order. -/
def symbolsOfLength (lengths : List Nat) (length : Nat) : List Nat :=
  (List.range lengths.length).filter fun symbol => lengths[symbol]? = some length

/-- Neighbours joined two by two; a last one alone is joined with a gap. -/
def pairs : List CodeTree → List CodeTree
  | [] => []
  | [last] => [.fork last .gap]
  | zero :: one :: rest => .fork zero one :: pairs rest

/-- The nodes at a level that is `below` levels above the deepest one. -/
def levels (lengths : List Nat) : Nat → List CodeTree
  | 0 => (symbolsOfLength lengths maxLength).map .leaf
  | below + 1 =>
    (symbolsOfLength lengths (maxLength - (below + 1))).map .leaf ++ pairs (levels lengths below)

/-- The tree of a code; one without symbols has no words at all. -/
def ofLengths (lengths : List Nat) : CodeTree :=
  match pairs (levels lengths (maxLength - 1)) with
  | root :: _ => root
  | [] => .fork .gap .gap

end CodeTree

/-! ## Counting words -/

/-- The number of words of a length that are left over, when all shorter ones are given out. -/
def spare (lengths : List Nat) : Nat → Int
  | 0 => 1
  | length + 1 => 2 * spare lengths length - lengths.count (length + 1)

/-- No length has more symbols than words. -/
def fits (lengths : List Nat) : Bool :=
  (List.range (CodeTree.maxLength + 1)).all fun length => 0 ≤ spare lengths length

/-- No symbol has a word. -/
def isEmptyCode (lengths : List Nat) : Bool := lengths.all (· = 0)

/-- All words are given out. -/
def isComplete (lengths : List Nat) : Bool :=
  fits lengths && spare lengths CodeTree.maxLength = 0

/-- The code may be used for symbols: it is complete, or has no word, or only one, of one bit. -/
def isUsable (lengths : List Nat) : Bool :=
  isEmptyCode lengths || isComplete lengths
    || (fits lengths && lengths.all (· ≤ 1))

end WatchedNode.Codec
