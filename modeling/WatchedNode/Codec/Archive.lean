/-
**Compressed files.**

A file is a chain of members. A member is a header, one compressed stream, and a trailer with the
checksum and the size of its content. Zero bytes between members are skipped, and a file without any
byte is empty.

* `unpack` reads all members;
* `pack` writes one member whose stream stores the content as it is.
-/
import WatchedNode.Codec.Checksum
import WatchedNode.Codec.Inflate

namespace WatchedNode.Codec.Archive

/-- Why a file cannot be unpacked. -/
inductive Fault
  /-- Wrong magic number, method, checksum or size. -/
  | invalid
  /-- The file ends inside a member. -/
  | ended
  /-- The compressed stream of a member is wrong. -/
  | stream
  deriving Repr, DecidableEq

/-! ## Headers -/

/-- A number of bytes removed from the front. -/
def skip (count : Nat) (bytes : List UInt8) : Except Fault (List UInt8) :=
  if bytes.length < count then .error .ended else .ok (bytes.drop count)

/-- A text removed from the front, with the zero byte after it if there is one. -/
def skipText (bytes : List UInt8) : List UInt8 :=
  (bytes.dropWhile (· ≠ 0)).drop 1

/-- A flag of a header. -/
def flagged (flags : UInt8) (place : Nat) : Bool := flags.toNat.testBit place

/-- A field with its size in front of it. -/
def skipField (bytes : List UInt8) : Except Fault (List UInt8) :=
  match bytes with
  | low :: high :: rest => skip (low.toNat + 256 * high.toNat) rest
  | _ => .error .ended

/-- The optional parts of a header: an extra field, a name, a comment, and a checksum, which is not
looked at. -/
def skipOptions (flags : UInt8) (bytes : List UInt8) : Except Fault (List UInt8) := do
  let bytes ← if flagged flags 2 then skipField bytes else pure bytes
  let bytes := if flagged flags 3 then skipText bytes else bytes
  let bytes := if flagged flags 4 then skipText bytes else bytes
  if flagged flags 1 then skip 2 bytes else pure bytes

/-- What follows the header, or nothing at the end of the file. -/
def header : List UInt8 → Except Fault (Option (List UInt8))
  | [] => .ok none
  | [_] => .error .invalid
  | first :: second :: rest =>
    if first ≠ 0x1f ∨ second ≠ 0x8b then .error .invalid
    else match rest with
      | method :: flags :: _ :: _ :: _ :: _ :: _ :: _ :: rest =>
        if method ≠ 8 then .error .invalid else (skipOptions flags rest).map some
      | _ => .error .ended

/-! ## Trailers -/

/-- The number that four bytes write, the lowest first. -/
def word (bytes : List UInt8) : Nat :=
  (bytes.take 4).foldr (fun byte number => byte.toNat + 256 * number) 0

/-- A number in four bytes, the lowest first. -/
def wordBytes (number : Nat) : List UInt8 :=
  (List.range 4).map fun place => UInt8.ofNat (number / Nat.pow 256 place)

/-! ## Reading -/

/-- The content of one member and the bytes after it. -/
def member (bytes : List UInt8) : Except Fault (List UInt8 × List UInt8) :=
  match Inflate.inflate bytes with
  | .error .corrupt => .error .stream
  | .error .truncated => .error .ended
  | .ok (content, rest) =>
    if rest.length < 8 then .error .ended
    else if word rest ≠ (crc32 content).toNat then .error .invalid
    else if word (rest.drop 4) ≠ content.length % Nat.pow 2 32 then .error .invalid
    else .ok (content, rest.drop 8)

/-- The contents of all members; the fuel bounds their number. -/
def members : Nat → List UInt8 → Except Fault (List UInt8)
  | 0, _ => .error .ended
  | fuel + 1, bytes => do
    match ← header bytes with
    | none => return []
    | some stream =>
      let (content, rest) ← member stream
      return content ++ (← members fuel (rest.dropWhile (· = 0)))

/-- The content of a compressed file. -/
def unpack (bytes : List UInt8) : Except Fault (List UInt8) :=
  members (bytes.length + 1) bytes

/-! ## Writing -/

/-- The greatest size of a stored block. -/
def blockSize : Nat := 0xffff

/-- A stored block. -/
def storedBlock (isLast : Bool) (content : List UInt8) : List UInt8 :=
  let size := content.length
  [if isLast then 1 else 0, UInt8.ofNat size, UInt8.ofNat (size / 256),
    UInt8.ofNat (0xffff - size), UInt8.ofNat ((0xffff - size) / 256)] ++ content

/-- The stream that stores a content; the fuel bounds the number of blocks. -/
def storedStream : Nat → List UInt8 → List UInt8
  | 0, content => storedBlock true content
  | fuel + 1, content =>
    if content.length ≤ blockSize then storedBlock true content
    else storedBlock false (content.take blockSize) ++ storedStream fuel (content.drop blockSize)

/-- The header of a member without optional parts. -/
def plainHeader : List UInt8 := [0x1f, 0x8b, 8, 0, 0, 0, 0, 0, 0, 0xff]

/-- A file with one member that stores the content. -/
def pack (content : List UInt8) : List UInt8 :=
  plainHeader ++ storedStream content.length content ++ wordBytes (crc32 content).toNat
    ++ wordBytes content.length

end WatchedNode.Codec.Archive
