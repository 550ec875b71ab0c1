/-
**The checksum of a compressed file.**

`crc32` is the cyclic redundancy check with the reflected polynomial `0xedb88320`, started and
finished with all bits set.
-/

namespace WatchedNode.Codec

/-- One bit of the division. -/
def crcBit (state : UInt32) : UInt32 :=
  if state &&& 1 = 1 then (state >>> 1) ^^^ 0xedb88320 else state >>> 1

/-- One byte of the division. -/
def crcByte (state : UInt32) (byte : UInt8) : UInt32 :=
  crcBit (crcBit (crcBit (crcBit (crcBit (crcBit (crcBit (crcBit (state ^^^ byte.toUInt32))))))))

/-- The checksum of a list of bytes. -/
def crc32 (bytes : List UInt8) : UInt32 :=
  bytes.foldl crcByte 0xffffffff ^^^ 0xffffffff

example : crc32 [0x31, 0x32, 0x33, 0x34, 0x35, 0x36, 0x37, 0x38, 0x39] = 0xcbf43926 := by
  decide +kernel

end WatchedNode.Codec
