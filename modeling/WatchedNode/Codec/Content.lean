/-
**Contents as a store keeps them.**

A store keeps text. A content is kept as its UTF-8 text, or, if it is to be compressed, as a
compressed file in base 64.

* `encode` gives the text to be stored; bytes that are no UTF-8 can only be stored compressed;
* `decode` gives the content back; a node without a value, such as a directory, has an empty
  content.
-/
import WatchedNode.Codec.Base64
import WatchedNode.Codec.Archive
import WatchedNode.Error

namespace WatchedNode

/-- Bytes as the text they write in UTF-8. -/
def utf8Text? (bytes : List UInt8) : Option String :=
  String.fromUTF8? ⟨bytes.toArray⟩

/-- The bytes of a text in UTF-8. -/
def utf8Bytes (text : String) : List UInt8 := text.toUTF8.data.toList

namespace Codec.Content

/-- The error that a fault of a compressed file stands for. -/
def archiveError : Archive.Fault → Error
  | .invalid => .badArchive
  | .ended => .endOfArchive
  | .stream => .badDeflate

/-- The content of a compressed file. -/
def unpack (bytes : List UInt8) : Except Error (List UInt8) :=
  (Archive.unpack bytes).mapError archiveError

/-- The content of a compressed file in base 64. -/
def unpackText (text : String) : Except Error (List UInt8) :=
  if text.toList.all (·.toNat < 128) then
    match Base64.decode text.toList with
    | some bytes => unpack bytes
    | none => .error .badBase64
  else .error .beyondAscii

/-- The content of a stored value. -/
def decode (value : Option String) (decompress : Bool) : Except Error (List UInt8) :=
  match value with
  | none => .ok []
  | some text => if decompress then unpackText text else .ok (utf8Bytes text)

/-- The value that stores a content. -/
def encode (content : List UInt8) (compress : Bool) : Except Error String :=
  if compress then .ok (String.ofList (Base64.encode (Archive.pack content)))
  else match utf8Text? content with
    | some text => .ok text
    | none => .error .noText

/-- The content of a value that is recognised as compressed: a base 64 text that can be unpacked. -/
def packed? (text : String) : Option (List UInt8) :=
  if text.toList.take 4 = "H4sI".toList then (unpackText text).toOption else none

end Codec.Content

end WatchedNode
