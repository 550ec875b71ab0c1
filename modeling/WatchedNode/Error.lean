/-
**Errors.**

Every way in which an operation can fail, by its cause, with

* `Error.kind`: the name of the class of errors it belongs to;
* `Error.message?`: its wording, for the classes that have one of their own.

`StoreFault` names the failures that a key/value store reports. Some of them are special cases of
others: a watch that timed out is a failed connection, and a missing key is one of the key errors.
-/
import WatchedNode.Path
import WatchedNode.Config.Value
import WatchedNode.Text.Quoted

namespace WatchedNode

/-! ## Failures reported by a store -/

/-- A failure that a key/value store reports. -/
inductive StoreFault
  | connectionFailed
  | watchTimedOut
  | eventIndexCleared
  | keyNotFound
  | alreadyExist
  | compareFailed
  | other (kind : String)
  deriving Repr, DecidableEq

namespace StoreFault

/-- The class name of a failure. -/
def kind : StoreFault → String
  | .connectionFailed => "EtcdConnectionFailed"
  | .watchTimedOut => "EtcdWatchTimedOut"
  | .eventIndexCleared => "EtcdEventIndexCleared"
  | .keyNotFound => "EtcdKeyNotFound"
  | .alreadyExist => "EtcdAlreadyExist"
  | .compareFailed => "EtcdCompareFailed"
  | .other kind => kind

/-- The failure of that class name. -/
def ofKind (kind : String) : StoreFault :=
  ([.connectionFailed, .watchTimedOut, .eventIndexCleared, .keyNotFound, .alreadyExist,
    .compareFailed].find? fun fault : StoreFault => fault.kind = kind).getD (.other kind)

/-- The store could not be reached; a watch that timed out counts too. -/
def isConnection : StoreFault → Bool
  | .connectionFailed | .watchTimedOut => true
  | _ => false

end StoreFault

/-! ## Errors -/

/-- Why an operation failed. -/
inductive Error
  /-- A value is no node path. -/
  | path (fault : PathError)
  /-- Stamps without content, or content without stamps. -/
  | halfSnapshot
  /-- A snapshot was to be changed. -/
  | frozenSnapshot
  /-- A cache was started for the second time. -/
  | startedTwice
  /-- A monitor was to be added to a closed cache. -/
  | closedCache
  /-- A cache that does not run was to be rebuilt. -/
  | notStarted
  /-- The service at that host could not be reached. -/
  | unavailable (host : String)
  /-- There is no node at that path. -/
  | noNode (path : String)
  /-- A text is no whole number. -/
  | noInteger (text : String)
  /-- A whole number has too many digits. -/
  | tooManyDigits (count : Nat)
  /-- A compressed content has characters beyond ASCII. -/
  | beyondAscii
  /-- Bytes that are no UTF-8. -/
  | noText
  /-- Bad length or padding of a text in base 64. -/
  | badBase64
  /-- Bad compressed data. -/
  | badDeflate
  /-- Bad header, checksum or length of a compressed file. -/
  | badArchive
  /-- A compressed file ends too early. -/
  | endOfArchive
  /-- There is no file of that name. -/
  | noFile
  /-- A settings text breaks the rules for characters and scalars. -/
  | badToken
  /-- A settings text breaks the rules for nesting. -/
  | badNesting
  /-- A settings text has more than one document. -/
  | manyDocuments
  /-- A setting is missing. -/
  | noSetting (name : String)
  /-- An argument breaks what the operation asks of it. -/
  | badArgument
  /-- A value of the wrong type. -/
  | wrongType (message : String)
  /-- A value has no such part. -/
  | noAttribute (owner name : String)
  /-- The store reported a failure. -/
  | store (fault : StoreFault) (message : String) (payload : Value)
  /-- A failure of another class, from outside. -/
  | foreign (kind message : String)
  deriving Repr, BEq

namespace Error

/-- The class name of an error. -/
def kind : Error → String
  | .path _ | .halfSnapshot | .noInteger _ | .tooManyDigits _ | .beyondAscii => "ValueError"
  | .frozenSnapshot | .noAttribute _ _ => "AttributeError"
  | .startedTwice | .closedCache => "IllegalLifecycle"
  | .notStarted => "NotStarted"
  | .unavailable _ => "RemoteUnavailable"
  | .noNode _ => "NoNodeError"
  | .noText => "UnicodeDecodeError"
  | .badBase64 => "binascii.Error"
  | .badDeflate => "zlib.error"
  | .badArchive => "BadGzipFile"
  | .endOfArchive => "EOFError"
  | .noFile => "FileNotFoundError"
  | .badToken => "ScannerError"
  | .badNesting => "ParserError"
  | .manyDocuments => "ComposerError"
  | .noSetting _ => "KeyError"
  | .badArgument => "AssertionError"
  | .wrongType _ => "TypeError"
  | .store fault _ _ => fault.kind
  | .foreign kind _ => kind

/-- The longest part of a refused number that is shown. -/
def shownLetters : Nat := 200

/-- The wording of an error, or nothing if its class has no fixed wording. -/
def message? : Error → Option String
  | .path fault => some fault.message
  | .halfSnapshot => some "stat and data must be set together"
  | .frozenSnapshot => some "NodeData is immutable"
  | .startedTwice => some "Cannot be started more than once"
  | .closedCache => some "Closed"
  | .notStarted => some "Not started"
  | .unavailable host => some host
  | .noNode node => some node
  | .noInteger text =>
    some ("invalid literal for int() with base 10: "
      ++ String.ofList ((Text.quoted text).toList.take shownLetters))
  | .tooManyDigits count =>
    some ("Exceeds the limit (4300 digits) for integer string conversion: value has "
      ++ toString count ++ " digits; use sys.set_int_max_str_digits() to increase the limit")
  | .beyondAscii => some "string argument should contain only ASCII characters"
  | .noText | .badBase64 | .badDeflate | .badArchive | .endOfArchive | .noFile | .badToken
  | .badNesting | .manyDocuments => none
  | .noSetting name => some name
  | .badArgument => some ""
  | .wrongType message => some message
  | .noAttribute owner name =>
    some ("\x27" ++ owner ++ "\x27 object has no attribute \x27" ++ name ++ "\x27")
  | .store _ message _ => some message
  | .foreign _ message => some message

/-- The error that a class name and a wording stand for. -/
def ofKind (kind message : String) : Error :=
  if kind = "NoNodeError" then .noNode message
  else if kind = "RemoteUnavailable" then .unavailable message
  else .foreign kind message

/-- There is no node. -/
def isNoNode : Error → Bool
  | .noNode _ => true
  | _ => false

end Error

/-- The node path that a value is. -/
def Value.asPath : Value → Except Error String
  | .text path => (Path.check path).mapError .path
  | _ => .error (.path .notText)

end WatchedNode
