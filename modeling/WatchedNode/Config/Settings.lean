/-
**Settings.**

Where settings come from, and what a session or a cache takes from them.

* `Source.load`: settings that are given as a map are used as they are; otherwise they are read from
  a file, which is the default file if none is named;
* `cacheOptions`: the options of a cache, where arguments win over settings;
* `SessionOptions.ofArguments`: the options of a session; what it does not know itself is for the
  store.
-/
import WatchedNode.Config.Document

namespace WatchedNode

/-! ## Sources -/

/-- A settings file: its text, or nothing if there is no such file. -/
abbrev SettingsFile := Option String

/-- Where settings come from. -/
inductive Source
  | given (fields : Table Value)
  | file (file : SettingsFile)
  | default
  deriving Repr

/-- The letters of a file, whose lines may end in any of three ways, with the lines ending in one
way. -/
def evenLines : List Char → List Char
  | '\r' :: '\n' :: rest => '\n' :: evenLines rest
  | '\r' :: rest => '\n' :: evenLines rest
  | letter :: rest => letter :: evenLines rest
  | [] => []

/-- The settings in a file. -/
def SettingsFile.read : SettingsFile → Except Error Value
  | none => .error .noFile
  | some text => Config.Document.read (String.ofList (evenLines text.toList))

/-- The settings of a source, with the default file at hand. -/
def Source.load (defaultFile : SettingsFile) : Source → Except Error Value
  | .given fields => .ok (.map fields)
  | .file content => SettingsFile.read content
  | .default => SettingsFile.read defaultFile

/-! ## Parts of settings -/

namespace Value

/-- A part of a value by name, which has to be there. -/
def part (value : Value) (name : String) : Except Error Value :=
  match value with
  | .map fields =>
    match Table.find? name fields with
    | some part => .ok part
    | none => .error (.noSetting name)
  | .list _ => .error (.wrongType "list indices must be integers or slices, not str")
  | .text _ => .error (.wrongType "string indices must be integers, not \x27str\x27")
  | other =>
    .error (.wrongType ("\x27" ++ other.typeWord ++ "\x27 object is not subscriptable"))

/-- A part of a map by name, `null` if it is not there. -/
def optionalPart (value : Value) (name : String) : Except Error Value :=
  match value with
  | .map fields => .ok ((Table.find? name fields).getD .null)
  | other => .error (.noAttribute other.typeWord "get")

/-- The fields of a map; a false value counts as an empty one. -/
def fieldsOrNone (value : Value) : Except Error (Table Value) :=
  match value with
  | .map fields => .ok fields
  | other =>
    if other.truth then
      .error (.wrongType ("\x27" ++ other.typeWord ++ "\x27 object is not iterable"))
    else .ok []

end Value

/-! ## Options of a cache -/

/-- What can be chosen for a cache. -/
structure CacheOptions where
  compressed : Value
  buildInitial : Value
  deriving Repr

/-- The options of a cache: arguments win over the `nodecache` settings. -/
def cacheOptions (settings : Value) (arguments : Table Value) :
    Except Error CacheOptions := do
  let configured ← (← (← settings.part "config").optionalPart "nodecache").fieldsOrNone
  let fields := Value.update configured arguments
  return {
    compressed := (Table.find? "compressed" fields).getD (.bool false)
    buildInitial := (Table.find? "build_initial" fields).getD (.bool false) }

/-! ## Options of a session -/

/-- What can be chosen for a session. -/
structure SessionOptions where
  /-- What stands before every path. -/
  root : String
  /-- How often a request is repeated. -/
  retries : Value
  /-- The time between two probes. -/
  delay : Value
  /-- What is passed on to the store. -/
  others : Table Value
  deriving Repr

namespace SessionOptions

/-- A root is empty or starts with a slash. -/
def checkRoot : Value → Except Error String
  | .text root =>
    if root = "" ∨ root.toList.head? = some '/' then .ok root else .error .badArgument
  | .list [] => .error (.foreign "IndexError" "list index out of range")
  | .list _ => .error .badArgument
  | .map _ => .error (.noSetting "")
  | other => .error (.wrongType ("\x27" ++ other.typeWord ++ "\x27 object is not subscriptable"))

/-- The options that arguments choose. -/
def ofArguments (arguments : Table Value) : Except Error SessionOptions := do
  let root ← checkRoot ((Table.find? "root" arguments).getD (.text ""))
  return {
    root
    retries := (Table.find? "retries" arguments).getD (.int 5)
    delay := (Table.find? "reconnect_delay" arguments).getD (.int 1)
    others := arguments.filter fun field =>
      !(["root", "retries", "reconnect_delay"].contains field.1) }

/-- The arguments for a session in the `etcd` settings. -/
def arguments (settings : Value) : Except Error (Table Value) := do
  match ← (← settings.part "config").part "etcd" with
  | .map fields => return fields
  | other =>
    throw (.wrongType ("etcd_nodecache.etcd.EtcClient() argument after ** must be a mapping, not "
      ++ other.typeWord))

/-- The host that errors name. -/
def host (options : SessionOptions) : String :=
  match Table.find? "host" options.others with
  | some (.text host) => host
  | some _ => ""
  | none => "localhost"

end SessionOptions

end WatchedNode
