/-
**The store.**

A key/value store with one index that grows with every change. Every node keeps the index of its
creation and of its last change, and all changes are kept in a history, so that a watch can start in
the past.

* `Store.read`, `Store.write`, `Store.delete` and `Store.watch` are the calls; a write or a delete
  may ask for the value or index that it expects to find;
* `Store.submit` is a call as it is made: it is answered by the store, or by what was planned for
  calls of that kind (`Plan`); a plan can fail a call, answer it, or hold it.
-/
import WatchedNode.Service

namespace WatchedNode

/-- What a call asks of the node it changes. -/
structure Condition where
  /-- The node exists, or does not. -/
  isThere : Option Bool := none
  value : Option String := none
  index : Option Int := none
  deriving Repr, DecidableEq

/-- A call of the store. -/
inductive StoreCall
  | read (key : String)
  | write (key : String) (value : Option String) (isDirectory : Bool) (condition : Condition)
  | delete (key : String) (condition : Condition)
  | watch (key : String) (index : Option Int)
  deriving Repr, DecidableEq

namespace StoreCall

/-- The name of a call's kind. -/
def method : StoreCall → String
  | .read _ => "read"
  | .write .. => "write"
  | .delete .. => "delete"
  | .watch .. => "watch"

/-- The key of a call. -/
def key : StoreCall → String
  | .read key | .write key _ _ _ | .delete key _ | .watch key _ => key

end StoreCall

/-- What becomes of a call. -/
inductive Plan
  /-- The store answers it. -/
  | serve
  | hold
  | fail (error : Error)
  | answer (record : Record)
  deriving Repr, BEq

/-- A node of the store; a directory has no value. -/
structure StoreNode where
  value : Option String
  created : Int
  modified : Int
  deriving Repr, DecidableEq

namespace Condition

/-- The value and index are the expected ones. -/
def holdsOf (condition : Condition) (node : StoreNode) : Bool :=
  condition.value.all (fun value => node.value = some value)
    && condition.index.all (· = node.modified)

/-- A condition that no missing node meets. -/
def needsNode (condition : Condition) : Bool :=
  condition.isThere = some true || condition.value.isSome || condition.index.isSome

end Condition

/-- A change of a node. -/
structure Change where
  key : String
  record : Record
  deriving Repr, DecidableEq

/-- The state of a store. -/
structure Store where
  index : Int := 0
  nodes : Table StoreNode := []
  /-- All changes, the earliest first. -/
  history : List Change := []
  isDown : Bool := false
  /-- What is planned for the next calls of each kind. -/
  plans : Table (List Plan) := []
  deriving Repr

namespace Store

/-! ## Nodes -/

/-- The node of a key. -/
def node? (key : String) (store : Store) : Option StoreNode :=
  Table.find? key store.nodes

/-- A failure of the store. -/
def failure (fault : StoreFault) (message : String) (payload : Value) : Error :=
  .store fault message payload

/-- The failure of a call for a key that is not there. -/
def keyNotFound (payload : Value) : Error := failure .keyNotFound "Key not found" payload

/-! ## Calls -/

/-- Reads a key; the top directory is always there. -/
def read (key : String) (store : Store) : Except Error Record :=
  if key = "" ∨ key = "/" then .ok ⟨store.index, 0, 0, none⟩
  else match store.node? key with
    | some node => .ok ⟨store.index, node.created, node.modified, node.value⟩
    | none => .error (keyNotFound (.map [("index", .int store.index)]))

/-- Checks what a call asks of a node. -/
def check (condition : Condition) (node : Option StoreNode) : Except Error Unit :=
  match node with
  | none => if condition.needsNode then .error (keyNotFound .null) else .ok ()
  | some node =>
    if condition.isThere = some false then
      .error (failure .alreadyExist "Key already exists" .null)
    else if condition.holdsOf node then .ok ()
    else .error (failure .compareFailed "Compare failed" .null)

/-- A change is kept. -/
def remember (key : String) (record : Record) (store : Store) : Store :=
  { store with history := store.history ++ [⟨key, record⟩] }

/-- Writes a key. -/
def write (key : String) (value : Option String) (condition : Condition) (store : Store) :
    Except Error (Store × Record) := do
  let node := store.node? key
  check condition node
  let index := store.index + 1
  let created := (node.map (·.created)).getD index
  let nodes := Table.put key ⟨value, created, index⟩ store.nodes
  let record : Record := ⟨index, created, index, value⟩
  return ({ store with index, nodes }.remember key record, record)

/-- Deletes a key. -/
def delete (key : String) (condition : Condition) (store : Store) :
    Except Error (Store × Record) :=
  match store.node? key with
  | none => .error (keyNotFound .null)
  | some node => do
    check condition (some node)
    let index := store.index + 1
    let record : Record := ⟨index, node.created, index, none⟩
    return ({ store with index, nodes := Table.erase key store.nodes }.remember key record, record)

/-- A change that a watch waits for. -/
def isAwaited (key : String) (index : Option Int) (change : Change) : Bool :=
  change.key = key && index.any (· ≤ change.record.modified)

/-- The first change since an index; a watch without an index only sees changes to come. -/
def watch (key : String) (index : Option Int) (store : Store) : Option Record :=
  (store.history.find? (isAwaited key index)).map (·.record)

/-! ## Making calls -/

/-- What a call comes to for now. -/
inductive Response
  | answered (result : Except Error Record)
  | held

/-- The store's own answer, and the change that the call made. -/
def serve (call : StoreCall) (store : Store) : Store × Response × Option Change :=
  let changed (result : Except Error (Store × Record)) : Store × Response × Option Change :=
    match result with
    | .ok (store, record) => (store, .answered (.ok record), some ⟨call.key, record⟩)
    | .error error => (store, .answered (.error error), none)
  if store.isDown then
    (store, .answered (.error (failure .connectionFailed "down" .null)), none)
  else match call with
    | .read key => (store, .answered (store.read key), none)
    | .write key value isDirectory condition =>
      changed (store.write key (if isDirectory then none else value) condition)
    | .delete key condition => changed (store.delete key condition)
    | .watch key index =>
      match store.watch key index with
      | some record => (store, .answered (.ok record), none)
      | none => (store, .held, none)

/-- What becomes of a call by a plan. -/
def follow (plan : Plan) (call : StoreCall) (store : Store) : Store × Response × Option Change :=
  match plan with
  | .serve => store.serve call
  | .hold => (store, .held, none)
  | .fail error => (store, .answered (.error error), none)
  | .answer record => (store, .answered (.ok record), none)

/-- The next plan for a kind of call, and the store with the plans that are left. -/
def nextPlan (method : String) (store : Store) : Plan × Store :=
  match Table.find? method store.plans with
  | some (plan :: later) => (plan, { store with plans := Table.put method later store.plans })
  | _ => (.serve, store)

/-- A call is made. -/
def submit (call : StoreCall) (store : Store) : Store × Response × Option Change :=
  let (plan, store) := store.nextPlan call.method
  store.follow plan call

/-- More plans for a kind of call, after those that there are. -/
def plan (method : String) (plans : List Plan) (store : Store) : Store :=
  let known := (Table.find? method store.plans).getD []
  { store with plans := Table.put method (known ++ plans) store.plans }

end Store

end WatchedNode
