/-
**What is set is what is fetched.**

* `WritesContent`: all that an operation ever sends to set a content, a write whose text stores it;
* `Visit.fetches_content`: an operation that fetches a text which stores a content returns that
  content;
* `set_then_fetch`: both together, with what cannot be set at all.
-/
import WatchedNode.Proofs.Codec.Content
import WatchedNode.Proofs.Paths
import WatchedNode.Proofs.Store.Passage

namespace WatchedNode

open Codec.Content (Stores)

variable {handle : Handle} {path : String} {content : List UInt8} {compress : Bool}

/-! ## Setting -/

/-- The operation that sets a content, whatever is there. -/
def Operation.plainSet (path : String) (content : List UInt8) (compress : Bool) : Operation :=
  .set (.text path) content none none none compress

/-- The call of that operation. -/
def plainWrite (path : String) (content : List UInt8) (compress : Bool) (root : String) :
    Except Error StoreCall :=
  Session.writeCall root (.text path) content none none none compress

theorem Operation.plainSet_isRequest (path : String) (content : List UInt8) (compress : Bool) :
    (plainSet path content compress).IsRequest .changing (plainWrite path content compress) :=
  fun _ _ => rfl

/-- A call that writes a text which stores the content. -/
def WritesContent (root path : String) (content : List UInt8) (compress : Bool)
    (call : StoreCall) : Prop :=
  ∃ key text, Key.below root path = .ok key ∧ call = .write key (some text) false {} ∧
    Stores content compress text

/-- **What is written**, if the content can be encoded. -/
theorem plainWrite_cases (isPath : Path.fault? path = none) (root : String) (content : List UInt8)
    (compress : Bool) :
    plainWrite path content compress root = .error .noText ∧ compress = false ∧ ¬IsUtf8 content ∨
      ¬(compress = false ∧ ¬IsUtf8 content) ∧
        ∃ call, plainWrite path content compress root = .ok call ∧
          WritesContent root path content compress call := by
  obtain ⟨key, isKey⟩ := Key.exists_below isPath root
  have found : Key.ofValue root (.text path) = .ok key := isKey
  rw [← Codec.Content.encode_eq_error_iff]
  unfold plainWrite Session.writeCall
  rw [found]
  rcases Codec.Content.encode_cases content compress with isError | ⟨text, isEncoded⟩
  · rw [isError]
    exact .inl ⟨rfl, rfl⟩
  · rw [isEncoded]
    exact .inr ⟨nofun, _, rfl, key, text, isKey, rfl, Codec.Content.stores_of_encode isEncoded⟩

/-! ## Fetching -/

section Fetching

variable {watcher : Option Subscriber} {decompress : Value}

/-- The call of an operation that fetches. -/
def readCall (path : String) (root : String) : Except Error StoreCall :=
  (Key.ofValue root (.text path)).map .read

theorem Operation.fetch_isRequest (path : String) (watcher : Option Subscriber)
    (decompress : Value) :
    (Operation.fetch (.text path) watcher decompress).IsRequest
      (.fetching (.text path) watcher decompress)
      (readCall path) := fun _ _ => rfl

/-- A fetch whose text can be decoded ends with the content. -/
theorem Session.answered_fetching {next : TaskId} {session : Session} {path decompress : Value}
    {key : String} {record : Record} {data : List UInt8}
    (decoded : Codec.Content.decode record.value decompress.truth = .ok data) :
    (session.answered handle next (.fetching path watcher decompress) key record).2.2 =
      .finish (.returned (.content (some data) (some ⟨record.created, record.modified⟩))) := by
  unfold Session.answered
  simp only [decoded]

/-- **A task that fetches** returns what the value that it has read stores. -/
theorem Passage.fetches_content {visits : List Visit} {visit : Visit} {verdict : Verdict Point}
    (passage :
      Passage handle Session.KeepsOptions (.fetch (.text path) watcher (.bool compress)) visits
      visit.session verdict) (isNext : verdict.next? = some visit.point) {record : Record}
      {text : String}
    (hears : visit.heard = some (.ok record)) (value : record.value = some text)
    (stores : Stores content compress text) :
    (visit.turn handle).2.2 =
      .finish (.returned (.content (some content) (some ⟨record.created, record.modified⟩))) := by
  have requests := passage.requests (Operation.fetch_isRequest path watcher (.bool compress))
    (Errand.isSingle_fetching _ _ _)
  rcases requests.stands _ isNext with isFirst | ⟨call, -, isMade⟩
  · rw [Visit.heard, isFirst] at hears
    cases why : visit.wake <;> rw [why] at hears <;> cases hears
  · cases visit.turn_repeats handle rfl isMade with
    | waits silent _ _ => cases silent.symm.trans hears
    | again hears' isFailing _ _ =>
      cases hears.symm.trans hears'
      cases isFailing
    | fails hears' isFailing _ _ =>
      cases hears.symm.trans hears'
      cases isFailing
    | returns hears' _ same =>
      cases hears.symm.trans hears'
      have decoded : Codec.Content.decode record.value (Value.bool compress).truth =
          .ok content := by
        rw [value]
        exact Codec.Content.decode_of_stores stores
      rw [same]
      show (Session.answered handle visit.moment.next
        (.fetching (.text path) watcher (.bool compress)) call.key
        record (visit.session.learns handle visit.moment.next (.ok record)).1).2.2 = _
      exact Session.answered_fetching decoded
    | cancelled isCancelled _ =>
      rw [Visit.heard, isCancelled] at hears
      cases hears

end Fetching

/-! ## Both together -/

/-- The first turn of an operation that sets a content. -/
theorem Visit.begins_set (isPath : Path.fault? path = none) {visit : Visit}
    (isFirst : visit.point = .begin (.plainSet path content compress))
    (isLeft : visit.wake ≠ .cancelled) :
    (visit.turn handle = (visit.session, [], .finish (.failed .noText)) ↔
      compress = false ∧ ¬IsUtf8 content) ∧
      (¬(compress = false ∧ ¬IsUtf8 content) → visit.session.isOpen = true →
        ∃ call, WritesContent visit.session.options.root path content compress call ∧
          visit.turn handle = (visit.session, [], .goOn (.ask .changing call 0))) := by
  rw [Visit.turn_begin (Operation.plainSet_isRequest path content compress) isFirst isLeft]
  rcases plainWrite_cases isPath visit.session.options.root content compress with
    ⟨isError, isOdd⟩ | ⟨isSound, call, isCall, writes⟩
  · rw [isError]
    exact ⟨iff_of_true rfl isOdd, fun isSound => absurd isOdd isSound⟩
  · rw [isCall]
    show (visit.session.request .changing call = _ ↔ _) ∧
      (_ → _ → ∃ other, _ ∧ visit.session.request .changing call = _)
    unfold Session.request
    refine ⟨iff_of_false ?_ isSound, fun _ isOpen => ⟨call, writes, if_pos isOpen⟩⟩
    split <;> exact nofun

/-- **What is set is what is fetched.** For each path, each content and whether it is compressed or
not: all that is ever sent to set the content is a write of a text that stores it; a fetch that
reads such a text returns the content; compressed, such a text is ASCII; and a content cannot be set
exactly if it is not to be compressed and is no UTF-8, in which case the session is left as it is. A
text always can be set. -/
theorem set_then_fetch (isPath : Path.fault? path = none) (handle : Handle) (content : List UInt8)
    (compress : Bool) :
    (∀ visits session verdict,
        Passage handle Session.KeepsOptions (.plainSet path content compress) visits
          session verdict →
          ∀ call ∈ sentIn visits, WritesContent session.options.root path content compress call) ∧
      (∀ watcher visits (visit : Visit) verdict,
        Passage handle Session.KeepsOptions (.fetch (.text path) watcher (.bool compress)) visits
          visit.session
          verdict → verdict.next? = some visit.point →
        ∀ (record : Record) text, visit.heard = some (.ok record) → record.value = some text →
          Stores content compress text → (visit.turn handle).2.2 =
            .finish
              (.returned (.content (some content) (some ⟨record.created, record.modified⟩)))) ∧
      (∀ text, Stores content true text → ∀ letter ∈ text.toList, letter.toNat < 128) ∧
      (∀ visit : Visit, visit.point = .begin (.plainSet path content compress) →
        visit.wake ≠ .cancelled →
        (visit.turn handle = (visit.session, [], .finish (.failed .noText)) ↔
          compress = false ∧ ¬IsUtf8 content) ∧
        (¬(compress = false ∧ ¬IsUtf8 content) → visit.session.isOpen = true →
          ∃ call, WritesContent visit.session.options.root path content compress call ∧
            visit.turn handle = (visit.session, [], .goOn (.ask .changing call 0)))) ∧
      ∀ text, content = utf8Bytes text → IsUtf8 content := by
  refine ⟨?_, ?_, ?_, ?_, ?_⟩
  · intro visits session verdict passage call isSent
    have requests :=
      passage.requests (Operation.plainSet_isRequest path content compress) Errand.isSingle_changing
    rcases plainWrite_cases isPath session.options.root content compress with
      ⟨isError, -⟩ | ⟨-, other, isCall, writes⟩
    · cases isError.symm.trans (requests.sent call isSent)
    · cases isCall.symm.trans (requests.sent call isSent)
      exact writes
  · intro watcher visits visit verdict passage isNext record text hears value stores
    exact passage.fetches_content isNext hears value stores
  · intro text stores
    exact stores.isAscii
  · intro visit isFirst isLeft
    exact visit.begins_set isPath isFirst isLeft
  · rintro text rfl
    exact isUtf8_utf8Bytes text

/-- A task that is to set a byte which is no UTF-8. -/
def settingByte (compress : Bool) : Visit where
  moment := ⟨0, 1, 0⟩
  isSlow := false
  point := .begin (.plainSet "/a" [0xff] compress)
  wake := .goOn
  store := {}
  session := { options := ⟨"", .int 5, .int 1, []⟩ }

/-- The operation that fetches what has been compressed. -/
def fetchByte : Operation := .fetch (.text "/a") none (.bool true)

/-- A turn of a task that does that operation. -/
def fetchingByte (point : Point) (store : Store) : Visit where
  moment := ⟨1, 2, 0⟩
  isSlow := false
  point
  wake := .goOn
  store
  session := { options := ⟨"", .int 5, .int 1, []⟩ }

/-- The byte can be set if it is compressed, and only then; and a fetch from the store in which it
has been set returns it. -/
theorem set_then_fetch_byte :
    ((settingByte false).turn 0).2.2 = .finish (.failed .noText) ∧
      ∃ call, WritesContent "" "/a" [0xff] true call ∧
        ((settingByte true).turn 0).2.2 = .goOn (.ask .changing call 0) ∧
        ((fetchingByte (.ask (.fetching (.text "/a") none (.bool true)) (.read "/a") 0)
          ((settingByte true).store.submit call).1).turn 0).2.2 =
          .finish (.returned (.content (some [0xff]) (some ⟨1, 1⟩))) := by
  have isOdd : ¬IsUtf8 [0xff] := by
    rw [← utf8Text?_eq_none_iff]
    decide
  have isPath : Path.fault? "/a" = none := by decide
  obtain ⟨-, -, -, plain, -⟩ := set_then_fetch isPath 0 [0xff] false
  obtain ⟨-, fetched, -, packed, -⟩ := set_then_fetch isPath 0 [0xff] true
  obtain ⟨call, writes, turn⟩ := (packed (settingByte true) rfl nofun).2 (by simp) rfl
  refine ⟨by rw [((plain (settingByte false) rfl nofun).1).mpr ⟨rfl, isOdd⟩], call,
    writes, by rw [turn], ?_⟩
  obtain ⟨key, text, isKey, rfl, stores⟩ := writes
  have isKey' : Key.below "" "/a" = .ok "/a" := rfl
  cases isKey'.symm.trans isKey
  have begins : Passage 0 Session.KeepsOptions fetchByte [fetchingByte (.begin fetchByte) {}]
      ((fetchingByte (.begin fetchByte) {}).turn 0).1
        ((fetchingByte (.begin fetchByte) {}).turn 0).2.2 :=
    .turns (.begins (fetchingByte (.begin fetchByte) {}).session) rfl
  exact fetched none _ (fetchingByte _ _) _ begins rfl ⟨1, 1, 1, some text⟩ text rfl rfl stores

end WatchedNode
