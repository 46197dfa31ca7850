import Rayd.Core.MemoryStore

/-! The `task_complete` reply and how the driver takes it in. A frame is the
Python value its pickle decodes to, or none when it does not decode; dict keys
other than the ones read are left out, and an instance of a derived class counts as
one of the built-in class. Entries are indexed one by one, so a bad
entry leaves the ones before it in the store. -/
namespace Rayd.Tasks
open Memory Core

/-- The keys of a reply and of its return entries. -/
inductive Key where
  | kind | taskId | returns | objectId | metadata | dataSize
  deriving DecidableEq, Repr

inductive Value where
  | str (text : String)
  | bytes (data : Bytes)
  | int (value : Int)
  | list (items : List Value)
  | dict (fields : List (Key × Value))
  /-- Any other object, by what PyO3 can read it as: the items of a sequence (a tuple, a
  bytearray, a range), the integer of a bool or of a class with `__index__`. -/
  | object (items : Option (List Value)) (index : Option Int)

namespace Value

def field (fields : List (Key × Value)) (key : Key) : Option Value := fields.lookup key

def asDict : Value → Option (List (Key × Value))
  | .dict fields => some fields
  | _ => none

def asList : Value → Option (List Value)
  | .list items => some items
  | _ => none

def asString : Value → Option String
  | .str text => some text
  | _ => none

def asIndex : Value → Option Int
  | .int value => some value
  | .object _ index => index
  | _ => none

/-- The integer, if the unsigned type has it. -/
def asUnsigned (limit : Nat) (value : Value) : Option Nat :=
  value.asIndex.bind fun index => if 0 ≤ index ∧ index < limit then some index.toNat else none

def asU64 : Value → Option Nat := asUnsigned (2 ^ 64)

def asByte (value : Value) : Option UInt8 := (asUnsigned 256 value).map UInt8.ofNat

/-- `Vec<u8>`: a bytes object or any sequence of small integers; a str is refused, and a
dict is no sequence. -/
def asBytes : Value → Option Bytes
  | .bytes data => some data
  | .list items => items.mapM asByte
  | .object items _ => items.bind fun items => items.mapM asByte
  | _ => none

end Value

inductive CompletionError where
  | undecodable
  | notDict
  | notList
  | missing (key : Key)
  | badField (key : Key)
  | unexpectedKind (kind : String)
  | wrongLength (length : Nat)
  | badMetadata (failure : MetadataDecodeError)
  deriving DecidableEq

def require (key : Key) (fields : List (Key × Value)) : Except CompletionError Value :=
  match Value.field fields key with
  | none => .error (.missing key)
  | some value => .ok value

def extract (key : Key) : Option A → Except CompletionError A
  | none => .error (.badField key)
  | some value => .ok value

/-- One entry of `returns`: the id, header and size to index. -/
def parseEntry (entry : Value) : Except CompletionError (ObjectId × PlasmaIndex) :=
  match entry.asDict with
  | none => .error .notDict
  | some fields => do
    let objectId ← require .objectId fields
    let objectId ← extract .objectId objectId.asBytes
    let metadata ← require .metadata fields
    let metadata ← extract .metadata metadata.asBytes
    let dataSize ← require .dataSize fields
    let dataSize ← extract .dataSize dataSize.asU64
    match Id.fromBytes? 28 objectId with
    | none => .error (.wrongLength objectId.length)
    | some id =>
      match Metadata.decode metadata with
      | .error failure => .error (.badMetadata failure)
      | .ok metadata => .ok (id, ⟨metadata, dataSize⟩)

def ingestReturns (store : MemoryStore) : List Value → Except CompletionError Unit × MemoryStore
  | [] => (.ok (), store)
  | entry :: rest =>
    match parseEntry entry with
    | .error failure => (.error failure, store)
    | .ok (id, index) => ingestReturns (store.putPlasma id index) rest

/-- A missing kind is unwrapped, which panics the connection's thread. -/
inductive Ingested where
  | done
  | failed (failure : CompletionError)
  | panicked
  deriving DecidableEq

def Ingested.ofReturns : Except CompletionError Unit → Ingested
  | .ok _ => .done
  | .error failure => .failed failure

def handleCompletion (store : MemoryStore) (frame : Option Value) : Ingested × MemoryStore :=
  match frame with
  | none => (.failed .undecodable, store)
  | some value =>
    match value.asDict with
    | none => (.failed .notDict, store)
    | some fields =>
      match Value.field fields .kind with
      | none => (.panicked, store)
      | some kind =>
        match kind.asString with
        | none => (.failed (.badField .kind), store)
        | some kind =>
          if kind ≠ "task_complete" then (.failed (.unexpectedKind kind), store)
          else
            match Value.field fields .returns with
            | none => (.failed (.missing .returns), store)
            | some returns =>
              match returns.asList with
              | none => (.failed .notList, store)
              | some entries =>
                let (result, store) := ingestReturns store entries
                (.ofReturns result, store)

/-- A reply whose fields all have the types and sizes the driver expects. -/
def WellFormed (frame : Option Value) : Prop :=
  ∃ fields entries, frame = some (.dict fields) ∧
    Value.field fields .kind = some (.str "task_complete") ∧
    Value.field fields .returns = some (.list entries) ∧
    ∀ entry ∈ entries, ∃ parsed, parseEntry entry = .ok parsed

theorem ingestReturns_ok_iff (store : MemoryStore) (entries : List Value) :
    (ingestReturns store entries).1 = .ok () ↔
      ∀ entry ∈ entries, ∃ parsed, parseEntry entry = .ok parsed := by
  induction entries generalizing store with
  | nil => simp [ingestReturns]
  | cons entry rest ih =>
    simp only [ingestReturns, List.forall_mem_cons]
    cases parsed : parseEntry entry with
    | error failure => simp
    | ok pair => simp [ih]

theorem ingestReturns_store (store : MemoryStore) (entries : List Value)
    (parsed : List (ObjectId × PlasmaIndex)) (same : entries.map parseEntry = parsed.map .ok) :
    ingestReturns store entries =
      (.ok (), parsed.foldl (fun store entry => store.putPlasma entry.1 entry.2) store) := by
  induction entries generalizing store parsed with
  | nil =>
    cases parsed with
    | nil => rfl
    | cons => cases same
  | cons entry rest ih =>
    cases parsed with
    | nil => cases same
    | cons head tail =>
      simp only [List.map_cons, List.cons.injEq] at same
      simp only [ingestReturns, same.1, List.foldl_cons]
      exact ih _ tail same.2

theorem parseEntry_fields (fields : List (Key × Value)) (id : ObjectId)
    (objectId : Value.field fields .objectId = some (.bytes id.bytes))
    (described : Value.field fields .metadata = some (.bytes header))
    (dataSize : Value.field fields .dataSize = some size) (sized : size.asU64 = some n)
    (decoded : Metadata.decode header = .ok metadata) :
    parseEntry (.dict fields) = .ok (id, ⟨metadata, n⟩) := by
  simp only [parseEntry, Value.asDict, require, objectId, described, dataSize, Value.asBytes, sized,
    extract, bind, Except.bind, Id.fromBytes?_bytes, decoded]

theorem handleCompletion_fields (store : MemoryStore) (fields : List (Key × Value)) (entries : List Value)
    (kind : Value.field fields .kind = some (.str "task_complete"))
    (returns : Value.field fields .returns = some (.list entries)) :
    handleCompletion store (some (.dict fields)) =
      (.ofReturns (ingestReturns store entries).1, (ingestReturns store entries).2) := by
  simp [handleCompletion, Value.asDict, kind, Value.asString, returns, Value.asList]

theorem ofReturns_done_iff (result : Except CompletionError Unit) :
    Ingested.ofReturns result = .done ↔ result = .ok () := by
  cases result <;> simp [Ingested.ofReturns]

/-- The reply is one whose return entries are looked at. -/
def Reaches (frame : Option Value) (entries : List Value) : Prop :=
  ∃ fields, frame = some (.dict fields) ∧ Value.field fields .kind = some (.str "task_complete") ∧
    Value.field fields .returns = some (.list entries)

def Parses (entries : List Value) : Prop := ∀ entry ∈ entries, ∃ parsed, parseEntry entry = .ok parsed

section Frames
variable {frame : Option Value} {entries : List Value}

/-- Any other reply is turned down before the index is written. -/
theorem handleCompletion_unreached (unreached : ∀ entries, ¬ Reaches frame entries) :
    ∃ outcome, outcome ≠ .done ∧ ∀ store, handleCompletion store frame = (outcome, store) := by
  cases frame with
  | none => exact ⟨_, by simp, fun _ => rfl⟩
  | some value =>
    cases value with
    | dict fields =>
      cases kind : Value.field fields .kind with
      | none => exact ⟨.panicked, by simp, fun _ => by simp [handleCompletion, Value.asDict, kind]⟩
      | some kindValue =>
        cases kindValue with
        | str text =>
          by_cases task : text = "task_complete"
          · subst task
            cases returns : Value.field fields .returns with
            | none =>
              refine ⟨.failed (.missing .returns), by simp, fun _ => ?_⟩
              simp [handleCompletion, Value.asDict, Value.asString, kind, returns]
            | some value =>
              cases value with
              | list entries => exact absurd ⟨fields, rfl, kind, returns⟩ (unreached entries)
              | _ =>
                refine ⟨.failed .notList, by simp, fun _ => ?_⟩
                simp [handleCompletion, Value.asDict, Value.asString, Value.asList, kind, returns]
          · refine ⟨.failed (.unexpectedKind text), by simp, fun _ => ?_⟩
            simp [handleCompletion, Value.asDict, Value.asString, kind, task]
        | _ =>
          refine ⟨.failed (.badField .kind), by simp, fun _ => ?_⟩
          simp [handleCompletion, Value.asDict, Value.asString, kind]
    | _ => exact ⟨.failed .notDict, by simp, fun _ => rfl⟩

theorem Reaches.handle (reaches : Reaches frame entries) (store : MemoryStore) :
    handleCompletion store frame =
      (.ofReturns (ingestReturns store entries).1, (ingestReturns store entries).2) := by
  obtain ⟨fields, rfl, kind, returns⟩ := reaches
  exact handleCompletion_fields store fields entries kind returns

theorem wellFormed_iff : WellFormed frame ↔ ∃ entries, Reaches frame entries ∧ Parses entries := by
  constructor
  · rintro ⟨fields, entries, rfl, kind, returns, parses⟩
    exact ⟨entries, ⟨fields, rfl, kind, returns⟩, parses⟩
  · rintro ⟨entries, ⟨fields, rfl, kind, returns⟩, parses⟩
    exact ⟨fields, entries, rfl, kind, returns, parses⟩

theorem Reaches.unique (reaches : Reaches frame entries) (again : Reaches frame others) : others = entries := by
  obtain ⟨fields, rfl, _, returns⟩ := reaches
  obtain ⟨_, same, _, found⟩ := again
  cases same
  cases returns.symm.trans found
  rfl

theorem Reaches.done_iff (reaches : Reaches frame entries) (store : MemoryStore) :
    (handleCompletion store frame).1 = .done ↔ Parses entries := by
  rw [reaches.handle, ofReturns_done_iff, ingestReturns_ok_iff]
  rfl

theorem Reaches.failed_iff (reaches : Reaches frame entries) (store : MemoryStore) :
    (∃ failure, (handleCompletion store frame).1 = .failed failure) ↔ ¬ Parses entries := by
  rw [← reaches.done_iff store, reaches.handle]
  cases (ingestReturns store entries).1 <;> simp [Ingested.ofReturns]

theorem handleCompletion_done_iff (store : MemoryStore) (frame : Option Value) :
    (handleCompletion store frame).1 = .done ↔ WellFormed frame := by
  rw [wellFormed_iff]
  by_cases reached : ∃ entries, Reaches frame entries
  · obtain ⟨entries, reaches⟩ := reached
    rw [reaches.done_iff store]
    constructor
    · exact fun parses => ⟨entries, reaches, parses⟩
    · rintro ⟨others, again, parses⟩
      rwa [reaches.unique again] at parses
  · have unreached := not_exists.mp reached
    obtain ⟨outcome, stopped, kept⟩ := handleCompletion_unreached unreached
    rw [kept]
    refine iff_of_false stopped ?_
    rintro ⟨entries, reaches, _⟩
    exact unreached entries reaches

end Frames

end Rayd.Tasks
