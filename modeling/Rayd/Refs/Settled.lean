import Rayd.Core.ErrorPayload
import Rayd.Refs.RemoteRefs

/-! `get_settled`: the pass over the refs, then one result after the other. Unpickling is
the user's code and appears by its answer. The store a call waits on is given by what it
has for the object in the end: when it stays without an entry the call comes back at its
timeout, and never if it has none. Timeouts are valid. -/
namespace Rayd.Refs
open Memory Core Plasma Gcs Raylet.Fetch Fallible

/-- `Ok`, `Err` and `Pending`. -/
inductive Settled (V : Type) where
  | value (value : V)
  | bytes (data : Bytes)
  | err (info : ErrorInfo)
  | pending
  deriving DecidableEq

/-- Why there is no list of results. -/
inductive Stop where
  | raised (raised : Raised)
  | blocked
  deriving DecidableEq

structure SettledTurn extends Turn where
  /-- What `get_entry_blocking` gets to see. -/
  entry : Option StoredEntry
  /-- `resolve_entry`. -/
  session : Session

def errorPayloadText : ErrorPayloadCodecError → String
  | .truncated needed => "error payload truncated: needed " ++ toString needed ++ " more bytes"
  | .lengthOverflow claimed remaining =>
    "error payload length prefix " ++ toString claimed ++ " exceeds remaining " ++ toString remaining
  | .invalidUtf8 => "error payload string section was not valid UTF-8"
  | .invalidFlag byte => "error payload flag byte was " ++ toString byte ++ ", expected 0 or 1"

def errorInfoFromObject (category : ErrorCategory) (rawCode : UInt16) (data : Bytes) :
    Except Raised ErrorInfo :=
  match ErrorPayload.decode data with
  | .ok payload => .ok ⟨category, payload.message, rawCode, payload.traceback⟩
  | .error failure => .error (.native (.runtime ("corrupted error payload: " ++ errorPayloadText failure)))

section Loading
variable {V : Type} (loads : Bytes → Except String V)

def settledObject (object : RayObject) : Except Raised (Settled V) :=
  match object.metadata with
  | .error category rawCode => return .err (← errorInfoFromObject category rawCode object.data)
  | .pickle5 _ => return .value (← (loads object.data).mapError .unpickling)
  | .raw => .ok (.bytes object.data)
  | .actorHandle => .error (.notImplemented "actor handle deserialization lands in Phase 5")

/-- One round of the native loop. -/
def settleOne (timeout : Option Nat) (turn : SettledTurn) : Except Stop (Settled V) :=
  match turn.entry with
  | none => if timeout.isSome then .ok .pending else .error .blocked
  | some entry =>
    match (turn.session.resolveEntry turn.ref.objectId entry).1 with
    | .error failure => .error (.raised (.native (.runtime ("resolve: " ++ coreErrorText failure))))
    | .ok object => (settledObject loads object).mapError .raised

def getSettled (gcs : Option GcsBinding) (timeout : Option Nat) (turns : List SettledTurn) :
    Except Stop (List (Settled V)) := do
  (ensureLocalForRemoteRefs gcs none (turns.map SettledTurn.toTurn)).mapError .raised
  turns.mapM (settleOne loads timeout)

end Loading

section Reading
variable {id : ObjectId}

/-- The object that stands behind an entry: inline, sealed in plasma, or spilled and
then with room to be sealed again. -/
def Behind (s : Session) (id : ObjectId) : StoredEntry → RayObject → Prop
  | .inline object, result => result = object
  | .plasma index, result => result.metadata = index.metadata ∧
    ((∃ held, s.plasma.objects.lookup id = some held ∧ held.isSealed = true ∧ result.data = held.data) ∨
      s.plasma.objects.lookup id = none ∧ ∃ manager restored after, s.worker.recoverer = some manager ∧
        manager.restore id = (.ok (some restored), after) ∧ result.data = restored.data ∧
        s.plasma.Room ⟨id, restored.metadata, restored.data⟩)

theorem recoverAndReseal_ok_iff {s : Session} {index : PlasmaIndex}
    (absent : s.plasma.objects.lookup id = none) :
    (s.recoverAndReseal id index).1 = .ok result ↔
      ∃ manager restored after, s.worker.recoverer = some manager ∧
        manager.restore id = (.ok (some restored), after) ∧ result = ⟨index.metadata, restored.data⟩ ∧
        s.plasma.Room ⟨id, restored.metadata, restored.data⟩ := by
  simp only [Session.recoverAndReseal]
  cases registered : s.worker.recoverer with
  | none => simp
  | some manager =>
    rcases answered : manager.restore id with ⟨failure | ⟨⟩ | restored, after⟩
    · simp [answered]
    · simp [answered]
    · simp only [Session.createAndSeal]
      rcases s.plasma.createAndSeal_cases ⟨id, restored.metadata, restored.data⟩ with
        ⟨⟨held, found⟩, _⟩ | ⟨_, ⟨message, arena, reply⟩ | ⟨room, arena, reply⟩⟩
      · cases absent.symm.trans found
      · have full := Store.not_room_of_refused absent reply
        simp [reply, answered, full]
      · simp [reply, answered, room, eq_comm]

theorem resolveEntry_ok_iff {s : Session} {entry : StoredEntry} :
    (s.resolveEntry id entry).1 = .ok result ↔ Behind s id entry result := by
  obtain ⟨metadata, data⟩ := result
  cases entry with
  | inline object => simp [Session.resolveEntry, Behind, eq_comm]
  | plasma index =>
    simp only [Session.resolveEntry, Behind]
    rcases s.plasma.get_cases id with
      ⟨absent, found⟩ | ⟨held, present, unsealed, found⟩ | ⟨held, present, final, found⟩
    · simp only [found, recoverAndReseal_ok_iff absent, RayObject.mk.injEq]
      constructor
      · rintro ⟨manager, restored, after, registered, answered, ⟨header, same⟩, room⟩
        exact ⟨header, .inr ⟨absent, manager, restored, after, registered, answered, same, room⟩⟩
      · rintro ⟨header, ⟨held, present, _⟩ | ⟨_, manager, restored, after, registered, answered, same, room⟩⟩
        · cases absent.symm.trans present
        · exact ⟨manager, restored, after, registered, answered, ⟨header, same⟩, room⟩
    · simp [found, present, unsealed]
    · simp only [found]
      constructor
      · intro done
        cases done
        exact ⟨rfl, .inl ⟨held, present, final, rfl⟩⟩
      · rintro ⟨rfl, ⟨other, also, _, rfl⟩ | ⟨absent, _⟩⟩
        · cases present.symm.trans also
          rfl
        · cases absent.symm.trans present

end Reading

section Results
variable {V : Type} {loads : Bytes → Except String V} {gcs : Option GcsBinding} {timeout : Option Nat}

/-- What the object holds can be handed out. -/
def Readable (loads : Bytes → Except String V) (object : RayObject) : Prop :=
  match object.metadata with
  | .error .. => ∃ payload, ErrorPayload.decode object.data = .ok payload
  | .pickle5 _ => ∃ value, loads object.data = .ok value
  | .raw => True
  | .actorHandle => False

/-- The store gets an entry with a readable object behind it, or there is a timeout. -/
def SettledTurn.Settles (loads : Bytes → Except String V) (timeout : Option Nat) (turn : SettledTurn) : Prop :=
  match turn.entry with
  | none => timeout.isSome = true
  | some entry => ∃ object, Behind turn.session turn.ref.objectId entry object ∧ Readable loads object

theorem settledObject_ok_iff (object : RayObject) :
    (∃ entry, settledObject loads object = .ok entry) ↔ Readable loads object := by
  simp only [settledObject, Readable, errorInfoFromObject]
  cases object.metadata with
  | error category rawCode =>
    cases ErrorPayload.decode object.data <;> simp [bind, Except.bind, pure, Except.pure]
  | pickle5 hasNestedRefs =>
    cases loads object.data <;> simp [bind, Except.bind, pure, Except.pure, Except.mapError]
  | raw => simp
  | actorHandle => simp

theorem settleOne_ok_iff (turn : SettledTurn) :
    (∃ entry, settleOne loads timeout turn = .ok entry) ↔ turn.Settles loads timeout := by
  simp only [settleOne, SettledTurn.Settles]
  cases turn.entry with
  | none => cases timeout <;> simp
  | some entry =>
    simp only [← resolveEntry_ok_iff, ← settledObject_ok_iff]
    cases (turn.session.resolveEntry turn.ref.objectId entry).1 with
    | error failure => simp
    | ok object => simp [mapError_ok_iff]

theorem getSettled_ok_iff {turns : List SettledTurn} {results : List (Settled V)} :
    getSettled loads gcs timeout turns = .ok results ↔
      ensureLocalForRemoteRefs gcs none (turns.map SettledTurn.toTurn) = .ok () ∧
        List.Forall₂ (fun turn result => settleOne loads timeout turn = .ok result) turns results := by
  simp only [getSettled, bind_ok_iff, mapError_ok_iff, mapM_ok_iff]
  exact ⟨fun ⟨_, passed, settled⟩ => ⟨passed, settled⟩, fun ⟨passed, settled⟩ => ⟨(), passed, settled⟩⟩

/-- Every ref is let through and settles, each on its own, and the first ref with a
remote owner has one that is not indexed if any of them has. -/
def Settling (loads : Bytes → Except String V) (gcs : Option GcsBinding) (timeout : Option Nat)
    (turns : List SettledTurn) : Prop :=
  (∀ turn ∈ turns, turn.Passes gcs (listed gcs) ∧ turn.Settles loads timeout) ∧
    FirstUnindexed gcs (turns.map SettledTurn.toTurn)

theorem firstUnindexed_singleton (turn : Turn) : FirstUnindexed gcs [turn] := by
  rintro other member unindexed first found
  cases List.mem_singleton.mp member
  cases List.mem_singleton.mp (List.mem_of_find?_eq_some found)
  exact unindexed

theorem getSettled_one_iff {turn : SettledTurn} {result : Settled V} :
    getSettled loads gcs timeout [turn] = .ok [result] ↔
      turn.Passes gcs (listed gcs) ∧ settleOne loads timeout turn = .ok result := by
  simp [getSettled_ok_iff, ensure_ok_iff, firstUnindexed_singleton]

/-- A list of results, one for each ref and the one that the ref on its own comes to, is
returned exactly when the condition holds; otherwise the call raises or blocks. -/
theorem get_settled_iff (turns : List SettledTurn) :
    (∃ results, getSettled loads gcs timeout turns = .ok results ∧
      List.Forall₂ (fun turn result => getSettled loads gcs timeout [turn] = .ok [result]) turns results) ↔
      Settling loads gcs timeout turns := by
  constructor
  · rintro ⟨results, returned, alone⟩
    obtain ⟨passed, settled⟩ := getSettled_ok_iff.mp returned
    refine ⟨fun turn member => ?_, (ensure_ok_iff _).mp passed |>.2⟩
    obtain ⟨result, done⟩ := (exists_forall₂_iff turns).mp ⟨results, alone⟩ turn member
    obtain ⟨passes, settles⟩ := getSettled_one_iff.mp done
    exact ⟨passes, (settleOne_ok_iff turn).mp ⟨result, settles⟩⟩
  · rintro ⟨ready, first⟩
    have settles := fun turn member => (settleOne_ok_iff turn).mpr (ready turn member).2
    obtain ⟨results, settled⟩ := (exists_forall₂_iff turns).mpr settles
    have passed : ∀ turn ∈ turns.map SettledTurn.toTurn, turn.Passes gcs (listed gcs) := by
      intro turn member
      obtain ⟨whole, inside, rfl⟩ := List.mem_map.mp member
      exact (ready whole inside).1
    refine ⟨results, getSettled_ok_iff.mpr ⟨(ensure_ok_iff _).mpr ⟨passed, first⟩, settled⟩, ?_⟩
    simp only [getSettled_one_iff]
    exact (List.forall₂_and_left _ _).mpr ⟨fun turn member => (ready turn member).1, settled⟩

end Results

section Samples

def otherOwner : NodeId := ⟨2 :: List.replicate 15 0, rfl⟩

/-- Two other nodes, both alive and both willing to serve the object. -/
def pairBinding : GcsBinding :=
  { sampleBinding with
    listNodes := .ok [⟨some ⟨.literal (.v4 10 0 0 2), 60001, sampleOwner.bytes⟩, .alive, 0⟩,
      ⟨some ⟨.literal (.v4 10 0 0 3), 60001, otherOwner.bytes⟩, .alive, 0⟩] }

def indexedAs (status : NodeStatus) (owner : NodeId) : Raylet.NodeIndex :=
  ⟨(∅ : FiniteMap NodeId Raylet.NodeEntry).insert owner ⟨status, ⟨.v4 10 0 0 3, 60001⟩⟩⟩

/-- A ref whose value is there, whoever owns it. -/
def sampleTurn (owner : Option NodeId) (index : Raylet.NodeIndex) : SettledTurn where
  ref := ⟨sampleObject, owner⟩
  index := index
  attempt := (pairBinding, sampleSession ∅)
  attempts := []
  store := .empty
  tasks := .new
  entry := some (.inline ⟨.raw, [7]⟩)
  session := sampleSession ∅

/-- A ref of a dead owner takes the values of the others with it; and a ref of an indexed
owner has the next one's owner, alive and listed, reported as absent. -/
theorem one_ref_spoils_batch :
    (getSettled .ok (some pairBinding) none [sampleTurn none .empty] = .ok [.bytes [7]] ∧
      ∃ message, getSettled .ok (some pairBinding) none
        [sampleTurn none .empty, sampleTurn (some otherOwner) (indexedAs .dead otherOwner)] =
          .error (.raised (.ownerDied message))) ∧
    (getSettled .ok (some pairBinding) none [sampleTurn (some otherOwner) (indexedAs .alive otherOwner)] =
        .ok [.bytes [7]] ∧
      getSettled .ok (some pairBinding) none [sampleTurn (some sampleOwner) (indexedAs .alive otherOwner)] =
        .ok [.bytes [7]] ∧
      ∃ message, getSettled .ok (some pairBinding) none
        [sampleTurn (some otherOwner) (indexedAs .alive otherOwner),
          sampleTurn (some sampleOwner) (indexedAs .alive otherOwner)] = .error (.raised (.ownerDied message))) :=
  ⟨⟨rfl, _, rfl⟩, rfl, rfl, _, rfl⟩

end Samples

end Rayd.Refs
