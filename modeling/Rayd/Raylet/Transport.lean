import Rayd.Raylet.Pull

/-! Whole objects between raylets, as lists of frames. `Pull` and the client's `push`
cut an object into a first frame with its metadata and size and data frames of at
most 64 KiB; the client's `pull` and the push handler put it together again. A stream
that breaks off ends with a status. Sizes are naturals: a u64 fits a usize, and there is
memory for what a first frame announces. The transport's own limit on one message and
metrics are left out, and each call is on its own. -/
namespace Rayd.Raylet.Transport
open Memory Plasma Core Spill

inductive PullKind where
  | objectMetadata (metadata : Bytes) (dataSize : Nat)
  | data (bytes : Bytes)
  deriving DecidableEq

inductive PushKind where
  | header (objectId metadata : Bytes) (dataSize : Nat)
  | data (bytes : Bytes)
  deriving DecidableEq

/-- A frame may come in with no kind set. -/
abbrev Stream (Kind : Type) := List (Except Status (Option Kind))

structure PulledObject where
  metadata : Bytes
  data : Bytes
  deriving DecidableEq

inductive ClientError where
  | status (status : Status)
  | malformed (message : String)
  | shortRead (expected got : Nat)
  deriving DecidableEq

section Senders

/-- The slicing loop of the pull handler. -/
def slicesFrom (data : Bytes) (start : Nat) : List Bytes :=
  if start < data.length then
    let stop := min (start + Pull.pullChunkSize) data.length
    (data.drop start).take (stop - start) :: slicesFrom data stop
  else []
termination_by data.length - start
decreasing_by
  have positive : 0 < Pull.pullChunkSize := by decide
  omega

def pullFrames (metadata data : Bytes) : Stream PullKind :=
  .ok (some (.objectMetadata metadata data.length)) ::
    (slicesFrom data 0).map fun chunk => .ok (some (.data chunk))

/-- The raylet's plasma, and the spill manager if there is one. -/
structure Storage where
  plasma : Store
  manager : Option LocalObjectManager

/-- Seals what was restored; an object that is back already will do. -/
def resealAndGet (plasma : Store) (call : Call) : Except Status (Bytes × Bytes) × Store :=
  match plasma.createAndSeal call with
  | (.ok (), plasma) | (.error (.server .alreadyExists _), plasma) =>
    ((plasma.get call.id).mapError Pull.plasmaToStatus, plasma)
  | (.error failure, plasma) => (.error (Pull.plasmaToStatus failure), plasma)

/-- `plasma_get_with_restore` -/
def getWithRestore (storage : Storage) (id : ObjectId) : Except Status (Bytes × Bytes) × Storage :=
  match storage.plasma.get id with
  | .ok object => (.ok object, storage)
  | .error (.server .notFound _) =>
    match storage.manager with
    | none => (.error ⟨.notFound, "object not present in plasma"⟩, storage)
    | some manager =>
      match manager.restore id with
      | (.ok none, manager) =>
        (.error ⟨.notFound, "object not present in plasma or spill"⟩, { storage with manager })
      | (.error failure, manager) =>
        (.error ⟨.internal, "spill restore: " ++ String.ofList (spillErrorText failure)⟩,
          { storage with manager })
      | (.ok (some object), manager) =>
        let (result, plasma) := resealAndGet storage.plasma ⟨id, object.metadata, object.data⟩
        (result, ⟨plasma, manager⟩)
  | .error failure => (.error (Pull.plasmaToStatus failure), storage)

def pullHandler (storage : Storage) (objectId : Bytes) : Except Status (Stream PullKind) × Storage :=
  match parseObjectId objectId with
  | .error status => (.error status, storage)
  | .ok id =>
    match getWithRestore storage id with
    | (.error status, storage) => (.error status, storage)
    | (.ok (metadata, data), storage) => (.ok (pullFrames metadata data), storage)

def pushChunkSize : Nat := 64 * 1024

/-- `chunks` of a slice. -/
def chunks (bytes : Bytes) : List Bytes :=
  if bytes.length = 0 then [] else bytes.take pushChunkSize :: chunks (bytes.drop pushChunkSize)
termination_by bytes.length
decreasing_by
  have positive : 0 < pushChunkSize := by decide
  rw [List.length_drop]
  omega

def pushFrames (objectId metadata data : Bytes) : Stream PushKind :=
  .ok (some (.header objectId metadata data.length)) ::
    (chunks data).map fun chunk => .ok (some (.data chunk))

end Senders

section Receivers

def collect (data : Bytes) : Stream PullKind → Except ClientError Bytes
  | [] => .ok data
  | .error status :: _ => .error (.status status)
  | .ok (some (.data bytes)) :: rest => collect (data ++ bytes) rest
  | .ok (some (.objectMetadata ..)) :: _ =>
    .error (.malformed "received second metadata frame mid-stream")
  | .ok none :: _ => .error (.malformed "received empty pull frame")

def pull : Stream PullKind → Except ClientError PulledObject
  | [] => .error (.malformed "pull stream closed before metadata")
  | .error status :: _ => .error (.status status)
  | .ok (some (.objectMetadata metadata dataSize)) :: rest => do
    let data ← collect [] rest
    if data.length = dataSize then .ok ⟨metadata, data⟩ else .error (.shortRead dataSize data.length)
  | .ok (some (.data bytes)) :: _ =>
    .error (.malformed s!"first pull frame must be metadata, got Some(Data({bytes}))")
  | .ok none :: _ => .error (.malformed "first pull frame must be metadata, got None")

def invalid (message : String) : Status := ⟨.invalidArgument, message⟩

/-- The push handler checks the announced size with every frame. -/
def gather (dataSize : Nat) (data : Bytes) : Stream PushKind → Except Status Bytes
  | [] =>
    if data.length = dataSize then .ok data
    else .error (invalid s!"push short read: header promised {dataSize} bytes, got {data.length}")
  | .error status :: _ => .error status
  | .ok (some (.data bytes)) :: rest =>
    if dataSize < data.length + bytes.length then
      .error (invalid (s!"push data overran header.data_size: header said {dataSize}, " ++
        s!"received {data.length} so far + {bytes.length} more"))
    else gather dataSize (data ++ bytes) rest
  | .ok (some (.header ..)) :: _ => .error (invalid "received second header frame mid-stream")
  | .ok none :: _ => .error (invalid "received empty push frame")

/-- An object that is already there counts as stored. -/
def sealPushed (store : Store) (call : Call) : Except Status Unit × Store :=
  match store.createAndSeal call with
  | (.ok (), store) => (.ok (), store)
  | (.error (.server .alreadyExists _), store) => (.ok (), store)
  | (.error failure, store) => (.error ⟨.internal, "plasma: " ++ Pull.plasmaErrorText failure⟩, store)

def pushHandler (store : Store) : Stream PushKind → Except Status Unit × Store
  | [] => (.error (invalid "push stream closed before header"), store)
  | .error status :: _ => (.error status, store)
  | .ok (some (.header objectId metadata dataSize)) :: rest =>
    match parseObjectId objectId with
    | .error status => (.error status, store)
    | .ok id =>
      match gather dataSize [] rest with
      | .error status => (.error status, store)
      | .ok data => sealPushed store ⟨id, metadata, data⟩
  | .ok (some (.data _)) :: _ => (.error (invalid "first push frame must be a Header, got Data"), store)
  | .ok none :: _ => (.error (invalid "first push frame is empty"), store)

end Receivers

/-- Data frames only, and together as long as announced. -/
def Announced {Kind : Type} (data : Bytes → Kind) (dataSize : Nat) (rest : Stream Kind) : Prop :=
  ∃ pieces : List Bytes, rest = pieces.map (fun piece => .ok (some (data piece))) ∧
    pieces.flatten.length = dataSize

def WellFormedPull (stream : Stream PullKind) : Prop :=
  ∃ metadata dataSize rest, stream = .ok (some (.objectMetadata metadata dataSize)) :: rest ∧
    Announced .data dataSize rest

def WellFormedPush (stream : Stream PushKind) : Prop :=
  ∃ objectId metadata dataSize rest,
    stream = .ok (some (.header objectId metadata dataSize)) :: rest ∧ Announced .data dataSize rest

theorem slicesFrom_flatten (data : Bytes) (start : Nat) :
    (slicesFrom data start).flatten = data.drop start := by
  fun_induction slicesFrom data start with
  | case1 start inside stop ih =>
    rw [List.flatten_cons, ih]
    have ordered : start ≤ stop := by omega
    rw [← Nat.add_sub_cancel' ordered, ← List.drop_drop, Nat.add_sub_cancel_left]
    exact List.take_append_drop ..
  | case2 start beyond =>
    rw [List.drop_eq_nil_of_le (Nat.le_of_not_lt beyond)]
    rfl

theorem chunks_flatten (bytes : Bytes) : (chunks bytes).flatten = bytes := by
  fun_induction chunks bytes with
  | case1 bytes empty => exact (List.eq_nil_of_length_eq_zero empty).symm
  | case2 bytes some ih => rw [List.flatten_cons, ih, List.take_append_drop]

theorem collect_data (data : Bytes) (pieces : List Bytes) :
    collect data (pieces.map fun piece => .ok (some (.data piece))) = .ok (data ++ pieces.flatten) := by
  induction pieces generalizing data with
  | nil => simp [collect]
  | cons piece pieces ih => simp only [List.map_cons, collect, ih, List.flatten_cons, List.append_assoc]

theorem collect_ok {data all : Bytes} {rest : Stream PullKind} (collected : collect data rest = .ok all) :
    ∃ pieces : List Bytes, rest = pieces.map (fun piece => .ok (some (.data piece))) ∧
      all = data ++ pieces.flatten := by
  induction rest generalizing data with
  | nil =>
    cases collected
    exact ⟨[], rfl, (List.append_nil _).symm⟩
  | cons frame rest ih =>
    cases frame with
    | error status => cases collected
    | ok kind =>
      cases kind with
      | none => cases collected
      | some kind =>
        cases kind with
        | objectMetadata metadata dataSize => cases collected
        | data bytes =>
          obtain ⟨pieces, rfl, rfl⟩ := ih collected
          exact ⟨bytes :: pieces, rfl, by rw [List.flatten_cons, List.append_assoc]⟩

theorem gather_data {dataSize : Nat} {data : Bytes} {pieces : List Bytes}
    (sized : (data ++ pieces.flatten).length = dataSize) :
    gather dataSize data (pieces.map fun piece => .ok (some (.data piece))) =
      .ok (data ++ pieces.flatten) := by
  induction pieces generalizing data with
  | nil =>
    rw [List.flatten_nil, List.append_nil] at sized ⊢
    simp only [List.map_nil, gather, if_pos sized]
  | cons piece pieces ih =>
    rw [List.flatten_cons, ← List.append_assoc] at sized ⊢
    have within : ¬ dataSize < data.length + piece.length := by
      simp only [List.length_append] at sized
      omega
    simp only [List.map_cons, gather, if_neg within, ih sized]

theorem gather_ok {dataSize : Nat} {data all : Bytes} {rest : Stream PushKind}
    (gathered : gather dataSize data rest = .ok all) :
    ∃ pieces : List Bytes, rest = pieces.map (fun piece => .ok (some (.data piece))) ∧
      all = data ++ pieces.flatten ∧ all.length = dataSize := by
  induction rest generalizing data with
  | nil =>
    simp only [gather] at gathered
    split at gathered
    · rename_i sized
      cases gathered
      exact ⟨[], rfl, (List.append_nil _).symm, sized⟩
    · cases gathered
  | cons frame rest ih =>
    cases frame with
    | error status => cases gathered
    | ok kind =>
      cases kind with
      | none => cases gathered
      | some kind =>
        cases kind with
        | header objectId metadata dataSize => cases gathered
        | data bytes =>
          simp only [gather] at gathered
          split at gathered
          · cases gathered
          · obtain ⟨pieces, rfl, rfl, sized⟩ := ih gathered
            exact ⟨bytes :: pieces, rfl, by rw [List.flatten_cons, List.append_assoc], sized⟩

theorem pull_pullFrames (metadata data : Bytes) :
    pull (pullFrames metadata data) = .ok ⟨metadata, data⟩ := by
  have whole : (slicesFrom data 0).flatten = data := slicesFrom_flatten data 0
  simp only [pull, pullFrames, collect_data, whole, List.nil_append, bind, Except.bind, if_true]

theorem wellFormed_of_pull {stream : Stream PullKind} (pulled : pull stream = .ok object) :
    WellFormedPull stream := by
  cases stream with
  | nil => cases pulled
  | cons frame rest =>
    cases frame with
    | error status => cases pulled
    | ok kind =>
      cases kind with
      | none => cases pulled
      | some kind =>
        cases kind with
        | data bytes => cases pulled
        | objectMetadata metadata dataSize =>
          simp only [pull] at pulled
          cases collected : collect [] rest with
          | error failure => rw [collected] at pulled; cases pulled
          | ok data =>
            simp only [collected, bind, Except.bind] at pulled
            split at pulled
            · rename_i sized
              obtain ⟨pieces, rfl, rfl⟩ := collect_ok collected
              exact ⟨metadata, dataSize, _, rfl, pieces, rfl, by simpa using sized⟩
            · cases pulled

theorem pushHandler_pushFrames (store : Store) (id : ObjectId) (metadata data : Bytes) :
    pushHandler store (pushFrames id.bytes metadata data) = sealPushed store ⟨id, metadata, data⟩ := by
  have whole : ([] ++ (chunks data).flatten).length = data.length := by
    rw [List.nil_append, chunks_flatten]
  have gathered := gather_data whole
  rw [List.nil_append, chunks_flatten] at gathered
  simp only [pushHandler, pushFrames, parseObjectId, parseId_bytes, gathered]

/-- A stream that is not as announced is refused before the store is asked. -/
theorem pushHandler_malformed (store : Store) {stream : Stream PushKind}
    (malformed : ¬ WellFormedPush stream) : ∃ status, pushHandler store stream = (.error status, store) := by
  cases stream with
  | nil => exact ⟨_, rfl⟩
  | cons frame rest =>
    cases frame with
    | error status => exact ⟨status, rfl⟩
    | ok kind =>
      cases kind with
      | none => exact ⟨_, rfl⟩
      | some kind =>
        cases kind with
        | data bytes => exact ⟨_, rfl⟩
        | header objectId metadata dataSize =>
          simp only [pushHandler]
          cases parseObjectId objectId with
          | error status => exact ⟨status, rfl⟩
          | ok id =>
            cases gathered : gather dataSize [] rest with
            | error status => exact ⟨status, rfl⟩
            | ok data =>
              obtain ⟨pieces, rfl, rfl, sized⟩ := gather_ok gathered
              exact absurd ⟨objectId, metadata, dataSize, _, rfl, pieces, rfl, by simpa using sized⟩ malformed

theorem createAndSeal_fresh {store : Store} {call : Call} (absent : store.objects.lookup call.id = none)
    (room : store.Room call) : ∃ arena, store.createAndSeal call =
      (.ok (), ⟨arena, store.objects.insert call.id ⟨call.metadata, call.data, true⟩⟩) := by
  have done := (store.createAndSeal_ok_iff call).mpr ⟨absent, room⟩
  rcases store.createAndSeal_cases call with ⟨_, answer⟩ | ⟨_, ⟨message, arena, answer⟩ | ⟨_, arena, answer⟩⟩
  · rw [answer] at done
    cases done
  · rw [answer] at done
    cases done
  · exact ⟨arena, answer⟩

theorem sealPushed_fresh {store : Store} {call : Call} (absent : store.objects.lookup call.id = none)
    (room : store.Room call) : ∃ after, sealPushed store call = (.ok (), after) ∧
      after.get call.id = .ok (call.metadata, call.data) ∧
      ∀ other, other ≠ call.id → after.objects.lookup other = store.objects.lookup other := by
  obtain ⟨arena, answer⟩ := createAndSeal_fresh absent room
  refine ⟨_, by rw [sealPushed, answer], ?_, ?_⟩
  · simp only [Store.get, FiniteMap.lookup_insert_self, if_true]
  · intro other different
    simp only [FiniteMap.lookup_insert, if_neg different]

/-- The object the raylet has, in plasma or only in a spill file. -/
def Storage.Has (storage : Storage) (id : ObjectId) (metadata data : Bytes) : Prop :=
  storage.plasma.get id = .ok (metadata, data) ∨
    storage.plasma.objects.lookup id = none ∧ storage.plasma.Room ⟨id, metadata, data⟩ ∧
      ∃ manager, storage.manager = some manager ∧ manager.Keeps id ⟨metadata, data⟩

theorem getWithRestore_has {storage : Storage} {id : ObjectId} (has : storage.Has id metadata data) :
    (getWithRestore storage id).1 = .ok (metadata, data) := by
  rcases has with found | ⟨absent, room, manager, configured, keeps⟩
  · simp only [getWithRestore, found]
  · have missed : storage.plasma.get id = .error (.server .notFound "not found") := by
      simp only [Store.get, absent]
    have resealed : (resealAndGet storage.plasma ⟨id, metadata, data⟩).1 = .ok (metadata, data) := by
      obtain ⟨arena, answer⟩ := createAndSeal_fresh absent room
      simp only [resealAndGet, answer, Store.get, FiniteMap.lookup_insert_self, if_true, Except.mapError]
    simp only [getWithRestore, missed, configured, LocalObjectManager.restore_keeps keeps, resealed]

/-- What is sent is what arrives, both ways and for every object; and a stream that is
not a first frame followed by the announced amount of data is an error to both
receivers, with plasma untouched. -/
theorem transport_lossless :
    (∀ (storage : Storage) (id : ObjectId) metadata data, storage.Has id metadata data →
      ∃ stream, (pullHandler storage id.bytes).1 = .ok stream ∧ pull stream = .ok ⟨metadata, data⟩) ∧
    (∀ (store : Store) (id : ObjectId) metadata data, store.objects.lookup id = none →
      store.Room ⟨id, metadata, data⟩ →
      ∃ after, pushHandler store (pushFrames id.bytes metadata data) = (.ok (), after) ∧
        after.get id = .ok (metadata, data) ∧
        ∀ other, other ≠ id → after.objects.lookup other = store.objects.lookup other) ∧
    (∀ stream, ¬ WellFormedPull stream → ∃ failure, pull stream = .error failure) ∧
    ∀ store stream, ¬ WellFormedPush stream →
      ∃ status, pushHandler store stream = (.error status, store) := by
  refine ⟨?_, ?_, ?_, ?_⟩
  · intro storage id metadata data has
    refine ⟨pullFrames metadata data, ?_, pull_pullFrames metadata data⟩
    have found := getWithRestore_has has
    simp only [pullHandler, parseObjectId, parseId_bytes]
    split
    · rename_i failed
      rw [failed] at found
      cases found
    · rename_i answer
      rw [answer] at found
      cases found
      rfl
  · intro store id metadata data absent room
    rw [pushHandler_pushFrames]
    exact sealPushed_fresh absent room
  · intro stream malformed
    cases pulled : pull stream with
    | error failure => exact ⟨failure, rfl⟩
    | ok object => exact absurd (wellFormed_of_pull pulled) malformed
  · intro store stream malformed
    exact pushHandler_malformed store malformed

def spare : Store := ⟨⟨2, 131072, 0, by decide, by decide⟩, ∅⟩

/-- One byte more than a chunk holds. -/
def sampleData : Bytes := List.replicate (pushChunkSize + 1) 7

theorem spare_room (sized : data.length = pushChunkSize + 1) : spare.Room ⟨.nil 28, [1, 2], data⟩ := by
  simp only [Store.Room, Store.reserve, sized]
  decide

/-- Data of two chunks pushed into an empty plasma and pulled out again; a stream that
stops one byte before its end is refused. -/
theorem transport_lossless_chunks :
    (∃ after, pushHandler spare (pushFrames (Id.nil 28).bytes [1, 2] sampleData) = (.ok (), after) ∧
      ∃ stream, (pullHandler ⟨after, none⟩ (Id.nil 28).bytes).1 = .ok stream ∧
        pull stream = .ok ⟨[1, 2], sampleData⟩) ∧
    ∃ status, pushHandler spare
      [.ok (some (.header (Id.nil 28).bytes [] 4)), .ok (some (.data [1, 2])), .ok (some (.data [3]))] =
        (.error status, spare) := by
  obtain ⟨pulls, pushes, _, refuses⟩ := transport_lossless
  refine ⟨?_, ?_⟩
  · obtain ⟨after, answer, found, _⟩ :=
      pushes spare (Id.nil 28) [1, 2] sampleData rfl (spare_room List.length_replicate)
    exact ⟨after, answer, pulls ⟨after, none⟩ (Id.nil 28) [1, 2] sampleData (.inl found)⟩
  · apply refuses
    rintro ⟨objectId, metadata, dataSize, rest, same, pieces, rfl, sized⟩
    cases pieces with
    | nil => cases same
    | cons piece pieces => cases pieces with
      | nil => cases same
      | cons second pieces => cases pieces with
        | nil => cases same; cases sized
        | cons third pieces => cases same

end Rayd.Raylet.Transport
