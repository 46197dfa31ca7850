import Rayd.Core.Pressure
import Rayd.Raylet.NodeIndex
import Rayd.Raylet.Transport

/-! `fetch_object`: a driver brings an object of another owner into its own plasma. The
other processes appear by their answers, failures as the text they are reported with.
While the pull is under way the session may change: plasma is shared, and the holder
may be this node's own raylet. -/
namespace Rayd.Raylet.Fetch
open Memory Plasma Core Spill Gcs Transport

/-- What is raised in Python. -/
inductive PyError where
  | value (message : String)
  | runtime (message : String)
  deriving DecidableEq

structure GcsBinding where
  nodeId : NodeId
  listNodes : Except String (List NodeInfo)
  toSocketAddrs : Host → Nat → List SocketAddr
  getObjectLocationsAt : SocketAddr → ObjectId → Except String (List NodeId)
  pullFrom : SocketAddr → ObjectId → Session → Except String PulledObject × Session
  registerObjectAt : SocketAddr → ObjectId → NodeId → Except String Unit

section Texts

def shortHex (bytes : Bytes) : String := String.ofList (hex (bytes.take 4))

def serverErrorKindText : ServerErrorKind → String
  | .notFound => "NotFound"
  | .alreadyExists => "AlreadyExists"
  | .outOfMemory => "OutOfMemory"
  | .notSealed => "NotSealed"
  | .alreadySealed => "AlreadySealed"
  | .internal => "Internal"

def plasmaErrorText : PlasmaError → String
  | .server kind message => "plasma server error: " ++ serverErrorKindText kind ++ ": " ++ message
  | .protocol message => "plasma protocol mismatch: " ++ message

def coreErrorText : CoreError → String
  | .plasma failure => "plasma: " ++ plasmaErrorText failure
  | .recovery objectId reason =>
    "recovery failed for " ++ String.ofList objectId ++ ": " ++ String.ofList reason

def metadataDecodeErrorText : MetadataDecodeError → String
  | .empty => "metadata buffer is empty"
  | .unknownDiscriminator byte => "unknown metadata discriminator: " ++ toString byte
  | .truncated expected got =>
    "metadata buffer truncated: needed " ++ toString expected ++ " bytes, got " ++ toString got
  | .unknownErrorCategory byte => "unknown error category byte: " ++ toString byte

def parseObjectId28 (bytes : Bytes) : Except PyError ObjectId :=
  match Id.fromBytes? 28 bytes with
  | some id => .ok id
  | none => .error (.value ("object_id requires 28 bytes, got " ++ toString bytes.length))

def parseNodeId16 (bytes : Bytes) : Except PyError NodeId :=
  match Id.fromBytes? 16 bytes with
  | some id => .ok id
  | none => .error (.value ("node_id requires 16 bytes, got " ++ toString bytes.length))

end Texts

namespace GcsBinding

/-- The first entry of the node decides; names are looked up. -/
def rayletAddrFor (binding : GcsBinding) (nodes : List NodeInfo) (node : NodeId) : Option SocketAddr :=
  match nodes with
  | [] => none
  | info :: rest =>
    match info.address with
    | none => binding.rayletAddrFor rest node
    | some address =>
      if address.nodeId ≠ node.bytes then binding.rayletAddrFor rest node
      else if address.port < 65536 then (binding.toSocketAddrs address.host address.port).head?
      else none

/-- The owner's address and that of the holder to pull from, another node than this
one if there is one. -/
def locate (binding : GcsBinding) (id : ObjectId) (owner : NodeId) :
    Except PyError (SocketAddr × SocketAddr) := do
  let nodes ← binding.listNodes.mapError fun failure => .runtime ("list_nodes: " ++ failure)
  let ownerAddr ← match binding.rayletAddrFor nodes owner with
    | some addr => .ok addr
    | none => .error (.runtime ("owner node " ++ shortHex owner.bytes ++ " not found in GCS"))
  let locations ← (binding.getObjectLocationsAt ownerAddr id).mapError
    fun failure => .runtime ("get_object_locations: " ++ failure)
  let holder ← match (locations.find? (· ≠ binding.nodeId)).or locations.head? with
    | some node => .ok node
    | none => .error (.runtime ("no holder registered for object " ++ shortHex id.bytes))
  let holderAddr ← match binding.rayletAddrFor nodes holder with
    | some addr => .ok addr
    | none => .error (.runtime ("holder node " ++ shortHex holder.bytes ++ " not found in GCS"))
  return (ownerAddr, holderAddr)

/-- From the pulled object on. -/
def sealPulled (binding : GcsBinding) (s : Session) (id : ObjectId) (ownerAddr : SocketAddr)
    (pulled : PulledObject) : Except PyError Unit × Session :=
  match Metadata.decode pulled.metadata with
  | .error failure => (.error (.runtime ("decode metadata: " ++ metadataDecodeErrorText failure)), s)
  | .ok metadata =>
    match s.sealValueToPlasma id metadata pulled.data with
    | (.ok _, s) | (.error (.plasma (.server .alreadyExists _)), s) =>
      match binding.registerObjectAt ownerAddr id binding.nodeId with
      | .ok () => (.ok (), s)
      | .error failure => (.error (.runtime ("register at owner: " ++ failure)), s)
    | (.error failure, s) => (.error (.runtime ("seal_into_plasma: " ++ coreErrorText failure)), s)

def fetch (binding : GcsBinding) (s : Session) (id : ObjectId) (owner : NodeId) :
    Except PyError Unit × Session :=
  match binding.locate id owner with
  | .error failure => (.error failure, s)
  | .ok (ownerAddr, holderAddr) =>
    match binding.pullFrom holderAddr id s with
    | (.error failure, s) => (.error (.runtime ("pull: " ++ failure)), s)
    | (.ok pulled, s) => binding.sealPulled s id ownerAddr pulled

end GcsBinding

def fetchObject (gcs : Option GcsBinding) (s : Session) (objectId ownerNodeId : Bytes) :
    Except PyError Unit × Session :=
  match parseObjectId28 objectId, parseNodeId16 ownerNodeId, gcs with
  | .error failure, _, _ => (.error failure, s)
  | _, .error failure, _ => (.error failure, s)
  | _, _, none =>
    (.error (.runtime "no GCS connection (set RAYD_GCS_ADDRESS before rayd.init())"), s)
  | .ok id, .ok owner, some binding => binding.fetch s id owner

section Spilled
variable {s t : Session} {id : ObjectId} {object : RestoredObject}

/-- The object is in plasma, or on disk under its directory entry. -/
def Safe (s : Session) (id : ObjectId) (object : RestoredObject) : Prop :=
  s.plasma.objects.lookup id = some ⟨object.metadata, object.data, true⟩ ∨
    s.plasma.objects.lookup id = none ∧
      ∃ manager, s.worker.recoverer = some manager ∧ manager.Keeps id object

end Spilled

/-- What the seal of a pulled object finds: the id is not in plasma, and the pressure check
leaves the new object there or it fits a second time; or the id is there, and this driver
has an entry that leads to these bytes already. -/
inductive Ready (s : Session) (id : ObjectId) (metadata : Metadata) (data : Bytes) : Prop where
  | absent : s.plasma.objects.lookup id = none →
      ((s.sealedSession id metadata data).Stays id ∨
        Store.RoomAll s.plasma.arena [⟨id, metadata.encode, data⟩, ⟨id, metadata.encode, data⟩]) →
      Ready s id metadata data
  | indexed : s.plasma.objects.lookup id = some ⟨held, data, true⟩ →
      s.worker.store.getEntry id = some (.plasma ⟨metadata, size⟩) → Ready s id metadata data
  | inline : s.plasma.objects.lookup id = some object →
      s.worker.store.getEntry id = some (.inline ⟨metadata, data⟩) → Ready s id metadata data

section Seals
variable {s t : Session} {id : ObjectId} {metadata : Metadata} {data : Bytes}

end Seals

section Samples

def sampleOwner : NodeId := ⟨1 :: List.replicate 15 0, rfl⟩

def sampleObject : ObjectId := .nil 28

/-- One other node, which owns and holds the object; nothing happens here during the pull. -/
def sampleBinding : GcsBinding where
  nodeId := .nil 16
  listNodes := .ok [⟨some ⟨.literal (.v4 10 0 0 2), 60001, sampleOwner.bytes⟩, .alive, 0⟩]
  toSocketAddrs host port :=
    match host with
    | .literal ip => [⟨ip, port⟩]
    | .name _ => []
  getObjectLocationsAt _ _ := .ok [sampleOwner]
  pullFrom _ _ s := (.ok ⟨(Metadata.pickle5 false).encode, [6, 7]⟩, s)
  registerObjectAt _ _ _ := .ok ()

def sampleSession (objects : FiniteMap ObjectId Object) : Session :=
  ⟨.start .newest (.nil 16) none (2 ^ 64 - 1), ⟨.onePage, objects⟩⟩

end Samples

end Rayd.Raylet.Fetch
