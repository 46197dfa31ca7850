import Rayd.Plasma.Server

/-! The plasma client: requests against the server and direct access to the
mapped slots. The functions here run one whole client call with no other request
in between; `Interleaving` runs the same parts one critical section at a time.
Transport and mapping failures are not modeled. -/
namespace Rayd.Plasma
open Memory

inductive PlasmaError where
  | server (kind : ServerErrorKind) (message : String)
  | protocol (message : String)
  deriving DecidableEq, Repr

namespace SlotInfo

def metadata (info : SlotInfo) : Region := ⟨info.metadataOffset, info.metadataSize⟩
def data (info : SlotInfo) : Region := ⟨info.dataOffset, info.dataSize⟩

end SlotInfo

/-- The arguments of one `create_and_seal`. -/
structure Call where
  id : ObjectId
  metadata : Bytes
  data : Bytes
  deriving DecidableEq, Repr

namespace Server

/-- `WriteHandle::write_metadata`: at most the slot's size is copied. -/
def writeMetadata (server : Server) (info : SlotInfo) (bytes : Bytes) : Server :=
  { server with memory := write server.memory info.metadataOffset (bytes.take info.metadataSize) }

def writeData (server : Server) (info : SlotInfo) (bytes : Bytes) : Server :=
  { server with memory := write server.memory info.dataOffset (bytes.take info.dataSize) }

/-- `ReadHandle::metadata` and `ReadHandle::data`: both read the shared mapping
when they are called, not when the handle was made. -/
def view (server : Server) (info : SlotInfo) : Bytes × Bytes :=
  (read server.memory info.metadata, read server.memory info.data)

def sealObject (server : Server) (id : ObjectId) : Except PlasmaError Unit × Server :=
  match server.handleSeal id with
  | (.ok, server) => (.ok (), server)
  | (.error kind message, server) => (.error (.server kind message), server)
  | (_, server) => (.error (.protocol "unexpected reply to Seal"), server)

def createAndSeal (server : Server) (call : Call) : Except PlasmaError Unit × Server :=
  match server.handleCreate call.id call.metadata.length call.data.length with
  | (.created info, server) =>
    ((server.writeMetadata info call.metadata).writeData info call.data).sealObject call.id
  | (.error kind message, server) => (.error (.server kind message), server)
  | (_, server) => (.error (.protocol "unexpected reply to Create"), server)

/-- `get` and a copy of both slices. -/
def get (server : Server) (id : ObjectId) : Except PlasmaError (Bytes × Bytes) :=
  match server.handleGet id with
  | .got info => .ok (server.view info)
  | .error kind message => .error (.server kind message)
  | _ => .error (.protocol "unexpected reply to Get")

def delete (server : Server) (id : ObjectId) : Server := (server.handleDelete id).2

end Server
end Rayd.Plasma
