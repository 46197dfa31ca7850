import Rayd.Lib.Transition
import Rayd.Plasma.Wire
import Mathlib.Logic.Function.Basic

/-! The server's connection threads, request by request. A thread answers most
requests in one locked part; a create takes its table checks and allocations one at
a time, and `Contains` copies the metadata after it has let the table go. Whoever
was given a slot may write into it at any time, sealed or deleted or not. The bytes
on the socket are left out here. -/
namespace Rayd.Plasma
open Memory Transition

namespace SlotInfo

def regions (info : SlotInfo) : List Region := [info.metadata, info.data]

end SlotInfo

namespace Server

def containsReply (server : Server) : Option ObjectEntry → Response
  | none => .contains false none false
  | some entry =>
    .contains true (if entry.isSealed then some (read server.memory entry.metadata) else none)
      entry.isSealed

/-- The requests that are answered in one locked part. -/
def answer (server : Server) : Request → Option (Response × Server)
  | .sealObject id => some (server.handleSeal id)
  | .get id => some (server.handleGet id, server)
  | .contains id =>
    match server.objects.lookup id with
    | some entry => if entry.isSealed then none else some (server.containsReply (some entry), server)
    | none => some (server.containsReply none, server)
  | .release id | .delete id => some (server.handleDelete id)
  | .list => some (server.handleList, server)
  | .create _ | .disconnect => none

end Server

namespace Connections

inductive Phase where
  /-- In `recv_frame`. -/
  | idle
  | pending (request : Request)
  | allocMetadata (request : CreateRequest)
  | allocData (request : CreateRequest) (metadataOffset : Nat)
  | insert (request : CreateRequest) (metadataOffset dataOffset : Nat)
  /-- In `handle_contains`, past the table lock. -/
  | readCopy (id : ObjectId) (entry : ObjectEntry)
  | closed

structure System where
  server : Server
  threads : Nat → Phase
  /-- Every slot a `Created` reply has handed out, oldest first. -/
  slots : List SlotInfo

namespace System

def start (server : Server) : System := ⟨server, fun _ => .idle, []⟩

def move (s : System) (server : Server) (client : Nat) (phase : Phase) : System :=
  { s with server, threads := Function.update s.threads client phase }

end System

inductive Event where
  | received (client : Nat) (request : Request)
  | checked (client : Nat)
  | allocated (client : Nat)
  | lookedUp (client : Nat)
  | answered (client : Nat) (request : Request) (response : Response)
  | closed (client : Nat)
  | wrote (slot : Nat) (start : Nat) (bytes : Bytes)

def freshEntry (request : CreateRequest) (metadataOffset dataOffset : Nat) : ObjectEntry :=
  ⟨metadataOffset, request.metadataSize.toNat, dataOffset, request.dataSize.toNat, false⟩

inductive Step (s : System) : Event → System → Prop where
  | receive : s.threads client = .idle →
      Step s (.received client request) (s.move s.server client (.pending request))
  | answer : s.threads client = .pending request → s.server.answer request = some (response, server) →
      Step s (.answered client request response) (s.move server client .idle)
  | createRefused : s.threads client = .pending (.create request) →
      s.server.createCheck request.objectId = some response →
      Step s (.answered client (.create request) response) (s.move s.server client .idle)
  | createChecked : s.threads client = .pending (.create request) →
      s.server.createCheck request.objectId = none →
      Step s (.checked client) (s.move s.server client (.allocMetadata request))
  | allocMetadata : s.threads client = .allocMetadata request →
      s.server.createAlloc request.metadataSize.toNat = .ok (offset, server) →
      Step s (.allocated client) (s.move server client (.allocData request offset))
  | allocMetadataRefused : s.threads client = .allocMetadata request →
      s.server.createAlloc request.metadataSize.toNat = .error response →
      Step s (.answered client (.create request) response) (s.move s.server client .idle)
  | allocData : s.threads client = .allocData request metadataOffset →
      s.server.createAlloc request.dataSize.toNat = .ok (offset, server) →
      Step s (.allocated client) (s.move server client (.insert request metadataOffset offset))
  | allocDataRefused : s.threads client = .allocData request metadataOffset →
      s.server.createAlloc request.dataSize.toNat = .error response →
      Step s (.answered client (.create request) response) (s.move s.server client .idle)
  | insert : s.threads client = .insert request metadataOffset dataOffset →
      s.server.createInsert request.objectId (freshEntry request metadataOffset dataOffset) =
        (.created info, server) →
      Step s (.answered client (.create request) (.created info))
        { s.move server client .idle with slots := s.slots ++ [info] }
  | lookUp : s.threads client = .pending (.contains object) →
      s.server.objects.lookup object = some entry → entry.isSealed = true →
      Step s (.lookedUp client) (s.move s.server client (.readCopy object entry))
  | readCopy : s.threads client = .readCopy object entry →
      Step s (.answered client (.contains object) (s.server.containsReply (some entry)))
        (s.move s.server client .idle)
  | disconnect : s.threads client = .pending .disconnect →
      Step s (.closed client) (s.move s.server client .closed)
  /-- Through a `WriteHandle`, somewhere inside one of its two slices. -/
  | write : s.slots[slot]? = some info → region ∈ info.regions → region.offset ≤ start →
      start + bytes.length ≤ region.stop →
      Step s (.wrote slot start bytes)
        { s with server := { s.server with memory := Memory.write s.server.memory start bytes } }

end Connections
end Rayd.Plasma
