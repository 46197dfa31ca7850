import Rayd.Lib.Transition
import Rayd.Plasma.Client
import Mathlib.Logic.Function.Basic

/-! Any number of plasma clients against one server. Each step is one critical
section: a locked part of a handler, one arena allocation, or one direct write
of a client into the slot it was given. `create_and_seal` is the create request,
the two slot writes and the seal request, in that order and by id only. -/
namespace Rayd.Plasma
open Memory Transition

namespace Interleaving

/-- Where a client's connection stands. The first four phases are inside the
server's `handle_create`, the other three in the client. -/
inductive Phase where
  | idle
  | check (call : Call)
  | allocMetadata (call : Call)
  | allocData (call : Call) (metadataOffset : Nat)
  | insert (call : Call) (metadataOffset dataOffset : Nat)
  | writeMetadata (call : Call) (info : SlotInfo)
  | writeData (call : Call) (info : SlotInfo)
  | sealing (call : Call) (info : SlotInfo)

structure System where
  server : Server
  clients : Nat → Phase

namespace System

def start (server : Server) : System := ⟨server, fun _ => .idle⟩

def move (s : System) (server : Server) (client : Nat) (phase : Phase) : System :=
  ⟨server, Function.update s.clients client phase⟩

end System

inductive Event where
  | started (client : Nat) (call : Call)
  | refused (client : Nat) (call : Call) (reply : Response)
  | checked (client : Nat) (call : Call)
  | allocated (client : Nat) (call : Call)
  | inserted (client : Nat) (call : Call) (info : SlotInfo)
  | wroteMetadata (client : Nat) (call : Call) (info : SlotInfo)
  | wrote (client : Nat) (call : Call) (info : SlotInfo)
  | sealed (client : Nat) (call : Call) (info : SlotInfo) (reply : Response)
  | abandoned (client : Nat)
  | got (client : Nat) (id : ObjectId) (reply : Response)
  | deleted (client : Nat) (id : ObjectId)

/-- The entry `handle_create` inserts for a call. -/
def freshEntry (call : Call) (metadataOffset dataOffset : Nat) : ObjectEntry :=
  ⟨metadataOffset, call.metadata.length, dataOffset, call.data.length, false⟩

inductive Step (s : System) : Event → System → Prop where
  | start : s.clients client = .idle →
      Step s (.started client call) (s.move s.server client (.check call))
  | checkRefused : s.clients client = .check call → s.server.createCheck call.id = some reply →
      Step s (.refused client call reply) (s.move s.server client .idle)
  | checkPassed : s.clients client = .check call → s.server.createCheck call.id = none →
      Step s (.checked client call) (s.move s.server client (.allocMetadata call))
  | allocMetadata : s.clients client = .allocMetadata call →
      s.server.createAlloc call.metadata.length = .ok (offset, server) →
      Step s (.allocated client call) (s.move server client (.allocData call offset))
  | allocMetadataRefused : s.clients client = .allocMetadata call →
      s.server.createAlloc call.metadata.length = .error reply →
      Step s (.refused client call reply) (s.move s.server client .idle)
  | allocData : s.clients client = .allocData call metadataOffset →
      s.server.createAlloc call.data.length = .ok (offset, server) →
      Step s (.allocated client call) (s.move server client (.insert call metadataOffset offset))
  | allocDataRefused : s.clients client = .allocData call metadataOffset →
      s.server.createAlloc call.data.length = .error reply →
      Step s (.refused client call reply) (s.move s.server client .idle)
  | insert : s.clients client = .insert call metadataOffset dataOffset →
      s.server.createInsert call.id (freshEntry call metadataOffset dataOffset) =
        (.created info, server) →
      Step s (.inserted client call info) (s.move server client (.writeMetadata call info))
  | writeMetadata : s.clients client = .writeMetadata call info →
      Step s (.wroteMetadata client call info)
        (s.move (s.server.writeMetadata info call.metadata) client (.writeData call info))
  | writeData : s.clients client = .writeData call info →
      Step s (.wrote client call info)
        (s.move (s.server.writeData info call.data) client (.sealing call info))
  | sealRequest : s.clients client = .sealing call info →
      s.server.handleSeal call.id = (reply, server) →
      Step s (.sealed client call info reply) (s.move server client .idle)
  /-- A client that goes away with its write handle; the server cleans nothing. -/
  | abandon : (s.clients client = .writeMetadata call info ∨ s.clients client = .writeData call info ∨
        s.clients client = .sealing call info) →
      Step s (.abandoned client) (s.move s.server client .idle)
  | get : s.clients client = .idle →
      Step s (.got client object (s.server.handleGet object)) s
  | delete : s.clients client = .idle →
      Step s (.deleted client object) (s.move (s.server.handleDelete object).2 client .idle)

end Interleaving
end Rayd.Plasma
