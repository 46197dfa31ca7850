import Rayd.Lib.ByteStream
import Rayd.Plasma.Isolation
import Mathlib.Data.Nat.Digits.Defs

/-! Frames between a plasma client and its connection thread. The sender checks a
body against the four-byte length only, the receiver against the frame limit, and
the receiver takes the header with a single read. Descriptors passed along with a
header are left out, and so are socket failures. -/
namespace Rayd.Plasma.Framing
open Memory ByteStream Transition Connections Wire

inductive FrameError where
  | protocol (message : String)
  | decode
  deriving DecidableEq, Repr

def headerSize : Nat := 4

def sendFrame (written body : Bytes) : Except FrameError Unit × Bytes :=
  if body.length < 2 ^ 32 then (.ok (), written ++ frame body)
  else (.error (.protocol s!"frame too large: {body.length} bytes"), written)

def shortHeader (count : Nat) : FrameError :=
  .protocol s!"short header recv: read {count} bytes, expected {headerSize}"

def tooLarge (length : Nat) : FrameError :=
  .protocol s!"frame too large: {length} bytes (max {maxFrameBytes})"

def recvFrame (pieces : List Bytes) : Except FrameError Bytes × List Bytes :=
  match read headerSize pieces with
  | none => (.error (shortHeader 0), [])
  | some (header, rest) =>
    if header.length = headerSize then
      let length := LittleEndian.decode header
      if maxFrameBytes < length then (.error (tooLarge length), rest)
      else
        match readExact length rest with
        | none => (.error (.protocol "EOF mid-body during recv"), [])
        | some (body, rest) => (.ok body, rest)
    else (.error (shortHeader header.length), rest)

/-- How the socket cuts the bytes in flight. -/
structure Delivery where
  cut : Bytes → List Bytes
  in_order : ∀ bytes, (cut bytes).flatten = bytes

/-- A header that has been sent is there in one read. -/
def Delivery.HeaderWhole (delivery : Delivery) : Prop :=
  ∀ bytes, headerSize ≤ bytes.length → ∃ header rest,
    read headerSize (delivery.cut bytes) = some (header, rest) ∧ header.length = headerSize

/-- One request of a client: what the handlers build for the request they are given,
and how the bytes travel each way. -/
structure Turn where
  request : Request
  reply : Request → Response
  inbound : Delivery
  outbound : Delivery

structure Connection where
  toServer : Bytes
  toClient : Bytes
  /-- The connection thread is still in its loop. -/
  serving : Bool
  deriving DecidableEq

namespace Connection

def fresh : Connection := ⟨[], [], true⟩

/-- One round of `handle_connection`; a frame it cannot receive ends the thread. The
decoder's own words about a malformed request are left out. -/
def serve (connection : Connection) (turn : Turn) : Connection :=
  if connection.serving then
    match recvFrame (turn.inbound.cut connection.toServer) with
    | (.error _, rest) => { connection with toServer := rest.flatten, serving := false }
    | (.ok body, rest) =>
      let response := match decode request body with
        | some received => turn.reply received
        | none => .error .internal "malformed request"
      match sendFrame connection.toClient (Wire.response.encode response) with
      | (.ok (), toClient) => { connection with toServer := rest.flatten, toClient }
      | (.error _, _) => { connection with toServer := rest.flatten, serving := false }
  else connection

def receive (connection : Connection) (turn : Turn) : Except FrameError Response × Connection :=
  match recvFrame (turn.outbound.cut connection.toClient) with
  | (.error failure, rest) => (.error failure, { connection with toClient := rest.flatten })
  | (.ok body, rest) =>
    (match decode response body with
      | some response => .ok response
      | none => .error .decode, { connection with toClient := rest.flatten })

/-- A client call: send, let the thread work, receive. -/
def exchange (connection : Connection) (turn : Turn) : Except FrameError Response × Connection :=
  match sendFrame connection.toServer (request.encode turn.request) with
  | (.error failure, _) => (.error failure, connection)
  | (.ok (), toServer) => ({ connection with toServer }.serve turn).receive turn

def converse : Connection → List Turn → List (Except FrameError Response) × Connection
  | connection, [] => ([], connection)
  | connection, turn :: turns =>
    let (result, connection) := connection.exchange turn
    let (results, connection) := connection.converse turns
    (result :: results, connection)

end Connection

theorem Delivery.HeaderWhole.header {delivery : Delivery} (whole : delivery.HeaderWhole)
    (fits : body.length < 2 ^ 32) :
    ∃ header rest, read headerSize (delivery.cut (frame body)) = some (header, rest) ∧
      (header.length = headerSize ∧ LittleEndian.decode header = body.length) ∧ rest.flatten = body := by
  obtain ⟨header, rest, found, sized⟩ := whole (frame body) (by simp [frame, headerSize])
  have parts := read_flatten found
  rw [delivery.in_order, frame] at parts
  obtain ⟨rfl, sameBody⟩ := List.append_inj parts (by rw [sized, LittleEndian.encode_length]; rfl)
  exact ⟨_, rest, found, ⟨sized, LittleEndian.decode_encode fits⟩, sameBody.symm⟩

/-- A frame alone on its way, with its header in one piece, comes in whole. -/
theorem recvFrame_frame (delivery : Delivery) (whole : delivery.HeaderWhole)
    (small : body.length ≤ maxFrameBytes) :
    ∃ rest, recvFrame (delivery.cut (frame body)) = (.ok body, rest) ∧ rest.flatten = [] := by
  obtain ⟨header, rest, found, ⟨sized, length⟩, behind⟩ := whole.header (small.trans_lt (by decide))
  obtain ⟨left, all, done⟩ := readExact_flatten (behind.trans (List.append_nil _).symm)
  refine ⟨left, ?_, done⟩
  simp only [recvFrame, found, if_pos sized, length, if_neg (Nat.not_lt.mpr small), all]

/-- Both messages of an exchange are within what the format and the frames hold. -/
structure Framed (asked : Request) (answered : Response) : Prop where
  request_fits : request.Fits asked
  request_small : (request.encode asked).length ≤ maxFrameBytes
  response_fits : response.Fits answered
  response_small : (response.encode answered).length ≤ maxFrameBytes

theorem exchange_framed {turn : Turn} (framed : Framed turn.request (turn.reply turn.request))
    (inbound : turn.inbound.HeaderWhole) (outbound : turn.outbound.HeaderWhole) :
    Connection.fresh.exchange turn = (.ok (turn.reply turn.request), .fresh) := by
  obtain ⟨rest, received, emptied⟩ := recvFrame_frame turn.inbound inbound framed.request_small
  obtain ⟨rest', returned, emptied'⟩ := recvFrame_frame turn.outbound outbound framed.response_small
  have sent := framed.request_small.trans_lt (show maxFrameBytes < 2 ^ 32 by decide)
  have replied := framed.response_small.trans_lt (show maxFrameBytes < 2 ^ 32 by decide)
  have understood := decode_encode request framed.request_fits framed.request_small
  have understood' := decode_encode response framed.response_fits framed.response_small
  simp only [Connection.exchange, Connection.fresh, sendFrame, if_pos sent, List.nil_append,
    Connection.serve, received, understood, if_pos replied, Connection.receive, if_true, returned,
    understood', emptied, emptied']

theorem converse_framed {turns : List Turn}
    (framed : ∀ turn ∈ turns, Framed turn.request (turn.reply turn.request))
    (whole : ∀ turn ∈ turns, turn.inbound.HeaderWhole ∧ turn.outbound.HeaderWhole) :
    Connection.fresh.converse turns = (turns.map fun turn => .ok (turn.reply turn.request), .fresh) := by
  induction turns with
  | nil => rfl
  | cons turn turns ih =>
    have first := exchange_framed (framed turn List.mem_cons_self) (whole turn List.mem_cons_self).1
      (whole turn List.mem_cons_self).2
    have others := ih (fun other member => framed other (List.mem_cons_of_mem _ member))
      (fun other member => whole other (List.mem_cons_of_mem _ member))
    simp only [Connection.converse, first, others, List.map_cons]

/-- The states and requests whose messages fit a frame: a create names its owner's
host within the limit, and what a list or a `Contains` copies into its answer is no
longer than the limit leaves room for. -/
def WithinFrames (s : System) : Event → Prop
  | .answered _ (.create request) _ => 74 + request.owner.host.utf8ByteSize ≤ maxFrameBytes
  | .answered _ .list _ => 12 + 28 * s.server.objects.keys.length ≤ maxFrameBytes
  | .answered client (.contains _) _ => ∀ object entry, s.threads client = .readCopy object entry →
      15 + entry.metadataSize ≤ maxFrameBytes
  | _ => True

/-- What a client asked on its connection and what was built for it, in order. -/
def exchanges (client : Nat) (path : List Event) : List (Request × Response) :=
  path.filterMap fun
    | .answered c request response => if c = client then some (request, response) else none
    | _ => none

theorem exchanges_answered (client : Nat) (path : List Event) (asked : Request) (answer : Response) :
    exchanges client (path ++ [.answered client asked answer]) = exchanges client path ++ [(asked, answer)] := by
  simp [exchanges]

theorem request_framed (asked : Request) (small : ∀ create, asked = .create create →
    74 + create.owner.host.utf8ByteSize ≤ maxFrameBytes) :
    request.Fits asked ∧ (request.encode asked).length ≤ maxFrameBytes := by
  have limit : maxFrameBytes = 8388608 := rfl
  rw [request_length]
  cases asked with
  | create create =>
    have bound := small create rfl
    exact ⟨createRequest_fits (by omega), bound⟩
  | _ => exact ⟨trivial, of_decide_eq_true rfl⟩

/-- The answer can be encoded, in at most a frame. -/
def Sendable (answer : Response) : Prop :=
  response.Fits answer ∧ (response.encode answer).length ≤ maxFrameBytes

theorem slot_fits (info : SlotInfo) (small : capacity < 2 ^ 63)
    (mapped : info.arenaId = 0 ∧ info.arenaCapacity = capacity)
    (metadata : info.metadata.stop ≤ capacity) (data : info.data.stop ≤ capacity) :
    slotInfo.Fits info := by
  simp only [Region.stop, SlotInfo.metadata, SlotInfo.data] at metadata data
  exact slotInfo_fits (by omega) (by omega) (by omega) (by omega) (by omega) (by omega)

theorem sendable_error (kind : ServerErrorKind) {message : String} (short : message.utf8ByteSize ≤ 1024) :
    Sendable (.error kind message) := by
  have limit : maxFrameBytes = 8388608 := rfl
  refine ⟨⟨errorKind_fits kind, string_fits ?_⟩, ?_⟩
  · exact short.trans_lt (by decide)
  · rw [response_length, responseSize]
    omega

theorem utf8ByteSize_le (text : String) : text.utf8ByteSize ≤ 4 * text.length := by
  induction text using String.push_induction with
  | empty => decide
  | push text char ih =>
    have one := char.utf8Size_le_four
    rw [String.utf8ByteSize_push, String.length_push]
    omega

theorem decimal_size {number : Nat} (small : number < 2 ^ 64) : (toString number).utf8ByteSize ≤ 80 := by
  have digits := Nat.repr_length number 20 (by decide) (small.trans (by decide))
  have bytes := utf8ByteSize_le (Nat.repr number)
  exact bytes.trans (by omega)

theorem outOfMemory_text (requested remaining : Nat) :
    (ArenaError.outOfMemory requested remaining).toString = "arena out of memory: requested " ++
      toString requested ++ " bytes, only " ++ toString remaining ++ " remaining" := rfl

theorem outOfMemory_short {requested remaining : Nat} (asked : requested < 2 ^ 64)
    (left : remaining < 2 ^ 64) :
    (ArenaError.outOfMemory requested remaining).toString.utf8ByteSize ≤ 1024 := by
  have first := decimal_size asked
  have second := decimal_size left
  have texts : ("arena out of memory: requested ").utf8ByteSize + (" bytes, only ").utf8ByteSize +
      (" remaining").utf8ByteSize = 54 := by decide
  rw [outOfMemory_text, String.utf8ByteSize_append, String.utf8ByteSize_append,
    String.utf8ByteSize_append, String.utf8ByteSize_append]
  omega

theorem containsReply_sealed (server : Server) (entry : ObjectEntry) (isSealed : entry.isSealed = true) :
    ∃ bytes : Bytes, bytes.length = entry.metadataSize ∧
      server.containsReply (some entry) = .contains true (some bytes) true := by
  refine ⟨Memory.read server.memory entry.metadata, ?_, ?_⟩
  · simp only [Memory.read, List.length_map, List.length_range, ObjectEntry.metadata]
  · simp only [Server.containsReply, isSealed, if_true]

theorem sendable_ok : Sendable .ok := ⟨trivial, by decide⟩

section Answers
variable {server : Server}

theorem createCheck_sendable (refused : server.createCheck object = some answer) : Sendable answer := by
  simp only [Server.createCheck] at refused
  split at refused
  · cases refused
    exact sendable_error _ (by decide)
  · cases refused

theorem createAlloc_sendable (size : UInt64) (refused : server.createAlloc size.toNat = .error answer) :
    Sendable answer := by
  simp only [Server.createAlloc] at refused
  split at refused
  · cases refused
  · rename_i failure failed
    cases refused
    obtain ⟨remaining, below, rfl⟩ := Arena.alloc_error failed
    have small := server.arena.capacity_lt
    exact sendable_error _ (outOfMemory_short size.toNat_lt (by omega))

theorem handleSeal_sendable (object : ObjectId) : Sendable (server.handleSeal object).1 := by
  simp only [Server.handleSeal]
  split
  · exact sendable_error _ (by decide)
  · split
    · exact sendable_error _ (by decide)
    · exact sendable_ok

end Answers

theorem handleGet_sendable (isolated : Isolated capacity s) (object : ObjectId) :
    Sendable (s.server.handleGet object) := by
  have small : capacity < 2 ^ 63 := isolated.arena.2 ▸ s.server.arena.capacity_lt
  simp only [Server.handleGet]
  split
  · exact sendable_error _ (by decide)
  · rename_i entry present
    obtain ⟨metadata, data⟩ := isolated.entry_inside (.inl ⟨object, present⟩)
    split
    · refine ⟨slot_fits _ small isolated.arena metadata data, ?_⟩
      rw [response_length]
      exact of_decide_eq_true rfl
    · exact sendable_error _ (by decide)

theorem created_sendable (isolated : Isolated capacity s)
    {create : CreateRequest} (found : s.threads client = .insert create metadataOffset dataOffset)
    (inserted : s.server.createInsert create.objectId (freshEntry create metadataOffset dataOffset) =
      (.created info, server)) : Sendable (.created info) := by
  have small : capacity < 2 ^ 63 := isolated.arena.2 ▸ s.server.arena.capacity_lt
  have after := isolated.finished found inserted
  have member : info ∈ s.slots ++ [info] := List.mem_append_right _ (List.mem_singleton.mpr rfl)
  refine ⟨slot_fits info small (after.mapped info member)
    (after.inside member (by simp [SlotInfo.regions])).2
    (after.inside member (by simp [SlotInfo.regions])).2, ?_⟩
  rw [response_length]
  exact of_decide_eq_true rfl

theorem contains_sendable (present isSealed : Bool) {metadata : Option Bytes}
    (small : ∀ bytes ∈ metadata, 15 + bytes.length ≤ maxFrameBytes) :
    Sendable (.contains present metadata isSealed) := by
  have limit : maxFrameBytes = 8388608 := rfl
  refine ⟨⟨Codec.bool_fits _, ?_, Codec.bool_fits _⟩, ?_⟩
  · intro bytes here
    have bound := small bytes here
    exact ⟨show bytes.length < 2 ^ 64 by omega, fun _ _ => Codec.byte_fits _⟩
  · rw [response_length, responseSize]
    cases metadata with
    | none => decide
    | some bytes => exact small bytes rfl

theorem listed_sendable {objectIds : List ObjectId} (small : 12 + 28 * objectIds.length ≤ maxFrameBytes) :
    Sendable (.listed objectIds) := by
  have limit : maxFrameBytes = 8388608 := rfl
  refine ⟨⟨show objectIds.length < 2 ^ 64 by omega, fun _ _ => id_fits _⟩, ?_⟩
  rw [response_length]
  exact small

/-- What a thread builds in a state within the frame limits can be sent. -/
theorem answered_sendable (isolated : Isolated capacity s)
    (within : WithinFrames s (.answered client asked answer))
    (step : Step s (.answered client asked answer) t) : Sendable answer := by
  cases step with
  | createRefused _ refused => exact createCheck_sendable refused
  | allocMetadataRefused _ refused | allocDataRefused _ refused => exact createAlloc_sendable _ refused
  | insert found inserted => exact created_sendable isolated found inserted
  | @readCopy client object entry found =>
    apply contains_sendable
    intro bytes copied
    split at copied
    · cases copied
      have bound := within object entry found
      simpa only [Memory.read, List.length_map, List.length_range, ObjectEntry.metadata] using bound
    · cases copied
  | answer found answered =>
    cases asked with
    | sealObject object =>
      have same : (s.server.handleSeal object).1 = answer := congrArg Prod.fst (Option.some.inj answered)
      exact same ▸ handleSeal_sendable object
    | get object =>
      cases answered
      exact handleGet_sendable isolated object
    | contains object =>
      simp only [Server.answer] at answered
      split at answered
      · split at answered
        · cases answered
        · rename_i unsealed
          cases answered
          exact contains_sendable _ _ (by simp [unsealed])
      · cases answered
        exact contains_sendable _ _ (by simp)
    | release object | delete object =>
      cases answered
      exact sendable_ok
    | list =>
      cases answered
      exact listed_sendable within
    | create request | disconnect => cases answered

theorem answered_framed (isolated : Isolated capacity s)
    (step : Guarded WithinFrames Step s (.answered client asked answer) t) : Framed asked answer := by
  obtain ⟨within, step⟩ := step
  obtain ⟨responseFits, responseSmall⟩ := answered_sendable isolated within step
  obtain ⟨requestFits, requestSmall⟩ := request_framed asked (by
    rintro create rfl
    exact within)
  exact ⟨requestFits, requestSmall, responseFits, responseSmall⟩

theorem exchanges_framed (started : Server.start capacity = .ok server)
    (run : Run (Guarded WithinFrames Step) (System.start server) path s) :
    ∀ asked answer, (asked, answer) ∈ exchanges client path → Framed asked answer := by
  induction run with
  | refl => simp [exchanges]
  | @next path t event u run last ih =>
    intro asked answer member
    rw [exchanges, List.filterMap_append] at member
    rcases List.mem_append.mp member with old | new
    · exact ih asked answer old
    · have isolated := isolated_run started (run.mono fun step => step.2)
      cases event with
      | answered c request response =>
        have here : client = c ∧ asked = request ∧ answer = response := by
          simpa [eq_comm] using new
        obtain ⟨rfl, rfl, rfl⟩ := here
        exact answered_framed isolated last
      | _ => simp at new

/-- Along runs within the frame limits, with headers that arrive in one piece, each
request of a connection gets the response that was built for it, and nothing is left
on the socket for the next one to stumble over. -/
theorem connection_in_step (started : Server.start capacity = .ok server)
    (run : Run (Guarded WithinFrames Step) (System.start server) path s) (client : Nat)
    (turns : List Turn)
    (same : turns.map (fun turn => (turn.request, turn.reply turn.request)) = exchanges client path)
    (whole : ∀ turn ∈ turns, turn.inbound.HeaderWhole ∧ turn.outbound.HeaderWhole) :
    Connection.fresh.converse turns = (turns.map fun turn => .ok (turn.reply turn.request), .fresh) := by
  refine converse_framed ?_ whole
  intro turn member
  apply exchanges_framed started run
  rw [← same]
  exact List.mem_map_of_mem member

/-- A response above the limit is sent all the same; the client stops at its header
and leaves the body for the next call to read. -/
theorem exchange_oversized (turn : Turn) (replied : turn.reply turn.request = answer)
    (asked : request.Fits turn.request ∧ (request.encode turn.request).length ≤ maxFrameBytes)
    (large : maxFrameBytes < responseSize answer) (sendable : responseSize answer < 2 ^ 32)
    (inbound : turn.inbound.HeaderWhole) (outbound : turn.outbound.HeaderWhole) :
    Connection.fresh.exchange turn =
      (.error (tooLarge (responseSize answer)), ⟨[], response.encode answer, true⟩) := by
  rw [← response_length] at large sendable ⊢
  obtain ⟨rest, received, emptied⟩ := recvFrame_frame turn.inbound inbound asked.2
  have sent := asked.2.trans_lt (show maxFrameBytes < 2 ^ 32 by decide)
  have understood := decode_encode request asked.1 asked.2
  obtain ⟨header, left, found, ⟨sized, length⟩, behind⟩ := outbound.header sendable
  have stopped : recvFrame (turn.outbound.cut (frame (response.encode answer))) =
      (.error (tooLarge (response.encode answer).length), left) := by
    simp only [recvFrame, found, if_pos sized, length, if_pos large]
  simp only [Connection.exchange, Connection.fresh, sendFrame, if_pos sent, List.nil_append,
    Connection.serve, received, understood, replied, if_pos sendable, Connection.receive, if_true,
    stopped, emptied, behind]

section Samples

def onePiece : Delivery := ⟨fun bytes => [bytes], fun bytes => by simp⟩

theorem onePiece_headerWhole : onePiece.HeaderWhole := by
  intro bytes enough
  cases bytes with
  | nil => cases enough
  | cons byte rest => exact ⟨_, _, rfl, by simpa using enough⟩

/-- The header, and then the body byte by byte. -/
def bytewise : Delivery :=
  ⟨fun bytes => bytes.take headerSize :: (bytes.drop headerSize).map ([·]), fun bytes => by
    rw [List.flatten_cons, ← List.flatMap_def, List.flatMap_singleton', List.take_append_drop]⟩

theorem bytewise_headerWhole : bytewise.HeaderWhole := by
  intro bytes enough
  have sized : (bytes.take headerSize).length = headerSize := by simpa using enough
  cases first : bytes.take headerSize with
  | nil =>
    rw [first] at sized
    cases sized
  | cons byte rest =>
    rw [first] at sized
    refine ⟨_, _, by simp only [bytewise, first, ByteStream.read]; rfl, ?_⟩
    simp [sized]

def storedSlot : SlotInfo := ⟨0, 512, 0, 3, 16, 40, false⟩

/-- A client stores an object with three bytes of metadata and asks for it. -/
theorem connection_in_step_stored :
    ∃ path s, Run (Guarded WithinFrames Step) (System.start roomy) path s ∧
      Connection.fresh.converse
        [⟨.create sampleRequest, fun _ => .created storedSlot, bytewise, onePiece⟩,
          ⟨.sealObject sampleRequest.objectId, fun _ => .ok, onePiece, bytewise⟩,
          ⟨.contains sampleRequest.objectId, fun _ => .contains true (some [1, 2, 3]) true, bytewise, bytewise⟩,
          ⟨.list, fun _ => .listed [sampleRequest.objectId], onePiece, bytewise⟩] =
        ([.ok (.created storedSlot), .ok .ok, .ok (.contains true (some [1, 2, 3]) true),
          .ok (.listed [sampleRequest.objectId])], .fresh) := by
  have started : Server.start 512 = .ok roomy := rfl
  have run : Run (Guarded WithinFrames Step) (System.start roomy) [] _ := .refl
  have run := run.next (a := Event.received 0 (.create sampleRequest)) ⟨trivial, .receive rfl⟩
  have run := run.next (a := Event.checked 0) ⟨trivial, .createChecked rfl rfl⟩
  have run := run.next (a := Event.allocated 0) ⟨trivial, .allocMetadata rfl rfl⟩
  have run := run.next (a := Event.allocated 0) ⟨trivial, .allocData rfl rfl⟩
  have run := run.next (a := Event.answered 0 (.create sampleRequest) (.created storedSlot))
    ⟨show 74 + "".utf8ByteSize ≤ maxFrameBytes by decide, .insert rfl rfl⟩
  have run := run.next (a := Event.wrote 0 0 [1, 2, 3])
    ⟨trivial, .write rfl (show ⟨0, 3⟩ ∈ storedSlot.regions by decide)
      (by decide) (by decide)⟩
  have run := run.next (a := Event.received 0 (.sealObject sampleRequest.objectId)) ⟨trivial, .receive rfl⟩
  have run := run.next (a := Event.answered 0 (.sealObject sampleRequest.objectId) .ok)
    ⟨trivial, .answer rfl rfl⟩
  have run := run.next (a := Event.received 0 (.contains sampleRequest.objectId)) ⟨trivial, .receive rfl⟩
  have run := run.next (a := Event.lookedUp 0) ⟨trivial, .lookUp rfl rfl rfl⟩
  have run := run.next (a := Event.answered 0 (.contains sampleRequest.objectId) _)
    ⟨fun _ _ copied => by cases copied; decide, .readCopy rfl⟩
  have run := run.next (a := Event.received 0 .list) ⟨trivial, .receive rfl⟩
  have run := run.next (a := Event.answered 0 .list (.listed [sampleRequest.objectId]))
    ⟨show 12 + 28 * 1 ≤ maxFrameBytes by decide, .answer rfl rfl⟩
  refine ⟨_, _, run, ?_⟩
  exact connection_in_step started run 0 _ rfl (by simp [onePiece_headerWhole, bytewise_headerWhole])

/-- Room for an object whose metadata alone fills a frame. -/
def wide : Server := ⟨⟨0, 16777216, 0, by decide, by decide⟩, fun _ => 0, ∅⟩

def wideRequest : CreateRequest := ⟨Id.nil 28, 8388608, 0, .nil⟩

/-- The object is stored and sealed, and another client asks whether it is there. -/
theorem wide_run : ∃ path s, Run Step (System.start wide) path s ∧ exchanges 1 path = [] ∧
    s.threads 1 = .readCopy wideRequest.objectId ⟨0, 8388608, 8388608, 0, true⟩ := by
  have run : Run Step (System.start wide) [] _ := .refl
  have run := run.next (a := Event.received 0 (.create wideRequest)) (.receive rfl)
  have run := run.next (a := Event.checked 0) (.createChecked rfl rfl)
  have run := run.next (a := Event.allocated 0) (.allocMetadata rfl rfl)
  have run := run.next (a := Event.allocated 0) (.allocData rfl rfl)
  have run := run.next (a := Event.answered 0 (.create wideRequest)
    (.created ⟨0, 16777216, 0, 8388608, 8388608, 0, false⟩)) (.insert rfl rfl)
  have run := run.next (a := Event.received 0 (.sealObject wideRequest.objectId)) (.receive rfl)
  have run := run.next (a := Event.answered 0 (.sealObject wideRequest.objectId) .ok) (.answer rfl rfl)
  have run := run.next (a := Event.received 1 (.contains wideRequest.objectId)) (.receive rfl)
  have run := run.next (a := Event.lookedUp 1) (.lookUp rfl rfl rfl)
  exact ⟨_, _, run, rfl, rfl⟩

/-- The answer carries metadata as long as the frame limit. The call that asked for it
fails, and the response stays on the socket for the next one. -/
theorem large_metadata_out_of_step :
    ∃ path s asked answer, Run Step (System.start wide) path s ∧
      exchanges 1 path = [(asked, answer)] ∧
      Connection.fresh.converse [⟨asked, fun _ => answer, onePiece, onePiece⟩] =
        ([.error (tooLarge (responseSize answer))], ⟨[], response.encode answer, true⟩) := by
  obtain ⟨path, s, run, quiet, found⟩ := wide_run
  have step := Step.readCopy found
  obtain ⟨bytes, length, same⟩ := containsReply_sealed s.server ⟨0, 8388608, 8388608, 0, true⟩ rfl
  rw [same] at step
  refine ⟨_, _, .contains wideRequest.objectId, .contains true (some bytes) true, run.next step, ?_, ?_⟩
  · rw [exchanges_answered, quiet, List.nil_append]
  · have limit : maxFrameBytes = 8388608 := rfl
    have size : responseSize (.contains true (some bytes) true) = 15 + bytes.length := rfl
    have sized : bytes.length = 8388608 := length
    have large : maxFrameBytes < responseSize (.contains true (some bytes) true) := by omega
    have sendable : responseSize (.contains true (some bytes) true) < 2 ^ 32 := by omega
    rw [Connection.converse, exchange_oversized _ rfl (request_framed _ (by simp)) large sendable
      onePiece_headerWhole onePiece_headerWhole]
    rfl

end Samples
end Rayd.Plasma.Framing
