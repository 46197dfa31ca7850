import Rayd.Gcs.Registry

/-! The `WatchNodes` call. The handler subscribes to the broadcast channel, reads
the floor of the replay buffer, reads the buffer (or the node table) again for the
catch-up batch, and answers with that batch followed by the live events above its
last sequence. -/
namespace Rayd.Gcs

/-- An open stream: what is left of the catch-up batch, the sequence its live part
starts above, and the receiver's position in the channel. -/
structure Stream where
  catchup : List NodeEvent
  highest : Nat
  position : Nat

inductive Item where
  | event (event : NodeEvent)
  | failed (status : Status)

namespace Registry

def snapshotAsEvents (registry : Registry) : List NodeEvent :=
  registry.snapshot.map fun node => ⟨0, some node⟩

/-- The subscription comes before the catch-up batch. -/
def subscribe (registry : Registry) : Nat := registry.sent.length

def belowFloor (lastSeen oldest : Nat) : Status :=
  ⟨.outOfRange, "last_seen_sequence " ++ toString lastSeen ++ " is older than the buffer floor " ++
    toString oldest⟩

/-- The first read of the buffer; a fresh subscriber is not held to it. -/
def checkFloor (registry : Registry) (lastSeen : Nat) : Except Status Unit :=
  if lastSeen = 0 then .ok ()
  else
    match registry.oldestBufferedSequence with
    | some oldest => if lastSeen + 1 < oldest then .error (belowFloor lastSeen oldest) else .ok ()
    | none => .ok ()

def catchup (registry : Registry) (lastSeen : Nat) : List NodeEvent :=
  if lastSeen = 0 then registry.snapshotAsEvents else registry.bufferedAfter lastSeen

def openStream (registry : Registry) (lastSeen position : Nat) : Stream :=
  ⟨registry.catchup lastSeen, ((registry.catchup lastSeen).getLast?.map NodeEvent.sequence).getD 0, position⟩

/-- The handler after its subscription, with nothing between its two reads. -/
def watchNodes (registry : Registry) (lastSeen position : Nat) : Except Status Stream := do
  registry.checkFloor lastSeen
  return registry.openStream lastSeen position

/-- The same with publishes between the reads: the floor is read in the first state of
the registry, the buffer in the second. -/
def watchNodesAcross (floored read : Registry) (lastSeen position : Nat) : Except Status Stream := do
  floored.checkFloor lastSeen
  return read.openStream lastSeen position

/-- The event after the resume point has been published and has left the buffer. -/
def Evicted (registry : Registry) (lastSeen : Nat) : Prop :=
  ∃ event ∈ registry.sent, event.sequence = lastSeen + 1 ∧ event ∉ registry.replayBuffer

end Registry

namespace Stream

def lagged : Status :=
  ⟨.outOfRange, "subscriber lagged past broadcast capacity; reconnect with last_seen=0"⟩

/-- One turn of the stream: nothing yet, or an item, or a live event that the
catch-up batch already had. A receiver that lags is moved up to the oldest event the
channel still holds. -/
def next (registry : Registry) (stream : Stream) : Option (Option Item × Stream) :=
  match stream.catchup with
  | event :: rest => some (some (.event event), { stream with catchup := rest })
  | [] =>
    if broadcastChannelCapacity < registry.sent.length - stream.position then
      some (some (.failed lagged),
        { stream with position := registry.sent.length - broadcastChannelCapacity })
    else
      match registry.sent[stream.position]? with
      | none => none
      | some event =>
        some (if stream.highest < event.sequence then some (.event event) else none,
          { stream with position := stream.position + 1 })

theorem next_live {registry : Registry} {stream : Stream} (exhausted : stream.catchup = [])
    (near : registry.sent.length - stream.position ≤ broadcastChannelCapacity)
    (found : registry.sent[stream.position]? = some event) (above : stream.highest < event.sequence) :
    stream.next registry = some (some (.event event), { stream with position := stream.position + 1 }) := by
  simp only [next, exhausted, if_neg (Nat.not_lt.mpr near), found, if_pos above]

theorem next_lagged {registry : Registry} {stream : Stream} (exhausted : stream.catchup = [])
    (far : broadcastChannelCapacity < registry.sent.length - stream.position) :
    stream.next registry = some (some (.failed lagged),
      { stream with position := registry.sent.length - broadcastChannelCapacity }) := by
  simp only [next, exhausted, if_pos far]

/-- What the stream still yields of everything sent so far, to a reader that keeps up. -/
def pending (registry : Registry) (stream : Stream) : List NodeEvent :=
  stream.catchup ++ (registry.sent.drop stream.position).filter fun event => stream.highest < event.sequence

end Stream

/-- The events of publishes one after another, numbered as they come. -/
def issue (nodes : List NodeInfo) : List NodeEvent :=
  (nodes.zipIdx 1).map fun entry => ⟨entry.2, some entry.1⟩

theorem issue_append (nodes more : List NodeInfo) :
    issue (nodes ++ more) = issue nodes ++ (more.zipIdx (nodes.length + 1)).map fun entry =>
      ⟨entry.2, some entry.1⟩ := by
  simp only [issue, List.zipIdx_append, List.map_append, Nat.add_comm 1]

theorem length_issue (nodes : List NodeInfo) : (issue nodes).length = nodes.length := by
  simp only [issue, List.length_map, List.length_zipIdx]

/-- The replay buffer is what is left of this log. -/
structure Buffered (registry : Registry) (log : List NodeEvent) : Prop where
  numbered : Log.Numbered NodeEvent.sequence log
  buffer : registry.replayBuffer = Log.window replayBufferCapacity log

namespace Buffered
variable {registry : Registry} {log : List NodeEvent}

theorem checkFloor_eq (buffered : Buffered registry log) (issued : 1 ≤ lastSeen ∧ lastSeen ≤ log.length) :
    registry.checkFloor lastSeen =
      if lastSeen < log.length - replayBufferCapacity then
        .error (Registry.belowFloor lastSeen (log.length - replayBufferCapacity + 1))
      else .ok () := by
  have oldest : registry.oldestBufferedSequence = some (log.length - replayBufferCapacity + 1) := by
    rw [Registry.oldestBufferedSequence, buffered.buffer]
    refine buffered.numbered.head?_drop ?_
    simp only [replayBufferCapacity]
    omega
  have known : ¬ lastSeen = 0 := by omega
  simp only [Registry.checkFloor, if_neg known, oldest, Nat.add_lt_add_iff_right]

theorem catchup_drop (buffered : Buffered registry log) (known : 1 ≤ lastSeen) :
    registry.catchup lastSeen = log.drop (max (log.length - replayBufferCapacity) lastSeen) := by
  have nonzero : ¬ lastSeen = 0 := by omega
  simp only [Registry.catchup, if_neg nonzero, Registry.bufferedAfter, buffered.buffer, Log.window]
  exact buffered.numbered.filter_drop _ _

theorem catchup_eq (buffered : Buffered registry log) (known : 1 ≤ lastSeen)
    (kept : log.length - replayBufferCapacity ≤ lastSeen) :
    registry.catchup lastSeen = log.drop lastSeen := by
  rw [buffered.catchup_drop known, Nat.max_eq_right kept]

end Buffered

/-- Nothing is between the steps of a publish, and this is what was published. -/
structure Serial (registry : Registry) (log : List NodeEvent) : Prop extends Buffered registry log where
  sequence : registry.nextSequence = log.length + 1
  sent : registry.sent = log

namespace Serial

theorem withNodes {registry : Registry} (serial : Serial registry log) (nodes : FiniteMap NodeId NodeInfo) :
    Serial { registry with nodes } log :=
  ⟨⟨serial.numbered, serial.buffer⟩, serial.sequence, serial.sent⟩

theorem publish {registry : Registry} (serial : Serial registry log) (node : NodeInfo) :
    Serial (registry.publish node) (log ++ [⟨log.length + 1, some node⟩]) where
  numbered := serial.numbered.append rfl
  buffer := by
    simp only [Registry.publish, Registry.takeSequence, Registry.pushReplay, Registry.broadcast,
      serial.buffer, serial.sequence]
    exact Log.push_window (by decide) log _
  sequence := by
    simp only [Registry.publish, Registry.takeSequence, Registry.pushReplay, Registry.broadcast,
      serial.sequence, List.length_append, List.length_singleton]
  sent := by
    simp only [Registry.publish, Registry.takeSequence, Registry.pushReplay, Registry.broadcast,
      serial.sequence, serial.sent]

theorem publishAll {registry : Registry} (serial : Serial registry (issue nodes)) (more : List NodeInfo) :
    Serial (more.foldl Registry.publish registry) (issue (nodes ++ more)) := by
  induction more generalizing registry nodes with
  | nil => rwa [List.append_nil]
  | cons node more ih =>
    have first := serial.publish node
    rw [length_issue] at first
    rw [List.foldl_cons, List.append_cons]
    refine ih ?_
    rw [issue_append]
    exact first

theorem new (session : Id 16) : Serial (.new session) (issue []) :=
  ⟨⟨.nil, rfl⟩, rfl, rfl⟩

variable {registry : Registry} {log : List NodeEvent}

/-- What is no longer in the buffer is older than all of it. -/
theorem old_of_gone (serial : Serial registry log) (member : event ∈ registry.sent)
    (gone : event ∉ registry.replayBuffer) : event.sequence ≤ log.length - replayBufferCapacity := by
  rw [serial.sent] at member
  rw [serial.buffer] at gone
  have low := mt (serial.numbered.mem_drop member).mpr gone
  omega

theorem next_gone (serial : Serial registry log) (above : lastSeen < log.length - replayBufferCapacity) :
    ∃ event ∈ registry.sent, event.sequence = lastSeen + 1 ∧ event ∉ registry.replayBuffer := by
  rw [serial.sent, serial.buffer]
  have inside : lastSeen < log.length := by omega
  have place := serial.numbered lastSeen _ (List.getElem?_eq_getElem inside)
  refine ⟨log[lastSeen], List.getElem_mem inside, place, fun kept => ?_⟩
  have high := (serial.numbered.mem_drop (List.getElem_mem inside)).mp kept
  omega

/-- Events above the resume point have gone from the buffer. -/
theorem evicted_iff (serial : Serial registry log) :
    (∃ event ∈ registry.sent, lastSeen < event.sequence ∧ event ∉ registry.replayBuffer) ↔
      lastSeen < log.length - replayBufferCapacity := by
  constructor
  · rintro ⟨event, member, above, gone⟩
    exact above.trans_le (serial.old_of_gone member gone)
  · intro above
    obtain ⟨event, member, next, gone⟩ := serial.next_gone above
    exact ⟨event, member, by omega, gone⟩

end Serial

/-- What the resumed stream yields of a longer log, when its subscription lies
between the resume point and the reads. -/
theorem resumed_pending {registry later : Registry} (serial : Serial registry log)
    (continued : Serial later (log ++ more)) (known : 1 ≤ lastSeen)
    (kept : log.length - replayBufferCapacity ≤ lastSeen) (subscribed : lastSeen ≤ position)
    (read : position ≤ log.length) :
    (registry.openStream lastSeen position).pending later = (log ++ more).drop lastSeen := by
  have batch := serial.catchup_eq known kept
  simp only [Stream.pending, Registry.openStream, batch, continued.sent]
  rw [continued.numbered.filter_drop]
  by_cases inside : lastSeen < log.length
  · -- the batch ends with the log as it was read, and the live part goes on from there
    rw [serial.numbered.getLast?_drop inside, Option.getD_some, Nat.max_eq_right read,
      List.drop_left' rfl, List.drop_append_of_le_length inside.le]
  · have all : lastSeen = log.length ∧ position = log.length := by omega
    rw [all.1, all.2, List.drop_length, List.getLast?_nil, Option.map_none, Option.getD_none,
      Nat.max_eq_left (Nat.zero_le _), List.nil_append]

/-- Publishes run one at a time: some before the subscription, some between it and
the reads of the buffer, some after. A resume point issued by then is refused
exactly if an event above it is gone, and else leads to all events above it, in
order and once each. -/
theorem resume_exact (session : Id 16) (before between after : List NodeInfo)
    (issued : 1 ≤ lastSeen ∧ lastSeen ≤ before.length) :
    let subscribed := before.foldl Registry.publish (.new session)
    let read := between.foldl Registry.publish subscribed
    let final := after.foldl Registry.publish read
    ((∃ event ∈ read.sent, lastSeen < event.sequence ∧ event ∉ read.replayBuffer) →
      ∃ status, read.watchNodes lastSeen subscribed.subscribe = .error status ∧ status.code = .outOfRange) ∧
    (¬ (∃ event ∈ read.sent, lastSeen < event.sequence ∧ event ∉ read.replayBuffer) →
      ∃ stream, read.watchNodes lastSeen subscribed.subscribe = .ok stream ∧
        stream.pending final = (issue (before ++ between ++ after)).drop lastSeen) := by
  intro subscribed read final
  have first : Serial subscribed (issue before) := (Serial.new session).publishAll before
  have second : Serial read (issue (before ++ between)) := first.publishAll between
  have third : Serial final (issue (before ++ between ++ after)) := second.publishAll after
  have position : subscribed.subscribe = before.length := by
    rw [Registry.subscribe, first.sent, length_issue]
  have size : (issue (before ++ between)).length = before.length + between.length := by
    rw [length_issue, List.length_append]
  rw [second.evicted_iff]
  simp only [Registry.watchNodes, second.checkFloor_eq ⟨issued.1, by omega⟩]
  constructor
  · intro gone
    rw [if_pos gone]
    exact ⟨_, rfl, rfl⟩
  · intro kept
    rw [if_neg kept]
    rw [issue_append] at third ⊢
    exact ⟨_, rfl, resumed_pending second third issued.1 (by omega) (by omega) (by omega)⟩

def sampleNode (port : Nat) : NodeInfo := ⟨some ⟨.literal (.v4 10 0 0 1), port, (Id.nil 16).bytes⟩, .alive, 0⟩

/-- One event before the resume point, one after it, one between the subscription
and the reads, and one live. -/
theorem resumed_after_one :
    ∃ stream : Stream, stream.pending ([1, 2, 3, 4].map sampleNode |>.foldl Registry.publish (.new (.nil 16))) =
        [⟨2, some (sampleNode 2)⟩, ⟨3, some (sampleNode 3)⟩, ⟨4, some (sampleNode 4)⟩] ∧
      ([1, 2, 3].map sampleNode |>.foldl Registry.publish (.new (.nil 16))).watchNodes 1 2 = .ok stream := by
  have exactly := resume_exact (.nil 16) [sampleNode 1, sampleNode 2] [sampleNode 3] [sampleNode 4]
    (by decide : 1 ≤ 1 ∧ 1 ≤ 2)
  obtain ⟨stream, answered, yields⟩ := exactly.2 (by decide)
  exact ⟨stream, yields, answered⟩

section Across
variable {registry read final : Registry} {log : List NodeEvent}

theorem Serial.next_evicted_iff (serial : Serial registry log) :
    registry.Evicted lastSeen ↔ lastSeen < log.length - replayBufferCapacity := by
  constructor
  · rintro ⟨event, member, next, gone⟩
    have old := serial.old_of_gone member gone
    omega
  · exact serial.next_gone

/-- Once the next event is out of the buffer, the stream starts behind it. -/
theorem pending_above (serial : Serial read log) (known : 1 ≤ lastSeen)
    (gone : lastSeen < log.length - replayBufferCapacity)
    (pending : event ∈ (read.openStream lastSeen position).pending final) : lastSeen + 1 < event.sequence := by
  have batch := serial.catchup_drop known
  rw [Nat.max_eq_left gone.le] at batch
  have inside : log.length - replayBufferCapacity < log.length := by
    simp only [replayBufferCapacity] at gone ⊢
    omega
  simp only [Stream.pending, Registry.openStream, batch, serial.numbered.getLast?_drop inside,
    Option.getD_some, List.mem_append, List.mem_filter, decide_eq_true_eq] at pending
  rcases pending with caught | ⟨_, live⟩
  · have high := (serial.numbered.mem_drop (List.mem_of_mem_drop caught)).mp caught
    omega
  · omega

theorem Serial.watchNodesAcross_eq (serial : Serial registry log)
    (issued : 1 ≤ lastSeen ∧ lastSeen ≤ log.length) (read : Registry) (position : Nat) :
    registry.watchNodesAcross read lastSeen position =
      if lastSeen < log.length - replayBufferCapacity then
        .error (Registry.belowFloor lastSeen (log.length - replayBufferCapacity + 1))
      else .ok (read.openStream lastSeen position) := by
  rw [Registry.watchNodesAcross, serial.checkFloor_eq issued]
  split <;> rfl

/-- A stream that is opened all the same lacks that event for good. -/
theorem Serial.next_missing (serial : Serial read log) (later : Serial final (log ++ more))
    (known : 1 ≤ lastSeen) (gone : lastSeen < log.length - replayBufferCapacity) (position : Nat) :
    ∃ event ∈ final.sent, event.sequence = lastSeen + 1 ∧
      event ∉ (read.openStream lastSeen position).pending final := by
  obtain ⟨event, sent, next, _⟩ := serial.next_evicted_iff.mpr gone
  rw [serial.sent] at sent
  rw [later.sent]
  refine ⟨event, List.mem_append_left _ sent, next, fun pending => ?_⟩
  have above := pending_above serial known gone pending
  omega

/-- Publishes run one at a time, and any number of them before the subscription, between
it and the floor read, between the two reads and after them. An accepted stream has all
events above the resume point, and one that cannot have them is refused, exactly if the
next event does not leave the buffer between the two reads. -/
theorem resume_across_iff (session : Id 16) (before toFloor toRead after : List NodeInfo)
    (issued : 1 ≤ lastSeen ∧ lastSeen ≤ before.length) :
    let subscribed := before.foldl Registry.publish (.new session)
    let floored := toFloor.foldl Registry.publish subscribed
    let read := toRead.foldl Registry.publish floored
    let final := after.foldl Registry.publish read
    let answer := floored.watchNodesAcross read lastSeen subscribed.subscribe
    ((∀ stream, answer = .ok stream →
        ∀ event ∈ final.sent, lastSeen < event.sequence → event ∈ stream.pending final) ↔
      (read.Evicted lastSeen → floored.Evicted lastSeen)) ∧
    ((read.Evicted lastSeen → ∃ status, answer = .error status ∧ status.code = .outOfRange) ↔
      (read.Evicted lastSeen → floored.Evicted lastSeen)) := by
  intro subscribed floored read final answer
  have first : Serial subscribed (issue before) := (Serial.new session).publishAll before
  have second : Serial floored (issue (before ++ toFloor)) := first.publishAll toFloor
  have third : Serial read (issue (before ++ toFloor ++ toRead)) := second.publishAll toRead
  have fourth : Serial final (issue (before ++ toFloor ++ toRead ++ after)) := third.publishAll after
  have position : subscribed.subscribe = before.length := by
    rw [Registry.subscribe, first.sent, length_issue]
  have atFloor : (issue (before ++ toFloor)).length = before.length + toFloor.length := by
    rw [length_issue, List.length_append]
  have atRead : (issue (before ++ toFloor ++ toRead)).length =
      before.length + toFloor.length + toRead.length := by
    rw [length_issue, List.length_append, List.length_append]
  have answered := second.watchNodesAcross_eq ⟨issued.1, by omega⟩ read subscribed.subscribe
  rw [third.next_evicted_iff, second.next_evicted_iff, show answer = _ from answered]
  rw [issue_append] at fourth
  by_cases low : lastSeen < (issue (before ++ toFloor)).length - replayBufferCapacity
  · -- the floor read refuses
    rw [if_pos low]
    refine ⟨iff_of_true (fun _ done => by cases done) fun _ => low, iff_of_true (fun _ => ?_) fun _ => low⟩
    exact ⟨_, rfl, rfl⟩
  · rw [if_neg low]
    by_cases gone : lastSeen < (issue (before ++ toFloor ++ toRead)).length - replayBufferCapacity
    · -- accepted, and the next event is not in the batch any more
      refine ⟨iff_of_false (fun complete => ?_) fun kept => low (kept gone),
        iff_of_false ?_ fun kept => low (kept gone)⟩
      · obtain ⟨event, sent, next, missing⟩ := third.next_missing fourth issued.1 gone subscribed.subscribe
        exact missing (complete _ rfl event sent (by omega))
      · intro refused
        obtain ⟨_, other, _⟩ := refused gone
        cases other
    · refine ⟨iff_of_true (fun stream opened event member above => ?_) fun early => absurd early gone,
        iff_of_true (fun early => absurd early gone) fun early => absurd early gone⟩
      cases opened
      rw [resumed_pending third fourth issued.1 (by omega) (by omega) (by omega)]
      rw [fourth.sent] at member
      exact (fourth.numbered.mem_drop member).mpr above

end Across

/-- One event in each gap. -/
theorem resumed_across_one :
    ∃ stream, ([1, 2, 3].map sampleNode |>.foldl Registry.publish (.new (.nil 16))).watchNodesAcross
        ([1, 2, 3, 4].map sampleNode |>.foldl Registry.publish (.new (.nil 16))) 1 2 = .ok stream ∧
      ⟨2, some (sampleNode 2)⟩ ∈
        stream.pending ([1, 2, 3, 4, 5].map sampleNode |>.foldl Registry.publish (.new (.nil 16))) := by
  have exactly := resume_across_iff (.nil 16) [sampleNode 1, sampleNode 2] [sampleNode 3] [sampleNode 4]
    [sampleNode 5] (by decide : 1 ≤ 1 ∧ 1 ≤ 2)
  have kept : ¬ ([1, 2, 3, 4].map sampleNode |>.foldl Registry.publish (.new (.nil 16))).Evicted 1 := by
    unfold Registry.Evicted
    decide
  exact ⟨_, rfl, exactly.1.mpr (fun gone => absurd gone kept) _ rfl _ (by decide) (by decide)⟩

/-- A full buffer with the next event at its front: two publishes between the reads, and
the stream that was let through starts with the third event. -/
theorem eviction_between_reads_leaves_hole :
    let floored := (List.replicate 1024 (sampleNode 1)).foldl Registry.publish (.new (.nil 16))
    let read := [sampleNode 2, sampleNode 3].foldl Registry.publish floored
    ∃ stream, floored.watchNodesAcross read 1 floored.subscribe = .ok stream ∧
      ∃ event ∈ read.sent, event.sequence = 2 ∧ event ∉ stream.pending read := by
  intro floored read
  have first : Serial floored (issue (List.replicate 1024 (sampleNode 1))) :=
    (Serial.new (.nil 16)).publishAll (List.replicate 1024 (sampleNode 1))
  have second : Serial read (issue (List.replicate 1024 (sampleNode 1) ++ [sampleNode 2, sampleNode 3])) :=
    first.publishAll [sampleNode 2, sampleNode 3]
  have full : (issue (List.replicate 1024 (sampleNode 1))).length = 1024 := by
    rw [length_issue, List.length_replicate]
  have gone : 1 < (issue (List.replicate 1024 (sampleNode 1) ++ [sampleNode 2, sampleNode 3])).length -
      replayBufferCapacity := by
    rw [length_issue, List.length_append, List.length_replicate]
    decide
  refine ⟨read.openStream 1 floored.subscribe, ?_, ?_⟩
  · rw [first.watchNodesAcross_eq ⟨le_rfl, by rw [full]; decide⟩, full]
    rfl
  · have same := second
    rw [← List.append_nil (issue (_ ++ _))] at same
    exact second.next_missing same le_rfl gone _

end Rayd.Gcs
