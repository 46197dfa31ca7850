import Rayd.Tasks.Delivery

/-! The subprocess of an actor against the class it runs. The frames come in one after
the other; a call is carried out on the instance, its result pickled, sealed and
announced; the driver records what is announced. What the class does is a parameter, with
the instance as its state; so is what a call does to the session, where references come
with its arguments and are dropped, with what they count, and where other processes use
plasma as well. -/
namespace Rayd.Actor.Execution
open Memory Core Plasma Refs Tasks Tasks.Delivery Raylet.Fetch

/-- `actor_spawn`. -/
structure Spawn where
  cls : Bytes
  args : Bytes
  kwargs : Option Bytes

/-- `actor_call`. -/
structure ActorCall where
  method : String
  args : Bytes
  kwargs : Option Bytes
  resultOid : ObjectId

/-- `actor_call_complete`. -/
structure CallComplete where
  resultOid : Bytes
  metadata : Bytes
  dataSize : Nat

/-- The class, by what the subprocess does with it. -/
structure UserClass (I V : Type) where
  /-- None where a blob does not unpickle or the constructor raises. -/
  spawn : Spawn → Option I
  /-- Whether the blobs of a call unpickle. -/
  loads : ActorCall → Bool
  /-- The attribute is looked up and called; the instance changes either way. -/
  call : I → ActorCall → Except (Thrown V) V × I
  /-- What the pickler raises for a value that has no pickle. -/
  unpicklable : V → Thrown V
  /-- The session when the result is sealed; a subprocess gets no recoverer. -/
  session : I → ActorCall → Session → Session
  unspilled : ∀ object call s, s.worker.recoverer = none → (session object call s).worker.recoverer = none

/-- The exceptions that leave the loop. -/
inductive Escaped where
  | spawn
  | unspawned
  | unloadable
  | payload (escaped : Process.Escaped)
  | unsealed (failure : TaskFailure)
  | malformed
  | socket

inductive Incoming where
  | closed
  | malformed
  | shutdown
  | spawn (message : Spawn)
  /-- With whether its completion can be sent. -/
  | call (call : ActorCall) (sends : Bool)
  | unknown

inductive Status where
  | running
  | left
  | crashed (escaped : Escaped)

structure Subprocess (I : Type) where
  object : Option I
  session : Session
  /-- Each with plasma as it was then. -/
  announced : List (CallComplete × Store)

section Subprocess
variable {I V : Type} (user : UserClass I V) (pickling : Pickling V)

/-- The guarded part: the call and the pickle of its result. -/
def attempt (object : I) (call : ActorCall) : Except (Thrown V) Bytes × I :=
  match user.call object call with
  | (.error thrown, object) => (.error thrown, object)
  | (.ok value, object) =>
    match pickling.dumps value with
    | some data => (.ok data, object)
    | none => (.error (user.unpicklable value), object)

/-- Header and payload; building an error's payload is not guarded. -/
def described : Except (Thrown V) Bytes → Except Escaped (Metadata × Bytes)
  | .ok data => .ok (.pickle5 false, data)
  | .error thrown =>
    match Process.buildErrorPayload (thrown.observed pickling) with
    | .error escaped => .error (.payload escaped)
    | .ok payload => .ok (.error .taskException 0, payload)

/-- `_execute_call`. -/
def executeCall (s : Session) (object : I) (call : ActorCall) : Except Escaped CallComplete × I × Session :=
  if user.loads call then
    let s := user.session object call s
    let (tried, object) := attempt user pickling object call
    match described pickling tried with
    | .error escaped => (.error escaped, object, s)
    | .ok (metadata, payload) =>
      match workerSeal s call.resultOid metadata.encode payload with
      | (.error failure, s) => (.error (.unsealed failure), object, s)
      | (.ok _, s) => (.ok ⟨call.resultOid.bytes, metadata.encode, payload.length⟩, object, s)
  else (.error .unloadable, object, s)

/-- One pass of the loop. -/
def turn (p : Subprocess I) : Incoming → Status × Subprocess I
  | .closed | .shutdown => (.left, p)
  | .malformed => (.crashed .malformed, p)
  | .unknown => (.running, p)
  | .spawn message =>
    match user.spawn message with
    | none => (.crashed .spawn, p)
    | some object => (.running, { p with object := some object })
  | .call call sends =>
    match p.object with
    | none => (.crashed .unspawned, p)
    | some object =>
      match executeCall user pickling p.session object call with
      | (.error escaped, object, s) => (.crashed escaped, ⟨some object, s, p.announced⟩)
      | (.ok complete, object, s) =>
        if sends then (.running, ⟨some object, s, p.announced ++ [(complete, s.plasma)]⟩)
        else (.crashed .socket, ⟨some object, s, p.announced⟩)

/-- `main`, as far as it gets with what arrives. -/
def main (p : Subprocess I) : List Incoming → Status × Subprocess I
  | [] => (.running, p)
  | next :: rest =>
    match turn user pickling p next with
    | (.running, p) => main p rest
    | ended => ended

end Subprocess

inductive RecordError where
  /-- The size is no `u64`. -/
  | overflow
  | native (failure : PyError)

/-- `_record_plasma_seal` in the driver's session; the raylet's directory is left out. -/
def recordPlasmaSeal (s : Session) (complete : CallComplete) : Except RecordError Session := do
  if 2 ^ 64 ≤ complete.dataSize then .error .overflow
  let id ← (parseObjectId28 complete.resultOid).mapError .native
  let metadata ← (Metadata.decode complete.metadata).mapError fun failure =>
    .native (.runtime ("invalid metadata: " ++ metadataDecodeErrorText failure))
  return (s.putPlasma id ⟨metadata, complete.dataSize⟩).addOwned id

section Local
variable {I V : Type} (user : UserClass I V) (pickling : Pickling V)

/-- What `get` is to give for a call that is carried out here. -/
def result : Except (Thrown V) V → Except (GetError V) (Got V)
  | .error thrown => .error (thrown.raises pickling)
  | .ok value =>
    if (pickling.dumps value).isSome then .ok (.value value)
    else .error ((user.unpicklable value).raises pickling)

/-- The same frames, carried out on an instance of the class here: the ids of the calls
and their results. Nothing goes on after a frame that cannot be carried out. -/
def localRun : Option I → List Incoming → List (ObjectId × Except (GetError V) (Got V))
  | _, [] | _, .closed :: _ | _, .malformed :: _ | _, .shutdown :: _ => []
  | object, .unknown :: rest => localRun object rest
  | _, .spawn message :: rest =>
    match user.spawn message with
    | none => []
    | some object => localRun (some object) rest
  | none, .call .. :: _ => []
  | some object, .call call _ :: rest =>
    if user.loads call then
      (call.resultOid, result user pickling (user.call object call).1) ::
        localRun (some (user.call object call).2) rest
    else []

end Local

/-- The completion is the call's, and the object it announces gives the result. -/
def Answers {V : Type} (loads : Bytes → Except String V)
    (expected : ObjectId × Except (GetError V) (Got V)) (announced : CallComplete × Store) : Prop :=
  ∃ metadata data, announced.1 = ⟨expected.1.bytes, Metadata.encode metadata, data.length⟩ ∧
    announced.2.objects.lookup expected.1 = some ⟨metadata.encode, data, true⟩ ∧
    gotObject loads ⟨metadata, data⟩ = expected.2

/-- Once the driver has recorded the completion, and while nobody removes the object, `get`
gives the result. -/
def Reads {V : Type} (loads : Bytes → Except String V)
    (expected : ObjectId × Except (GetError V) (Got V)) (announced : CallComplete × Store) : Prop :=
  ∀ driver recorded, recordPlasmaSeal driver announced.1 = .ok recorded →
    ∀ (turn : SettledTurn) (timeout : Option Nat), turn.ref.objectId = expected.1 →
      Finds announced.2 recorded.worker.store turn → getOne loads timeout turn = expected.2

section Execution
variable {I V : Type} {user : UserClass I V} {pickling : Pickling V} {s t : Session} {object next : I}
  {call : ActorCall}

theorem workerSeal_held {id : ObjectId} {metadata : Metadata} (unspilled : s.worker.recoverer = none)
    (done : workerSeal s id metadata.encode data = (.ok size, t)) :
    t.worker.recoverer = none ∧ t.plasma.objects.lookup id = some ⟨metadata.encode, data, true⟩ := by
  simp only [workerSeal, Metadata.decode_encode] at done
  rcases tried : s.sealValueToPlasma id metadata data with ⟨reply, after⟩
  rw [tried] at done
  cases reply with
  | error failure => cases done
  | ok size =>
    cases done
    obtain ⟨canSeal, rfl, rfl⟩ := Session.sealValueToPlasma_unrecovered unspilled tried
    refine ⟨unspilled, ?_⟩
    rw [Session.sealedSession_plasma canSeal, FiniteMap.lookup_insert, if_pos rfl]

theorem described_error {thrown : Thrown V} (made : described pickling (.error thrown) = .ok (metadata, payload)) :
    gotObject pickling.loads ⟨metadata, payload⟩ = .error (thrown.raises pickling) := by
  simp only [described] at made
  cases built : Process.buildErrorPayload (thrown.observed pickling) with
  | error escaped =>
    rw [built] at made
    cases made
  | ok payload =>
    rw [built] at made
    cases made
    simp only [gotObject, Thrown.raised built]

theorem described_result {tried : Except (Thrown V) Bytes}
    (attempted : attempt user pickling object call = (tried, next))
    (made : described pickling tried = .ok (metadata, payload)) :
    next = (user.call object call).2 ∧
      gotObject pickling.loads ⟨metadata, payload⟩ = result user pickling (user.call object call).1 := by
  simp only [attempt] at attempted
  generalize user.call object call = outcome at attempted ⊢
  obtain ⟨thrown | value, after⟩ := outcome
  · cases attempted
    exact ⟨rfl, described_error made⟩
  · simp only at attempted
    cases pickled : pickling.dumps value with
    | none =>
      simp only [pickled] at attempted
      cases attempted
      refine ⟨rfl, (described_error made).trans ?_⟩
      simp [result, pickled]
    | some data =>
      simp only [pickled] at attempted
      cases attempted
      cases made
      simp [gotObject, pickling.loads_dumps pickled, result, pickled]

/-- A call that is announced has been carried out, and what was sealed gives its result. -/
theorem executeCall_ok (unspilled : s.worker.recoverer = none)
    (ran : executeCall user pickling s object call = (.ok complete, next, t)) :
    user.loads call = true ∧ t.worker.recoverer = none ∧ next = (user.call object call).2 ∧
      Answers pickling.loads (call.resultOid, result user pickling (user.call object call).1)
        (complete, t.plasma) := by
  simp only [executeCall] at ran
  split at ran
  · rename_i loads
    rcases attempted : attempt user pickling object call with ⟨tried, after⟩
    rw [attempted] at ran
    cases made : described pickling tried with
    | error escaped =>
      rw [made] at ran
      cases ran
    | ok pair =>
      obtain ⟨metadata, payload⟩ := pair
      obtain ⟨same, got⟩ := described_result attempted made
      simp only [made] at ran
      split at ran
      · cases ran
      · rename_i done
        cases ran
        obtain ⟨still, found⟩ := workerSeal_held (user.unspilled object call s unspilled) done
        exact ⟨loads, still, same, metadata, payload, rfl, found, got⟩
  · cases ran

end Execution

/-- What the loop has done of the local run: the calls it announced come first, and all
of them unless it crashed. -/
structure Progress {I V : Type} (user : UserClass I V) (pickling : Pickling V) (p : Subprocess I)
    (frames : List Incoming) (ended : Status × Subprocess I)
    (done rest : List (ObjectId × Except (GetError V) (Got V))) (completes : List (CallComplete × Store)) :
    Prop where
  run : localRun user pickling p.object frames = done ++ rest
  answers : List.Forall₂ (Answers pickling.loads) done completes
  announced : ended.2.announced = p.announced ++ completes
  whole : rest = [] ∨ ∃ escaped, ended.1 = .crashed escaped

section Loop
variable {I V : Type} {user : UserClass I V} {pickling : Pickling V}

theorem stops {p : Subprocess I} {frames : List Incoming} {ended : Status × Subprocess I}
    (same : ended.2.announced = p.announced)
    (whole : localRun user pickling p.object frames = [] ∨ ∃ escaped, ended.1 = .crashed escaped) :
    ∃ done rest completes, Progress user pickling p frames ended done rest completes :=
  ⟨[], _, [], rfl, .nil, by rw [same, List.append_nil], whole⟩

theorem main_progress (user : UserClass I V) (pickling : Pickling V) (frames : List Incoming)
    (p : Subprocess I) (unspilled : p.session.worker.recoverer = none) :
    ∃ done rest completes, Progress user pickling p frames (main user pickling p frames) done rest completes := by
  induction frames generalizing p with
  | nil => exact stops rfl (.inl (by cases p.object <;> rfl))
  | cons next frames ih =>
    rw [main]
    cases next with
    | closed | shutdown => exact stops rfl (.inl (by cases p.object <;> rfl))
    | malformed => exact stops rfl (.inr ⟨_, rfl⟩)
    | unknown =>
      obtain ⟨done, rest, completes, progress⟩ := ih p unspilled
      refine ⟨done, rest, completes, { progress with run := ?_ }⟩
      rw [← progress.run]
      cases p.object <;> rfl
    | spawn message =>
      cases made : user.spawn message with
      | none =>
        simp only [turn, made]
        exact stops rfl (.inr ⟨_, rfl⟩)
      | some object =>
        simp only [turn, made]
        obtain ⟨done, rest, completes, progress⟩ := ih { p with object := some object } unspilled
        refine ⟨done, rest, completes, { progress with run := ?_ }⟩
        rw [← progress.run]
        simp only [localRun, made]
    | call call sends =>
      cases here : p.object with
      | none =>
        simp only [turn, here]
        exact stops rfl (.inr ⟨_, rfl⟩)
      | some object =>
        rcases ran : executeCall user pickling p.session object call with ⟨answer, after, t⟩
        simp only [turn, here, ran]
        cases answer with
        | error escaped => exact stops rfl (.inr ⟨_, rfl⟩)
        | ok complete =>
          cases sends with
          | false => exact stops rfl (.inr ⟨_, rfl⟩)
          | true =>
            obtain ⟨loads, still, rfl, answers⟩ := executeCall_ok unspilled ran
            obtain ⟨done, rest, completes, progress⟩ := ih ⟨some (user.call object call).2, t,
              p.announced ++ [(complete, t.plasma)]⟩ still
            refine ⟨_ :: done, rest, _ :: completes, ?_, .cons answers progress.answers, ?_, progress.whole⟩
            · simp only [here, localRun, loads, if_true, List.cons_append]
              rw [progress.run]
            · exact progress.announced.trans (List.append_assoc ..)

end Loop

section Results
variable {I V : Type} {user : UserClass I V} {pickling : Pickling V}

theorem recordPlasmaSeal_ok {id : ObjectId} {metadata : Metadata} {size : Nat} {s t : Session}
    (recorded : recordPlasmaSeal s ⟨id.bytes, metadata.encode, size⟩ = .ok t) :
    t.worker.store.getEntry id = some (.plasma ⟨metadata, size⟩) := by
  simp only [recordPlasmaSeal, parseObjectId28, Id.fromBytes?_bytes, Metadata.decode_encode] at recorded
  split at recorded
  · cases recorded
  · cases recorded
    exact (MemoryStore.getEntry_putPlasma ..).trans (if_pos rfl)

theorem Answers.reads {loads : Bytes → Except String V} {expected : ObjectId × Except (GetError V) (Got V)}
    (answers : Answers loads expected announced) : Reads loads expected announced := by
  obtain ⟨metadata, data, complete, found, got⟩ := answers
  intro driver recorded done turn timeout same finds
  rw [complete] at done
  exact (finds.read same (recordPlasmaSeal_ok done) found timeout).trans got

/-- The refs of an actor's calls are read as the calls come out on a local instance, in
their order and whatever the class does: the completions that the subprocess announces are
of the first calls, of all of them unless it crashed, and while nobody removes its object
each ref gives the value, or raises the exception, of its call. -/
theorem actor_calls_as_local {s : Session} {frames : List Incoming} {status : Status} {p : Subprocess I}
    (unspilled : s.worker.recoverer = none) (ran : main user pickling ⟨none, s, []⟩ frames = (status, p)) :
    ∃ done rest, localRun user pickling none frames = done ++ rest ∧
      (rest = [] ∨ ∃ escaped, status = .crashed escaped) ∧
      List.Forall₂ (fun expected announced => announced.1.resultOid = expected.1.bytes ∧
        Reads pickling.loads expected announced) done p.announced := by
  obtain ⟨done, rest, completes, progress⟩ := main_progress user pickling frames ⟨none, s, []⟩ unspilled
  rw [ran] at progress
  refine ⟨done, rest, progress.run, progress.whole, ?_⟩
  rw [show p.announced = completes from progress.announced]
  refine progress.answers.imp fun expected announced answers => ⟨?_, answers.reads⟩
  obtain ⟨_, _, complete, _⟩ := answers
  rw [complete]

end Results

section Samples

/-- Counts its calls; the second comes with a reference to the first one's result, and
drops it. -/
def counter : UserClass Nat Bytes where
  spawn _ := some 0
  loads _ := true
  call count _ := (.ok [UInt8.ofNat count], count + 1)
  unpicklable value := ⟨value, "", ""⟩
  session count _ s := if count = 1 then s.decLocalRef (.forReturn (.nil 24) 0) else s
  unspilled count _ s unspilled := by
    split
    · rwa [Session.decLocalRef, Session.release_recoverer]
    · exact unspilled

def countCall (k : Nat) : ActorCall := ⟨"count", [], none, .forReturn (.nil 24) k⟩

def countFrames : List Incoming :=
  [.spawn ⟨[], [], none⟩, .call (countCall 0) true, .call (countCall 1) true]

/-- The second of two calls, recorded and read by a driver; the object of the first is
gone by then. -/
theorem second_count_read : ∃ p first second d,
    main counter bytesPickling ⟨none, Process.sampleSession, []⟩ countFrames = (.running, p) ∧
    p.announced = [first, second] ∧ p.session.plasma.objects.lookup (countCall 0).resultOid = none ∧
    recordPlasmaSeal Process.sampleSession second.1 = .ok d ∧
    getOne Except.ok none { sampleTurn none .empty with
      ref := ⟨(countCall 1).resultOid, none⟩
      entry := d.worker.store.getEntry (countCall 1).resultOid
      session := p.session } = .ok (.value [1]) := by
  obtain ⟨p, first, complete, d, ran, announced, gone, recorded⟩ : ∃ p first complete d,
      main counter bytesPickling ⟨none, Process.sampleSession, []⟩ countFrames = (.running, p) ∧
      p.announced = [first, (complete, p.session.plasma)] ∧
      p.session.plasma.objects.lookup (countCall 0).resultOid = none ∧
      recordPlasmaSeal Process.sampleSession complete = .ok d :=
    ⟨_, _, _, _, rfl, rfl, rfl, rfl⟩
  obtain ⟨done, rest, run, whole, each⟩ := actor_calls_as_local rfl ran
  obtain rfl : rest = [] := whole.resolve_right fun ⟨_, crashed⟩ => by cases crashed
  rw [List.append_nil] at run
  rw [← run, announced] at each
  refine ⟨p, first, _, d, ran, announced, gone, recorded, ?_⟩
  cases each with
  | cons _ rest =>
    cases rest with
    | cons reads _ => exact reads.2 _ _ recorded _ none rfl ⟨rfl, rfl⟩

end Samples

end Rayd.Actor.Execution
