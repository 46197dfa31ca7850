import Rayd.Core.ErrorPayload
import Rayd.Lib.Fallible
import Rayd.Tasks.Execution
import Rayd.Tasks.Wire

/-! The worker process around one task: building an error payload can itself raise,
a result answers the questions about its type and items as its class likes, and what
leaves `_execute_task` leaves the main loop. What the user's code and the pickler do is
a parameter. The session is the one the worker has once the function is done. -/
namespace Rayd.Tasks.Process
open Memory Core Plasma

/-- What pickling an exception comes to. Only an `Exception` is caught there. -/
inductive Dumped where
  | bytes (data : Bytes)
  | exception
  | baseException

/-- An exception, by its encoded `repr` and traceback and by its pickle. Getting at
the texts or encoding them may raise: a lone surrogate has no UTF-8 encoding. -/
structure Raised where
  message : Option Bytes
  traceback : Option Bytes
  pickled : Dumped

/-- A result, by what the worker asks of it; none where that raises. Its pickle, whether it
is a tuple, its length, the pickles of the items it yields and whether it stops after them,
and the `TypeError` that names its type. -/
structure Result where
  whole : Option Bytes
  isTuple : Option Bool
  length : Option Nat
  items : List (Option Bytes)
  stops : Bool
  typeError : Option Raised

inductive Called where
  | raised (exc : Raised)
  | returned (result : Result)

/-- Whether the three blobs unpickle, and what the call does. -/
structure Behaviour where
  callable : Bool
  args : Bool
  kwargs : Bool
  call : Called

/-- The exceptions that leave the main loop. -/
inductive Escaped where
  | noMessage
  | noTraceback
  | dumps
  | structError
  | uninspectable
  | uneven
  | task (failure : TaskFailure)
  | frame (failure : Wire.FrameError)
  | malformed

def orEscape (escaped : Escaped) : Option A → Except Escaped A
  | none => .error escaped
  | some value => .ok value

/-- `struct.pack` with `<I`. -/
def packU32 (length : Nat) : Except Escaped Bytes :=
  if length < 2 ^ 32 then .ok (LittleEndian.encode 4 length) else .error .structError

/-- The pickle of an exception that has one; `BaseException`s of the pickler get through. -/
def Dumped.caught : Dumped → Except Escaped (Option Bytes)
  | .bytes data => .ok (some data)
  | .exception => .ok none
  | .baseException => .error .dumps

def packPickled : Option Bytes → Except Escaped Bytes
  | none => .ok [0]
  | some data => do
    let length ← packU32 data.length
    return 1 :: (length ++ data)

/-- The raw code is 0. -/
def buildErrorPayload (exc : Raised) : Except Escaped Bytes := do
  let message ← orEscape .noMessage exc.message
  let traceback ← orEscape .noTraceback exc.traceback
  let pickled ← exc.pickled.caught
  let messageLength ← packU32 message.length
  let tracebackLength ← packU32 traceback.length
  let rest ← packPickled pickled
  return messageLength ++ message ++ (1 :: (tracebackLength ++ traceback) ++ (LittleEndian.encode 2 0 ++ rest))

def liftTask (ran : Except TaskFailure A × Session) : Except Escaped A × Session :=
  (ran.1.mapError .task, ran.2)

/-- `_spread_error`. -/
def spreadError (s : Session) (ids : List ObjectId) (exc : Raised) :
    Except Escaped (List Value) × Session :=
  match buildErrorPayload exc with
  | .error escaped => (.error escaped, s)
  | .ok payload => liftTask (Tasks.spreadError s ids payload)

/-- An instance of `tuple` with the length asked for. -/
def Result.isTupleOf (result : Result) (numReturns : Nat) : Option Bool :=
  match result.isTuple with
  | none => none
  | some false => some false
  | some true => result.length.map fun length => length == numReturns

/-- The loop over a strict `zip`: the items come one by one, and only after the last
id does it show that there are more, or that getting there raises. -/
def sealItems (s : Session) (ids : List ObjectId) (result : Result) :
    Except Escaped (List Value) × Session :=
  match liftTask (sealReturns s pickle5Header (ids.zip result.items)) with
  | (.error escaped, s) => (.error escaped, s)
  | (.ok entries, s) =>
    if result.items.length = ids.length ∧ result.stops = true then (.ok entries, s) else (.error .uneven, s)

/-- Keyword arguments are loaded when there are any. -/
def Behaviour.loads (behaviour : Behaviour) (job : DispatchJob) : Bool :=
  behaviour.callable && behaviour.args && (behaviour.kwargs || (job.kwargsBlob.getD []).isEmpty)

def taskEntries (s : Session) (job : DispatchJob) (behaviour : Behaviour) :
    Except Escaped (List Value) × Session :=
  if behaviour.loads job then
    match behaviour.call with
    | .raised exc => spreadError s job.objectIds exc
    | .returned result =>
      if job.numReturns = 1 then
        liftTask (sealReturns s pickle5Header (job.objectIds.map fun id => (id, result.whole)))
      else
        match result.isTupleOf job.numReturns.toNat with
        | none => (.error .uninspectable, s)
        | some true => sealItems s job.objectIds result
        | some false =>
          match result.typeError with
          | none => (.error .uninspectable, s)
          | some exc => spreadError s job.objectIds exc
  else (.error (.task .unloadable), s)

def executeTask (s : Session) (job : DispatchJob) (behaviour : Behaviour) :
    Except Escaped Value × Session :=
  let (entries, s) := taskEntries s job behaviour
  (entries.map (taskComplete job), s)

/-- What the loop finds next: the stream closed or broken, a frame above the limit or not a
pickled dict, or a message. -/
inductive Incoming where
  | closed
  | malformed
  | shutdown
  | dispatchTask (job : DispatchJob) (behaviour : Behaviour)
  | unknown

inductive Status where
  | running
  | left
  | crashed (escaped : Escaped)

section Loop
variable (encode : Value → Bytes)

/-- One pass of the loop; `written` is what the socket has been given so far. -/
def turn (s : Session) (written : Bytes) : Incoming → Status × Session × Bytes
  | .closed | .shutdown => (.left, s, written)
  | .malformed => (.crashed .malformed, s, written)
  | .unknown => (.running, s, written)
  | .dispatchTask job behaviour =>
    match executeTask s job behaviour with
    | (.error escaped, s) => (.crashed escaped, s, written)
    | (.ok completion, s) =>
      match Wire.Worker.sendFrame written (encode completion) with
      | (.error failure, written) => (.crashed (.frame failure), s, written)
      | (.ok (), written) => (.running, s, written)

/-- `main`, as far as it gets with what arrives. -/
def main (s : Session) (written : Bytes) : List Incoming → Status × Session × Bytes
  | [] => (.running, s, written)
  | next :: rest =>
    match turn encode s written next with
    | (.running, s, written) => main s written rest
    | ended => ended

end Loop

/-- The fields of a payload can be had and fit their length prefixes. -/
structure Encodable (exc : Raised) : Prop where
  message : ∃ text, exc.message = some text ∧ text.length < 2 ^ 32
  traceback : ∃ text, exc.traceback = some text ∧ text.length < 2 ^ 32
  pickled : ∃ pickled, exc.pickled.caught = .ok pickled ∧ ∀ data ∈ pickled, data.length < 2 ^ 32

theorem orEscape_ok_iff {found : Option A} : orEscape escaped found = .ok value ↔ found = some value := by
  cases found <;> simp [orEscape]

theorem packU32_ok_iff : packU32 length = .ok packed ↔
    length < 2 ^ 32 ∧ packed = LittleEndian.encode 4 length := by
  by_cases fits : length < 2 ^ 32
  · rw [packU32, if_pos fits, Except.ok.injEq, eq_comm, and_iff_right fits]
  · rw [packU32, if_neg fits]
    exact iff_of_false (fun done => by cases done) fun packs => fits packs.1

theorem packPickled_ok_iff {pickled : Option Bytes} : packPickled pickled = .ok packed ↔
    (∀ data ∈ pickled, data.length < 2 ^ 32) ∧
      packed = ErrorPayload.putIf ErrorPayload.putLengthPrefixed pickled := by
  cases pickled with
  | none => simp [packPickled, ErrorPayload.putIf, eq_comm]
  | some data =>
    simp only [packPickled, Fallible.bind_ok_iff, packU32_ok_iff, Option.mem_some_iff, forall_eq']
    constructor
    · rintro ⟨_, ⟨fits, rfl⟩, same⟩
      cases same
      exact ⟨fits, rfl⟩
    · rintro ⟨fits, rfl⟩
      exact ⟨_, ⟨fits, rfl⟩, rfl⟩

theorem buildErrorPayload_ok_iff (exc : Raised) :
    (∃ payload, buildErrorPayload exc = .ok payload) ↔ Encodable exc := by
  simp only [buildErrorPayload, Fallible.bind_ok_iff, orEscape_ok_iff, packU32_ok_iff, packPickled_ok_iff]
  constructor
  · rintro ⟨_, text, said, trace, traced, pickled, caught, _, ⟨short, _⟩, _, ⟨low, _⟩, _, ⟨fits, _⟩, _⟩
    exact ⟨⟨text, said, short⟩, ⟨trace, traced, low⟩, pickled, caught, fits⟩
  · rintro ⟨⟨text, said, short⟩, ⟨trace, traced, low⟩, pickled, caught, fits⟩
    exact ⟨_, text, said, trace, traced, pickled, caught, _, ⟨short, rfl⟩, _, ⟨low, rfl⟩, _, ⟨fits, rfl⟩, rfl⟩

theorem buildErrorPayload_encode_iff {message traceback : String} (caught : pickled.caught = .ok blob) :
    buildErrorPayload ⟨some (ErrorPayload.utf8 message), some (ErrorPayload.utf8 traceback), pickled⟩ =
        .ok payload ↔
      (⟨message, some traceback, 0, blob⟩ : ErrorPayload).Fits ∧
        payload = ErrorPayload.encode ⟨message, some traceback, 0, blob⟩ := by
  simp only [buildErrorPayload, Fallible.bind_ok_iff, orEscape_ok_iff, packU32_ok_iff, packPickled_ok_iff, caught]
  constructor
  · rintro ⟨_, said, _, traced, _, done, _, ⟨short, rfl⟩, _, ⟨low, rfl⟩, _, ⟨fits, rfl⟩, same⟩
    cases said
    cases traced
    cases done
    cases same
    exact ⟨⟨short, fun text found => Option.some.inj found ▸ low, fits⟩, rfl⟩
  · rintro ⟨⟨short, low, fits⟩, rfl⟩
    exact ⟨_, rfl, _, rfl, _, rfl, _, ⟨short, rfl⟩, _, ⟨low traceback rfl, rfl⟩, _, ⟨fits, rfl⟩, rfl⟩

theorem decode_buildErrorPayload {message traceback : String}
    (built : buildErrorPayload ⟨some (ErrorPayload.utf8 message), some (ErrorPayload.utf8 traceback), pickled⟩ =
      .ok payload) :
    ∃ blob, pickled.caught = .ok blob ∧
      ErrorPayload.decode payload = .ok ⟨message, some traceback, 0, blob⟩ := by
  obtain ⟨_, _, blob, caught, _⟩ := (buildErrorPayload_ok_iff _).mp ⟨payload, built⟩
  obtain ⟨fits, rfl⟩ := (buildErrorPayload_encode_iff caught).mp built
  exact ⟨blob, caught, ErrorPayload.decode_encode fits⟩

/-- The values under the ids, in their order, when nothing on the way raises. -/
abbrev Outputs := Metadata × List (ObjectId × Bytes)

def spread (exc : Raised) (ids : List ObjectId) : Option Outputs :=
  match buildErrorPayload exc with
  | .error _ => none
  | .ok payload => some (.error .taskException 0, ids.map fun id => (id, payload))

def Result.outputs (result : Result) (job : DispatchJob) : Option Outputs :=
  if job.numReturns = 1 then
    result.whole.map fun data => (.pickle5 false, job.objectIds.map fun id => (id, data))
  else
    match result.isTupleOf job.numReturns.toNat with
    | none => none
    | some true =>
      if result.items.length = job.objectIds.length ∧ result.stops = true then
        (result.items.mapM (·)).map fun items => (.pickle5 false, job.objectIds.zip items)
      else none
    | some false => result.typeError.bind fun exc => spread exc job.objectIds

def Behaviour.outputs (behaviour : Behaviour) (job : DispatchJob) : Option Outputs :=
  if behaviour.loads job then
    match behaviour.call with
    | .raised exc => spread exc job.objectIds
    | .returned result => result.outputs job
  else none

/-- What a worker that gets through announces. -/
def completion (job : DispatchJob) (outputs : Outputs) : Value :=
  taskComplete job (outputs.2.map fun pair => returnEntry pair.1 outputs.1.encode pair.2)

/-- The result can be stored as it is, or the complaint about it can. -/
def Result.Finishes (result : Result) (numReturns : UInt32) : Prop :=
  if numReturns = 1 then result.whole ≠ none
  else
    result.isTupleOf numReturns.toNat = some true ∧ result.items.length = numReturns.toNat ∧
        result.stops = true ∧ none ∉ result.items ∨
      result.isTupleOf numReturns.toNat = some false ∧ ∃ exc, result.typeError = some exc ∧ Encodable exc

/-- Nothing outside the guarded call raises. -/
structure Behaviour.Finishes (behaviour : Behaviour) (job : DispatchJob) : Prop where
  loads : behaviour.loads job = true
  call : match behaviour.call with
    | .raised exc => Encodable exc
    | .returned result => result.Finishes job.numReturns

section Finishing
variable {job : DispatchJob}

theorem spread_isSome_iff (exc : Raised) (ids : List ObjectId) :
    (∃ outputs, spread exc ids = some outputs) ↔ Encodable exc := by
  rw [← buildErrorPayload_ok_iff, spread]
  cases buildErrorPayload exc with
  | error escaped => simp
  | ok payload => simp

theorem mapM_isSome_iff (items : List (Option Bytes)) :
    (∃ payloads, items.mapM (·) = some payloads) ↔ none ∉ items := by
  induction items with
  | nil => simp
  | cons item rest ih =>
    cases item with
    | none => simp
    | some data =>
      rw [List.mem_cons, not_or, ← ih]
      cases done : rest.mapM (·) <;> simp [done]

theorem Result.outputs_isSome_iff (result : Result) (job : DispatchJob) :
    (∃ outputs, result.outputs job = some outputs) ↔ result.Finishes job.numReturns := by
  by_cases one : job.numReturns = 1
  · rw [Result.outputs, Result.Finishes, if_pos one, if_pos one]
    cases result.whole <;> simp
  · rw [Result.outputs, Result.Finishes, if_neg one, if_neg one, DispatchJob.objectIds_length]
    cases tuple : result.isTupleOf job.numReturns.toNat with
    | none => simp
    | some fits =>
      cases fits with
      | true =>
        simp only [true_and, Option.some.injEq, Bool.true_eq_false, false_and, or_false]
        rw [← mapM_isSome_iff, ← and_assoc]
        by_cases even : result.items.length = job.numReturns.toNat ∧ result.stops = true
        · rw [if_pos even, and_iff_right even]
          simp [Option.map_eq_some_iff]
        · rw [if_neg even]
          simp [even]
      | false =>
        simp only [Option.some.injEq, Bool.false_eq_true, false_and, false_or, true_and]
        cases result.typeError with
        | none => simp
        | some exc => simpa using spread_isSome_iff exc job.objectIds

theorem Behaviour.outputs_isSome_iff (behaviour : Behaviour) (job : DispatchJob) :
    (∃ outputs, behaviour.outputs job = some outputs) ↔ behaviour.Finishes job := by
  rw [Behaviour.outputs]
  by_cases loads : behaviour.loads job = true
  · rw [if_pos loads]
    refine Iff.trans ?_ ⟨fun call => ⟨loads, call⟩, Finishes.call⟩
    cases behaviour.call with
    | raised exc => exact spread_isSome_iff exc _
    | returned result => exact result.outputs_isSome_iff _
  · rw [if_neg loads]
    exact iff_of_false (by simp) fun finishes => loads finishes.loads

end Finishing

/-- The loop over known values. -/
def sealOutputs (s : Session) (outputs : Outputs) : Except TaskFailure (List Value) × Session :=
  sealReturns s outputs.1.encode (outputs.2.map fun pair => (pair.1, some pair.2))

/-- Running comes to sealing what is to be put out, or to an exception if there is nothing. -/
def Follows (run : Session → Except Escaped (List Value) × Session) (ids : List ObjectId) :
    Option Outputs → Prop
  | some outputs => outputs.2.map Prod.fst = ids ∧ ∀ s, run s = liftTask (sealOutputs s outputs)
  | none => ∀ s, ∃ escaped t, run s = (.error escaped, t)

section Entries
variable {job : DispatchJob}

theorem spreadError_follows (ids : List ObjectId) (exc : Raised) :
    Follows (fun s => spreadError s ids exc) ids (spread exc ids) := by
  simp only [spread, spreadError]
  cases buildErrorPayload exc with
  | error escaped => exact fun s => ⟨escaped, s, rfl⟩
  | ok payload =>
    refine ⟨by simp [Function.comp_def], fun s => ?_⟩
    simp only [sealOutputs, List.map_map]
    rfl

/-- A pickle that fails ends the loop, unless a seal did so before. -/
theorem sealReturns_unpicklable {pairs : List (ObjectId × Option Bytes)} (missing : none ∈ pairs.map Prod.snd)
    (s : Session) (header : Bytes) : ∃ failure t, sealReturns s header pairs = (.error failure, t) := by
  induction pairs generalizing s with
  | nil => cases missing
  | cons pair rest ih =>
    obtain ⟨id, pickle⟩ := pair
    cases pickle with
    | none => exact ⟨_, _, rfl⟩
    | some data =>
      have later : none ∈ rest.map Prod.snd := by simpa using missing
      simp only [sealReturns]
      rcases workerSeal s id header data with ⟨result, t⟩
      cases result with
      | error failure => exact ⟨failure, t, rfl⟩
      | ok size =>
        obtain ⟨failure, u, failed⟩ := ih later t
        simp only [failed]
        exact ⟨failure, u, rfl⟩

theorem sealItems_follows (ids : List ObjectId) (result : Result) :
    Follows (fun s => sealItems s ids result) ids
      (if result.items.length = ids.length ∧ result.stops = true then
        (result.items.mapM (·)).map fun items => (.pickle5 false, ids.zip items)
      else none) := by
  by_cases even : result.items.length = ids.length ∧ result.stops = true
  · rw [if_pos even]
    cases all : result.items.mapM (·) with
    | none =>
      intro s
      have missing : none ∈ (ids.zip result.items).map Prod.snd := by
        rw [List.map_snd_zip even.1.le]
        by_contra present
        obtain ⟨payloads, some⟩ := (mapM_isSome_iff _).mpr present
        rw [all] at some
        cases some
      obtain ⟨failure, t, failed⟩ := sealReturns_unpicklable missing s pickle5Header
      exact ⟨.task failure, t, by simp only [sealItems, liftTask, failed, Except.mapError]⟩
    | some payloads =>
      have items := mapM_eq_some all
      have sized : ids.length ≤ payloads.length := by rw [← even.1, items, List.length_map]
      refine ⟨List.map_fst_zip sized, fun s => ?_⟩
      have zipped : sealReturns s pickle5Header (ids.zip result.items) =
          sealOutputs s (.pickle5 false, ids.zip payloads) := by
        rw [items, List.zip_map_right]
        rfl
      simp only [sealItems, zipped, if_pos even]
      rcases sealOutputs s (.pickle5 false, ids.zip payloads) with ⟨result, t⟩
      cases result <;> rfl
  · rw [if_neg even]
    intro s
    simp only [sealItems, if_neg even]
    rcases liftTask (sealReturns s pickle5Header (ids.zip result.items)) with ⟨result, t⟩
    cases result with
    | error escaped => exact ⟨escaped, t, rfl⟩
    | ok entries => exact ⟨.uneven, t, rfl⟩

theorem single_follows (one : job.numReturns = 1) (whole : Option Bytes) :
    Follows (fun s => liftTask (sealReturns s pickle5Header (job.objectIds.map fun id => (id, whole))))
      job.objectIds
      (whole.map fun data => (.pickle5 false, job.objectIds.map fun id => (id, data))) := by
  cases whole with
  | none =>
    intro s
    have missing : none ∈ (job.objectIds.map fun id => (id, (none : Option Bytes))).map Prod.snd := by
      simp [DispatchJob.objectIds, one]
    obtain ⟨failure, t, failed⟩ := sealReturns_unpicklable missing s pickle5Header
    exact ⟨.task failure, t, by simp only [liftTask, failed, Except.mapError]⟩
  | some data =>
    refine ⟨by simp [Function.comp_def], fun s => ?_⟩
    simp only [sealOutputs, List.map_map]
    rfl

theorem taskEntries_follows (job : DispatchJob) (behaviour : Behaviour) :
    Follows (fun s => taskEntries s job behaviour) job.objectIds (behaviour.outputs job) := by
  by_cases loads : behaviour.loads job = true
  · simp only [taskEntries, Behaviour.outputs, if_pos loads]
    cases behaviour.call with
    | raised exc => exact spreadError_follows _ exc
    | returned result =>
      simp only [Result.outputs]
      by_cases one : job.numReturns = 1
      · simp only [if_pos one]
        exact single_follows one result.whole
      · simp only [if_neg one]
        cases result.isTupleOf job.numReturns.toNat with
        | none => exact fun s => ⟨_, s, rfl⟩
        | some fits =>
          cases fits with
          | true => exact sealItems_follows _ result
          | false =>
            cases result.typeError with
            | none => exact fun s => ⟨_, s, rfl⟩
            | some exc => exact spreadError_follows _ exc
  · simp only [taskEntries, Behaviour.outputs, if_neg loads]
    exact fun s => ⟨_, s, rfl⟩

end Entries

/-- A result of a class that leaves these questions alone. -/
def Result.plain (value : Returned) (typeError : Raised) : Result :=
  match value with
  | .tuple whole items => ⟨whole, some true, some items.length, items, true, some typeError⟩
  | .single whole => ⟨whole, some false, none, [], true, some typeError⟩

/-- The behaviours that the model with ready-made error payloads covers. -/
inductive Coarse (job : DispatchJob) : Behaviour → CallOutcome → Bytes → Prop where
  | unloadable : behaviour.loads job = false → Coarse job behaviour .unloadable typeError
  | raised : behaviour.loads job = true → behaviour.call = .raised exc →
      buildErrorPayload exc = .ok payload → Coarse job behaviour (.raised payload) typeError
  | returned (value : Returned) (exc : Raised) : behaviour.loads job = true →
      behaviour.call = .returned (.plain value exc) → buildErrorPayload exc = .ok typeError →
      Coarse job behaviour (.returned value) typeError

theorem sealItems_plain (s : Session) (ids : List ObjectId) (whole : Option Bytes) (typeError : Raised)
    (sized : items.length = ids.length) :
    sealItems s ids (.plain (.tuple whole items) typeError) =
      liftTask (sealReturns s pickle5Header (ids.zip items)) := by
  simp only [sealItems, Result.plain, sized, and_self, if_true]
  rcases liftTask (sealReturns s pickle5Header (ids.zip items)) with ⟨result, t⟩
  cases result <;> rfl

theorem taskEntries_coarse (coarse : Coarse job behaviour outcome typeError) (s : Session) :
    taskEntries s job behaviour = liftTask (Tasks.taskEntries s job outcome typeError) := by
  cases coarse with
  | unloadable loads =>
    simp only [taskEntries, loads, Bool.false_eq_true, if_false]
    rfl
  | raised loads call built =>
    simp only [taskEntries, loads, if_true, call, spreadError, built]
    rfl
  | returned value exc loads call built =>
    simp only [taskEntries, loads, if_true, call, Tasks.taskEntries]
    by_cases one : job.numReturns = 1
    · rw [if_pos one, if_pos one]
      cases value <;> rfl
    · rw [if_neg one, if_neg one]
      cases value with
      | single whole => simp only [Result.plain, Result.isTupleOf, spreadError, built]
      | tuple whole items =>
        by_cases sized : items.length = job.numReturns.toNat
        · have even : items.length = job.objectIds.length := by rw [sized, DispatchJob.objectIds_length]
          have tuple : (Result.plain (.tuple whole items) exc).isTupleOf job.numReturns.toNat = some true := by
            simp [Result.plain, Result.isTupleOf, sized]
          simp only [tuple, if_pos sized]
          exact sealItems_plain s _ whole exc even
        · have tuple : (Result.plain (.tuple whole items) exc).isTupleOf job.numReturns.toNat = some false := by
            simp [Result.plain, Result.isTupleOf, sized]
          simp only [tuple, if_neg sized]
          simp only [Result.plain, spreadError, built]

/-- There the two models agree, on the exception as well. -/
theorem executeTask_coarse (coarse : Coarse job behaviour outcome typeError) (s : Session) :
    executeTask s job behaviour = liftTask (Tasks.executeTask s job outcome typeError) := by
  simp only [executeTask, Tasks.executeTask, taskEntries_coarse coarse, liftTask]
  rcases Tasks.taskEntries s job outcome typeError with ⟨result, t⟩
  cases result <;> rfl

section Continuing
variable {encode : Value → Bytes} {s t : Session} {written sent : Bytes} {job : DispatchJob}
  {behaviour : Behaviour} {outputs : Outputs}

theorem main_singleton (encode : Value → Bytes) (s : Session) (written : Bytes) (next : Incoming) :
    main encode s written [next] = turn encode s written next := by
  simp only [main]
  rcases turn encode s written next with ⟨status, t, sent⟩
  cases status <;> rfl

/-- The loop goes on with whatever comes next exactly when the pass ends without an exception. -/
theorem main_continues_iff {next : Incoming} :
    (∀ rest, main encode s written (next :: rest) = main encode t sent rest) ↔
      turn encode s written next = (.running, t, sent) := by
  constructor
  · intro continues
    rw [← main_singleton, continues []]
    rfl
  · intro running rest
    simp only [main, running]

theorem turn_running_iff :
    turn encode s written (.dispatchTask job behaviour) = (.running, t, sent) ↔
      ∃ reply, executeTask s job behaviour = (.ok reply, t) ∧
        (encode reply).length ≤ Wire.maxFrameBytes ∧ sent = written ++ ByteStream.frame (encode reply) := by
  simp only [turn]
  rcases executeTask s job behaviour with ⟨result, u⟩
  cases result with
  | error escaped => simp
  | ok reply =>
    simp only [Wire.Worker.sendFrame, Wire.sendUpTo]
    by_cases small : (encode reply).length ≤ Wire.maxFrameBytes
    · simp only [if_pos small, Prod.mk.injEq, true_and, Except.ok.injEq]
      constructor
      · rintro ⟨rfl, rfl⟩
        exact ⟨reply, ⟨rfl, rfl⟩, small, rfl⟩
      · rintro ⟨_, ⟨rfl, rfl⟩, _, rfl⟩
        exact ⟨rfl, rfl⟩
    · simp only [if_neg small, Prod.mk.injEq, reduceCtorEq, false_and, false_iff]
      rintro ⟨_, ⟨same, _⟩, fits, _⟩
      cases same
      exact small fits

/-- With the ids free and room for the values, the reply announces all of them. -/
theorem executeTask_outputs (found : behaviour.outputs job = some outputs)
    (sealable : Session.Sealable s.plasma (sealings outputs.1 outputs.2)) :
    outputs.2.map Prod.fst = job.objectIds ∧
      (s.sealEach (sealings outputs.1 outputs.2)).1 = .ok () ∧
      executeTask s job behaviour =
        (.ok (completion job outputs), (s.sealEach (sealings outputs.1 outputs.2)).2) := by
  have follows := taskEntries_follows job behaviour
  rw [found] at follows
  obtain ⟨ids, ran⟩ := follows
  have done := s.sealEach_of_sealable _ (sealings_distinct ids _) sealable
  refine ⟨ids, done, ?_⟩
  rcases sealReturns_spec outputs.1.decode_encode outputs.2 s with ⟨_, entries⟩ | ⟨stopped, _⟩
  · simp only [executeTask, ran, sealOutputs, entries]
    rfl
  · exact absurd done stopped

end Continuing

/-- The entry is for this id, and the value it announces is sealed under it. -/
def Announces (plasma : Store) (id : ObjectId) (entry : Value) : Prop :=
  ∃ header data, entry = returnEntry id header data ∧ plasma.objects.lookup id = some ⟨header, data, true⟩

/-- The task comes to a reply with an entry for each id in turn, and the loop goes on. -/
def Completes (encode : Value → Bytes) (s : Session) (written : Bytes) (job : DispatchJob)
    (behaviour : Behaviour) : Prop :=
  ∃ entries t sent, executeTask s job behaviour = (.ok (taskComplete job entries), t) ∧
    List.Forall₂ (Announces t.plasma) job.objectIds entries ∧
    ∀ rest, main encode s written (.dispatchTask job behaviour :: rest) = main encode t sent rest

/-- With free ids and room for what is put out, a task completes exactly when nothing
outside the guarded call raises and the reply fits a frame. -/
theorem dispatched_task_completes_iff {s : Session} {job : DispatchJob} {behaviour : Behaviour}
    (encode : Value → Bytes) (written : Bytes) (unspilled : s.worker.recoverer = none)
    (absent : ∀ id ∈ job.objectIds, s.plasma.objects.lookup id = none)
    (room : ∀ outputs, behaviour.outputs job = some outputs →
      Store.RoomAll s.plasma.arena ((sealings outputs.1 outputs.2).map Sealing.call)) :
    Completes encode s written job behaviour ↔
      behaviour.Finishes job ∧ ∀ outputs, behaviour.outputs job = some outputs →
        (encode (completion job outputs)).length ≤ Wire.maxFrameBytes := by
  rw [← behaviour.outputs_isSome_iff]
  have follows := taskEntries_follows job behaviour
  cases found : behaviour.outputs job with
  | none =>
    rw [found] at follows
    refine iff_of_false ?_ (by simp)
    rintro ⟨entries, t, sent, ran, _⟩
    obtain ⟨escaped, u, failed⟩ := follows s
    simp only [executeTask, failed] at ran
    cases ran
  | some outputs =>
    rw [found] at follows
    have sealable : Session.Sealable s.plasma (sealings outputs.1 outputs.2) := by
      refine ⟨fun value member => absent _ ?_, room outputs found⟩
      obtain ⟨pair, listed, rfl⟩ := List.mem_map.mp member
      rw [← follows.1]
      exact List.mem_map_of_mem listed
    obtain ⟨ids, done, ran⟩ := executeTask_outputs found sealable
    simp only [Option.some.injEq, exists_eq', true_and, forall_eq']
    constructor
    · rintro ⟨entries, t, sent, _, _, continues⟩
      obtain ⟨reply, same, small, _⟩ := turn_running_iff.mp (main_continues_iff.mp continues)
      rw [ran] at same
      cases same
      exact small
    · intro small
      refine ⟨_, _, _, ran, ?_, main_continues_iff.mpr (turn_running_iff.mpr ⟨_, ran, small, rfl⟩)⟩
      rw [← ids, List.forall₂_map_left_iff, List.forall₂_map_right_iff, List.forall₂_same]
      intro pair listed
      refine ⟨_, _, rfl, ?_⟩
      exact (s.sealEach_objects _ (sealings_distinct ids _) unspilled done).1 _ (List.mem_map_of_mem listed)

section Samples

def sampleTask : DispatchJob := ⟨.nil 24, 2, [], [], none⟩

def sampleSession : Session := ⟨.start .newest (.nil 16) none (2 ^ 64 - 1), ⟨.onePage, ∅⟩⟩

/-- The complaint about a result that is no pair. -/
def pairExpected : Raised := ⟨some [7], some [8], .bytes [9]⟩

def returning (items : List (Option Bytes)) : Behaviour :=
  ⟨true, true, true, .returned (.plain (.tuple none items) pairExpected)⟩

end Samples

/-- Both items of a pair are stored. -/
theorem pair_completes :
    Completes (fun _ => []) sampleSession [] sampleTask (returning [some [1], some [2]]) := by
  have outputs : (returning [some [1], some [2]]).outputs sampleTask =
      some (.pickle5 false, sampleTask.objectIds.zip [[1], [2]]) := rfl
  refine (dispatched_task_completes_iff (fun _ => []) [] rfl (fun _ _ => rfl) ?_).mpr ⟨?_, ?_⟩
  · intro found same
    rw [outputs] at same
    cases same
    decide
  · exact (Behaviour.outputs_isSome_iff _ _).mp ⟨_, outputs⟩
  · exact fun _ _ => Nat.zero_le _

/-- With the ids free and plasma empty, a second item that does not pickle leaves the first
one sealed and ends the worker, before it gets to the shutdown. So does an exception whose
traceback has no encoding, and a callable that does not unpickle. -/
theorem unpicklable_item_ends_worker :
    (∀ id ∈ sampleTask.objectIds, sampleSession.plasma.objects.lookup id = none) ∧
    (∃ t, main (fun _ => []) sampleSession []
        [.dispatchTask sampleTask (returning [some [1], none]), .shutdown] =
          (.crashed (.task .unpicklable), t, []) ∧
      t.plasma.objects.lookup (.forReturn sampleTask.taskId 0) = some ⟨pickle5Header, [1], true⟩) ∧
    main (fun _ => []) sampleSession []
        [.dispatchTask sampleTask ⟨true, true, true, .raised ⟨some [7], none, .exception⟩⟩, .shutdown] =
      (.crashed .noTraceback, sampleSession, []) ∧
    main (fun _ => []) sampleSession []
        [.dispatchTask sampleTask ⟨false, true, true, .raised pairExpected⟩, .shutdown] =
      (.crashed (.task .unloadable), sampleSession, []) :=
  ⟨fun _ _ => rfl, ⟨_, rfl, rfl⟩, rfl, rfl⟩

end Rayd.Tasks.Process
