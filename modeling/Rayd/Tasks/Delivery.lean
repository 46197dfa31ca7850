import Rayd.Refs.Reading
import Rayd.Tasks.Process

/-! A remote call against the local one. The function runs in a worker process, which
pickles what comes of it into plasma and announces it; the driver indexes what is
announced; and `get` reads plasma through the index. What the user's pickles do is given
by a pickler that brings back what it has a pickle for. -/
namespace Rayd.Tasks.Delivery
open Memory Core Plasma Refs

/-- Not every value has a pickle. -/
structure Pickling (V : Type) where
  dumps : V → Option Bytes
  loads : Bytes → Except String V
  loads_dumps : ∀ {value data}, dumps value = some data → loads data = .ok value

/-- An exception with its `repr` and traceback. -/
structure Thrown (V : Type) where
  exception : V
  message : String
  traceback : String

/-- What calling the function comes to; a tuple is returned with its items. -/
inductive Local (V : Type) where
  | raised (thrown : Thrown V)
  | returned (value : V) (items : Option (List V))

section Definitions
variable {V : Type} (pickling : Pickling V)

/-- The exception as the worker sees it. -/
def Thrown.observed (thrown : Thrown V) : Process.Raised where
  message := some (ErrorPayload.utf8 thrown.message)
  traceback := some (ErrorPayload.utf8 thrown.traceback)
  pickled := (pickling.dumps thrown.exception).elim .exception .bytes

/-- `complaint` is the `TypeError` about a result that is no tuple of the right length. -/
def Local.behaviour (complaint : Thrown V) (outcome : Local V) : Process.Behaviour where
  callable := true
  args := true
  kwargs := true
  call := match outcome with
    | .raised thrown => .raised (thrown.observed pickling)
    | .returned value none => .returned (.plain (.single (pickling.dumps value)) (complaint.observed pickling))
    | .returned value (some items) =>
      .returned (.plain (.tuple (pickling.dumps value) (items.map pickling.dumps)) (complaint.observed pickling))

/-- The exception itself, or a `RuntimeError` that says what it was. -/
def Thrown.raises (thrown : Thrown V) : GetError V :=
  if (pickling.dumps thrown.exception).isSome then .user thrown.exception
  else .taskFailed (taskFailedText .taskException thrown.message)

/-- What `get` is to give for the refs of a call, one after the other. -/
def Local.results (complaint : Thrown V) (numReturns : UInt32) : Local V → List (Except (GetError V) (Got V))
  | .raised thrown => List.replicate numReturns.toNat (.error (thrown.raises pickling))
  | .returned value items =>
    if numReturns = 1 then [.ok (.value value)]
    else
      match items.filter fun items => items.length == numReturns.toNat with
      | some items => items.map fun item => .ok (.value item)
      | none => List.replicate numReturns.toNat (.error (complaint.raises pickling))

end Definitions

section Worker
variable {s t : Session} {job : DispatchJob} {behaviour : Process.Behaviour}

/-- A worker that gets through has sealed what it announces. -/
theorem executeTask_ok (ran : Process.executeTask s job behaviour = (.ok reply, t)) :
    ∃ outputs, behaviour.outputs job = some outputs ∧ outputs.2.map Prod.fst = job.objectIds ∧
      (s.sealEach (sealings outputs.1 outputs.2)).1 = .ok () ∧
      t = (s.sealEach (sealings outputs.1 outputs.2)).2 ∧ reply = Process.completion job outputs := by
  have follows := Process.taskEntries_follows job behaviour
  cases found : behaviour.outputs job with
  | none =>
    rw [found] at follows
    obtain ⟨escaped, u, failed⟩ := follows s
    simp only [Process.executeTask, failed] at ran
    cases ran
  | some outputs =>
    rw [found] at follows
    obtain ⟨ids, sealing⟩ := follows
    simp only [Process.executeTask, sealing, Process.sealOutputs] at ran
    rcases sealReturns_spec outputs.1.decode_encode outputs.2 s with ⟨done, entries⟩ | ⟨_, _, _, failed⟩
    · rw [entries] at ran
      cases ran
      exact ⟨outputs, rfl, ids, done, rfl, rfl⟩
    · rw [failed] at ran
      cases ran

end Worker

section Driver
variable {header : Bytes} {metadata : Metadata}

theorem parseEntry_size {id : ObjectId} {data : Bytes} (parsed : parseEntry (returnEntry id header data) = .ok entry) :
    data.length < 2 ^ 64 := by
  simp only [parseEntry, returnEntry, Value.asDict, Fallible.bind_ok_iff] at parsed
  obtain ⟨_, _, _, _, _, _, _, _, size, required, n, extracted, _⟩ := parsed
  cases (show Except.ok (Value.int data.length) = .ok size from required)
  by_contra large
  rw [Value.asU64, asUnsigned_natCast, if_neg large] at extracted
  cases extracted

theorem completion_indexed {store : MemoryStore} {job : DispatchJob} {outputs : Process.Outputs}
    (ids : outputs.2.map Prod.fst = job.objectIds)
    (taken : handleCompletion store (some (Process.completion job outputs)) = (.done, after)) :
    ∀ pair ∈ outputs.2, after.getEntry pair.1 = some (.plasma ⟨outputs.1, pair.2.length⟩) := by
  have reaches : Reaches (some (Process.completion job outputs))
      (outputs.2.map fun pair => returnEntry pair.1 outputs.1.encode pair.2) := ⟨_, rfl, rfl, rfl⟩
  have parses := (reaches.done_iff store).mp (congrArg Prod.fst taken)
  have fits : ∀ pair ∈ outputs.2, pair.2.length < 2 ^ 64 := by
    intro pair member
    obtain ⟨_, parsed⟩ := parses _ (List.mem_map_of_mem member)
    exact parseEntry_size parsed
  have indexed := handleCompletion_taskComplete store job outputs.1.decode_encode outputs.2 fits
  have same := (Prod.mk.inj (taken.symm.trans indexed)).2
  intro pair member
  rw [same]
  exact (MemoryStore.getEntry_putAll _ store (sealings_distinct ids outputs.1)).1 _ (List.mem_map_of_mem member)

end Driver

section Results
variable {V : Type} {pickling : Pickling V} {timeout : Option Nat} {job : DispatchJob}
  {complaint : Thrown V} {outcome : Local V}

/-- What `get` makes of each output. -/
def delivered (loads : Bytes → Except String V) (outputs : Process.Outputs) : List (Except (GetError V) (Got V)) :=
  outputs.2.map fun pair => gotObject loads ⟨outputs.1, pair.2⟩

theorem Thrown.caught (pickling : Pickling V) (thrown : Thrown V) :
    (thrown.observed pickling).pickled.caught = .ok (pickling.dumps thrown.exception) := by
  simp only [Thrown.observed]
  cases pickling.dumps thrown.exception <;> rfl

theorem Thrown.raised {thrown : Thrown V}
    (built : Process.buildErrorPayload (thrown.observed pickling) = .ok payload) :
    raiseFromErrorObject pickling.loads .taskException payload = thrown.raises pickling := by
  obtain ⟨blob, caught, decoded⟩ := Process.decode_buildErrorPayload built
  cases (thrown.caught pickling).symm.trans caught
  simp only [raiseFromErrorObject, decoded, Thrown.raises]
  cases pickled : pickling.dumps thrown.exception with
  | none => rfl
  | some data => simp [pickling.loads_dumps pickled]

theorem spread_delivered {thrown : Thrown V}
    (found : Process.spread (thrown.observed pickling) job.objectIds = some outputs) :
    delivered pickling.loads outputs = List.replicate job.numReturns.toNat (.error (thrown.raises pickling)) := by
  simp only [Process.spread] at found
  cases built : Process.buildErrorPayload (thrown.observed pickling) with
  | error escaped => simp [built] at found
  | ok payload =>
    rw [built] at found
    cases found
    simp only [delivered, gotObject, Thrown.raised built, List.map_map, Function.comp_def]
    rw [List.map_const', DispatchJob.objectIds_length]

theorem dumped_delivered {values : List V} {payloads : List Bytes}
    (pickled : values.map pickling.dumps = payloads.map some) :
    payloads.map (fun data => gotObject pickling.loads ⟨.pickle5 false, data⟩) =
      values.map fun value => .ok (.value value) := by
  induction values generalizing payloads with
  | nil =>
    cases payloads with
    | nil => rfl
    | cons => cases pickled
  | cons value rest ih =>
    cases payloads with
    | nil => cases pickled
    | cons data others =>
      simp only [List.map_cons, List.cons.injEq] at pickled ⊢
      refine ⟨?_, ih pickled.2⟩
      simp only [gotObject, pickling.loads_dumps pickled.1]

theorem whole_delivered {value : V} (one : job.numReturns = 1) (typeError : Process.Raised)
    (returned : Returned) (whole : returned.whole = pickling.dumps value)
    (found : (Process.Result.plain returned typeError).outputs job = some outputs) :
    delivered pickling.loads outputs = [.ok (.value value)] := by
  have same : (Process.Result.plain returned typeError).whole = pickling.dumps value := by
    rw [← whole]
    cases returned <;> rfl
  simp only [Process.Result.outputs, if_pos one, same] at found
  obtain ⟨data, pickled, rfl⟩ := Option.map_eq_some_iff.mp found
  simp [delivered, gotObject, DispatchJob.objectIds, one, pickling.loads_dumps pickled]

theorem items_delivered {items : List V} (several : job.numReturns ≠ 1) (typeError : Process.Raised)
    (whole : Option Bytes) (sized : items.length = job.numReturns.toNat)
    (found : (Process.Result.plain (.tuple whole (items.map pickling.dumps)) typeError).outputs job =
      some outputs) :
    delivered pickling.loads outputs = items.map fun item => .ok (.value item) := by
  have even : (items.map pickling.dumps).length = job.objectIds.length := by simp [sized]
  simp only [Process.Result.outputs, if_neg several, Process.Result.plain, Process.Result.isTupleOf,
    Option.map_some, List.length_map, sized, beq_self_eq_true] at found
  rw [if_pos ⟨by simp, trivial⟩] at found
  obtain ⟨payloads, all, rfl⟩ := Option.map_eq_some_iff.mp found
  have pickled := mapM_eq_some all
  rw [← dumped_delivered pickled]
  have lengths : job.objectIds.length = payloads.length := by rw [← even, pickled, List.length_map]
  conv_rhs => rw [← List.map_snd_zip lengths.ge, List.map_map]
  rfl

/-- A result that is no tuple of the right length is complained about. -/
theorem complaint_delivered {returned : Returned} (several : job.numReturns ≠ 1)
    (other : (Process.Result.plain returned (complaint.observed pickling)).isTupleOf job.numReturns.toNat =
      some false)
    (found : (Process.Result.plain returned (complaint.observed pickling)).outputs job = some outputs) :
    delivered pickling.loads outputs =
      List.replicate job.numReturns.toNat (.error (complaint.raises pickling)) := by
  simp only [Process.Result.outputs, if_neg several, other] at found
  cases returned <;> exact spread_delivered found

/-- Reading back what the worker puts out gives the results of the local call. -/
theorem outputs_delivered (found : (outcome.behaviour pickling complaint).outputs job = some outputs) :
    delivered pickling.loads outputs = outcome.results pickling complaint job.numReturns := by
  have loads : (outcome.behaviour pickling complaint).loads job = true := rfl
  simp only [Process.Behaviour.outputs, if_pos loads] at found
  cases outcome with
  | raised thrown => exact spread_delivered found
  | returned value items =>
    simp only [Local.results]
    by_cases one : job.numReturns = 1
    · rw [if_pos one]
      cases items <;> exact whole_delivered one _ _ rfl found
    · rw [if_neg one]
      cases items with
      | none => exact complaint_delivered one rfl found
      | some items =>
        by_cases sized : items.length = job.numReturns.toNat
        · simp only [Option.filter_some, sized, beq_self_eq_true, if_true]
          exact items_delivered one _ _ sized found
        · have other : (items.length == job.numReturns.toNat) = false := beq_false_of_ne sized
          simp only [Option.filter_some, other, Bool.false_eq_true, if_false]
          refine complaint_delivered one ?_ found
          simp [Process.Result.plain, Process.Result.isTupleOf, sized]

end Results

section Calls
variable {V : Type} {pickling : Pickling V} {timeout : Option Nat} {job : DispatchJob}
  {complaint : Thrown V} {outcome : Local V} {s t : Session}

/-- The entry and the object are still there. -/
structure Finds (plasma : Store) (store : MemoryStore) (turn : SettledTurn) : Prop where
  entry : turn.entry = store.getEntry turn.ref.objectId
  object : turn.session.plasma.objects.lookup turn.ref.objectId = plasma.objects.lookup turn.ref.objectId

theorem Finds.read {loads : Bytes → Except String V} {plasma : Store} {store : MemoryStore} {turn : SettledTurn}
    {id : ObjectId} {header : Bytes} (finds : Finds plasma store turn) (same : turn.ref.objectId = id)
    (indexed : store.getEntry id = some (.plasma ⟨metadata, size⟩))
    (stored : plasma.objects.lookup id = some ⟨header, data, true⟩) (timeout : Option Nat) :
    getOne loads timeout turn = gotObject loads ⟨metadata, data⟩ := by
  subst same
  exact getOne_object (finds.entry.trans indexed) ⟨rfl, .inl ⟨_, finds.object.trans stored, rfl, rfl⟩⟩

/-- The refs of a remote call are read as the local call comes out, whatever the function
does: once the worker got through and the driver took its reply in, and as long as nobody
removes them, `get` gives the value or the items of the tuple, and raises the exception,
under every ref. Without a pickle it raises a `RuntimeError` with the exception's `repr`. -/
theorem remote_call_as_local {reply : Value} {store after : MemoryStore} {turns : List SettledTurn}
    (unspilled : s.worker.recoverer = none)
    (ran : Process.executeTask s job (outcome.behaviour pickling complaint) = (.ok reply, t))
    (taken : handleCompletion store (some reply) = (.done, after))
    (refs : turns.map (fun turn => turn.ref.objectId) = job.objectIds)
    (finds : ∀ turn ∈ turns, Finds t.plasma after turn) (timeout : Option Nat) :
    turns.map (getOne pickling.loads timeout) = outcome.results pickling complaint job.numReturns := by
  obtain ⟨outputs, found, ids, done, rfl, rfl⟩ := executeTask_ok ran
  rw [← outputs_delivered found, delivered]
  have indexed := completion_indexed ids taken
  have sealed := (s.sealEach_objects _ (sealings_distinct ids _) unspilled done).1
  have each : List.Forall₂ (fun (turn : SettledTurn) (pair : ObjectId × Bytes) => turn.ref.objectId = pair.1)
      turns outputs.2 := by
    have same := refs.trans ids.symm
    rw [← List.forall₂_eq_eq_eq, List.forall₂_map_left_iff, List.forall₂_map_right_iff] at same
    exact same
  have found := ((List.forall₂_and_left _ _).mpr ⟨finds, each⟩).flip
  have stored : ∀ pair ∈ outputs.2, _ := fun pair listed => sealed _ (List.mem_map_of_mem listed)
  rw [← List.forall₂_eq_eq_eq, List.forall₂_map_left_iff, List.forall₂_map_right_iff]
  refine ((List.forall₂_and_left _ _).mpr ⟨indexed, (List.forall₂_and_left _ _).mpr ⟨stored, found⟩⟩).flip.imp ?_
  rintro turn pair ⟨entry, object, finds, same⟩
  exact finds.read same entry object timeout

section Samples

def bytesPickling : Pickling Bytes := ⟨some, .ok, fun same => congrArg Except.ok (Option.some.inj same).symm⟩

def pairExpected : Thrown Bytes := ⟨[9], "TypeError", "no pair"⟩

/-- The refs of the two outputs, read by a driver on the worker's plasma. -/
def readBack (t : Session) (store : MemoryStore) : List SettledTurn :=
  Process.sampleTask.objectIds.map fun id =>
    { sampleTurn none .empty with
      ref := ⟨id, none⟩
      entry := store.getEntry id
      session := { t with worker := { t.worker with store := store } } }

theorem pair_read_back :
    ∃ reply t after, Process.executeTask Process.sampleSession Process.sampleTask
        ((Local.returned [] (some [[1], [2]])).behaviour bytesPickling pairExpected) = (.ok reply, t) ∧
      handleCompletion .empty (some reply) = (.done, after) ∧
      (readBack t after).map (getOne Except.ok none) = [.ok (.value [1]), .ok (.value [2])] := by
  obtain ⟨reply, t, after, ran, taken⟩ : ∃ reply t after,
      Process.executeTask Process.sampleSession Process.sampleTask
        ((Local.returned [] (some [[1], [2]])).behaviour bytesPickling pairExpected) = (.ok reply, t) ∧
      handleCompletion .empty (some reply) = (.done, after) := ⟨_, _, _, rfl, rfl⟩
  refine ⟨reply, t, after, ran, taken, ?_⟩
  refine remote_call_as_local rfl ran taken (by simp [readBack, Function.comp_def]) (fun turn member => ?_) none
  obtain ⟨id, _, rfl⟩ := List.mem_map.mp member
  exact ⟨rfl, rfl⟩

end Samples

end Calls

end Rayd.Tasks.Delivery
