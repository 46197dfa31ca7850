import Rayd.Refs.Settled

/-! `rayd.get`. It makes the same pass over the refs as `get_settled` and then reads one ref
after the other, but raises at the first that has no value. What unpickling does is a
parameter, and so is what a call that waits gets to see, as for `get_settled`. -/
namespace Rayd.Refs
open Memory Core Raylet.Fetch Fallible

inductive Got (V : Type) where
  | value (loaded : V)
  | bytes (data : Bytes)
  deriving DecidableEq

def Got.settled {V : Type} : Got V → Settled V
  | .value loaded => .value loaded
  | .bytes data => .bytes data

inductive GetError (V : Type) where
  /-- What `get_settled` raises as well. -/
  | stop (stop : Stop)
  | timeout (message : String)
  /-- The task's own exception, unpickled. -/
  | user (exception : V)
  /-- `RuntimeError`. -/
  | taskFailed (message : String)
  /-- `ValueError`. -/
  | expectsList
  deriving DecidableEq

def categoryText : ErrorCategory → String
  | .taskException => "TaskException"
  | .workerDied => "WorkerDied"
  | .actorDied => "ActorDied"
  | .ownerDied => "OwnerDied"
  | .taskCancelled => "TaskCancelled"
  | .objectLost => "ObjectLost"
  | .objectUnreconstructable => "ObjectUnreconstructable"
  | .fetchTimeout => "FetchTimeout"
  | .runtimeEnvFailed => "RuntimeEnvFailed"
  | .unschedulable => "Unschedulable"
  | .outOfMemory => "OutOfMemory"

def taskFailedText (category : ErrorCategory) (message : String) : String :=
  "rayd task failed: category=" ++ categoryText category ++ "; " ++ message

def timedOutText (ref : ObjectRef) : String :=
  "rayd.get timed out waiting for ObjectRef(" ++ ref.hex ++ ")"

/-- The refs as they are given. -/
inductive Asked where
  | one (turn : SettledTurn)
  | list (turns : List SettledTurn)
  /-- A sequence that is no list. -/
  | sequence (turns : List SettledTurn)

def Asked.turns : Asked → List SettledTurn
  | .one turn => [turn]
  | .list turns | .sequence turns => turns

inductive Returned (V : Type) where
  | one (got : Got V)
  | list (gots : List (Got V))

section Definitions
variable {V : Type} (loads : Bytes → Except String V)

def raiseFromErrorObject (category : ErrorCategory) (data : Bytes) : GetError V :=
  match ErrorPayload.decode data with
  | .error failure =>
    .stop (.raised (.native (.runtime ("corrupted error payload: " ++ errorPayloadText failure))))
  | .ok payload =>
    match payload.pickledPythonException.map loads with
    | some (.ok exception) => .user exception
    | _ => .taskFailed (taskFailedText category payload.message)

def gotObject (object : RayObject) : Except (GetError V) (Got V) :=
  match object.metadata with
  | .error category _ => .error (raiseFromErrorObject loads category object.data)
  | .pickle5 _ =>
    match loads object.data with
    | .ok value => .ok (.value value)
    | .error failure => .error (.stop (.raised (.unpickling failure)))
  | .raw => .ok (.bytes object.data)
  | .actorHandle => .error (.stop (.raised (.notImplemented "actor handle deserialization lands in Phase 5")))

def getOne (timeout : Option Nat) (turn : SettledTurn) : Except (GetError V) (Got V) :=
  match turn.entry with
  | none => if timeout.isSome then .error (.timeout (timedOutText turn.ref)) else .error (.stop .blocked)
  | some entry =>
    match (turn.session.resolveEntry turn.ref.objectId entry).1 with
    | .error failure => .error (.stop (.raised (.native (.runtime ("resolve: " ++ coreErrorText failure)))))
    | .ok object => gotObject loads object

/-- The pass over the refs comes first, also for what is refused then. -/
def get (gcs : Option GcsBinding) (timeout : Option Nat) (asked : Asked) :
    Except (GetError V) (Returned V) := do
  (ensureLocalForRemoteRefs gcs none (asked.turns.map SettledTurn.toTurn)).mapError fun raised =>
    .stop (.raised raised)
  match asked with
  | .one turn => return .one (← getOne loads timeout turn)
  | .list turns => return .list (← turns.mapM (getOne loads timeout))
  | .sequence _ => .error .expectsList

def exceptionOf (object : RayObject) : Except Raised (Option V) :=
  match object.metadata with
  | .error .. =>
    match ErrorPayload.decode object.data with
    | .error failure =>
      .error (.native (.runtime ("corrupted error payload: " ++ errorPayloadText failure)))
    | .ok payload =>
      match payload.pickledPythonException with
      | none => .ok none
      | some blob => ((loads blob).mapError .unpickling).map some
  | _ => .ok none

end Definitions

section OneRef
variable {V : Type} {loads : Bytes → Except String V} {timeout : Option Nat}

/-- What the object holds is an exception that can be unpickled. -/
def Throws (loads : Bytes → Except String V) (object : RayObject) (thrown : V) : Prop :=
  exceptionOf loads object = .ok (some thrown)

/-- What `get` makes of the entry that `get_settled` has for an object. -/
inductive Raises (loads : Bytes → Except String V) (object : RayObject) :
    Settled V → Except (GetError V) (Got V) → Prop where
  | value : Raises loads object (.value loaded) (.ok (.value loaded))
  | bytes : Raises loads object (.bytes data) (.ok (.bytes data))
  | user : Throws loads object thrown → Raises loads object (.err info) (.error (.user thrown))
  | taskFailed : (∀ thrown, ¬Throws loads object thrown) →
      Raises loads object (.err info) (.error (.taskFailed (taskFailedText info.category info.message)))

theorem gotObject_settled (loads : Bytes → Except String V) (object : RayObject) :
    (∃ entry, settledObject loads object = .ok entry ∧ Raises loads object entry (gotObject loads object)) ∨
      ∃ raised, settledObject loads object = .error raised ∧
        gotObject loads object = .error (.stop (.raised raised)) := by
  obtain ⟨metadata, data⟩ := object
  cases metadata with
  | error category rawCode =>
    simp only [settledObject, gotObject, raiseFromErrorObject, errorInfoFromObject]
    cases decoded : ErrorPayload.decode data with
    | error failure => exact .inr ⟨_, rfl, rfl⟩
    | ok payload =>
      refine .inl ⟨_, rfl, ?_⟩
      cases pickled : payload.pickledPythonException with
      | none =>
        simp only [pickled, Option.map_none]
        refine .taskFailed fun thrown found => ?_
        simp [Throws, exceptionOf, decoded, pickled] at found
      | some blob =>
        cases loaded : loads blob with
        | error failure =>
          simp only [pickled, Option.map_some, loaded]
          refine .taskFailed fun thrown found => ?_
          simp [Throws, exceptionOf, decoded, pickled, loaded, Except.mapError, Except.map] at found
        | ok thrown =>
          simp only [pickled, Option.map_some, loaded]
          refine .user ?_
          simp [Throws, exceptionOf, decoded, pickled, loaded, Except.mapError, Except.map]
  | pickle5 nested =>
    simp only [settledObject, gotObject]
    cases loads data with
    | error failure => exact .inr ⟨_, rfl, rfl⟩
    | ok value => exact .inl ⟨_, rfl, .value⟩
  | raw => exact .inl ⟨_, rfl, .bytes⟩
  | actorHandle => exact .inr ⟨_, rfl, rfl⟩

/-- One ref: an object with an entry and what `get` makes of it, nothing in time, or the
same exception from both. -/
inductive Agrees (loads : Bytes → Except String V) (turn : SettledTurn) :
    Except Stop (Settled V) → Except (GetError V) (Got V) → Prop where
  | object : turn.entry = some held → Behind turn.session turn.ref.objectId held object →
      Raises loads object entry outcome → Agrees loads turn (.ok entry) outcome
  | pending : turn.entry = none → Agrees loads turn (.ok .pending) (.error (.timeout (timedOutText turn.ref)))
  | stop : Agrees loads turn (.error stop) (.error (.stop stop))

theorem getOne_agrees (loads : Bytes → Except String V) (timeout : Option Nat) (turn : SettledTurn) :
    Agrees loads turn (settleOne loads timeout turn) (getOne loads timeout turn) := by
  simp only [settleOne, getOne]
  cases present : turn.entry with
  | none =>
    cases timeout with
    | none => exact .stop
    | some limit => exact .pending present
  | some entry =>
    simp only
    cases resolved : (turn.session.resolveEntry turn.ref.objectId entry).1 with
    | error failure => exact .stop
    | ok object =>
      rcases gotObject_settled loads object with ⟨settled, found, raises⟩ | ⟨raised, failed, got⟩
      · simp only [found]
        exact .object present (resolveEntry_ok_iff.mp resolved) raises
      · simp only [failed, got]
        exact .stop

theorem getOne_object {turn : SettledTurn} {held : StoredEntry} {object : RayObject}
    (present : turn.entry = some held) (behind : Behind turn.session turn.ref.objectId held object) :
    getOne loads timeout turn = gotObject loads object := by
  simp only [getOne, present, resolveEntry_ok_iff.mpr behind]

theorem Agrees.ok_iff {turn : SettledTurn} {settled : Except Stop (Settled V)}
    {outcome : Except (GetError V) (Got V)} (agrees : Agrees loads turn settled outcome) (got : Got V) :
    outcome = .ok got ↔ settled = .ok got.settled := by
  cases agrees with
  | object present behind raises => cases raises <;> cases got <;> simp [Got.settled]
  | pending => cases got <;> simp [Got.settled]
  | stop => simp

theorem Agrees.stops {turn : SettledTurn} {settled : Except Stop (Settled V)} {reason : Stop}
    (agrees : Agrees loads turn settled (.error (.stop reason))) : settled = .error reason := by
  cases agrees with
  | object present behind raises => cases raises
  | stop => rfl

theorem Raises.unique {object : RayObject} {outcome other : Except (GetError V) (Got V)}
    (raises : Raises loads object entry outcome) (also : Raises loads object entry other) :
    outcome = other := by
  cases raises with
  | value | bytes => cases also; rfl
  | user thrown =>
    cases also with
    | user same => cases thrown.symm.trans same; rfl
    | taskFailed none => exact absurd thrown (none _)
  | taskFailed none =>
    cases also with
    | user thrown => exact absurd thrown (none _)
    | taskFailed => rfl

/-- What `get_settled` has for a ref and the object behind it leave `get` no choice. -/
theorem Agrees.unique {turn : SettledTurn} {settled : Except Stop (Settled V)}
    {outcome other : Except (GetError V) (Got V)} (agrees : Agrees loads turn settled outcome)
    (also : Agrees loads turn settled other) : outcome = other := by
  cases agrees with
  | object present behind raises =>
    cases also with
    | object held same again =>
      cases present.symm.trans held
      cases (resolveEntry_ok_iff.mpr behind).symm.trans (resolveEntry_ok_iff.mpr same)
      exact raises.unique again
    | pending absent => cases present.symm.trans absent
  | pending absent =>
    cases also with
    | object present => cases present.symm.trans absent
    | pending => rfl
  | stop => cases also; rfl

end OneRef

section Lists
variable {V : Type} {loads : Bytes → Except String V} {gcs : Option GcsBinding} {timeout : Option Nat}
  {turns : List SettledTurn}

theorem getOne_ok_iff (turn : SettledTurn) (got : Got V) :
    getOne loads timeout turn = .ok got ↔ settleOne loads timeout turn = .ok got.settled :=
  (getOne_agrees loads timeout turn).ok_iff got

theorem getEach_ok_iff (turns : List SettledTurn) (gots : List (Got V)) :
    List.Forall₂ (fun turn got => getOne loads timeout turn = .ok got) turns gots ↔
      List.Forall₂ (fun turn entry => settleOne loads timeout turn = .ok entry) turns
        (gots.map Got.settled) := by
  simp only [List.forall₂_map_right_iff, getOne_ok_iff]

theorem get_list_ok_iff {gots : List (Got V)} :
    get loads gcs timeout (.list turns) = .ok (.list gots) ↔
      ensureLocalForRemoteRefs gcs none (turns.map SettledTurn.toTurn) = .ok () ∧
        List.Forall₂ (fun turn got => getOne loads timeout turn = .ok got) turns gots := by
  simp only [get, Asked.turns, bind_ok_iff, mapError_ok_iff, mapM_ok_iff]
  constructor
  · rintro ⟨_, passed, _, each, same⟩
    cases same
    exact ⟨passed, each⟩
  · rintro ⟨passed, each⟩
    exact ⟨(), passed, gots, each, rfl⟩

theorem get_list_error_iff {reason : GetError V} :
    get loads gcs timeout (.list turns) = .error reason ↔
      (∃ raised, ensureLocalForRemoteRefs gcs none (turns.map SettledTurn.toTurn) = .error raised ∧
        reason = .stop (.raised raised)) ∨
      ensureLocalForRemoteRefs gcs none (turns.map SettledTurn.toTurn) = .ok () ∧
        ∃ before turn after gots, turns = before ++ turn :: after ∧
          List.Forall₂ (fun turn got => getOne loads timeout turn = .ok got) before gots ∧
          getOne loads timeout turn = .error reason := by
  simp only [get, Asked.turns]
  cases ensureLocalForRemoteRefs gcs none (turns.map SettledTurn.toTurn) with
  | error raised => simp [Except.mapError, bind, Except.bind, eq_comm]
  | ok passed =>
    simp only [bind_error_iff, mapError_ok_iff, mapM_error_iff]
    constructor
    · rintro (failed | ⟨_, _, failed | ⟨_, _, none⟩⟩)
      · cases failed
      · exact .inr ⟨trivial, failed⟩
      · cases none
    · rintro (⟨_, failed, _⟩ | ⟨_, failed⟩)
      · cases failed
      · exact .inr ⟨(), trivial, .inl failed⟩

theorem settled_unique {results others : List (Settled V)} (before : List SettledTurn)
    (first : List.Forall₂ (fun turn entry => settleOne loads timeout turn = .ok entry) before results)
    (second : List.Forall₂ (fun turn entry => settleOne loads timeout turn = .ok entry) before others) :
    results = others :=
  List.right_unique_forall₂' (fun _ _ _ one other => Except.ok.inj (one.symm.trans other)) first second

/-- `get` of a list returns exactly when `get_settled` has a value for every ref, and then
the same values. Where `get_settled` returns, `get` raises for the first entry that is no
value what this entry and its object determine; and any other exception of `get` is what
`get_settled` raises as well. -/
theorem get_follows_get_settled (loads : Bytes → Except String V) (gcs : Option GcsBinding)
    (timeout : Option Nat) (turns : List SettledTurn) :
    (∀ gots, get loads gcs timeout (.list turns) = .ok (.list gots) ↔
      getSettled loads gcs timeout turns = .ok (gots.map Got.settled)) ∧
    (∀ results, getSettled loads gcs timeout turns = .ok results → ∀ reason,
      get loads gcs timeout (.list turns) = .error reason ↔
        ∃ before turn after, ∃ gots : List (Got V), ∃ entry rest, turns = before ++ turn :: after ∧
          results = gots.map Got.settled ++ entry :: rest ∧ before.length = gots.length ∧
          Agrees loads turn (.ok entry) (.error reason)) ∧
    (∀ stop, get loads gcs timeout (.list turns) = .error (.stop stop) →
      getSettled loads gcs timeout turns = .error stop) := by
  refine ⟨fun gots => ?_, fun results returned reason => ?_, fun stop raised => ?_⟩
  · rw [get_list_ok_iff, getSettled_ok_iff, getEach_ok_iff]
  · obtain ⟨passed, settled⟩ := getSettled_ok_iff.mp returned
    rw [get_list_error_iff]
    constructor
    · rintro (⟨_, refused, _⟩ | ⟨_, before, turn, after, gots, rfl, each, failed⟩)
      · cases passed.symm.trans refused
      · obtain ⟨first, rest, rfl, former, later⟩ := (forall₂_append_left before).mp settled
        obtain ⟨entry, rest, done, _, rfl⟩ := List.forall₂_cons_left_iff.mp later
        have values := (getEach_ok_iff before gots).mp each
        cases settled_unique before former values
        refine ⟨before, turn, after, gots, entry, rest, rfl, rfl, each.length_eq, ?_⟩
        have agrees := getOne_agrees loads timeout turn
        rwa [done, failed] at agrees
    · rintro ⟨before, turn, after, gots, entry, rest, rfl, rfl, lengths, agrees⟩
      obtain ⟨first, later, same, former, onward⟩ := (forall₂_append_left before).mp settled
      obtain ⟨rfl, rfl⟩ := List.append_inj same (by simp [← former.length_eq, lengths])
      obtain ⟨_, _, done, _, same⟩ := List.forall₂_cons_left_iff.mp onward
      cases same
      have own := getOne_agrees loads timeout turn
      rw [done] at own
      exact .inr ⟨passed, before, turn, after, gots, rfl, (getEach_ok_iff before gots).mpr former, own.unique agrees⟩
  · rcases get_list_error_iff.mp raised with
      ⟨refusal, refused, same⟩ | ⟨passed, before, turn, after, gots, rfl, each, failed⟩
    · cases same
      exact bind_error_iff.mpr (.inl (by rw [refused]; rfl))
    · have own := getOne_agrees loads timeout turn
      rw [failed] at own
      have stopped := own.stops
      refine bind_error_iff.mpr (.inr ⟨(), mapError_ok_iff.mpr passed, (mapM_error_iff _).mpr ?_⟩)
      exact ⟨before, turn, after, _, rfl, (getEach_ok_iff before gots).mp each, stopped⟩

end Lists

end Rayd.Refs
