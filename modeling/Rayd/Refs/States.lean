import Rayd.Tasks.UnderWay
import Rayd.Actor.Unanswered

/-! The states a driver shows for its references, with everything that writes its
index put together: `put`, task replies, actor completions and crashes, and the
end of a fetch. The dispatcher and the actors take their own steps on the driver's
one worker and the plasma store behind it; their own copies of those are set from
the session before a step and taken back after it.

The index itself replaces entries without a look. A state changes under a live
reference when a task is run again for one lost output while another is still
indexed, or when an object is fetched a second time: what comes then need not be
what came before. Spilling, restoring and getting write nothing. -/
namespace Rayd.Refs.States
open Memory Core Plasma Spill Transition Function

structure Driver where
  session : Session
  tasks : Tasks.Dispatcher
  /-- Actors are numbered; one that has not been created takes no step. -/
  actors : Nat → Actor.System

namespace Driver

def start (walk : Walk) (jobId : JobId) (recoverer : Option LocalObjectManager) (spillThreshold : Nat)
    (plasma : Store) (maxRestarts : Nat → Int) (name : Nat → Option String) : Driver where
  session := ⟨.start walk jobId recoverer spillThreshold, plasma⟩
  tasks := .start
  actors i := .start (maxRestarts i) (name i) jobId (.start walk jobId recoverer spillThreshold) plasma

def entry (s : Driver) (id : ObjectId) : Option StoredEntry := s.session.worker.store.getEntry id

/-- `ObjectRef.state` of a reference this driver owns. -/
def state (s : Driver) (id : ObjectId) : RefState := s.session.worker.store.stateOf id

/-- The dispatcher on the driver's index. -/
def dispatcher (s : Driver) : Tasks.Dispatcher := { s.tasks with store := s.session.worker.store }

def withDispatcher (s : Driver) (tasks : Tasks.Dispatcher) (plasma : Store) : Driver :=
  { s with session := ⟨{ s.session.worker with store := tasks.store }, plasma⟩, tasks := tasks }

/-- An actor on the driver's worker. -/
def actor (s : Driver) (i : Nat) : Actor.System :=
  { s.actors i with driver := s.session.worker, plasma := s.session.plasma }

def withActor (s : Driver) (i : Nat) (actor : Actor.System) : Driver :=
  { s with session := ⟨actor.driver, actor.plasma⟩, actors := update s.actors i actor }

/-- The result of a task or of an actor call. -/
def Known (s : Driver) (id : ObjectId) : Prop :=
  s.tasks.tasks.lookup id ≠ none ∨ ∃ i, (s.actors i).calls id ≠ none

end Driver

/-- What the driver's own threads do with its worker, and what others do with plasma. -/
inductive Call where
  | put (id : ObjectId) (metadata : Metadata) (data : Bytes) (cluster : Bool)
  | fetch (id : ObjectId) (metadata : Metadata) (data : Bytes)
  | spillToRecoverer (id : ObjectId)
  | maybeSpillForPressure
  | resolveNow (id : ObjectId)
  | free (ids : List ObjectId)
  | evictLocal (id : ObjectId)
  | incLocalRef (id : ObjectId)
  | decLocalRef (id : ObjectId)
  | addBorrowerPin (id : ObjectId) (borrower : WorkerId)
  | removeBorrowerPin (id : ObjectId) (borrower : WorkerId)
  | elsewhere (plasma : Store)

inductive Own (known : ObjectId → Prop) (s : Session) : Call → Session → Prop where
  /-- Ids are minted once, so nothing is there under a new one. -/
  | put : ¬ known object → s.worker.store.getEntry object = none →
      s.sealValue object metadata data = (result, t) → Own known s (.put object metadata data false) t
  | putCluster : ¬ known object → s.worker.store.getEntry object = none →
      s.sealValueToPlasma object metadata data = (result, t) →
      Own known s (.put object metadata data true) t
  /-- The end of `fetch_object`, for an object of another driver and with what a peer sent. -/
  | fetch : ¬ known object → s.sealValueToPlasma object metadata data = (result, t) →
      Own known s (.fetch object metadata data) t
  | spillToRecoverer : Own known s (.spillToRecoverer object) (s.spillToRecoverer object).2
  | maybeSpillForPressure : Own known s .maybeSpillForPressure s.maybeSpillForPressure.2
  /-- With the bytes from the spill directory if need be. -/
  | resolveNow : Own known s (.resolveNow object) (s.resolveNow object).2
  | free : Own known s (.free ids) { s with worker.store := s.worker.store.delete ids }
  | evictLocal : Own known s (.evictLocal object) (s.evictLocal object)
  | incLocalRef : Own known s (.incLocalRef object) { s with worker.refs := (s.worker.refs.incLocal object).2 }
  | decLocalRef : Own known s (.decLocalRef object) (s.decLocalRef object)
  | addBorrowerPin : Own known s (.addBorrowerPin object borrower) (s.addBorrowerPin object borrower)
  | removeBorrowerPin : Own known s (.removeBorrowerPin object borrower) (s.removeBorrowerPin object borrower)
  /-- The other processes on the node, the raylet among them. -/
  | elsewhere : Own known s (.elsewhere plasma) { s with plasma := plasma }

inductive Action where
  | own (call : Call)
  | task (action : Tasks.Action)
  | execute (connection : Nat) (worker : CoreWorker) (call : Tasks.CallOutcome) (typeError : Bytes)
  | actor (i : Nat) (action : Actor.Action)

inductive Step (s : Driver) : Action → Driver → Prop where
  | own : Own s.Known s.session call t → Step s (.own call) { s with session := t }
  /-- Any step of the dispatcher but the reply, which is the worker's. -/
  | task : Tasks.Step s.dispatcher action tasks → (∀ connection frame, action ≠ .receive connection frame) →
      (∀ job, action = .record job → ∀ id ∈ job.objectIds, s.entry id = none ∧ ¬ s.Known id) →
      Step s (.task action) (s.withDispatcher tasks s.session.plasma)
  /-- The user's function does as it likes. -/
  | execute : s.tasks.connections[connection]? = some (.waiting ticket) →
      Tasks.executeTask ⟨worker, s.session.plasma⟩ ticket.job call typeError = (.ok reply, t) →
      Step s (.execute connection worker call typeError)
        (s.withDispatcher (s.dispatcher.setPhase connection (.ingesting ticket (some reply))) t.plasma)
  /-- The worker's connection closes without a reply. -/
  | executeFailed : s.tasks.connections[connection]? = some (.waiting ticket) →
      Tasks.executeTask ⟨worker, s.session.plasma⟩ ticket.job call typeError = (.error error, t) →
      Step s (.execute connection worker call typeError)
        (s.withDispatcher (s.dispatcher.setPhase connection .exited) t.plasma)
  | actor : Actor.Step (s.actor i) action after → (∀ id, action = .dispatch id → ¬ s.Known id) →
      Step s (.actor i action) (s.withActor i after)

/-- The object is deleted: freed or evicted by its id, or its last pin goes. -/
def Deletes (s : Driver) (id : ObjectId) : Action → Prop
  | .own (.free ids) => id ∈ ids
  | .own (.evictLocal object) => object = id
  | .own (.decLocalRef object) => object = id ∧ (s.session.worker.refs.decLocal object).1 = true
  | .own (.removeBorrowerPin object borrower) =>
      object = id ∧ (s.session.worker.refs.removeBorrower object borrower).1 = true
  | _ => False

/-- A task is handed out again only when the driver has an entry for none of its
outputs, and a fetch seals only an object the driver has no entry for. -/
def Careful (s : Driver) : Action → Prop
  | .task (.tryResubmit id) => ∀ job tasks, s.tasks.tasks.tryResubmit id = (some job, tasks) →
      ∀ output ∈ job.objectIds, s.entry output = none
  | .own (.fetch id _ _) => s.entry id = none
  | _ => True

structure Sound (s : Driver) : Prop where
  tasks : Tasks.Live s.dispatcher
  actors : ∀ i, Actor.Unanswered (s.actor i)
  apart : ∀ i id, (s.actors i).calls id ≠ none → s.tasks.tasks.lookup id = none ∧
    ∀ j, (s.actors j).calls id ≠ none → j = i

theorem sound_start (walk : Walk) (jobId : JobId) (recoverer : Option LocalObjectManager) (spillThreshold : Nat)
    (plasma : Store) (maxRestarts : Nat → Int) (name : Nat → Option String) :
    Sound (.start walk jobId recoverer spillThreshold plasma maxRestarts name) where
  tasks := Tasks.Live.start
  actors _ := Actor.Unanswered.start _ _ _ _ _
  apart _ _ called := absurd rfl called

/-- The driver's own calls change an entry by deleting it, or by making one for
an id that no task or actor has. -/
theorem own_entry {s : Driver} (own : Own s.Known s.session call t) (careful : Careful s (.own call))
    (id : ObjectId) :
    t.worker.store.getEntry id = s.entry id ∨
      Deletes s id (.own call) ∧ t.worker.store.getEntry id = none ∨
      s.entry id = none ∧ ¬ s.Known id := by
  -- the one entry a seal makes
  have sealed : ∀ {object}, s.entry object = none → ¬ s.Known object →
      Session.Stored s.session object t ∨ Session.Untouched s.session t →
      t.worker.store.getEntry id = s.entry id ∨ Deletes s id (.own call) ∧ t.worker.store.getEntry id = none ∨
        s.entry id = none ∧ ¬ s.Known id := by
    intro object absent unknown written
    by_cases same : id = object
    · exact .inr (.inr (same ▸ ⟨absent, unknown⟩))
    · exact .inl (Session.sealed_other written same)
  cases own with
  | @put object metadata data _ _ unknown absent done =>
    have written := s.session.sealValue_stored object metadata data
    rw [done] at written
    exact sealed absent unknown (written.imp And.right And.right)
  | @putCluster object metadata data _ _ unknown absent done =>
    have written := s.session.sealValueToPlasma_stored object metadata data
    rw [done] at written
    exact sealed absent unknown (written.imp And.right And.right)
  | @fetch object metadata data _ _ unknown done =>
    have written := s.session.sealValueToPlasma_stored object metadata data
    rw [done] at written
    exact sealed careful unknown (written.imp And.right And.right)
  | spillToRecoverer => exact .inl (congrArg (·.getEntry id) (s.session.spillToRecoverer_shrinks _).store)
  | maybeSpillForPressure => exact .inl (congrArg (·.getEntry id) s.session.maybeSpillForPressure_shrinks.store)
  | resolveNow => exact .inl (congrArg (·.getEntry id) (s.session.resolveNow_store _))
  | @free ids =>
    by_cases member : id ∈ ids
    · exact .inr (.inl ⟨member, (MemoryStore.getEntry_delete _ _ _).trans (if_pos member)⟩)
    · exact .inl ((MemoryStore.getEntry_delete _ _ _).trans (if_neg member))
  | @evictLocal object =>
    by_cases same : object = id
    · refine .inr (.inl ⟨same, (MemoryStore.getEntry_delete _ _ _).trans (if_pos ?_)⟩)
      exact List.mem_singleton.mpr same.symm
    · refine .inl ((MemoryStore.getEntry_delete _ _ _).trans (if_neg ?_))
      exact fun member => same (List.mem_singleton.mp member).symm
  | @decLocalRef object =>
    have left := s.session.release_entry object id (s.session.worker.refs.decLocal object)
    split at left
    · rename_i last
      exact .inr (.inl ⟨⟨last.2.symm, last.1⟩, left⟩)
    · exact .inl left
  | @removeBorrowerPin object borrower =>
    have left := s.session.release_entry object id (s.session.worker.refs.removeBorrower object borrower)
    split at left
    · rename_i last
      exact .inr (.inl ⟨⟨last.2.symm, last.1⟩, left⟩)
    · exact .inl left
  | incLocalRef | addBorrowerPin | elsewhere => exact .inl rfl

section Soundness
variable {s t : Driver} {id : ObjectId}

theorem Sound.own (sound : Sound s) (careful : Careful s (.own call))
    (own : Own s.Known s.session call after) : Sound { s with session := after } := by
  have absent : ∀ id, s.Known id → s.entry id = none → after.worker.store.getEntry id = none := by
    intro id known none
    rcases own_entry own careful id with same | ⟨_, gone⟩ | ⟨_, unknown⟩
    · exact same.trans none
    · exact gone
    · exact absurd known unknown
  exact {
    tasks := sound.tasks.restore after.worker.store fun id filed => absent id (.inl filed)
    actors := fun i => (sound.actors i).restore after.worker after.plasma
      fun id called => absent id (.inr ⟨i, called⟩)
    apart := sound.apart }

theorem Sound.task (sound : Sound s) (step : Tasks.Step s.dispatcher action after)
    (yielding : Tasks.Yielding s.dispatcher action)
    (fresh : ∀ job, action = .record job → ∀ id ∈ job.objectIds, ¬ s.Known id) (plasma : Store) :
    Sound (s.withDispatcher after plasma) := by
  constructor
  · exact Tasks.live_step sound.tasks ⟨yielding, step⟩
  · intro i
    refine (sound.actors i).restore _ _ fun id called absent => ?_
    rcases Tasks.step_index sound.tasks step id with same | ⟨_, filed⟩
    · exact same.trans absent
    · exact absurd (sound.apart i id called).1 filed
  · intro i id called
    refine ⟨?_, (sound.apart i id called).2⟩
    by_contra filed
    rcases Tasks.step_files step id with same | ⟨job, recorded, output⟩
    · exact same.mp filed (sound.apart i id called).1
    · exact fresh job recorded id output (.inr ⟨i, called⟩)

theorem Sound.actor (sound : Sound s) (step : Actor.Step (s.actor i) action after)
    (fresh : ∀ id, action = .dispatch id → ¬ s.Known id) : Sound (s.withActor i after) := by
  have entries := Actor.step_entries (sound.actors i) step
  -- a call of this actor after the step was one before it, or is new
  have calls : ∀ id, after.calls id ≠ none → (s.actors i).calls id ≠ none ∨ ¬ s.Known id := by
    intro id called
    rcases Actor.step_calls step id with same | dispatched
    · exact .inl (same.mp called)
    · exact .inr (fresh id dispatched)
  constructor
  · refine sound.tasks.restore _ fun id filed absent => ?_
    rcases entries id with same | ⟨_, called⟩
    · exact same.trans absent
    · exact absurd (sound.apart i id called).1 filed
  · intro j
    by_cases same : j = i
    · subst same
      have here : (s.withActor j after).actor j = after := by
        simp only [Driver.actor, Driver.withActor, update_self]
      rw [here]
      exact Actor.unanswered_step (sound.actors j) step
    · have there : (s.withActor i after).actor j =
          { s.actor j with driver := after.driver, plasma := after.plasma } := by
        simp only [Driver.actor, Driver.withActor, update_of_ne same]
      rw [there]
      refine (sound.actors j).restore _ _ fun id called absent => ?_
      rcases entries id with unchanged | ⟨_, mine⟩
      · exact unchanged.trans absent
      · exact absurd ((sound.apart i id mine).2 j called) same
  · have known : ∀ j id, ((s.withActor i after).actors j).calls id ≠ none →
        (s.actors j).calls id ≠ none ∨ j = i ∧ ¬ s.Known id := by
      intro j id called
      by_cases same : j = i
      · subst same
        have called : (update s.actors j after j).calls id ≠ none := called
        rw [update_self] at called
        exact (calls id called).imp_right fun unknown => ⟨rfl, unknown⟩
      · have called : (update s.actors i after j).calls id ≠ none := called
        rw [update_of_ne same] at called
        exact .inl called
    intro j id called
    rcases known j id called with before | ⟨rfl, unknown⟩
    · refine ⟨(sound.apart j id before).1, fun k also => ?_⟩
      rcases known k id also with earlier | ⟨_, unknown⟩
      · exact (sound.apart j id before).2 k earlier
      · exact absurd (.inr ⟨j, before⟩) unknown
    · refine ⟨by_contra fun filed => unknown (.inl filed), fun k also => ?_⟩
      rcases known k id also with earlier | ⟨same, _⟩
      · exact absurd (.inr ⟨k, earlier⟩) unknown
      · exact same

theorem sound_step (sound : Sound s) (step : Guarded Careful Step s action t) : Sound t := by
  obtain ⟨careful, step⟩ := step
  cases step with
  | own own => exact sound.own careful own
  | @task action tasks step reply fresh =>
    refine sound.task step ?_ (fun job same id output => (fresh job same id output).2) _
    cases action with
    | record job => exact fun id output => (fresh job rfl id output).1
    | tryResubmit id => exact careful
    | receive connection frame => exact absurd rfl (reply connection frame)
    | _ => trivial
  | @execute connection ticket worker call typeError reply t waiting ran =>
    refine sound.task (.receive waiting) (fun other same => ?_) (fun _ same => nomatch same) _
    cases Option.some.inj (waiting.symm.trans same)
    exact Tasks.executeTask_names ran
  | executeFailed waiting =>
    exact sound.task (.disconnect waiting) trivial (fun _ same => nomatch same) _
  | actor step fresh => exact sound.actor step fresh

end Soundness

section Results
variable {walk : Walk} {jobId : JobId} {recoverer : Option LocalObjectManager} {spillThreshold : Nat} {plasma : Store}
  {maxRestarts : Nat → Int} {name : Nat → Option String} {s t : Driver} {id : ObjectId}

end Results

section Samples
open Tasks (DispatchJob Ticket TaskManager executeTask handleCompletion)

/-- Steps that neither condition speaks of. -/
def Unguarded : Action → Prop
  | .own _ | .task (.tryResubmit _) => False
  | _ => True

theorem Unguarded.careful (free : Unguarded action) (s : Driver) : Careful s action := by
  cases action with
  | own => cases free
  | task action =>
    cases action with
    | tryResubmit => cases free
    | _ => trivial
  | _ => trivial

theorem Unguarded.kept (free : Unguarded action) (s : Driver) (id : ObjectId) : ¬ Deletes s id action := by
  cases action with
  | own => cases free
  | _ => exact fun deleted => deleted

def pairJob : DispatchJob := ⟨.nil 24, 2, [9], [], none⟩
def sampleStart : Driver :=
  .start .newest (.nil 16) (some ⟨.empty 5, ∅⟩) (2 ^ 64 - 1) ⟨.onePage, ∅⟩ (fun _ => 0) fun _ => none

def sampleWorker : CoreWorker := .start .newest (.nil 16) none (2 ^ 64 - 1)

/-- The sample driver with one handler. -/
def handling (session : Session) (index : MemoryStore) (tasks : TaskManager) (queue : List Ticket)
    (phase : Tasks.Phase) (prepared : List DispatchJob) (submitted done superseded : List Ticket) : Driver :=
  ⟨session, ⟨queue, false, 1, [phase], tasks, index, prepared, submitted, done, superseded⟩,
    sampleStart.actors⟩

theorem plain {s : Driver} (step : Tasks.Step s.dispatcher action after)
    (reply : ∀ connection frame, action ≠ .receive connection frame) (old : ∀ job, action ≠ .record job) :
    Step s (.task action) (s.withDispatcher after s.session.plasma) :=
  .task step reply fun job same => absurd same (old job)

section Pass
variable {ok : Driver → Action → Prop} {session : Session} {index : MemoryStore} {tasks : TaskManager}
  {submitted done superseded : List Ticket}

/-- The prepared job goes to a worker, and its reply into the index. -/
theorem pass (free : ∀ s action, Unguarded action → ok s action)
    (numbered : ticket = ⟨submitted.length, pairJob⟩)
    (ran : executeTask ⟨sampleWorker, session.plasma⟩ pairJob call [] = (.ok reply, t))
    (taken : handleCompletion session.worker.store (some reply) = (.done, store)) :
    ∃ path, Run (Guarded ok Step)
      (handling session index tasks [] .idle [pairJob] submitted done superseded) path
      (handling ⟨{ session.worker with store := store }, t.plasma⟩ store tasks [] (.marking ticket) []
        (submitted ++ [ticket]) done superseded) := by
  have run : Run (Guarded ok Step)
    (handling session index tasks [] .idle [pairJob] submitted done superseded) [] _ := .refl
  have run := run.next (a := Action.task (.submit pairJob))
    (u := handling session session.worker.store tasks [ticket] .idle [] (submitted ++ [ticket]) done
      superseded)
    ⟨free _ _ trivial, numbered ▸ plain (.submit (List.mem_singleton.mpr rfl)) nofun nofun⟩
  have run := run.next (a := Action.task (.nextJob 0))
    (u := handling session session.worker.store tasks [] (.building ticket) [] (submitted ++ [ticket]) done
      superseded)
    ⟨free _ _ trivial, plain (.nextJob rfl rfl) nofun nofun⟩
  have run := run.next (a := Action.task (.build 0))
    (u := handling session session.worker.store tasks [] (.sending ticket) [] (submitted ++ [ticket]) done
      superseded)
    ⟨free _ _ trivial, plain (.build rfl) nofun nofun⟩
  have run := run.next (a := Action.task (.send 0))
    (u := handling session session.worker.store tasks [] (.waiting ticket) [] (submitted ++ [ticket]) done
      superseded)
    ⟨free _ _ trivial, plain (.send rfl) nofun nofun⟩
  have run := run.next (a := Action.execute 0 sampleWorker call [])
    (u := handling ⟨session.worker, t.plasma⟩ session.worker.store tasks []
      (.ingesting ticket (some reply)) [] (submitted ++ [ticket]) done superseded)
    ⟨free _ _ trivial, .execute rfl (by rw [numbered]; exact ran)⟩
  have run := run.next (a := Action.task (.ingest 0)) (u := handling _ _ _ _ _ _ _ _ _)
    ⟨free _ _ trivial, plain (.ingest rfl taken) nofun nofun⟩
  exact ⟨_, run⟩

end Pass

end Samples
end Rayd.Refs.States
