import Rayd.Refs.Lifecycle

/-! Who takes an object away that the driver still lists. The driver's index is
backed by plasma as long as no subprocess gives up an id the driver knows; the
subprocess's own counter says nothing about that. -/
namespace Rayd.Refs
open Memory Plasma Core Transition Function

/-- The object is in plasma, or the driver has taken it out itself. -/
def Kept (s : System) (id : ObjectId) : Prop := s.holds id = true ∨ s.taken id = true

/-- An id that a subprocess's counter gives up while the driver has a reference to it is
not in the driver's index and not on its way there; and the driver makes no reference to
one that was given up without. -/
def Spared (s : System) : Action → Prop
  | .processDrop pid id => ∀ process, s.processes pid = some process →
      (process.worker.refs.decLocal id).1 = true → s.Alive id →
      s.driver.store.getEntry id = none ∧ ¬ s.Announced id
  | .shutdown pid => ∀ process, s.processes pid = some process →
      ∀ id, process.worker.refs.snapshot id ≠ none → s.Alive id →
      s.driver.store.getEntry id = none ∧ ¬ s.Announced id
  | .unpickle id => s.Indexed id ∨ s.Announced id → Kept s id
  | _ => True

/-- What the driver refers to and lists, or is about to list, is kept. -/
structure Supplied (s : System) : Prop where
  listed : ∀ id, s.Alive id → s.Indexed id ∨ s.Announced id → Kept s id
  unspilled : ∀ pid process, s.processes pid = some process → process.worker.recoverer = none

theorem supplied_start (plasma : Store) (jobId : JobId) (recoverer) (threshold : Nat) :
    Supplied (System.start plasma (.start walk jobId recoverer threshold)) := by
  constructor
  · rintro id _ (⟨index, found⟩ | ⟨completion, member, _⟩)
    · simp [System.start, CoreWorker.start] at found
    · cases member
  · intro pid process found
    cases found

variable {id : ObjectId}

/-- What is referred to or listed anew must be backed, and backing must not be lost for
what stays so. -/
theorem Supplied.advance (before : Supplied s)
    (alive : ∀ id, t.Alive id → t.Indexed id ∨ t.Announced id → s.Alive id ∨ Kept t id)
    (listed : ∀ id, t.Indexed id ∨ t.Announced id → s.Indexed id ∨ s.Announced id ∨ Kept t id)
    (kept : ∀ id, s.Alive id → s.Indexed id ∨ s.Announced id → Kept s id → Kept t id)
    (unspilled : ∀ pid process, t.processes pid = some process → process.worker.recoverer = none) :
    Supplied t := by
  refine ⟨fun id refers now => ?_, unspilled⟩
  rcases alive id refers now with before' | backed
  · rcases listed id now with indexed | announced | backed
    · exact kept id before' (.inl indexed) (before.listed id before' (.inl indexed))
    · exact kept id before' (.inr announced) (before.listed id before' (.inr announced))
    · exact backed
  · exact backed

theorem Supplied.frame (before : Supplied s) (plasma : t.plasma = s.plasma)
    (driver : t.driver = s.driver) (completions : t.completions = s.completions)
    (taken : t.taken = s.taken)
    (alive : ∀ id, t.Alive id → s.Indexed id ∨ s.Announced id → s.Alive id ∨ Kept s id)
    (unspilled : ∀ pid process, t.processes pid = some process → process.worker.recoverer = none) :
    Supplied t := by
  have listed : ∀ id, t.Indexed id ∨ t.Announced id → s.Indexed id ∨ s.Announced id := by
    intro id now
    simpa only [System.Indexed, System.Announced, driver, completions] using now
  have kept : ∀ id, Kept s id → Kept t id := by
    intro id kept
    simpa only [Kept, System.holds, plasma, taken] using kept
  exact before.advance (fun id refers now => (alive id refers (listed id now)).imp_right (kept id))
    (fun id now => (listed id now).imp_right .inl) (fun id _ _ => kept id) unspilled

theorem driverActs_kept (s : System) (t : Session) (kept : Kept s id) : Kept (s.driverActs t) id := by
  simp only [Kept, System.driverActs, System.holds] at kept ⊢
  rcases kept with held | taken
  · cases present : (t.plasma.objects.lookup id).isSome with
    | true => exact .inl rfl
    | false => exact .inr (by simp [held])
  · exact .inr (by simp [taken])

theorem mint_alive {s : System} {id other : ObjectId} (different : other ≠ id) (alive : (s.mint id).Alive other) :
    s.Alive other := by
  simpa only [System.Alive, System.mint, update_of_ne different] using alive

theorem update_pred_le (references : ObjectId → Nat) (id other : ObjectId) :
    update references id (references id - 1) other ≤ references other := by
  rw [update_apply]
  split
  · rename_i same
    exact same ▸ Nat.sub_le _ _
  · exact le_rfl

theorem setProcess_unspilled {s : System}
    (before : ∀ pid process, s.processes pid = some process → process.worker.recoverer = none)
    (fresh : ∀ process, changed = some process → process.worker.recoverer = none) :
    ∀ pid' process, (s.setProcess pid changed).processes pid' = some process →
      process.worker.recoverer = none := by
  intro pid' process found
  by_cases same : pid' = pid
  · subst same
    exact fresh process (by simpa [System.setProcess] using found)
  · simp only [System.setProcess, update_of_ne same] at found
    exact before pid' process found

theorem release_indexed (s : System) (result : Bool × RefCounter) (other : ObjectId)
    (indexed : (s.driverActs (s.session.release id result)).Indexed other) : s.Indexed other := by
  obtain ⟨index, found⟩ := indexed
  simp only [System.driverActs, Session.release_entry] at found
  split at found
  · cases found
  · exact ⟨index, found⟩

theorem supplied_release (before : Supplied s) (result : Bool × RefCounter) :
    Supplied (s.driverActs (s.session.release id result)) := by
  apply before.advance
  · exact fun other alive _ => .inl alive
  · rintro other (indexed | announced)
    · exact .inl (release_indexed s result other indexed)
    · exact .inr (.inl announced)
  · exact fun other _ _ kept => driverActs_kept s _ kept
  · exact before.unspilled

theorem kept_put (s : System) (id : ObjectId) (t : Session) :
    Kept (((s.driverStores id t).mint id).record id) id := by
  simp only [Kept, System.record, System.mint, System.driverStores, System.driverActs, System.holds]
  cases (t.plasma.objects.lookup id).isSome <;> simp

theorem supplied_put (before : Supplied s) (stored : Session.Stored s.session id t) :
    Supplied (((s.driverStores id t).mint id).record id) := by
  apply before.advance
  · intro other alive _
    by_cases same : other = id
    · exact .inr (same ▸ kept_put s id t)
    · exact .inl (mint_alive same alive)
  · rintro other (⟨index, found⟩ | announced)
    · obtain ⟨entry, entries⟩ := stored.entry
      simp only [System.record, System.mint, System.driverStores, System.driverActs, entries] at found
      split at found
      · rename_i same
        exact .inr (.inr (same ▸ kept_put s id t))
      · exact .inl ⟨index, found⟩
    · exact .inr (.inl announced)
  · intro other _ _ kept
    exact (driverActs_kept s t kept).imp (fun held => held) fun taken => by
      simp only [System.record, System.mint, System.driverStores, taken, Bool.true_or]
  · exact before.unspilled

theorem not_listed {s : System} (absent : s.driver.store.getEntry id = none ∧ ¬ s.Announced id) :
    ¬ (s.Indexed id ∨ s.Announced id) := by
  rintro (⟨index, found⟩ | announced)
  · rw [absent.1] at found
    cases found
  · exact absent.2 announced

theorem supplied_record (before : Supplied s) (member : completion ∈ s.completions)
    (worker : CoreWorker)
    (entries : ∀ other, other ≠ completion.id →
      worker.store.getEntry other = s.driver.store.getEntry other) :
    Supplied (((s.driverActs ⟨worker, s.plasma⟩).consume completion).record completion.id) := by
  apply before.advance
  · exact fun other alive _ => .inl alive
  · rintro other (⟨index, found⟩ | ⟨completion', member', same⟩)
    · by_cases same : other = completion.id
      · exact .inr (.inl ⟨completion, member, same.symm⟩)
      · exact .inl ⟨index, by rw [← entries other same]; exact found⟩
    · exact .inr (.inl ⟨completion', List.mem_of_mem_erase member', same⟩)
  · exact fun other _ _ kept => driverActs_kept s ⟨worker, s.plasma⟩ kept
  · exact before.unspilled

/-- A subprocess takes out of plasma only what the driver neither lists nor is told of, or
has no reference to. -/
theorem Supplied.givesUp (before : Supplied s) (driver : t.driver = s.driver)
    (completions : t.completions = s.completions) (taken : t.taken = s.taken)
    (owning : t.owning = s.owning) (handed : t.handed = s.handed)
    (plasma : ∀ other, (s.Alive other → s.driver.store.getEntry other = none ∧ ¬ s.Announced other) ∨
      t.plasma.objects.lookup other = s.plasma.objects.lookup other)
    (unspilled : ∀ pid process, t.processes pid = some process → process.worker.recoverer = none) :
    Supplied t := by
  apply before.advance _ _ _ unspilled
  · intro other alive _
    simp only [System.Alive, owning, handed] at alive
    exact .inl alive
  · intro other now
    simp only [System.Indexed, System.Announced, driver, completions] at now
    exact now.imp_right .inl
  · intro other alive listed kept
    rcases plasma other with unlisted | same
    · exact absurd listed (not_listed (unlisted alive))
    · simpa only [Kept, System.holds, same, taken] using kept

theorem supplied_seal (before : Supplied s) {process : Process}
    (found : s.processes pid = some process)
    (done : Session.sealValueToPlasma ⟨process.worker, s.plasma⟩ id metadata data = (.ok size, t)) :
    Supplied { s.processActs pid process.live t with
      calls := update s.calls id none
      completions := s.completions ++ [⟨producer, id, metadata, size⟩] } := by
  have none := before.unspilled pid process found
  obtain ⟨canSeal, rfl, rfl⟩ := Session.sealValueToPlasma_unrecovered (by exact none) done
  have held : ∀ other, (Session.sealedSession ⟨process.worker, s.plasma⟩ id metadata
      data).plasma.objects.lookup other =
      if other = id then some ⟨metadata.encode, data, true⟩ else s.plasma.objects.lookup other := by
    intro other
    rw [Session.sealedSession_plasma canSeal, FiniteMap.lookup_insert]
  apply before.advance
  · exact fun other alive _ => .inl alive
  · rintro other (indexed | ⟨completion, member, same⟩)
    · exact .inl indexed
    · rcases List.mem_append.mp member with old | new
      · exact .inr (.inl ⟨completion, old, same⟩)
      · cases List.mem_singleton.mp new
        cases same
        exact .inr (.inr (.inl (by simp [System.holds, System.processActs, held])))
  · intro other _ _ kept
    refine kept.imp_left fun present => ?_
    simp only [System.holds, System.processActs, held]
    split
    · rfl
    · exact present
  · exact setProcess_unspilled before.unspilled (by rintro _ ⟨⟩; exact none)

theorem supplied_step (before : Supplied s) (step : Guarded Spared Step s action t) : Supplied t := by
  obtain ⟨spared, step⟩ := step
  cases step with
  | put _ stored => exact supplied_put before (s.putResult_stored stored)
  | putFailed _ failed =>
    obtain ⟨worker, objects⟩ := s.putResult_untouched failed
    apply before.advance
    · exact fun other alive _ => .inl alive
    · rintro other (⟨index, found⟩ | announced)
      · rw [System.driverActs, worker] at found
        exact .inl ⟨index, found⟩
      · exact .inr (.inl announced)
    · exact fun other _ _ kept => driverActs_kept s _ kept
    · exact before.unspilled
  | submitTask unused | actorCall unused =>
    refine before.frame rfl rfl rfl rfl (fun other alive listed => .inl ?_) before.unspilled
    refine mint_alive ?_ alive
    rintro rfl
    exact not_listed ⟨unused.entry, unused.announced⟩ listed
  | @unpickle object =>
    refine before.frame rfl rfl rfl rfl (fun other alive listed => ?_) before.unspilled
    by_cases same : other = object
    · subst same
      exact .inr (spared listed)
    · exact .inl (mint_alive same alive)
  | @handBack object alive =>
    refine before.frame rfl rfl rfl rfl (fun other refers _ => .inl ?_) before.unspilled
    by_cases same : other = object
    · exact same ▸ alive
    · simpa only [System.Alive, update_of_ne same] using refers
  | @dropHanded object alive =>
    refine before.frame rfl rfl rfl rfl (fun other refers _ => .inl ?_) before.unspilled
    exact refers.imp_right (lt_of_lt_of_le · (update_pred_le _ _ _))
  | sealResult found _ _ done => exact supplied_seal before found done
  | @recordTask completion member kind =>
    exact supplied_record before member _ fun other different => by
      simp [System.session, different]
  | @recordActor completion member kind =>
    exact supplied_record before member _ fun other different => by
      simp [Session.putPlasma, System.session, different]
  | dropOwning alive =>
    refine (supplied_release before _).frame rfl rfl rfl rfl (fun other refers _ => .inl ?_) before.unspilled
    exact refers.imp_left (lt_of_lt_of_le · (update_pred_le _ _ _))
  | addBorrower =>
    apply before.advance
    · exact fun other alive _ => .inl alive
    · exact fun other now => now.imp_right .inl
    · exact fun other _ _ kept => driverActs_kept s _ kept
    · exact before.unspilled
  | removeBorrower => exact supplied_release before _
  | spawn absent =>
    exact before.frame rfl rfl rfl rfl (fun _ alive _ => .inl alive)
      (setProcess_unspilled before.unspilled (by rintro _ ⟨⟩; rfl))
  | @processUnpickle pid process object found =>
    exact before.frame rfl rfl rfl rfl (fun _ alive _ => .inl alive) (setProcess_unspilled before.unspilled (by
      rintro _ ⟨⟩
      exact before.unspilled pid process found))
  | @processDrop pid process object found alive =>
    refine before.givesUp rfl rfl rfl rfl rfl (fun other => ?_) (setProcess_unspilled before.unspilled ?_)
    · simp only [System.processActs, Session.decLocalRef, Session.release_object]
      split
      · rename_i freed
        obtain ⟨freed, rfl⟩ := freed
        exact .inl (spared process found freed)
      · exact .inr rfl
    · rintro _ ⟨⟩
      rw [Session.decLocalRef, Session.release_recoverer]
      exact before.unspilled pid process found
  | @shutdown pid process found =>
    refine before.givesUp rfl rfl rfl rfl rfl (fun other => ?_) (setProcess_unspilled before.unspilled nofun)
    simp only [System.setProcess, Session.freeAllLocal_object]
    split
    · rename_i tracked
      exact .inl (spared process found other tracked)
    · exact .inr rfl
  | crash found =>
    exact before.frame rfl rfl rfl rfl (fun _ alive _ => .inl alive)
      (setProcess_unspilled before.unspilled nofun)
  | _ => exact before.frame rfl rfl rfl rfl (fun _ alive _ => .inl alive) before.unspilled

theorem supplied_run
    (run : Run (Guarded Spared Step) (System.start plasma (.start walk jobId recoverer threshold)) path s) :
    Supplied s :=
  run.invariant supplied_step (supplied_start plasma jobId recoverer threshold)

/-- One step of a subprocess takes away nothing the driver lists and refers to. -/
theorem subprocess_step_holds (before : Supplied s) (step : Guarded Spared Step s action t)
    (foreign : action.bySubprocess = true) (indexed : s.Indexed id) (alive : s.Alive id) (held : s.holds id = true) :
    t.holds id = true := by
  obtain ⟨spared, step⟩ := step
  cases step with
  | @sealResult pid process object producer metadata data size t found call allowed done =>
    obtain ⟨canSeal, rfl, rfl⟩ := Session.sealValueToPlasma_unrecovered
      (by exact before.unspilled pid process found) done
    simp only [System.holds, System.processActs, Session.sealedSession_plasma canSeal,
      FiniteMap.lookup_insert]
    split
    · rfl
    · exact held
  | @processDrop pid process object found live =>
    simp only [System.holds, System.processActs, Session.decLocalRef, Session.release_object]
    split
    · rename_i freed
      obtain ⟨freed, rfl⟩ := freed
      exact absurd (.inl indexed) (not_listed (spared process found freed alive))
    · exact held
  | @shutdown pid process found =>
    simp only [System.holds, System.setProcess, Session.freeAllLocal_object]
    split
    · rename_i tracked
      exact absurd (.inl indexed) (not_listed (spared process found id tracked alive))
    · exact held
  | spawn | processUnpickle | crash => exact held
  | _ => cases foreign

/-- While subprocesses spare what the driver lists, none of their steps removes
a listed object, and a driver read that misses in plasma misses by the driver's
own doing. -/
theorem spared_objects_stay
    (run : Run (Guarded Spared Step) (System.start plasma (.start walk jobId recoverer threshold)) path s) :
    (∀ id, s.Indexed id → s.Alive id →
      ∀ action t, Guarded Spared Step s action t → action.bySubprocess = true →
        s.holds id = true → t.holds id = true) ∧
    (∀ id, s.Indexed id → s.Alive id →
      ∀ message, (s.session.resolveNow id).1 = .error (.plasma (.server .notFound message)) →
        s.taken id = true) := by
  have supplied := supplied_run run
  constructor
  · intro id indexed alive action t step foreign held
    exact subprocess_step_holds supplied step foreign indexed alive held
  · intro id indexed alive message missed
    have absent := Session.resolveNow_notFound missed
    rcases supplied.listed id alive (.inl indexed) with held | taken
    · simp only [System.holds] at held
      rw [show s.plasma.objects.lookup id = none from absent] at held
      cases held
    · exact taken

section Samples

def sampleCompletion : Completion := ⟨.task, sampleId, .pickle5 false, 3⟩

theorem task_run :
    ∃ path s, Run (Guarded Spared Step) (System.start sampleStore sampleDriver) path s ∧
      s.Indexed sampleId ∧ s.Alive sampleId ∧ s.holds sampleId = true := by
  have run : Run (Guarded Spared Step) (System.start sampleStore sampleDriver) [] _ := .refl
  have run := run.next (a := Action.spawn 0 (.nil 16)) ⟨trivial, .spawn rfl⟩
  have run := run.next (a := Action.submitTask sampleId)
    ⟨trivial, .submitTask ⟨rfl, rfl, rfl, rfl, rfl, rfl, nofun, rfl⟩⟩
  have run := run.next (a := Action.sealResult 0 sampleId (.pickle5 false) [1, 2, 3])
    ⟨trivial, .sealResult rfl rfl trivial rfl⟩
  have run := run.next (a := Action.recordTask sampleCompletion)
    ⟨trivial, .recordTask (List.mem_singleton.mpr rfl) rfl⟩
  exact ⟨_, _, run, ⟨_, rfl⟩, .inl (by decide), rfl⟩

theorem task_result_stays :
    ∃ path s, Run (Guarded Spared Step) (System.start sampleStore sampleDriver) path s ∧
      s.Indexed sampleId ∧ s.Alive sampleId ∧
      ∀ action t, Guarded Spared Step s action t → action.bySubprocess = true →
        t.holds sampleId = true := by
  obtain ⟨path, s, run, indexed, alive, held⟩ := task_run
  exact ⟨path, s, run, indexed, alive, fun action t step foreign =>
    (spared_objects_stay run).1 sampleId indexed alive action t step foreign held⟩

/-- The task worker exits normally. Its counter still tracks the result it has
sealed, so the shutdown deletes the object the driver lists and refers to. -/
theorem worker_shutdown_deletes_result :
    ∃ path s message, Run Step (System.start sampleStore sampleDriver) (path ++ [.shutdown 0]) s ∧
      s.Indexed sampleId ∧ s.Alive sampleId ∧ s.taken sampleId = false ∧
      (s.session.resolveNow sampleId).1 = .error (.plasma (.server .notFound message)) := by
  have run : Run Step (System.start sampleStore sampleDriver) [] _ := .refl
  have run := run.next (a := Action.spawn 0 (.nil 16)) (.spawn rfl)
  have run := run.next (a := Action.submitTask sampleId)
    (.submitTask ⟨rfl, rfl, rfl, rfl, rfl, rfl, nofun, rfl⟩)
  have run := run.next (a := Action.sealResult 0 sampleId (.pickle5 false) [1, 2, 3])
    (.sealResult rfl rfl trivial rfl)
  have run := run.next (a := Action.recordTask sampleCompletion)
    (.recordTask (List.mem_singleton.mpr rfl) rfl)
  have run := run.next (a := Action.shutdown 0) (.shutdown rfl)
  exact ⟨_, _, _, run, ⟨_, rfl⟩, .inl (by decide), rfl, rfl⟩

end Samples
end Rayd.Refs
