import Rayd.Refs.Lifecycle

/-! When the driver frees an object it still refers to. The counter starts at
one and every counting reference takes one off when it is dropped, but only the
first of them put one on, and references handed back by `state` and `wait` have
no count at all. Freeing is safe while an object that the counter tracks has at most
one counting reference and that one goes last. -/
namespace Rayd.Refs
open Memory Plasma Core Transition Function

variable {id : ObjectId}

/-- No borrowers: the references of one driver and what its own calls return. -/
def Action.withoutBorrowers : Action → Bool
  | .addBorrower .. | .removeBorrower .. => false
  | _ => true

/-- `ObjectRef.__new__` makes the only counting reference to a tracked id, an actor result
is recorded with one such reference at most, and that of a tracked id is dropped after the
handed-back ones. -/
def SoleRef (s : System) : Action → Prop
  | .unpickle id => s.driver.refs.snapshot id ≠ none → s.owning id = 0
  | .recordActor completion => s.owning completion.id ≤ 1
  | .dropOwning id => s.driver.refs.snapshot id ≠ none → s.handed id = 0
  | _ => True

def SoleStep (s : System) (action : Action) (t : System) : Prop :=
  action.withoutBorrowers = true ∧ Guarded SoleRef Step s action t

structure Sole (s : System) : Prop where
  single : ∀ id, s.driver.refs.snapshot id ≠ none → s.owning id ≤ 1
  counted : ∀ id entry, s.driver.refs.snapshot id = some entry → entry = ⟨1, ∅, 0⟩
  owed : ∀ id, Owed s id → s.driver.refs.snapshot id = none
  once : OwedOnce s

theorem Sole.frame (before : Sole s) (single : ∀ id, s.driver.refs.snapshot id ≠ none → t.owning id ≤ 1)
    (refs : t.driver.refs = s.driver.refs) (calls : t.calls = s.calls)
    (completions : t.completions = s.completions) : Sole t := by
  obtain ⟨_, counted, owed, distinct, apart⟩ := before
  refine ⟨?_, ?_, ?_, ?_, ?_⟩
  · rwa [refs]
  · rwa [refs]
  · simpa only [Owed, System.Announced, refs, calls, completions] using owed
  · rwa [completions]
  · simpa only [System.Announced, calls, completions] using apart

theorem mint_single (before : Sole s) (none : s.driver.refs.snapshot id ≠ none → s.owning id = 0)
    (other : ObjectId) (tracked : s.driver.refs.snapshot other ≠ .none) : (s.mint id).owning other ≤ 1 := by
  simp only [System.mint, update_apply]
  split
  · rename_i same
    rw [none (same ▸ tracked)]
  · exact before.single other tracked

theorem snapshot_addOwned_fresh {refs : RefCounter} (fresh : refs.snapshot id = none)
    (other : ObjectId) :
    (refs.addOwned id).snapshot other =
      if other = id then some ⟨1, ∅, 0⟩ else refs.snapshot other := by
  rw [RefCounter.addOwned, RefCounter.snapshot_pin, fresh]
  rfl

theorem Sole.addOwned (before : Sole s) (fresh : s.driver.refs.snapshot id = none)
    (single : ∀ other, other = id ∨ s.driver.refs.snapshot other ≠ none → t.owning other ≤ 1)
    (refs : t.driver.refs = s.driver.refs.addOwned id)
    (owed : ∀ other, Owed t other → Owed s other ∧ other ≠ id) (once : OwedOnce t) : Sole t := by
  refine ⟨fun other tracked => single other ?_, fun other entry found => ?_, fun other due => ?_, once⟩
  · rw [refs, snapshot_addOwned_fresh fresh] at tracked
    split at tracked
    · rename_i same
      exact .inl same
    · exact .inr tracked
  · rw [refs, snapshot_addOwned_fresh fresh] at found
    split at found
    · exact (Option.some.inj found).symm
    · exact before.counted other entry found
  · obtain ⟨due, different⟩ := owed other due
    rw [refs, snapshot_addOwned_fresh fresh, if_neg different]
    exact before.owed other due

theorem sole_expect (before : Sole s) (unused : s.Unused id) (producer : Producer)
    (single : ∀ id, s.driver.refs.snapshot id ≠ none → t.owning id ≤ 1) (driver : t.driver = s.driver)
    (calls : t.calls = update s.calls id (some producer))
    (completions : t.completions = s.completions) : Sole t := by
  refine ⟨by rwa [driver], by rw [driver]; exact before.counted, fun other due => ?_,
    before.once.expect unused producer calls completions⟩
  rw [driver]
  rcases owed_expect producer due calls completions with rfl | due
  · exact unused.refs
  · exact before.owed other due

theorem sole_announce (before : Sole s) (completion : Completion)
    (called : s.calls completion.id ≠ none) (owning : t.owning = s.owning)
    (driver : t.driver = s.driver)
    (calls : t.calls = update s.calls completion.id none)
    (completions : t.completions = s.completions ++ [completion]) : Sole t := by
  refine ⟨by rw [owning, driver]; exact before.single, by rw [driver]; exact before.counted,
    fun other due => ?_, before.once.announce completion called calls completions⟩
  rw [driver]
  exact before.owed other (owed_announce completion called due calls completions)

/-- Dropping the one counting reference: a tracked id is freed at once. -/
theorem decLocal_sole {refs : RefCounter}
    (counted : ∀ entry, refs.snapshot id = some entry → entry = ⟨1, ∅, 0⟩) (other : ObjectId) :
    (refs.decLocal id).2.snapshot other = if other = id then none else refs.snapshot other := by
  rw [RefCounter.decLocal, RefCounter.snapshot_unpin]
  split
  · cases found : refs.snapshot id with
    | none => simp
    | some entry =>
      have freed : (refs.decLocal id).1 = true := by
        rw [RefCounter.decLocal, RefCounter.unpin_freed_iff, found, counted entry found]
        rfl
      rw [RefCounter.decLocal] at freed
      rw [if_pos freed]
  · rfl

theorem sole_start (plasma : Store) (jobId : JobId) (recoverer) (threshold : Nat) :
    Sole (System.start plasma (.start walk jobId recoverer threshold)) := by
  refine ⟨fun _ _ => Nat.zero_le 1, ?_, fun _ _ => rfl, List.nodup_nil, ?_⟩
  · intro id entry found
    cases found
  · intro id called
    exact absurd rfl called

theorem sole_step (before : Sole s) (step : SoleStep s action t) : Sole t := by
  obtain ⟨driverOnly, sole, step⟩ := step
  cases step with
  | @put object metadata data cluster u unused stored =>
    have refs := (s.putResult_stored stored).refs
    refine before.addOwned unused.refs ?_ refs ?_ ⟨before.once.distinct, before.once.apart⟩
    · rintro other (rfl | tracked)
      · exact ((update_self ..).trans (congrArg (· + 1) unused.owning)).le
      · exact mint_single before (fun _ => unused.owning) other tracked
    · intro other due
      refine ⟨due, ?_⟩
      rintro rfl
      exact not_owed unused due
  | putFailed _ failed =>
    exact before.frame before.single (by rw [System.driverActs, (s.putResult_untouched failed).worker]; rfl)
      rfl rfl
  | submitTask unused | actorCall unused =>
    exact sole_expect before unused _ (mint_single before fun _ => unused.owning) rfl rfl rfl
  | remoteActorCall unused => exact sole_expect before unused _ before.single rfl rfl rfl
  | @sealResult pid process object producer metadata data u size found call allowed done =>
    exact sole_announce before ⟨producer, object, metadata, size⟩ (by simp [call]) rfl rfl rfl rfl
  | @recordTask completion member kind =>
    refine ⟨before.single, before.counted, fun other due => before.owed other ?_,
      before.once.consume rfl rfl⟩
    exact (consumed_owed before.once member due rfl rfl).1
  | @recordActor completion member kind =>
    have fresh := before.owed completion.id (.inr ⟨completion, member, rfl⟩)
    refine before.addOwned fresh ?_ rfl (fun other due => consumed_owed before.once member due rfl rfl)
      (before.once.consume rfl rfl)
    rintro other (rfl | tracked)
    · exact sole
    · exact before.single other tracked
  | unpickle => exact before.frame (mint_single before sole) rfl rfl rfl
  | @dropOwning object alive =>
    have refs : ∀ other, (s.session.decLocalRef object).worker.refs.snapshot other =
        if other = object then none else s.driver.refs.snapshot other := by
      intro other
      rw [Session.decLocalRef, Session.release_refs]
      exact decLocal_sole (before.counted object) other
    refine ⟨fun other tracked => ?_, fun other entry found => ?_, fun other due => ?_,
      before.once.distinct, before.once.apart⟩
    · simp only [System.driverActs, refs] at tracked
      split at tracked
      · exact absurd rfl tracked
      · rename_i different
        simp only [update_of_ne different]
        exact before.single other tracked
    · simp only [System.driverActs, refs] at found
      split at found
      · cases found
      · exact before.counted other entry found
    · simp only [System.driverActs, refs]
      split
      · rfl
      · exact before.owed other due
  | addBorrower | removeBorrower => cases driverOnly
  | _ => exact before.frame before.single rfl rfl rfl

theorem sole_run
    (run : Run SoleStep (System.start plasma (.start walk jobId recoverer threshold)) path s) : Sole s :=
  run.invariant sole_step (sole_start plasma jobId recoverer threshold)

/-- The driver gives an object up: its index entry, its counter entry, or, on a
drop, its plasma copy. Spilling on a store moves bytes and frees nothing. -/
inductive Frees (s : System) (action : Action) (t : System) (id : ObjectId) : Prop where
  | entry : s.driver.store.getEntry id ≠ none → t.driver.store.getEntry id = none → Frees s action t id
  | counter : s.driver.refs.snapshot id ≠ none → t.driver.refs.snapshot id = none → Frees s action t id
  | object : action = .dropOwning dropped → s.holds id = true → t.holds id = false → Frees s action t id

/-- Nothing is freed by a step that keeps entries and counts and is no drop. -/
theorem not_frees (entries : s.driver.store.getEntry id ≠ none → t.driver.store.getEntry id ≠ none)
    (tracked : s.driver.refs.snapshot id ≠ none → t.driver.refs.snapshot id ≠ none)
    (noDrop : ∀ dropped, action ≠ .dropOwning dropped) : ¬ Frees s action t id := by
  intro frees
  cases frees with
  | entry present gone => exact entries present gone
  | counter present gone => exact tracked present gone
  | object drop => exact noDrop _ drop

theorem addOwned_tracked {refs : RefCounter} (tracked : refs.snapshot id ≠ none) (added : ObjectId) :
    (refs.addOwned added).snapshot id ≠ none := by
  rw [RefCounter.addOwned, RefCounter.snapshot_pin]
  split
  · exact Option.some_ne_none _
  · exact tracked

theorem putPlasma_listed {store : MemoryStore} (present : store.getEntry id ≠ none) (added : ObjectId)
    (index : PlasmaIndex) : (store.putPlasma added index).getEntry id ≠ none := by
  rw [MemoryStore.getEntry_putPlasma]
  split
  · exact Option.some_ne_none _
  · exact present

/-- A drop frees only the id dropped, and only when the counter tracks it. -/
theorem drop_frees (frees : Frees s (.dropOwning object)
      { s.driverActs (s.session.decLocalRef object) with
        owning := update s.owning object (s.owning object - 1) } id) :
    id = object ∧ s.driver.refs.snapshot object ≠ none := by
  have freed : (s.driver.refs.decLocal object).1 = true →
      s.driver.refs.snapshot object ≠ none := by
    intro flag unknown
    rw [RefCounter.decLocal, RefCounter.unpin_unknown unknown] at flag
    cases flag
  cases frees with
  | entry present gone =>
    simp only [System.driverActs, Session.decLocalRef, Session.release_entry] at gone
    split at gone
    · rename_i flag
      exact ⟨flag.2, freed flag.1⟩
    · exact absurd gone present
  | counter present gone =>
    simp only [System.driverActs, Session.decLocalRef, Session.release_refs,
      RefCounter.decLocal, RefCounter.snapshot_unpin] at gone
    split at gone
    · rename_i same
      subst same
      exact ⟨rfl, present⟩
    · exact absurd gone present
  | object _ held gone =>
    simp only [System.holds, System.driverActs, Session.decLocalRef, Session.release_object] at gone
    split at gone
    · rename_i flag
      exact ⟨flag.2, freed flag.1⟩
    · rw [System.holds] at held
      rw [show s.session.plasma = s.plasma from rfl, held] at gone
      cases gone

/-- While every tracked object has one counting reference at a time, dropped after the
handed-back ones, what the driver frees is referred to no more. -/
theorem freed_when_unreferenced
    (run : Run SoleStep (System.start plasma (.start walk jobId recoverer threshold)) path s)
    (step : SoleStep s action t) (frees : Frees s action t id) : ¬ t.Alive id := by
  have before := sole_run run
  obtain ⟨driverOnly, sole, step⟩ := step
  cases step with
  | @dropOwning object alive =>
    obtain ⟨rfl, tracked⟩ := drop_frees frees
    have one := before.single id tracked
    have none := sole tracked
    simp only [System.Alive, update_self, System.driverActs, not_or, not_lt]
    omega
  | @put object metadata data cluster u unused stored =>
    have stored := s.putResult_stored stored
    obtain ⟨entry, entries⟩ := stored.entry
    refine absurd frees (not_frees (fun present => ?_) (fun tracked => ?_) (by simp))
    · simp only [System.record, System.mint, System.driverStores, System.driverActs, entries]
      split
      · exact Option.some_ne_none _
      · exact present
    · simp only [System.record, System.mint, System.driverStores, System.driverActs, stored.refs]
      exact addOwned_tracked tracked object
  | putFailed _ failed =>
    have same := (s.putResult_untouched failed).worker
    refine absurd frees (not_frees ?_ ?_ (by simp)) <;> simp only [System.driverActs, same] <;>
      exact fun present => present
  | recordTask =>
    exact absurd frees (not_frees (fun present => putPlasma_listed present _ _) (fun tracked => tracked)
      (by simp))
  | recordActor =>
    exact absurd frees (not_frees (fun present => putPlasma_listed present _ _)
      (fun tracked => addOwned_tracked tracked _) (by simp))
  | addBorrower | removeBorrower => cases driverOnly
  | _ => exact absurd frees (not_frees (fun present => present) (fun tracked => tracked) (by simp))

section Samples

/-- `put`, then the one reference goes. -/
theorem put_drop_freed :
    ∃ path s t, Run SoleStep (System.start sampleStore sampleDriver) path s ∧
      SoleStep s (.dropOwning sampleId) t ∧ s.Alive sampleId ∧
      Frees s (.dropOwning sampleId) t sampleId ∧ ¬ t.Alive sampleId := by
  have run : Run SoleStep (System.start sampleStore sampleDriver) [] _ := .refl
  have run := run.next (a := Action.put sampleId (.pickle5 false) [1, 2, 3] false)
    ⟨rfl, trivial, .put ⟨rfl, rfl, rfl, rfl, rfl, rfl, nofun, rfl⟩ rfl⟩
  refine ⟨_, _, _, run, ⟨rfl, fun _ => rfl, .dropOwning (by decide)⟩, .inl (by decide),
    .entry (by decide) rfl, ?_⟩
  refine freed_when_unreferenced run (?_ : SoleStep _ (.dropOwning sampleId) _) ?_
  · exact ⟨rfl, fun _ => rfl, .dropOwning (by decide)⟩
  · exact .entry (by decide) rfl

/-- A second reference by `ObjectRef.__new__` puts no count on, but its drop
takes one off: the object goes while the reference made by `put` is alive. -/
theorem unpickled_drop_frees_put :
    ∃ s t, Run Step (System.start sampleStore sampleDriver)
        [.put sampleId (.pickle5 false) [1, 2, 3] false, .unpickle sampleId] s ∧
      Step s (.dropOwning sampleId) t ∧ Frees s (.dropOwning sampleId) t sampleId ∧
      t.owning sampleId = 1 ∧ (t.session.resolveNow sampleId).1 = .ok none := by
  have run : Run Step (System.start sampleStore sampleDriver) [] _ := .refl
  have run := run.next (a := Action.put sampleId (.pickle5 false) [1, 2, 3] false)
    (.put ⟨rfl, rfl, rfl, rfl, rfl, rfl, nofun, rfl⟩ rfl)
  have run := run.next (a := Action.unpickle sampleId) .unpickle
  exact ⟨_, _, run, .dropOwning (by decide), .entry (by decide) rfl, rfl, rfl⟩

end Samples
end Rayd.Refs
