import Rayd.Core.Spilling

/-! Reading back a spilled object takes space again. The worker returns what the
recoverer gave it only after plasma has taken it, and the arena, from which nothing
is ever given back, may be full by then. -/
namespace Rayd.Core
open Memory Plasma Spill Threads Transition

/-- A reseal finds the id in plasma or room for the object. -/
def Resealable (plasma : Store) : Phase → Prop
  | .reseal id _ object =>
    (∃ held, plasma.objects.lookup id = some held) ∨ plasma.Room ⟨id, object.metadata, object.data⟩
  | _ => True

/-- The steps in which every reseal is resealable; seals may find plasma full. -/
def Delivering (s : Shared) (phase : Phase) (a : Act) (t : Shared) (next : Phase) : Prop :=
  Resealable s.session.plasma phase ∧ Own s phase a t next

def deliveryOutline : Outline Delivering where
  shared := Shared.Intact
  phase s phase := phase.Sound s
  rely := Shared.Rely
  preserved moved intact sound := own_sound moved.2 intact sound
  stable rely sound := sound.stable rely

section Resealed
variable {id : ObjectId}

theorem resealable_fits {plasma : Store}
    (resealable : Resealable plasma (.reseal id index object)) :
    Fits plasma (.reseal id index object) := by
  intro message refused
  rcases plasma.createAndSeal_cases ⟨id, object.metadata, object.data⟩ with
    ⟨_, reply⟩ | ⟨absent, _⟩
  · rw [reply] at refused
    cases refused
  · rcases resealable with ⟨held, found⟩ | room
    · rw [show plasma.objects.lookup id = none from absent] at found
      cases found
    · rw [(plasma.createAndSeal_ok_iff ⟨id, object.metadata, object.data⟩).mpr ⟨absent, room⟩] at refused
      cases refused

/-- The bytes are returned exactly when plasma can take them, or has them already. -/
theorem reseal_returns_iff (s : Session) (index : PlasmaIndex) (object : RestoredObject) :
    (Session.advance (s, .reseal id index object)).2 =
        .resolved id (.ok (some ⟨index.metadata, object.data⟩)) ↔
      Resealable s.plasma (.reseal id index object) := by
  simp only [Session.advance, Session.createAndSeal]
  rcases s.plasma.createAndSeal_cases ⟨id, object.metadata, object.data⟩ with
    ⟨⟨held, found⟩, reply⟩ | ⟨absent, ⟨message, arena, reply⟩ | ⟨room, arena, reply⟩⟩
  · rw [reply]
    exact ⟨fun _ => .inl ⟨held, found⟩, fun _ => rfl⟩
  · rw [reply]
    refine ⟨fun returned => (by cases returned), fun resealable => ?_⟩
    exact absurd (congrArg Prod.fst reply) (resealable_fits resealable message)
  · rw [reply]
    exact ⟨fun _ => .inr room, fun _ => rfl⟩

/-- A `resolve_now` that the recoverer has given the bytes returns them with its next
step exactly when plasma has the id or room for the object. When that is so at every
reseal, a `resolve_now` of a value whose seal has returned is within its first five
steps or has been given exactly what was sealed, however many spills and reads there
have been. -/
theorem recovered_bytes_delivered {recoverer : Option LocalObjectManager}
    (before : Run (Step Delivering) (startPool walk jobId recoverer spillThreshold arena) path pool)
    (called : Step Delivering pool (thread, .call (.resolveNow id)) middle)
    (during : Run (Step Delivering) middle more next) (own : ∀ operation, (thread, .call operation) ∉ more) :
    (∀ s object index bytes t phase, Own s (.reseal object index bytes) .step t phase →
      (phase = .resolved object (.ok (some ⟨index.metadata, bytes.data⟩)) ↔
        Resealable s.session.plasma (.reseal object index bytes))) ∧
    ∀ value, pool.shared.returned id = some value →
      next.threads thread = .resolved id (.ok (some ⟨value.metadata, value.data⟩)) ∨
        (next.threads thread).finished = false ∧ (ownLabels thread more).length < 5 := by
  constructor
  · intro s object index bytes t phase own
    cases own with
    | step running advanced =>
      rw [← reseal_returns_iff, advanced]
    | reorder same => cases same
  · intro value returned
    have started : deliveryOutline.Holds (startPool walk jobId recoverer spillThreshold arena) :=
      ⟨⟨nofun, nofun, nofun⟩, fun _ => trivial⟩
    have holds := deliveryOutline.run before started
    obtain ⟨rfl, given, listed⟩ := holds.1.returned _ value returned
    have initial := reading_called And.right called given listed
    have reading := deliveryOutline.follow (T := Reading value)
      (fun moved => reading_own moved.2 fun _ _ _ same => same ▸ resealable_fits (same ▸ moved.1))
      reading_stable during (deliveryOutline.step holds called) initial
    exact reading.outcome own

end Resealed

section Samples

/-- Enough for the sample value, twice. -/
def tightArena : Arena := ⟨0, 64, 0, by decide, by decide⟩

def tightPool : Pool Shared Phase :=
  startPool .newest (.nil 16) (some sampleManager) (2 ^ 64 - 1) tightArena

/-- The session once the sample value has been sealed and spilled. -/
def spilledOnce : Session :=
  ((tightPool.shared.session.sealValueToPlasma sampleValue.id sampleValue.metadata
    sampleValue.data).2.spillToRecoverer sampleValue.id).2

/-- Read back and spilled once more. -/
def spilledTwice : Session :=
  ((spilledOnce.resolveNow sampleValue.id).2.spillToRecoverer sampleValue.id).2

/-- Thread 0 has come to this phase; the sample value's seal has returned. -/
def tightAt (session : Session) (phase : Phase) : Pool Shared Phase where
  shared :=
    { session
      given := Function.update (fun _ => none) sampleValue.id (some sampleValue)
      returned := Function.update (fun _ => none) sampleValue.id (some sampleValue) }
  threads := Function.update (fun _ => .idle) 0 phase

theorem seal_spill_run : ∃ path, Run (Step Delivering) tightPool path
    (tightAt spilledOnce (.spillReturned sampleValue.id (.ok true))) := by
  have run : Run (Step Delivering) tightPool [] _ := .refl
  have run := run.next (a := (0, .call (.sealValueToPlasma sampleValue)))
    (.act ⟨trivial, .sealValueToPlasma rfl rfl⟩)
  have run := run.next (a := (0, .step)) (.act ⟨trivial, .step rfl rfl⟩)
  have run := run.next (a := (0, .step)) (.act ⟨trivial, .step rfl rfl⟩)
  have run := run.next (a := (0, .step)) (.act ⟨trivial, .step rfl rfl⟩)
  have run := run.next (a := (0, .step)) (.act ⟨trivial, .step rfl rfl⟩)
  have run := run.next (a := (0, .call (.spillToRecoverer sampleValue.id)))
    (.act ⟨trivial, .spillToRecoverer rfl⟩)
  have run := run.next (a := (0, .step)) (.act ⟨trivial, .step rfl rfl⟩)
  have run := run.next (a := (0, .step)) (.act ⟨trivial, .step rfl rfl⟩)
  have run := run.next (a := (0, .step)) (.act ⟨trivial, .step rfl rfl⟩)
  have run := run.next (a := (0, .step)) (.act ⟨trivial, .step rfl rfl⟩)
  simp only [Pool.set, Function.update_idem] at run
  exact ⟨_, run⟩

theorem tight_act {session after : Session} {phase next : Phase}
    (own : Own (tightAt session phase).shared phase a ((tightAt session phase).shared.move after) next)
    (allowed : Resealable session.plasma phase) :
    Step Delivering (tightAt session phase) (0, a) (tightAt after next) := by
  have step : Step Delivering (tightAt session phase) (0, a) _ := .act ⟨allowed, own⟩
  simpa only [Pool.set, tightAt, Shared.move, Function.update_idem] using step

theorem tight_step {session after : Session} {phase next : Phase}
    (advanced : Session.advance (session, phase) = (after, next))
    (quiet : ∀ s : Shared, s.note next = s) (running : phase.finished = false)
    (allowed : Resealable session.plasma phase) :
    Step Delivering (tightAt session phase) (0, .step) (tightAt after next) := by
  have own : Own (tightAt session phase).shared phase .step _ next := .step running advanced
  rw [quiet] at own
  exact tight_act own allowed

theorem tight_resolve (session : Session) (phase : Phase) (free : phase.finished = true)
    (allowed : Resealable session.plasma phase) :
    Step Delivering (tightAt session phase) (0, .call (.resolveNow sampleValue.id))
      (tightAt session (.lookUp sampleValue.id)) :=
  tight_act (.resolveNow free) allowed

/-- The value is sealed, spilled and read back. -/
theorem recovered_bytes_delivered_once :
    ∃ path pool middle more next, Run (Step Delivering) tightPool path pool ∧
      pool.shared.returned sampleValue.id = some sampleValue ∧
      Step Delivering pool (0, .call (.resolveNow sampleValue.id)) middle ∧
      Run (Step Delivering) middle more next ∧
      next.threads 0 = .resolved sampleValue.id (.ok (some ⟨.pickle5 false, [1, 2, 3]⟩)) := by
  obtain ⟨path, before⟩ := seal_spill_run
  have called := tight_resolve spilledOnce (.spillReturned sampleValue.id (.ok true)) rfl trivial
  have reading : Run (Step Delivering) (tightAt spilledOnce (.lookUp sampleValue.id)) [] _ := .refl
  have reading := reading.next (tight_step rfl (fun _ => rfl) rfl trivial)
  have reading := reading.next (tight_step rfl (fun _ => rfl) rfl trivial)
  have reading := reading.next (tight_step rfl (fun _ => rfl) rfl trivial)
  have reading := reading.next (tight_step rfl (fun _ => rfl) rfl trivial)
  have reading := reading.next (tight_step rfl (fun _ => rfl) rfl (.inr (by decide)))
  refine ⟨_, _, _, _, _, before, rfl, called, reading, ?_⟩
  refine ((recovered_bytes_delivered before called reading nofun).2 sampleValue rfl).resolve_right ?_
  rintro ⟨running, _⟩
  cases running

/-- The second time the value is read back the arena is full: the file is there, the
bytes are in the worker's hands, and the caller gets the arena's error. -/
theorem recovered_bytes_withheld :
    ∃ path pool more next message, Run (Step Own) tightPool path pool ∧
      pool.shared.returned sampleValue.id = some sampleValue ∧
      pool.threads 0 = .lookUp sampleValue.id ∧ Run (Step Own) pool more next ∧
      next.threads 0 = .reseal sampleValue.id sampleValue.index sampleValue.stored ∧
      ∃ last, Step Own next (0, .step) last ∧
        last.threads 0 = .resolved sampleValue.id (.error (.plasma (.server .outOfMemory message))) := by
  obtain ⟨path, run⟩ := seal_spill_run
  have run := run.next (tight_resolve _ _ rfl trivial)
  have run := run.next (tight_step rfl (fun _ => rfl) rfl trivial)
  have run := run.next (tight_step rfl (fun _ => rfl) rfl trivial)
  have run := run.next (tight_step rfl (fun _ => rfl) rfl trivial)
  have run := run.next (tight_step rfl (fun _ => rfl) rfl trivial)
  have run := run.next (tight_step rfl (fun _ => rfl) rfl (.inr (by decide)))
  have run := run.next (tight_act (a := .call (.spillToRecoverer sampleValue.id)) (.spillToRecoverer rfl) trivial)
  have run := run.next (tight_step rfl (fun _ => rfl) rfl trivial)
  have run := run.next (tight_step rfl (fun _ => rfl) rfl trivial)
  have run := run.next (tight_step rfl (fun _ => rfl) rfl trivial)
  have run := run.next (tight_step rfl (fun _ => rfl) rfl trivial)
  have run := run.next (tight_resolve _ _ rfl trivial)
  have reading : Run (Step Delivering) (tightAt spilledTwice (.lookUp sampleValue.id)) [] _ := .refl
  have reading := reading.next (tight_step rfl (fun _ => rfl) rfl trivial)
  have reading := reading.next (tight_step rfl (fun _ => rfl) rfl trivial)
  have reading := reading.next (tight_step rfl (fun _ => rfl) rfl trivial)
  have reading := reading.next (tight_step rfl (fun _ => rfl) rfl trivial)
  have unguarded {path : List (Nat × Act)} {s t : Pool Shared Phase} (run : Run (Step Delivering) s path t) :
      Run (Step Own) s path t :=
    run.mono fun step => by
      cases step with
      | act moved => exact .act moved.2
  exact ⟨_, _, _, _, _, unguarded run, rfl, rfl, unguarded reading, rfl, _, .act (.step rfl rfl), rfl⟩

end Samples
end Rayd.Core
