import Rayd.Lib.Threads
import Rayd.Spill.ObjectManager

/-! Spills, restores and forgets of one object on threads. A spill writes its file
before it takes the directory lock, a forget removes its file after it has let the
lock go, and a restore reads between its lookup and its purge. File operations
succeed; a spill is refused only for metadata of four gigabytes or more. -/
namespace Rayd.Spill.Overlap
open Memory Threads Transition

inductive Phase where
  | idle
  /-- The file is in place, the entry is still to come. -/
  | recording (url : Text)
  | spilled (result : Except SpillError Text)
  | reading (url : Text)
  | purging (failure : SpillError)
  | restored (result : Except SpillError (Option RestoredObject))
  /-- The entry is taken away, the file is still to go. -/
  | removing (url : Text)
  | forgotten (result : Except SpillError Unit)

namespace Phase

def finished : Phase → Bool
  | .idle | .spilled _ | .restored _ | .forgotten _ => true
  | _ => false

def isRecording : Phase → Bool
  | .recording _ => true
  | _ => false

def isPurging : Phase → Bool
  | .purging _ => true
  | _ => false

def isRemoving : Phase → Bool
  | .removing _ => true
  | _ => false

/-- The url a call works with. -/
def url? : Phase → Option Text
  | .recording url | .reading url | .removing url => some url
  | _ => none

end Phase

inductive Act where
  | spill (metadata data : Bytes)
  | record
  | restore
  | read
  | purge
  | forget
  | remove

inductive Own (object : ObjectId) (s : LocalObjectManager) (phase : Phase) :
    Act → LocalObjectManager → Phase → Prop where
  | spill : phase.finished = true → data.length < 2 ^ 64 →
      s.backend.spill object metadata data = (.ok url, backend) →
      Own object s phase (.spill metadata data) { s with backend } (.recording url)
  | spillFailed {failure : SpillError} : phase.finished = true → data.length < 2 ^ 64 →
      s.backend.spill object metadata data = (.error failure, backend) →
      Own object s phase (.spill metadata data) { s with backend } (.spilled (.error failure))
  | record : phase = .recording url → Own object s phase .record (s.record object url) (.spilled (.ok url))
  | restore : phase.finished = true → s.spillUrl object = some url →
      Own object s phase .restore s (.reading url)
  | unspilled : phase.finished = true → s.spillUrl object = none →
      Own object s phase .restore s (.restored (.ok none))
  | read : phase = .reading url → s.backend.restore url = .ok found →
      Own object s phase .read s (.restored (.ok (some found)))
  | readFailed {failure : SpillError} : phase = .reading url → s.backend.restore url = .error failure →
      Own object s phase .read s (.purging failure)
  | purge {failure : SpillError} : phase = .purging failure →
      Own object s phase .purge { s with directory := s.directory.erase object } (.restored (.error failure))
  | forget : phase.finished = true → s.spillUrl object = some url →
      Own object s phase .forget { s with directory := s.directory.erase object } (.removing url)
  | unknown : phase.finished = true → s.spillUrl object = none →
      Own object s phase .forget s (.forgotten (.ok ()))
  | remove : phase = .removing url → s.backend.remove url = (result, backend) →
      Own object s phase .remove { s with backend } (.forgotten result)

/-- A forget and a spill do not overlap, and a url is recorded while no restore has
failed and is about to purge. -/
def Lets (_ : LocalObjectManager) (other _ : Phase) : Act → Prop
  | .spill .. => other.isRemoving = false
  | .forget => other.isRecording = false
  | .record => other.isPurging = false
  | _ => True

/-- The object's file. -/
def file (object : ObjectId) (s : LocalObjectManager) : Option Bytes :=
  s.backend.files.lookup (s.backend.pathFor object)

/-- The url every spill of the object has. -/
def home (object : ObjectId) (s : LocalObjectManager) : Text :=
  LocalFsBackend.urlFor (s.backend.pathFor object)

section Steps
variable {object : ObjectId} {s t : LocalObjectManager} {p q : Phase}

/-- A spill that is accepted puts the file in place under the object's url; one that is
refused leaves it alone. -/
theorem spill_effect (answered : s.backend.spill object metadata data = (result, backend)) :
    home object { s with backend } = home object s ∧
      (metadata.length < 2 ^ 32 ∧ result = .ok (home object s) ∧
          file object { s with backend } = some (encodeBody ⟨metadata, data⟩) ∨
        (∃ failure, result = .error failure) ∧ file object { s with backend } = file object s) := by
  have path := s.backend.spill_pathFor object object metadata data
  rw [answered] at path
  refine ⟨congrArg LocalFsBackend.urlFor path, ?_⟩
  by_cases small : metadata.length < 2 ^ 32
  · have ok := s.backend.spill_ok object metadata data small
    have files := s.backend.spill_files object object metadata data small
    rw [answered] at ok files
    refine .inl ⟨small, ok, ?_⟩
    rw [file, show backend.pathFor object = _ from path]
    exact files.trans (if_pos rfl)
  · simp only [LocalFsBackend.spill, if_neg small, Prod.mk.injEq] at answered
    obtain ⟨rfl, rfl⟩ := answered
    refine .inr ⟨⟨_, rfl⟩, ?_⟩
    exact (FiniteMap.lookup_insert ..).trans (if_neg (s.backend.tmpPathFor_ne object object))

theorem spill_other {id : ObjectId} (different : object ≠ id)
    (answered : s.backend.spill id metadata data = (result, backend)) :
    home object { s with backend } = home object s ∧
      file object { s with backend } = file object s := by
  have path := s.backend.spill_pathFor id object metadata data
  rw [answered] at path
  refine ⟨congrArg LocalFsBackend.urlFor path, ?_⟩
  by_cases small : metadata.length < 2 ^ 32
  · have files := s.backend.spill_files id object metadata data small
    rw [answered, if_neg different] at files
    rw [file, show backend.pathFor object = _ from path]
    exact files
  · simp only [LocalFsBackend.spill, if_neg small, Prod.mk.injEq] at answered
    obtain ⟨_, rfl⟩ := answered
    exact (FiniteMap.lookup_insert ..).trans (if_neg (s.backend.tmpPathFor_ne id object))

theorem remove_effect (answered : s.backend.remove (home object s) = (result, backend)) :
    home object { s with backend } = home object s ∧ file object { s with backend } = none := by
  simp only [LocalFsBackend.remove, home, LocalFsBackend.parseUrl_urlFor, Prod.mk.injEq] at answered
  obtain ⟨rfl, rfl⟩ := answered
  exact ⟨rfl, (FiniteMap.lookup_erase ..).trans (if_pos rfl)⟩

end Steps

/-- Entry and file, and the calls that are between them. -/
structure Sound (object : ObjectId) (pool : Pool LocalObjectManager Phase) : Prop where
  entry : ∀ url, pool.shared.spillUrl object = some url →
    url = home object pool.shared ∧ file object pool.shared ≠ none
  urls : ∀ thread url, (pool.threads thread).url? = some url → url = home object pool.shared
  recording : ∀ thread, (pool.threads thread).isRecording = true → file object pool.shared ≠ none
  purging : ∀ thread, (pool.threads thread).isPurging = true → pool.shared.spillUrl object = none
  removing : ∀ thread, (pool.threads thread).isRemoving = true → pool.shared.spillUrl object = none ∧
    ∀ other, (pool.threads other).isRecording = false
  tracked : file object pool.shared ≠ none → pool.shared.spillUrl object = none →
    ∃ thread, (pool.threads thread).isRecording = true ∨ (pool.threads thread).isRemoving = true
  readable : ∀ body, file object pool.shared = some body → ∃ found, decodeBody body = some found

namespace Sound
variable {object : ObjectId} {pool : Pool LocalObjectManager Phase} {thread : Nat} {t : LocalObjectManager}
  {q : Phase}

/-- Finished calls and restores change nothing of the object, and neither does a purge
that finds the entry gone. -/
theorem quiet (sound : Sound object pool) (directory : t.spillUrl object = pool.shared.spillUrl object)
    (place : home object t = home object pool.shared) (content : file object t = file object pool.shared)
    (before : (pool.threads thread).isRecording = false ∧ (pool.threads thread).isRemoving = false)
    (after : q.isRecording = false ∧ q.isRemoving = false)
    (urls : ∀ url, q.url? = some url → url = home object pool.shared)
    (purging : q.isPurging = true → pool.shared.spillUrl object = none) :
    Sound object (pool.set thread t q) := by
  have still : ∀ other, ((pool.set thread t q).threads other).isRecording = true ∨
      ((pool.set thread t q).threads other).isRemoving = true →
      (pool.set thread t q).threads other = pool.threads other := by
    intro other busy
    rcases pool.set_cases thread other t q with ⟨_, same⟩ | ⟨_, same⟩
    · rw [same, after.1, after.2] at busy
      rcases busy with busy | busy <;> cases busy
    · exact same
  constructor
  case entry =>
    intro url
    rw [show (pool.set thread t q).shared = t from rfl, directory, place, content]
    exact sound.entry url
  case urls =>
    intro other url
    rw [show (pool.set thread t q).shared = t from rfl, place]
    rcases pool.set_cases thread other t q with ⟨_, same⟩ | ⟨_, same⟩
    · rw [same]
      exact urls url
    · rw [same]
      exact sound.urls other url
  case recording =>
    intro other recording
    rw [still other (.inl recording)] at recording
    rw [show (pool.set thread t q).shared = t from rfl, content]
    exact sound.recording other recording
  case purging =>
    intro other
    rw [show (pool.set thread t q).shared = t from rfl, directory]
    rcases pool.set_cases thread other t q with ⟨_, same⟩ | ⟨_, same⟩
    · rw [same]
      exact purging
    · rw [same]
      exact sound.purging other
  case removing =>
    intro other removing
    rw [still other (.inr removing)] at removing
    obtain ⟨gone, alone⟩ := sound.removing other removing
    refine ⟨directory.trans gone, fun third => Bool.eq_false_iff.mpr fun recording => ?_⟩
    rw [still third (.inl recording), alone third] at recording
    cases recording
  case tracked =>
    intro here gone
    obtain ⟨other, busy⟩ := sound.tracked (content ▸ here) (directory ▸ gone)
    have different : other ≠ thread := by
      rintro rfl
      rw [before.1, before.2] at busy
      rcases busy with busy | busy <;> cases busy
    exact ⟨other, by rwa [Pool.set_ne _ different]⟩
  case readable =>
    intro body found
    exact sound.readable body (content ▸ found)

theorem wrote (sound : Sound object pool) (directory : t.spillUrl object = pool.shared.spillUrl object)
    (place : home object t = home object pool.shared) (content : file object t = some (encodeBody found))
    (small : found.metadata.length < 2 ^ 32 ∧ found.data.length < 2 ^ 64)
    (unopposed : ∀ other, other ≠ thread → (pool.threads other).isRemoving = false) :
    Sound object (pool.set thread t (.recording (home object pool.shared))) := by
  have here : file object t ≠ none := by
    rw [content]
    exact Option.some_ne_none _
  constructor
  case entry =>
    intro url recorded
    exact ⟨(sound.entry url (directory ▸ recorded)).1.trans place.symm, here⟩
  case urls =>
    intro other url
    rw [show (pool.set thread t _).shared = t from rfl, place]
    rcases pool.set_cases thread other t (.recording (home object pool.shared)) with ⟨_, same⟩ | ⟨_, same⟩
    · rw [same]
      exact fun url => (Option.some.inj url).symm
    · rw [same]
      exact sound.urls other url
  case recording => exact fun _ _ => here
  case purging =>
    intro other purging
    rcases pool.set_cases thread other t (.recording (home object pool.shared)) with ⟨_, same⟩ | ⟨_, same⟩
    · rw [same] at purging
      cases purging
    · rw [same] at purging
      exact directory.trans (sound.purging other purging)
  case removing =>
    intro other removing
    rcases pool.set_cases thread other t (.recording (home object pool.shared)) with ⟨_, same⟩ | ⟨different, same⟩
    · rw [same] at removing
      cases removing
    · rw [same, unopposed other different] at removing
      cases removing
  case tracked => exact fun _ _ => ⟨thread, .inl (by rw [Pool.set_self]; rfl)⟩
  case readable =>
    intro body written
    rw [show (pool.set thread t _).shared = t from rfl, content] at written
    exact ⟨found, Option.some.inj written ▸ decodeBody_encodeBody found small.1 small.2⟩

/-- The spill's entry follows; no forget has come in between, and no restore is about
to purge it. -/
theorem recorded (sound : Sound object pool) (here : pool.threads thread = .recording url)
    (unopposed : ∀ other, other ≠ thread → (pool.threads other).isPurging = false) :
    Sound object (pool.set thread (pool.shared.record object url) (.spilled (.ok url))) := by
  have written : (pool.threads thread).isRecording = true := by rw [here]; rfl
  have place : url = home object pool.shared := sound.urls thread url (by rw [here]; rfl)
  have entered : (pool.shared.record object url).spillUrl object = some url := FiniteMap.lookup_insert_self ..
  constructor
  case entry =>
    intro other found
    cases entered.symm.trans found
    exact ⟨place, sound.recording thread written⟩
  case urls =>
    intro other target
    rcases pool.set_cases thread other _ (.spilled (.ok url)) with ⟨_, same⟩ | ⟨_, same⟩
    · rw [same]
      exact fun url => by cases url
    · rw [same]
      exact sound.urls other target
  case recording =>
    intro _ _
    exact sound.recording thread written
  case purging =>
    intro other purging
    rcases pool.set_cases thread other _ (.spilled (.ok url)) with ⟨_, same⟩ | ⟨different, same⟩
    · rw [same] at purging
      cases purging
    · rw [same, unopposed other different] at purging
      cases purging
  case removing =>
    intro other removing
    rcases pool.set_cases thread other _ (.spilled (.ok url)) with ⟨_, same⟩ | ⟨_, same⟩
    · rw [same] at removing
      cases removing
    · rw [same] at removing
      cases ((sound.removing other removing).2 thread).symm.trans written
  case tracked =>
    intro _ gone
    cases entered.symm.trans gone
  case readable => exact sound.readable

theorem taken (sound : Sound object pool) (found : pool.shared.spillUrl object = some url)
    (idle : (pool.threads thread).isRecording = false)
    (unopposed : ∀ other, other ≠ thread → (pool.threads other).isRecording = false) :
    Sound object (pool.set thread { pool.shared with directory := pool.shared.directory.erase object }
      (.removing url)) := by
  have gone : LocalObjectManager.spillUrl
      { pool.shared with directory := pool.shared.directory.erase object } object = none :=
    (FiniteMap.lookup_erase ..).trans (if_pos rfl)
  have alone : ∀ other, (pool.threads other).isRecording = false := by
    intro other
    by_cases same : other = thread
    · rw [same]
      exact idle
    · exact unopposed other same
  constructor
  case entry =>
    intro other entered
    cases gone.symm.trans entered
  case urls =>
    intro other target
    rcases pool.set_cases thread other _ (.removing url) with ⟨_, same⟩ | ⟨_, same⟩
    · rw [same]
      exact fun here => Option.some.inj here ▸ (sound.entry url found).1
    · rw [same]
      exact sound.urls other target
  case recording =>
    intro other recording
    rcases pool.set_cases thread other _ (.removing url) with ⟨_, same⟩ | ⟨_, same⟩
    · rw [same] at recording
      cases recording
    · rw [same, alone other] at recording
      cases recording
  case purging => exact fun _ _ => gone
  case removing =>
    refine fun _ _ => ⟨gone, fun third => ?_⟩
    rcases pool.set_cases thread third _ (.removing url) with ⟨_, same⟩ | ⟨_, same⟩
    · rw [same]
      rfl
    · rw [same]
      exact alone third
  case tracked => exact fun _ _ => ⟨thread, .inr (by rw [Pool.set_self]; rfl)⟩
  case readable => exact sound.readable

theorem removed (sound : Sound object pool) (here : pool.threads thread = .removing url)
    (directory : t.spillUrl object = pool.shared.spillUrl object)
    (place : home object t = home object pool.shared) (content : file object t = none) :
    Sound object (pool.set thread t (.forgotten result)) := by
  obtain ⟨gone, alone⟩ := sound.removing thread (by rw [here]; rfl)
  have unrecorded : ∀ other, ((pool.set thread t (.forgotten result)).threads other).isRecording = false := by
    intro other
    rcases pool.set_cases thread other t (.forgotten result) with ⟨_, same⟩ | ⟨_, same⟩
    · rw [same]
      rfl
    · rw [same]
      exact alone other
  constructor
  case entry =>
    intro other entered
    cases (directory.trans gone).symm.trans entered
  case urls =>
    intro other target
    rw [show (pool.set thread t _).shared = t from rfl, place]
    rcases pool.set_cases thread other t (.forgotten result) with ⟨_, same⟩ | ⟨_, same⟩
    · rw [same]
      exact fun url => by cases url
    · rw [same]
      exact sound.urls other target
  case recording =>
    intro other recording
    cases (unrecorded other).symm.trans recording
  case purging => exact fun _ _ => directory.trans gone
  case removing => exact fun _ _ => ⟨directory.trans gone, unrecorded⟩
  case tracked => exact fun present => absurd content present
  case readable =>
    intro body found
    cases content.symm.trans found

end Sound

section Runs
variable {object : ObjectId} {pool next : Pool LocalObjectManager Phase}

theorem idle_of_finished {phase : Phase} (finished : phase.finished = true) :
    phase.isRecording = false ∧ phase.isRemoving = false := by
  cases phase <;> first | exact ⟨rfl, rfl⟩ | cases finished

/-- While the object's file can be read, a restore of it succeeds. -/
theorem read_fails_without_file (sound : Sound object pool) {failure : SpillError}
    (failed : pool.shared.backend.restore (home object pool.shared) = .error failure) :
    file object pool.shared = none := by
  cases found : file object pool.shared with
  | none => rfl
  | some body =>
    obtain ⟨content, decoded⟩ := sound.readable body found
    rw [file] at found
    simp only [LocalFsBackend.restore, home, LocalFsBackend.parseUrl_urlFor, found, decoded] at failed
    cases failed

theorem sound_step (sound : Sound object pool)
    (step : Guarded (Unopposed Lets) (Step (Own object)) pool label next) : Sound object next := by
  obtain ⟨unopposed, step⟩ := step
  cases step with
  | @act thread act t q own =>
    cases own with
    | spill finished bounded answered =>
      obtain ⟨place, ⟨small, same, content⟩ | ⟨⟨failure, other⟩, _⟩⟩ := spill_effect answered
      · cases same
        exact sound.wrote rfl place content ⟨small, bounded⟩ unopposed
      · cases other
    | spillFailed finished _ answered =>
      obtain ⟨place, ⟨_, other, _⟩ | ⟨_, content⟩⟩ := spill_effect answered
      · cases other
      · exact sound.quiet rfl place content (idle_of_finished finished) ⟨rfl, rfl⟩
          (fun _ url => by cases url) (fun purging => by cases purging)
    | record here => exact sound.recorded here unopposed
    | restore finished found =>
      refine sound.quiet rfl rfl rfl (idle_of_finished finished) ⟨rfl, rfl⟩ ?_ (fun purging => by cases purging)
      intro url same
      cases same
      exact (sound.entry _ found).1
    | unspilled finished | unknown finished =>
      exact sound.quiet rfl rfl rfl (idle_of_finished finished) ⟨rfl, rfl⟩
        (fun _ url => by cases url) (fun purging => by cases purging)
    | read here =>
      exact sound.quiet rfl rfl rfl (by rw [here]; exact ⟨rfl, rfl⟩) ⟨rfl, rfl⟩
        (fun _ url => by cases url) (fun purging => by cases purging)
    | readFailed here failed =>
      refine sound.quiet rfl rfl rfl (by rw [here]; exact ⟨rfl, rfl⟩) ⟨rfl, rfl⟩
        (fun _ url => by cases url) (fun _ => ?_)
      cases sound.urls thread _ (by rw [here]; rfl)
      -- an entry would have had its file
      cases entered : pool.shared.spillUrl object with
      | none => rfl
      | some url => exact absurd (read_fails_without_file sound failed) (sound.entry url entered).2
    | purge here =>
      have gone := sound.purging thread (by rw [here]; rfl)
      exact sound.quiet (((FiniteMap.lookup_erase ..).trans (if_pos rfl)).trans gone.symm) rfl rfl
        (by rw [here]; exact ⟨rfl, rfl⟩) ⟨rfl, rfl⟩ (fun _ url => by cases url)
        (fun purging => by cases purging)
    | forget finished found => exact sound.taken found (idle_of_finished finished).1 unopposed
    | remove here answered =>
      cases sound.urls thread _ (by rw [here]; rfl)
      obtain ⟨place, content⟩ := remove_effect answered
      exact sound.removed here rfl place content

/-- The object's file is what one spill of the run wrote; a forget that came later has
its removal still to do. -/
def Latest (object : ObjectId) (path : List (Nat × Act)) (pool : Pool LocalObjectManager Phase) : Prop :=
  file object pool.shared ≠ none → ∃ before thread metadata data after,
    path = before ++ (thread, .spill metadata data) :: after ∧
      pool.shared.backend.Holds object ⟨metadata, data⟩ ∧
      ((∀ other, (other, .forget) ∉ after) ∨ ∃ other, (pool.threads other).isRemoving = true)

theorem still_removing {thread : Nat} {t : LocalObjectManager} {q : Phase}
    (idle : (pool.threads thread).isRemoving = false)
    (removing : ∃ other, (pool.threads other).isRemoving = true) :
    ∃ other, ((pool.set thread t q).threads other).isRemoving = true := by
  obtain ⟨other, removing⟩ := removing
  have different : other ≠ thread := by
    rintro rfl
    cases idle.symm.trans removing
  exact ⟨other, by rwa [Pool.set_ne _ different]⟩

theorem Latest.kept {thread : Nat} {t : LocalObjectManager} {q : Phase} {act : Act}
    (latest : Latest object path pool) (content : file object t = file object pool.shared)
    (removing : (∃ other, (pool.threads other).isRemoving = true) →
      ∃ other, ((pool.set thread t q).threads other).isRemoving = true)
    (taken : act = .forget → file object pool.shared ≠ none →
      ∃ other, ((pool.set thread t q).threads other).isRemoving = true) :
    Latest object (path ++ [(thread, act)]) (pool.set thread t q) := by
  intro here
  obtain ⟨before, writer, metadata, data, after, rfl, holds, later⟩ := latest (content ▸ here)
  refine ⟨before, writer, metadata, data, after ++ [(thread, act)], by simp, ?_, ?_⟩
  · exact ⟨content.trans holds.1, holds.2⟩
  · by_cases forgets : act = .forget
    · exact .inr (taken forgets (content ▸ here))
    · refine later.imp (fun unforgotten other member => ?_) removing
      rcases List.mem_append.mp member with old | new
      · exact unforgotten other old
      · cases List.mem_singleton.mp new
        exact forgets rfl

theorem latest_step (sound : Sound object pool) (latest : Latest object path pool)
    (step : Guarded (Unopposed Lets) (Step (Own object)) pool label next) :
    Latest object (path ++ [label]) next := by
  obtain ⟨unopposed, step⟩ := step
  cases step with
  | @act thread act t q own =>
    cases own with
    | spill finished bounded answered =>
      obtain ⟨place, ⟨small, _, content⟩ | ⟨⟨failure, other⟩, _⟩⟩ := spill_effect answered
      · exact fun _ => ⟨path, thread, _, _, [], rfl, ⟨content, small, bounded⟩, .inl nofun⟩
      · cases other
    | spillFailed finished _ answered =>
      obtain ⟨_, ⟨_, other, _⟩ | ⟨_, content⟩⟩ := spill_effect answered
      · cases other
      · exact latest.kept content (still_removing (idle_of_finished finished).2) nofun
    | restore finished | unspilled finished =>
      exact latest.kept rfl (still_removing (idle_of_finished finished).2) nofun
    | record here | read here | readFailed here | purge here =>
      exact latest.kept rfl (still_removing (by rw [here]; rfl)) nofun
    | forget finished found =>
      exact latest.kept rfl (still_removing (idle_of_finished finished).2)
        fun _ _ => ⟨thread, by rw [Pool.set_self]; rfl⟩
    | unknown finished gone =>
      refine latest.kept rfl (still_removing (idle_of_finished finished).2) fun _ here => ?_
      -- a file without an entry is being recorded or removed, and no spill is recording now
      obtain ⟨other, recording | removing⟩ := sound.tracked here gone
      · by_cases same : other = thread
        · rw [same, (idle_of_finished finished).1] at recording
          cases recording
        · cases (unopposed other same).symm.trans recording
      · exact still_removing (idle_of_finished finished).2 ⟨other, removing⟩
    | remove here answered =>
      cases sound.urls thread _ (by rw [here]; rfl)
      exact fun present => absurd (remove_effect answered).2 present

/-- A restore that found the entry, while the entry stays and no forget is under way. -/
structure Restoring (object : ObjectId) (thread : Nat) (pool : Pool LocalObjectManager Phase) : Prop where
  sound : Sound object pool
  entered : pool.shared.spillUrl object ≠ none
  alone : ∀ other, (pool.threads other).isRemoving = false
  here : (∃ url, pool.threads thread = .reading url) ∨
    ∃ found, pool.threads thread = .restored (.ok (some found))

namespace Restoring
variable {s t : LocalObjectManager} {p q : Phase} {act : Act} {thread actor : Nat}

theorem entry_stays (own : Own object s p act t q) (entered : s.spillUrl object ≠ none)
    (forgets : act ≠ .forget) (purges : act ≠ .purge) : t.spillUrl object ≠ none := by
  cases own with
  | record =>
    rw [show (s.record object _).spillUrl object = _ from FiniteMap.lookup_insert_self ..]
    exact Option.some_ne_none _
  | purge => exact absurd rfl purges
  | forget | unknown => exact absurd rfl forgets
  | _ => exact entered

theorem not_removing (own : Own object s p act t q) (forgets : act ≠ .forget) : q.isRemoving = false := by
  cases own with
  | forget => exact absurd rfl forgets
  | _ => rfl

theorem read_succeeds (restoring : Restoring object thread pool)
    (own : Own object pool.shared (pool.threads thread) .read t q) :
    ∃ found, q = .restored (.ok (some found)) := by
  cases own with
  | read => exact ⟨_, rfl⟩
  | readFailed here failed =>
    cases restoring.sound.urls thread _ (by rw [here]; rfl)
    cases entered : pool.shared.spillUrl object with
    | none => exact absurd entered restoring.entered
    | some url =>
      exact absurd (read_fails_without_file restoring.sound failed) (restoring.sound.entry url entered).2

theorem step (restoring : Restoring object thread pool)
    (step : Guarded (Unopposed Lets) (Step (Own object)) pool (actor, act) next) (forgets : act ≠ .forget)
    (mine : actor = thread → act = .read ∨ act = .purge) : Restoring object thread next := by
  have sound := sound_step restoring.sound step
  obtain ⟨_, step⟩ := step
  cases step with
  | @act _ _ t q own =>
    -- only a restore that failed purges, and then the entry was gone
    have purges : act ≠ .purge := by
      rintro rfl
      cases own with
      | purge here => exact restoring.entered (restoring.sound.purging actor (by rw [here]; rfl))
    refine ⟨sound, entry_stays own restoring.entered forgets purges, fun other => ?_, ?_⟩
    · rcases pool.set_cases actor other t q with ⟨_, same⟩ | ⟨_, same⟩
      · rw [same]
        exact not_removing own forgets
      · rw [same]
        exact restoring.alone other
    · rcases pool.set_cases actor thread t q with ⟨rfl, same⟩ | ⟨_, same⟩
      · rw [same]
        obtain rfl := (mine rfl).resolve_right purges
        exact .inr (restoring.read_succeeds own)
      · rw [same]
        exact restoring.here

theorem run (restoring : Restoring object thread pool)
    (run : Run (Guarded (Unopposed Lets) (Step (Own object))) pool path next)
    (forgets : ∀ other, (other, .forget) ∉ path)
    (mine : ∀ act, (thread, act) ∈ path → act = .read ∨ act = .purge) : Restoring object thread next := by
  refine run.along (fun {_ label _} member restoring last => ?_) restoring
  obtain ⟨actor, act⟩ := label
  refine restoring.step last (fun same => forgets actor (same ▸ member)) fun same => ?_
  exact mine act (same ▸ member)

end Restoring

end Runs

/-- Nothing of the object is spilled yet. -/
structure Fresh (object : ObjectId) (pool : Pool LocalObjectManager Phase) : Prop where
  entry : pool.shared.spillUrl object = none
  content : file object pool.shared = none
  idle : ∀ thread, pool.threads thread = .idle

theorem Fresh.sound {object : ObjectId} {pool : Pool LocalObjectManager Phase} (fresh : Fresh object pool) :
    Sound object pool := by
  constructor
  case entry =>
    intro url found
    cases fresh.entry.symm.trans found
  case tracked => exact fun here => absurd fresh.content here
  case readable =>
    intro body found
    cases fresh.content.symm.trans found
  all_goals
    intro thread
    rw [fresh.idle thread]
    nofun

theorem sound_run {object : ObjectId} {start pool : Pool LocalObjectManager Phase} (fresh : Fresh object start)
    (run : Run (Guarded (Unopposed Lets) (Step (Own object))) start path pool) :
    Sound object pool ∧ Latest object path pool := by
  refine run.traced (P := fun path pool => Sound object pool ∧ Latest object path pool) ?_
    ⟨fresh.sound, fun here => absurd fresh.content here⟩
  rintro path pool label next ⟨sound, latest⟩ step
  exact ⟨sound_step sound step, latest_step sound latest step⟩

def sampleManager : LocalObjectManager := ⟨.empty 3, ∅⟩
def sampleObject : ObjectId := .nil 28
def samplePool : Pool LocalObjectManager Phase := ⟨sampleManager, fun _ => .idle⟩

end Rayd.Spill.Overlap
