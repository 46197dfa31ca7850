import Rayd.Lib.Threads

/-! One object between those that move it out of memory and the one that takes it
away for good. A spill works on a copy of its own; a free takes the memory away first
and what is on disk after that, by its listing. What a spill writes after the free has
looked for the listing stays. -/
namespace Rayd.Core.Reclaim
open Threads Transition

/-- What there is of the object. -/
structure View where
  pinned : Bool
  held : Bool
  listed : Bool
  filed : Bool

/-- What a thread has to do with the object. -/
inductive Role where
  | outside
  /-- A copy of the bytes, still to be written. -/
  | copying
  | recording
  /-- The last pin is gone, the bytes in memory still to go. -/
  | freeing
  /-- Out of memory; the listing still to be looked up. -/
  | withdrawing
  | removing
  deriving DecidableEq

namespace Role

def spills : Role → Bool
  | .copying | .recording => true
  | _ => false

def frees : Role → Bool
  | .freeing | .withdrawing | .removing => true
  | _ => false

end Role

inductive Move where
  | pass
  | copy
  | write
  | giveUp
  | record
  | unpin
  | drop
  | lose
  | delete
  | forget
  | remove

inductive Own (v : View) (role : Role) : Move → View → Role → Prop where
  | pass : Own v role .pass v role
  | copy : role = .outside → v.held = true → Own v role .copy v .copying
  | write : role = .copying → Own v role .write { v with filed := true } .recording
  | giveUp : role = .copying → Own v role .giveUp v .outside
  | record : role = .recording → Own v role .record { v with listed := true } .outside
  | unpin : role = .outside → Own v role .unpin { v with pinned := false } .freeing
  /-- A copy goes that nobody depends on any more. -/
  | drop : role = .outside → Own v role .drop { v with held := false } .outside
  | lose : role = .outside → Own v role .lose { v with filed := false } .outside
  | delete : role = .freeing → Own v role .delete { v with held := false } .withdrawing
  | forget : role = .withdrawing → v.listed = true → Own v role .forget { v with listed := false } .removing
  | unlisted : role = .withdrawing → v.listed = false → Own v role .forget v .outside
  | remove : role = .removing → Own v role .remove { v with filed := false } .outside

/-- The listing is looked up while nobody is about to add to it. -/
def Lets (_ : View) (other _ : Role) : Move → Prop
  | .forget => other.spills = false
  | _ => True

structure Sound (pool : Pool View Role) : Prop where
  filed : pool.shared.filed = true → pool.shared.listed = true ∨
    ∃ thread, pool.threads thread = .recording ∨ pool.threads thread = .removing
  withdrawing : ∀ thread, pool.threads thread = .withdrawing → pool.shared.held = false
  removing : ∀ thread, pool.threads thread = .removing → pool.shared.held = false ∧
    pool.shared.listed = false ∧ ∀ other, (pool.threads other).spills = false
  freed : pool.shared.pinned = false → (∃ thread, (pool.threads thread).frees = true) ∨
    pool.shared.held = false ∧ pool.shared.listed = false ∧ pool.shared.filed = false ∧
      ∀ other, (pool.threads other).spills = false

/-- The same as one thread sees it, with what it knows of the others. -/
structure Fits (v : View) (role : Role) (beside : (Role → Prop) → Prop) : Prop where
  filed : v.filed = true → v.listed = true ∨ (role = .recording ∨ role = .removing) ∨
    beside fun other => other = .recording ∨ other = .removing
  withdrawing : role = .withdrawing ∨ beside (· = .withdrawing) → v.held = false
  removing : role = .removing ∨ beside (· = .removing) → v.held = false ∧ v.listed = false ∧
    role.spills = false ∧ ¬ beside (·.spills = true)
  freed : v.pinned = false → (role.frees = true ∨ beside (·.frees = true)) ∨
    v.held = false ∧ v.listed = false ∧ v.filed = false ∧ role.spills = false ∧ ¬ beside (·.spills = true)

theorem sound_iff (pool : Pool View Role) (thread : Nat) :
    Sound pool ↔ Fits pool.shared (pool.threads thread) (pool.Beside thread) := by
  have quiet : (∀ other, (pool.threads other).spills = false) ↔
      (pool.threads thread).spills = false ∧ ¬ pool.Beside thread (·.spills = true) := by
    have either := not_congr (pool.exists_iff_beside thread (·.spills = true))
    simpa only [not_exists, not_or, Bool.not_eq_true] using either
  have some := pool.exists_iff_beside thread
  have files : (∃ other, pool.threads other = .recording ∨ pool.threads other = .removing) ↔ _ :=
    some fun other => other = .recording ∨ other = .removing
  have frees : (∃ other, (pool.threads other).frees = true) ↔ _ := some (·.frees = true)
  constructor
  · rintro ⟨filed, withdrawing, removing, freed⟩
    rw [files] at filed
    simp only [quiet, frees] at removing freed
    refine ⟨filed, fun either => ?_, fun either => ?_, freed⟩
    · obtain ⟨other, here⟩ := (some (· = .withdrawing)).mpr either
      exact withdrawing other here
    · obtain ⟨other, here⟩ := (some (· = .removing)).mpr either
      exact removing other here
  · rintro ⟨filed, withdrawing, removing, freed⟩
    constructor
    · rw [files]
      exact filed
    · exact fun other here => withdrawing ((some (· = .withdrawing)).mp ⟨other, here⟩)
    · simpa only [quiet] using fun other here => removing ((some (· = .removing)).mp ⟨other, here⟩)
    · simpa only [quiet, frees] using freed

section Steps
variable {pool next : Pool View Role} {thread : Nat} {v w : View} {role after : Role}

/-- Beside a thread with a copy of its own nothing is removed, and the free of an
object without pins is still under way. -/
theorem Fits.spilling (fits : Fits v role beside) (spills : role.spills = true) :
    ¬ beside (· = .removing) ∧ (v.pinned = false → role.frees = true ∨ beside (·.frees = true)) := by
  refine ⟨fun removed => ?_, fun unpinned => (fits.freed unpinned).resolve_right fun gone => ?_⟩
  · cases (fits.removing (.inr removed)).2.2.1.symm.trans spills
  · cases gone.2.2.2.1.symm.trans spills

theorem Fits.step (fits : Fits v role (pool.Beside thread)) (own : Own v role move w after)
    (alone : move = .forget → ¬ pool.Beside thread (·.spills = true)) :
    Fits w after (pool.Beside thread) := by
  cases own with
  | pass => exact fits
  | copy here held =>
    subst here
    -- what is held is not being withdrawn
    have unheld : ¬ v.held = false := by rw [held]; exact nofun
    refine ⟨fun file => ?_, fun either => ?_, fun either => ?_, fun unpinned => ?_⟩
    · exact (fits.filed file).imp_right fun other => .inr (other.resolve_left nofun)
    · exact fits.withdrawing (.inr (either.resolve_left nofun))
    · exact absurd (fits.removing (.inr (either.resolve_left nofun))).1 unheld
    · rcases fits.freed unpinned with other | gone
      · exact .inl (.inr (other.resolve_left nofun))
      · exact absurd gone.1 unheld
  | write here =>
    subst here
    obtain ⟨kept, freeing⟩ := fits.spilling rfl
    refine ⟨fun _ => .inr (.inl (.inl rfl)), fun either => ?_, fun either => ?_, fun unpinned => ?_⟩
    · exact fits.withdrawing (.inr (either.resolve_left nofun))
    · exact absurd (either.resolve_left nofun) kept
    · exact .inl (.inr ((freeing unpinned).resolve_left nofun))
  | giveUp here =>
    subst here
    obtain ⟨kept, freeing⟩ := fits.spilling rfl
    refine ⟨fun file => ?_, fun either => ?_, fun either => ?_, fun unpinned => ?_⟩
    · exact (fits.filed file).imp_right fun other => .inr (other.resolve_left nofun)
    · exact fits.withdrawing (.inr (either.resolve_left nofun))
    · exact absurd (either.resolve_left nofun) kept
    · exact .inl (.inr ((freeing unpinned).resolve_left nofun))
  | record here =>
    subst here
    obtain ⟨kept, freeing⟩ := fits.spilling rfl
    refine ⟨fun _ => .inl rfl, fun either => ?_, fun either => ?_, fun unpinned => ?_⟩
    · exact fits.withdrawing (.inr (either.resolve_left nofun))
    · exact absurd (either.resolve_left nofun) kept
    · exact .inl (.inr ((freeing unpinned).resolve_left nofun))
  | unpin here =>
    subst here
    refine ⟨fun file => ?_, fun either => ?_, fun either => ?_, fun _ => .inl (.inl rfl)⟩
    · exact (fits.filed file).imp_right fun other => .inr (other.resolve_left nofun)
    · exact fits.withdrawing (.inr (either.resolve_left nofun))
    · exact fits.removing (.inr (either.resolve_left nofun))
  | drop here =>
    subst here
    refine ⟨fits.filed, fun _ => rfl, fun either => ?_, fun unpinned => ?_⟩
    · exact ⟨rfl, (fits.removing either).2⟩
    · exact (fits.freed unpinned).imp_right fun gone => ⟨rfl, gone.2⟩
  | lose here =>
    subst here
    refine ⟨nofun, fits.withdrawing, fits.removing, fun unpinned => ?_⟩
    exact (fits.freed unpinned).imp_right fun gone => ⟨gone.1, gone.2.1, rfl, gone.2.2.2⟩
  | delete here =>
    subst here
    refine ⟨fun file => ?_, fun _ => rfl, fun either => ?_, fun _ => .inl (.inl rfl)⟩
    · exact (fits.filed file).imp_right fun other => .inr (other.resolve_left nofun)
    · exact ⟨rfl, (fits.removing (.inr (either.resolve_left nofun))).2⟩
  | forget here =>
    subst here
    have gone := fits.withdrawing (.inl rfl)
    exact ⟨fun _ => .inr (.inl (.inr rfl)), fun _ => gone, fun _ => ⟨gone, rfl, rfl, alone rfl⟩,
      fun _ => .inl (.inl rfl)⟩
  | unlisted here unlisted =>
    subst here
    have gone := fits.withdrawing (.inl rfl)
    have left : v.filed = true →
        pool.Beside thread fun other => other = .recording ∨ other = .removing := by
      intro file
      rcases fits.filed file with listed | other
      · cases unlisted.symm.trans listed
      · exact other.resolve_left nofun
    refine ⟨fun file => .inr (.inr (left file)), fun _ => gone, fun _ => ⟨gone, unlisted, rfl, alone rfl⟩,
      fun _ => ?_⟩
    by_cases file : v.filed = true
    · -- a file without a listing belongs to someone who is not done with it
      have busy : pool.Beside thread (·.spills = true) ∨ pool.Beside thread (·.frees = true) := by
        refine (left file).elim fun other either => ?_
        rcases either with rfl | rfl
        · exact .inl rfl
        · exact .inr rfl
      exact .inl (.inr (busy.resolve_left (alone rfl)))
    · exact .inr ⟨gone, unlisted, Bool.eq_false_iff.mpr file, rfl, alone rfl⟩
  | remove here =>
    subst here
    have gone := fits.removing (.inl rfl)
    refine ⟨nofun, fun _ => gone.1, fun _ => ⟨gone.1, gone.2.1, rfl, gone.2.2.2⟩, fun _ => ?_⟩
    exact .inr ⟨gone.1, gone.2.1, rfl, rfl, gone.2.2.2⟩

theorem sound_step (sound : Sound pool) (step : Guarded (Unopposed Lets) (Step Own) pool label next) :
    Sound next := by
  obtain ⟨unopposed, step⟩ := step
  cases step with
  | @act thread move w after own =>
    rw [sound_iff _ thread, Pool.beside_set, Pool.set_self]
    refine ((sound_iff pool thread).mp sound).step own ?_
    rintro rfl ⟨other, different, spills⟩
    cases (unopposed other different).symm.trans spills

end Steps

end Rayd.Core.Reclaim
