import Rayd.Lib.Transition
import Mathlib.Logic.Function.Basic

/-! Threads over shared state. Every step belongs to one thread and is labelled
with it. An assertion about a thread has to survive the steps of the others; a
relation between shared states says what those may do. -/
namespace Threads
open Transition Function
variable {S P A : Type}

structure Pool (S P : Type) where
  shared : S
  threads : Nat → P

def Pool.set (pool : Pool S P) (thread : Nat) (shared : S) (phase : P) : Pool S P :=
  ⟨shared, update pool.threads thread phase⟩

theorem Pool.set_self (pool : Pool S P) (thread : Nat) (shared : S) (phase : P) :
    (pool.set thread shared phase).threads thread = phase :=
  update_self _ _ _

theorem Pool.set_ne (pool : Pool S P) {thread other : Nat} (different : other ≠ thread) (shared : S)
    (phase : P) : (pool.set thread shared phase).threads other = pool.threads other :=
  update_of_ne different _ _

theorem Pool.set_set (pool : Pool S P) (thread : Nat) (first second : S) (one two : P) :
    (pool.set thread first one).set thread second two = pool.set thread second two :=
  congrArg (Pool.mk second) (update_idem _ _ _)

theorem Pool.set_cases (pool : Pool S P) (thread other : Nat) (shared : S) (phase : P) :
    other = thread ∧ (pool.set thread shared phase).threads other = phase ∨
      other ≠ thread ∧ (pool.set thread shared phase).threads other = pool.threads other := by
  by_cases same : other = thread
  · exact .inl ⟨same, same ▸ Pool.set_self ..⟩
  · exact .inr ⟨same, Pool.set_ne _ same ..⟩

/-- Some thread other than this one is so. -/
def Pool.Beside (pool : Pool S P) (thread : Nat) (f : P → Prop) : Prop :=
  ∃ other, other ≠ thread ∧ f (pool.threads other)

theorem Pool.exists_iff_beside (pool : Pool S P) (thread : Nat) (f : P → Prop) :
    (∃ other, f (pool.threads other)) ↔ f (pool.threads thread) ∨ pool.Beside thread f := by
  constructor
  · rintro ⟨other, holds⟩
    by_cases same : other = thread
    · exact .inl (same ▸ holds)
    · exact .inr ⟨other, same, holds⟩
  · rintro (holds | ⟨other, _, holds⟩)
    · exact ⟨thread, holds⟩
    · exact ⟨other, holds⟩

theorem Pool.beside_set (pool : Pool S P) (thread : Nat) (shared : S) (phase : P) :
    (pool.set thread shared phase).Beside thread = pool.Beside thread := by
  funext f
  apply propext
  constructor
  · rintro ⟨other, different, holds⟩
    exact ⟨other, different, Pool.set_ne pool different shared phase ▸ holds⟩
  · rintro ⟨other, different, holds⟩
    exact ⟨other, different, (Pool.set_ne pool different shared phase).symm ▸ holds⟩

theorem Pool.Beside.elim {pool : Pool S P} {f g h : P → Prop} (beside : pool.Beside thread f)
    (either : ∀ phase, f phase → g phase ∨ h phase) : pool.Beside thread g ∨ pool.Beside thread h := by
  obtain ⟨other, different, holds⟩ := beside
  exact (either _ holds).imp (fun first => ⟨other, different, first⟩) fun second => ⟨other, different, second⟩

inductive Step (own : S → P → A → S → P → Prop) (pool : Pool S P) : Nat × A → Pool S P → Prop where
  | act : own pool.shared (pool.threads thread) a shared phase →
      Step own pool (thread, a) (pool.set thread shared phase)

/-- A pool seen through a view of its shared state and of its threads' phases. -/
def Pool.map {T Q : Type} (f : S → T) (g : P → Q) (pool : Pool S P) : Pool T Q :=
  ⟨f pool.shared, fun thread => g (pool.threads thread)⟩

/-- By its own steps, the others standing still, the thread comes to the goal. -/
inductive Comes (own : S → P → A → S → P → Prop) (thread : Nat) (goal : Pool S P → Prop) : Pool S P → Prop where
  | here : goal pool → Comes own thread goal pool
  | step {pool : Pool S P} {phase following : P} {a : A} {shared : S} :
      pool.threads thread = phase → own pool.shared phase a shared following →
      Comes own thread goal (pool.set thread shared following) → Comes own thread goal pool

namespace Comes
variable {own : S → P → A → S → P → Prop} {goal : Pool S P → Prop} {pool : Pool S P}

theorem trans {further : Pool S P → Prop} (comes : Comes own thread goal pool)
    (goes : ∀ next, goal next → Comes own thread further next) : Comes own thread further pool := by
  induction comes with
  | here reached => exact goes _ reached
  | step here moved _ ih => exact .step here moved ih

theorem run (comes : Comes own thread goal pool) :
    ∃ path next, Run (Step own) pool path next ∧ (∀ label ∈ path, label.1 = thread) ∧ goal next := by
  induction comes with
  | here reached => exact ⟨[], _, .refl, fun _ member => absurd member List.not_mem_nil, reached⟩
  | @step pool phase following a shared here moved _ ih =>
    subst here
    obtain ⟨path, next, run, own, reached⟩ := ih
    have first : Run (Step _) pool ([] ++ [(thread, a)]) _ := Run.refl.next (.act moved)
    refine ⟨(thread, a) :: path, next, first.trans run, ?_, reached⟩
    intro label member
    rcases List.mem_cons.mp member with rfl | later
    · rfl
    · exact own label later

end Comes

/-- A proof outline: an invariant of the shared state, an assertion for every
phase, and a bound on what one step does to the shared state, under which the
assertions are stable. -/
structure Outline (own : S → P → A → S → P → Prop) where
  shared : S → Prop
  phase : S → P → Prop
  rely : S → S → Prop
  preserved : ∀ {s p a t q}, own s p a t q → shared s → phase s p → shared t ∧ phase t q ∧ rely s t
  stable : ∀ {s t p}, rely s t → phase s p → phase t p

namespace Outline
variable {own : S → P → A → S → P → Prop} {pool next : Pool S P}

def Holds (outline : Outline own) (pool : Pool S P) : Prop :=
  outline.shared pool.shared ∧ ∀ thread, outline.phase pool.shared (pool.threads thread)

theorem step (outline : Outline own) (holds : outline.Holds pool) (step : Step own pool label next) :
    outline.Holds next := by
  cases step with
  | @act thread a shared phase moved =>
    obtain ⟨invariant, asserted, rely⟩ := outline.preserved moved holds.1 (holds.2 thread)
    refine ⟨invariant, fun other => ?_⟩
    by_cases same : other = thread
    · rw [same, Pool.set_self]
      exact asserted
    · rw [Pool.set_ne _ same]
      exact outline.stable rely (holds.2 other)

theorem run (outline : Outline own) (run : Run (Step own) pool path next) (holds : outline.Holds pool) :
    outline.Holds next :=
  run.invariant (fun holds step => outline.step holds step) holds

end Outline

/-- The labels of one thread's own steps, newest last. -/
def ownLabels (thread : Nat) (path : List (Nat × A)) : List A :=
  path.filterMap fun label => if label.1 = thread then some label.2 else none

theorem ownLabels_append (thread : Nat) (path : List (Nat × A)) (label : Nat × A) :
    ownLabels thread (path ++ [label]) =
      ownLabels thread path ++ if label.1 = thread then [label.2] else [] := by
  rw [ownLabels, List.filterMap_append]
  congr 1
  split <;> simp [*]

theorem mem_ownLabels {thread : Nat} {path : List (Nat × A)} {a : A} :
    a ∈ ownLabels thread path ↔ (thread, a) ∈ path := by
  simp only [ownLabels, List.mem_filterMap]
  constructor
  · rintro ⟨⟨other, b⟩, member, same⟩
    split at same
    · rename_i here
      cases here
      cases same
      exact member
    · cases same
  · exact fun member => ⟨(thread, a), member, if_pos rfl⟩

/-- Following one thread through a run. What is said of it may depend on its own
steps so far, and must be stable under the steps of the others. -/
theorem Outline.follow {own : S → P → A → S → P → Prop} {pool next : Pool S P} (outline : Outline own)
    {T : List A → S → P → Prop}
    (extend : ∀ {labels s p a t q}, own s p a t q → outline.shared s → outline.phase s p →
      T labels s p → T (labels ++ [a]) t q)
    (stable : ∀ {labels s t p}, outline.rely s t → T labels s p → T labels t p)
    (run : Run (Step own) pool path next) (holds : outline.Holds pool)
    (initial : T [] pool.shared (pool.threads thread)) :
    T (ownLabels thread path) next.shared (next.threads thread) := by
  refine (run.traced (P := fun path pool => outline.Holds pool ∧
    T (ownLabels thread path) pool.shared (pool.threads thread)) ?_ ⟨holds, initial⟩).2
  rintro path before label after ⟨holds, followed⟩ step
  refine ⟨outline.step holds step, ?_⟩
  cases step with
  | @act actor a shared phase moved =>
    rw [ownLabels_append]
    by_cases same : actor = thread
    · subst same
      rw [if_pos rfl, Pool.set_self]
      exact extend moved holds.1 (holds.2 actor) followed
    · rw [if_neg same, List.append_nil, Pool.set_ne _ (Ne.symm same)]
      exact stable (outline.preserved moved holds.1 (holds.2 actor)).2.2 followed

/-- No other thread is in a phase that holds the step back. -/
def Unopposed (lets : S → P → P → A → Prop) (pool : Pool S P) (label : Nat × A) : Prop :=
  ∀ other, other ≠ label.1 → lets pool.shared (pool.threads other) (pool.threads label.1) label.2

/-- All threads but the first rest in one phase. -/
def Pool.Only (pool : Pool S P) (rest : P) : Prop := ∀ other, other ≠ 0 → pool.threads other = rest

theorem Pool.Only.set {pool : Pool S P} {rest : P} (only : pool.Only rest) (shared : S) (phase : P) :
    (pool.set 0 shared phase).Only rest :=
  fun other different => (Pool.set_ne _ different _ _).trans (only other different)

theorem Pool.Only.unopposed {lets : S → P → P → A → Prop} {pool : Pool S P} {rest : P} (only : pool.Only rest)
    (free : ∀ s p a, lets s rest p a) (a : A) : Unopposed lets pool (0, a) := by
  intro other different
  rw [only other different]
  exact free _ _ _

theorem Pool.Only.step {own : S → P → A → S → P → Prop} {ok : Pool S P → Nat × A → Prop} {pool : Pool S P}
    {rest : P} (only : pool.Only rest) (allowed : ok pool (0, a))
    (moved : own pool.shared (pool.threads 0) a s phase) :
    Guarded ok (Step own) pool (0, a) (pool.set 0 s phase) ∧ (pool.set 0 s phase).Only rest :=
  ⟨⟨allowed, .act moved⟩, only.set s phase⟩

theorem Pool.Only.next {own : S → P → A → S → P → Prop} {ok : Pool S P → Nat × A → Prop} {pool : Pool S P}
    {rest : P} (only : pool.Only rest) (run : Run (Guarded ok (Step own)) start path pool)
    (allowed : ok pool (0, a)) (moved : own pool.shared (pool.threads 0) a s phase) :
    Run (Guarded ok (Step own)) start (path ++ [(0, a)]) (pool.set 0 s phase) ∧
      (pool.set 0 s phase).Only rest :=
  ⟨run.next (only.step allowed moved).1, only.set s phase⟩

theorem Pool.Only.alone {own : S → P → A → S → P → Prop} {lets : S → P → P → A → Prop} {pool : Pool S P}
    {rest : P} (only : pool.Only rest) (free : ∀ s p a, lets s rest p a)
    (run : Run (Guarded (Unopposed lets) (Step own)) start path pool)
    (moved : own pool.shared (pool.threads 0) a s phase) :
    Run (Guarded (Unopposed lets) (Step own)) start (path ++ [(0, a)]) (pool.set 0 s phase) ∧
      (pool.set 0 s phase).Only rest :=
  only.next run (only.unopposed free a) moved

theorem Pool.Only.all {pool : Pool S P} {rest : P} {f : P → Prop} (only : pool.Only rest)
    (first : f (pool.threads 0)) (others : f rest) (thread : Nat) : f (pool.threads thread) := by
  by_cases same : thread = 0
  · rw [same]
    exact first
  · rw [only thread same]
    exact others

/-- A proof outline for unopposed steps: in place of a rely, every assertion is
held against every step of another thread that it lets through. -/
structure Assertions (own : S → P → A → S → P → Prop) (lets : S → P → P → A → Prop) where
  shared : S → Prop
  phase : S → P → Prop
  preserved : ∀ {s p a t q}, own s p a t q → shared s → phase s p → shared t ∧ phase t q
  undisturbed : ∀ {s p a t q r}, own s p a t q → shared s → phase s p → phase s r →
    lets s r p a → phase t r

namespace Assertions
variable {own : S → P → A → S → P → Prop} {lets : S → P → P → A → Prop} {pool next : Pool S P}

def Holds (assertions : Assertions own lets) (pool : Pool S P) : Prop :=
  assertions.shared pool.shared ∧ ∀ thread, assertions.phase pool.shared (pool.threads thread)

theorem step (assertions : Assertions own lets) (holds : assertions.Holds pool)
    (step : Guarded (Unopposed lets) (Step own) pool label next) : assertions.Holds next := by
  obtain ⟨unopposed, step⟩ := step
  cases step with
  | @act thread a shared phase moved =>
    obtain ⟨invariant, asserted⟩ := assertions.preserved moved holds.1 (holds.2 thread)
    refine ⟨invariant, fun other => ?_⟩
    by_cases same : other = thread
    · rw [same, Pool.set_self]
      exact asserted
    · rw [Pool.set_ne _ same]
      exact assertions.undisturbed moved holds.1 (holds.2 thread) (holds.2 other) (unopposed other same)

theorem run (assertions : Assertions own lets)
    (run : Run (Guarded (Unopposed lets) (Step own)) pool path next)
    (holds : assertions.Holds pool) : assertions.Holds next :=
  run.invariant (fun holds step => assertions.step holds step) holds

end Assertions

/-- Phases that two threads are never in at once. -/
structure Exclusion (own : S → P → A → S → P → Prop) (lets : S → P → P → A → Prop) where
  apart : P → P → Prop
  symm : ∀ {p q}, apart p q → apart q p
  kept : ∀ {s p a t q r}, own s p a t q → apart p r → lets s r p a → apart q r

/-- Steps that the others let through also find them in phases apart. -/
theorem Exclusion.run {own : S → P → A → S → P → Prop} {lets : S → P → P → A → Prop} {pool next : Pool S P}
    (exclusion : Exclusion own lets) (run : Run (Guarded (Unopposed lets) (Step own)) pool path next)
    (initial : ∀ one other, one ≠ other → exclusion.apart (pool.threads one) (pool.threads other)) :
    Run (Guarded (Unopposed fun s r p a => lets s r p a ∧ exclusion.apart p r) (Step own)) pool path
      next := by
  suffices both : Run (Guarded (Unopposed fun s r p a => lets s r p a ∧ exclusion.apart p r) (Step own))
      pool path next ∧ ∀ one other, one ≠ other → exclusion.apart (next.threads one) (next.threads other) from
    both.1
  induction run with
  | refl => exact ⟨.refl, initial⟩
  | next _ last ih =>
    obtain ⟨stronger, apart⟩ := ih
    obtain ⟨unopposed, step⟩ := last
    refine ⟨stronger.next ⟨fun other different => ⟨unopposed other different,
      apart _ other (Ne.symm different)⟩, step⟩, ?_⟩
    cases step with
    | @act thread a shared phase moved =>
      have moves : ∀ other, other ≠ thread → exclusion.apart phase (_) := fun other different =>
        exclusion.kept moved (apart thread other (Ne.symm different)) (unopposed other different)
      intro one other different
      by_cases first : one = thread
      · have second : other ≠ thread := fun same => different (first.trans same.symm)
        rw [first, Pool.set_self, Pool.set_ne _ second]
        exact moves other second
      · rw [Pool.set_ne _ first]
        by_cases second : other = thread
        · rw [second, Pool.set_self]
          exact exclusion.symm (moves one first)
        · rw [Pool.set_ne _ second]
          exact apart one other different

/-- What one step does about one lock: whether its thread is inside and whether the
lock is taken, before and after. -/
inductive LockMove (inside taken : Bool) (inside' taken' : Bool) : Prop where
  | keeps : inside' = inside → taken' = taken → LockMove inside taken inside' taken'
  | takes : inside = false → taken = false → inside' = true → taken' = true →
      LockMove inside taken inside' taken'
  | gives : inside = true → inside' = false → taken' = false → LockMove inside taken inside' taken'

/-- Locks that threads take and give back, by index. -/
structure Locks (own : S → P → A → S → P → Prop) (I : Type) where
  taken : S → I → Bool
  inside : P → I → Bool
  moved : ∀ {s p a t q}, own s p a t q → ∀ i, LockMove (inside p i) (taken s i) (inside q i) (taken t i)

namespace Locks
variable {own : S → P → A → S → P → Prop} {I : Type} {pool next : Pool S P}

/-- A lock that is taken has exactly one thread inside, a free one has none. -/
inductive Sole (locks : Locks own I) (pool : Pool S P) (i : I) : Prop where
  | free : locks.taken pool.shared i = false → (∀ thread, locks.inside (pool.threads thread) i = false) →
      Sole locks pool i
  | taken (holder : Nat) : locks.taken pool.shared i = true → locks.inside (pool.threads holder) i = true →
      (∀ other, other ≠ holder → locks.inside (pool.threads other) i = false) → Sole locks pool i

/-- The one thread is outside the locks of the other, and these are taken. -/
def Apart (locks : Locks own I) (s : S) (p q : P) : Prop :=
  ∀ i, locks.inside q i = true → locks.inside p i = false ∧ locks.taken s i = true

theorem Sole.apart {locks : Locks own I} (sole : ∀ i, locks.Sole pool i) (different : other ≠ thread) :
    locks.Apart pool.shared (pool.threads thread) (pool.threads other) := by
  intro i theirs
  cases sole i with
  | free _ outside => cases (outside other).symm.trans theirs
  | taken holder closed _ alone =>
    by_cases same : other = holder
    · subst same
      exact ⟨alone thread (Ne.symm different), closed⟩
    · cases (alone other same).symm.trans theirs

theorem sole_step (locks : Locks own I) (sole : ∀ i, locks.Sole pool i) (step : Step own pool label next) :
    ∀ i, locks.Sole next i := by
  cases step with
  | @act thread a shared phase moved =>
    intro i
    have others : ∀ other, other ≠ thread → locks.inside ((pool.set thread shared phase).threads other) i =
        locks.inside (pool.threads other) i := by
      intro other different
      rw [Pool.set_ne _ different]
    have mine : locks.inside ((pool.set thread shared phase).threads thread) i = locks.inside phase i := by
      rw [Pool.set_self]
    cases locks.moved moved i with
    | keeps here flag =>
      have same : ∀ other, locks.inside ((pool.set thread shared phase).threads other) i =
          locks.inside (pool.threads other) i := by
        intro other
        by_cases own : other = thread
        · rw [own, mine, here]
        · exact others other own
      cases sole i with
      | free unset alone => exact .free (flag.trans unset) fun other => (same other).trans (alone other)
      | taken holder closed holds alone =>
        exact .taken holder (flag.trans closed) ((same holder).trans holds)
          fun other different => (same other).trans (alone other different)
    | takes _ unset inside closed =>
      cases sole i with
      | free _ alone =>
        exact .taken thread closed (mine.trans inside) fun other different =>
          (others other different).trans (alone other)
      | taken _ set => cases unset.symm.trans set
    | gives inside outside unset =>
      refine .free unset fun other => ?_
      by_cases own : other = thread
      · rw [own, mine, outside]
      · refine (others other own).trans (Bool.eq_false_iff.mpr fun theirs => ?_)
        cases inside.symm.trans (Sole.apart sole own i theirs).1

theorem sole_run (locks : Locks own I) (run : Run (Step own) pool path next) (sole : ∀ i, locks.Sole pool i) :
    ∀ i, locks.Sole next i :=
  run.invariant (fun sole step => locks.sole_step sole step) sole

/-- The thread that takes a step is outside the locks of every other. -/
theorem run_apart (locks : Locks own I) (run : Run (Step own) pool path next)
    (sole : ∀ i, locks.Sole pool i) :
    Run (Guarded (Unopposed fun s r p _ => locks.Apart s p r) (Step own)) pool path next :=
  run.guarded fun before _ _ different => Sole.apart (locks.sole_run before sole) different

end Locks

end Threads
