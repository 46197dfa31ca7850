import Rayd.Lib.Threads

/-! Threads that write one table and owe the same writes to a second one. Where no
two threads owe different values for a key, the tables agree on every key nobody owes.
A concrete system comes in through a view of its states and phases. -/
namespace Deferred
open Threads Transition
variable {S P A K V : Type} [DecidableEq K]

/-- What a step does to the two tables and to the writes its thread owes. -/
inductive Effect (first second : S → K → V) (owed : P → List (K × V)) (s : S) (p : P) (t : S) (q : P) :
    Prop where
  | record : owed p = [] → second t = second s →
      (∀ k, k ∉ (owed q).map Prod.fst → first t k = first s k) → (∀ w ∈ owed q, first t w.1 = w.2) →
      Effect first second owed s p t q
  | deliver : first t = first s → owed p = w :: owed q →
      second t = Function.update (second s) w.1 w.2 → Effect first second owed s p t q
  | quiet : first t = first s → second t = second s → owed q = owed p →
      Effect first second owed s p t q

structure View (own : S → P → A → S → P → Prop) (K V : Type) [DecidableEq K] where
  /-- What the shared state keeps besides. -/
  sound : S → Prop
  first : S → K → V
  second : S → K → V
  owed : P → List (K × V)
  /-- What a step is going to write in the first table. -/
  writes : S → P → A → K × V → Prop
  preserved : ∀ {s p a t q}, own s p a t q → sound s → sound t
  effect : ∀ {s p a t q}, own s p a t q → sound s → Effect first second owed s p t q
  announced : ∀ {s p a t q}, own s p a t q → sound s → ∀ w ∈ owed q, w ∈ owed p ∨ writes s p a w

namespace View
variable {own : S → P → A → S → P → Prop} {pool next : Pool S P}

def Owes (view : View own K V) (phase : P) (key : K) : Prop := key ∈ (view.owed phase).map Prod.fst

/-- A thread holds back the steps that write another value for a key it owes. -/
def Lets (view : View own K V) (s : S) (other phase : P) (a : A) : Prop :=
  ∀ v, view.writes s phase a v → ∀ w ∈ view.owed other, w.1 = v.1 → w.2 = v.2

def assertions (view : View own K V) : Assertions own view.Lets where
  shared := view.sound
  phase s p := ∀ w ∈ view.owed p, view.first s w.1 = w.2
  preserved {s p a t q} moved sound recorded := by
    refine ⟨view.preserved moved sound, ?_⟩
    cases view.effect moved sound with
    | record _ _ _ written => exact written
    | deliver same split _ =>
      intro w member
      rw [same]
      exact recorded w (split ▸ List.mem_cons_of_mem _ member)
    | quiet same _ kept =>
      rw [kept, same]
      exact recorded
  undisturbed {s p a t q r} moved sound _ recorded lets := by
    intro w member
    cases view.effect moved sound with
    | record none _ others written =>
      by_cases new : w.1 ∈ (view.owed q).map Prod.fst
      · obtain ⟨v, new, same⟩ := List.mem_map.mp new
        rcases view.announced moved sound v new with old | writes
        · rw [none] at old
          cases old
        · rw [← same, written v new, lets v writes w member same.symm]
      · exact (others w.1 new).trans (recorded w member)
    | deliver same _ _ => exact (congrFun same w.1).trans (recorded w member)
    | quiet same _ _ => exact (congrFun same w.1).trans (recorded w member)

def Settled (view : View own K V) (pool : Pool S P) (key : K) : Prop :=
  view.first pool.shared key = view.second pool.shared key ∨
    ∃ thread, view.Owes (pool.threads thread) key

/-- Whoever owes the key after the step also did before it, or has just written it;
a delivered key agrees. -/
theorem settled_step (view : View own K V) (holds : view.assertions.Holds pool)
    (settled : ∀ key, view.Settled pool key) (step : Step own pool label next) (key : K) :
    view.Settled next key := by
  cases step with
  | @act thread a shared phase moved =>
    have others : ∀ other, other ≠ thread → view.Owes (pool.threads other) key →
        view.Settled (pool.set thread shared phase) key := fun other different owes =>
      .inr ⟨other, by rwa [Pool.set_ne _ different]⟩
    cases view.effect moved holds.1 with
    | record none second kept _ =>
      by_cases written : view.Owes phase key
      · exact .inr ⟨thread, by rwa [Pool.set_self]⟩
      · rcases settled key with agree | ⟨other, owes⟩
        · exact .inl ((kept key written).trans (agree.trans (congrFun second key).symm))
        · refine others other ?_ owes
          rintro rfl
          simp only [Owes, none, List.map_nil, List.not_mem_nil] at owes
    | @deliver w first split second =>
      by_cases here : key = w.1
      · left
        have recorded := holds.2 thread w (split ▸ List.mem_cons_self)
        simp only [Pool.set, first, second, here, Function.update_self]
        exact recorded
      · rcases settled key with agree | ⟨other, owes⟩
        · left
          simp only [Pool.set, first, second, Function.update_of_ne here]
          exact agree
        · by_cases same : other = thread
          · subst same
            refine .inr ⟨other, ?_⟩
            rw [Pool.set_self]
            simpa only [Owes, split, List.map_cons, List.mem_cons, here, false_or] using owes
          · exact others other same owes
    | quiet first second kept =>
      rcases settled key with agree | ⟨other, owes⟩
      · left
        simp only [Pool.set, first, second]
        exact agree
      · by_cases same : other = thread
        · subst same
          exact .inr ⟨other, by rwa [Pool.set_self, Owes, kept]⟩
        · exact others other same owes

theorem settled_run (view : View own K V)
    (run : Run (Guarded (Unopposed view.Lets) (Step own)) pool path next) (sound : view.sound pool.shared)
    (agree : ∀ key, view.first pool.shared key = view.second pool.shared key)
    (idle : ∀ thread, view.owed (pool.threads thread) = []) (key : K) : view.Settled next key := by
  have holds : view.assertions.Holds pool := ⟨sound, fun thread w member => by simp [idle] at member⟩
  refine (run.invariant (P := fun pool => view.assertions.Holds pool ∧ ∀ key, view.Settled pool key)
    (fun before step => ⟨view.assertions.step before.1 step,
      view.settled_step before.1 before.2 step.2⟩) ⟨holds, fun key => .inl (agree key)⟩).2 key

end View
end Deferred
