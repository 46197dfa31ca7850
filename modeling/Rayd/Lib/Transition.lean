import Mathlib.Data.List.Basic

/-! Labelled transition systems. A run keeps its labels in the order they were
taken, newest last, so a property may speak of what happened before what. -/
namespace Transition
variable {S A : Type}

inductive Run (step : S → A → S → Prop) (s : S) : List A → S → Prop where
  | refl : Run step s [] s
  | next : Run step s path t → step t a u → Run step s (path ++ [a]) u

/-- Steps that also meet a condition on their label and the state before them. -/
def Guarded (ok : S → A → Prop) (step : S → A → S → Prop) (s : S) (a : A) (t : S) : Prop :=
  ok s a ∧ step s a t

/-- Steps that write down their labels, for conditions that read what came before. -/
def Recorded (step : S → A → S → Prop) (s : List A × S) (a : A) (t : List A × S) : Prop :=
  t.1 = s.1 ++ [a] ∧ step s.2 a t.2

namespace Run
variable {step : S → A → S → Prop}

theorem trans (first : Run step s path t) (second : Run step t more u) :
    Run step s (path ++ more) u := by
  induction second with
  | refl => simpa only [List.append_nil] using first
  | next _ last ih => simpa only [List.append_assoc] using Run.next ih last

theorem head (first : step s a t) (rest : Run step t path u) : Run step s (a :: path) u :=
  (Run.refl.next first).trans rest

theorem mono {step' : S → A → S → Prop} (includes : ∀ {t a u}, step t a u → step' t a u)
    (run : Run step s path t) : Run step' s path t := by
  induction run with
  | refl => exact .refl
  | next _ last ih => exact .next ih (includes last)

theorem record {ok : List A × S → A → Prop} {s t : List A × S}
    (run : Run (Guarded ok (Recorded step)) s path t) (allowed : ok t a) (last : step t.2 a u) :
    Run (Guarded ok (Recorded step)) s (path ++ [a]) (t.1 ++ [a], u) :=
  run.next ⟨allowed, rfl, last⟩

theorem unrecord {ok : List A × S → A → Prop} {s t : List A × S}
    (run : Run (Guarded ok (Recorded step)) s path t) : Run step s.2 path t.2 := by
  induction run with
  | refl => exact .refl
  | next _ last ih => exact ih.next last.2.2

theorem invariant {P : S → Prop} (preserves : ∀ {t a u}, P t → step t a u → P u)
    (run : Run step s path t) (initial : P s) : P t := by
  induction run with
  | refl => exact initial
  | next _ last ih => exact preserves ih last

theorem guarded {ok : S → A → Prop} (run : Run step s path t)
    (holds : ∀ {path t}, Run step s path t → ∀ a, ok t a) : Run (Guarded ok step) s path t := by
  induction run with
  | refl => exact .refl
  | next before last ih => exact ih.next ⟨holds before _, last⟩

theorem along {P : S → Prop} (run : Run step s path t)
    (preserves : ∀ {t a u}, a ∈ path → P t → step t a u → P u) (initial : P s) : P t := by
  induction run with
  | refl => exact initial
  | next _ last ih =>
    exact preserves (List.mem_append_right _ (List.mem_singleton.mpr rfl))
      (ih fun member => preserves (List.mem_append_left _ member)) last

theorem split (run : Run step s (before ++ a :: after) t) :
    ∃ u v, Run step s before u ∧ step u a v ∧ Run step v after t := by
  generalize whole : before ++ a :: after = path at run
  induction run generalizing after with
  | refl => simp at whole
  | @next path u b t run last ih =>
    rcases List.eq_nil_or_concat after with rfl | ⟨rest, newest, rfl⟩
    · obtain ⟨rfl, same⟩ := List.append_inj' whole rfl
      cases same
      exact ⟨u, t, run, last, .refl⟩
    · rw [List.concat_eq_append, ← List.cons_append, ← List.append_assoc] at whole
      obtain ⟨front, same⟩ := List.append_inj' whole rfl
      cases same
      obtain ⟨v, w, first, here, second⟩ := ih front
      exact ⟨v, w, first, here, by rw [List.concat_eq_append]; exact second.next last⟩

/-- Invariants that also read the labels taken so far. -/
theorem traced {P : List A → S → Prop}
    (preserves : ∀ {path t a u}, P path t → step t a u → P (path ++ [a]) u)
    (run : Run step s path t) (initial : P [] s) : P path t := by
  induction run with
  | refl => exact initial
  | next _ last ih => exact preserves ih last
end Run

section Folds
variable {f : S → A → S} {I P : S → Prop} {C : S → A → Prop}

/-- A property that a step keeps exactly under a condition holds all along exactly if every
step meets it. -/
theorem foldl_along_iff (kept : ∀ s a, I s → I (f s a)) (step : ∀ s a, I s → P s → (P (f s a) ↔ C s a))
    (path : List A) (invariant : I s) (initial : P s) :
    (∀ earlier, earlier <+: path → P (earlier.foldl f s)) ↔
      ∀ before a after, path = before ++ a :: after → C (before.foldl f s) a := by
  induction path generalizing s with
  | nil =>
    refine iff_of_true (fun earlier front => ?_) fun before a after whole => by simp at whole
    rw [List.prefix_nil.mp front]
    exact initial
  | cons a path ih =>
    have later := ih (kept s a invariant)
    constructor
    · intro along before b after whole
      have first : P (f s a) := along [a] (List.prefix_append [a] path)
      cases before with
      | nil =>
        cases whole
        exact (step s a invariant initial).mp first
      | cons c before =>
        cases whole
        refine (later first).mp (fun earlier front => ?_) before b after rfl
        exact along (a :: earlier) (List.cons_prefix_cons.mpr ⟨rfl, front⟩)
    · intro meets earlier front
      have first : P (f s a) := (step s a invariant initial).mpr (meets [] a path rfl)
      cases earlier with
      | nil => exact initial
      | cons c earlier =>
        obtain ⟨rfl, rest⟩ := List.cons_prefix_cons.mp front
        refine (later first).mpr (fun before b after whole => ?_) earlier rest
        exact meets (c :: before) b after (congrArg (c :: ·) whole)

end Folds

end Transition
