import Mathlib.Algebra.BigOperators.Group.Multiset.Basic
import Mathlib.Algebra.Order.Group.Multiset

/-! What a list of slots holds together. Changing one slot exchanges what that
slot held, so a conservation law over all slots follows from the one that moved. -/
namespace Slots
variable {A T : Type}

def total (held : A → Multiset T) (slots : List A) : Multiset T := (slots.map held).sum

theorem total_append (held : A → Multiset T) (slots more : List A) :
    total held (slots ++ more) = total held slots + total held more := by
  simp only [total, List.map_append, List.sum_append]

@[simp] theorem total_singleton (held : A → Multiset T) (slot : A) :
    total held [slot] = held slot := by
  simp only [total, List.map_singleton, List.sum_singleton]

theorem total_set (held : A → Multiset T) {slots : List A} {index : Nat} {old : A}
    (found : slots[index]? = some old) (new : A) :
    total held (slots.set index new) + held old = total held slots + held new := by
  induction slots generalizing index with
  | nil => cases found
  | cons slot rest ih =>
    cases index with
    | zero =>
      cases found
      simp only [total, List.set_cons_zero, List.map_cons, List.sum_cons]
      ac_rfl
    | succ index =>
      have rest := @ih index found
      simp only [total, List.set_cons_succ, List.map_cons, List.sum_cons] at rest ⊢
      rw [add_assoc, rest, add_assoc]

theorem total_le {count held : A → Multiset T} (le : ∀ slot, count slot ≤ held slot) (slots : List A) :
    total count slots ≤ total held slots := by
  induction slots with
  | nil => exact le_rfl
  | cons slot rest ih =>
    simp only [total, List.map_cons, List.sum_cons] at ih ⊢
    exact add_le_add (le slot) ih

theorem total_set_same (held : A → Multiset T) {slots : List A} {index : Nat} {old new : A}
    (found : slots[index]? = some old) (same : held new = held old) :
    total held (slots.set index new) = total held slots := by
  have moved := total_set held found new
  rw [same] at moved
  exact add_right_cancel moved

end Slots
