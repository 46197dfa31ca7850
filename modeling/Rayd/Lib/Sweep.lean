import Mathlib.Algebra.GroupWithZero.Nat
import Mathlib.Algebra.Order.BigOperators.Group.List
import Mathlib.Algebra.Order.Group.Nat

/-! Sweeps. A sweep takes the entries of a list one after the other until an estimate of
what they weigh together is at or below a target; each entry taken lowers the estimate by
its weight, and not below zero. -/
namespace Sweep
variable {E : Type} (weight : E → Nat) (target : Nat)

def taken : Nat → List E → List E
  | _, [] => []
  | current, entry :: rest =>
    if current ≤ target then [] else entry :: taken (current - weight entry) rest

def left : Nat → List E → List E
  | _, [] => []
  | current, entry :: rest =>
    if current ≤ target then entry :: rest else left (current - weight entry) rest

theorem taken_low (low : current ≤ target) (entries : List E) : taken weight target current entries = [] := by
  cases entries with
  | nil => rfl
  | cons entry rest => exact if_pos low

theorem taken_append_left (current : Nat) (entries : List E) :
    taken weight target current entries ++ left weight target current entries = entries := by
  induction entries generalizing current with
  | nil => rfl
  | cons entry rest ih =>
    simp only [taken, left]
    split
    · rfl
    · rw [List.cons_append, ih]

theorem mem_of_mem_taken {weight : E → Nat} {target current : Nat} {entries : List E} {entry : E}
    (member : entry ∈ taken weight target current entries) : entry ∈ entries := by
  rw [← taken_append_left weight target current entries]
  exact List.mem_append_left _ member

theorem taken_congr {weight weight' : E → Nat} {target current : Nat} {entries : List E}
    (same : ∀ entry ∈ taken weight target current entries, weight' entry = weight entry) :
    taken weight' target current entries = taken weight target current entries := by
  induction entries generalizing current with
  | nil => rfl
  | cons entry rest ih =>
    rw [taken] at same
    rw [taken, taken]
    split
    · rfl
    · rename_i high
      obtain ⟨here, others⟩ := List.forall_mem_cons.mp (if_neg high ▸ same)
      rw [here, ih others]

theorem left_le {current : Nat} {entries : List E} (estimated : (entries.map weight).sum ≤ current) :
    ((left weight target current entries).map weight).sum ≤ target := by
  induction entries generalizing current with
  | nil => exact Nat.zero_le _
  | cons entry rest ih =>
    rw [List.map_cons, List.sum_cons] at estimated
    rw [left]
    split
    · rename_i low
      rw [List.map_cons, List.sum_cons]
      exact estimated.trans low
    · apply ih
      omega

/-- When the entries taken are gone, those that stay weigh no more than the target. -/
theorem kept_le (current : Nat) {entries : List E} {stays : E → Bool}
    (estimated : (entries.map weight).sum ≤ current)
    (gone : ∀ entry ∈ taken weight target current entries, stays entry = false) :
    ((entries.filter stays).map weight).sum ≤ target := by
  have remain : entries.filter stays = (left weight target current entries).filter stays := by
    conv_lhs => rw [← taken_append_left weight target current entries]
    have none : (taken weight target current entries).filter stays = [] := by
      rw [List.filter_eq_nil_iff]
      intro entry member
      rw [gone entry member]
      exact Bool.false_ne_true
    rw [List.filter_append, none, List.nil_append]
  rw [remain]
  calc (((left weight target current entries).filter stays).map weight).sum
      ≤ ((left weight target current entries).map weight).sum :=
        (List.filter_sublist.map weight).sum_le_sum fun _ _ => Nat.zero_le _
    _ ≤ target := left_le weight target estimated

end Sweep
