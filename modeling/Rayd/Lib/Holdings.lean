import Rayd.Lib.Memory
import Mathlib.Logic.Function.Basic

/-! Regions below a bump pointer, each held by one owner. Owners may be handed
space above the pointer, give regions up, and pass all they hold to one another. -/
namespace Holdings
open Memory Function
variable {O : Type} {held : O → List Region}

structure Separated (held : O → List Region) (bump : Nat) : Prop where
  below : ∀ owner, ∀ region ∈ held owner, region.stop ≤ bump
  within : ∀ owner, (held owner).Pairwise Region.Apart
  across : ∀ a b, a ≠ b → ∀ region ∈ held a, ∀ other ∈ held b, region.Apart other

namespace Separated

theorem shrink {kept : O → List Region} (before : Separated held bump)
    (fewer : ∀ owner, (kept owner).Sublist (held owner)) : Separated kept bump where
  below owner region member := before.below owner region ((fewer owner).subset member)
  within owner := (before.within owner).sublist (fewer owner)
  across a b different region member other member' :=
    before.across a b different region ((fewer a).subset member) other ((fewer b).subset member')

theorem reindex {P : Type} (before : Separated held bump) {origin : P → O}
    (injective : Injective origin) : Separated (held ∘ origin) bump where
  below owner := before.below (origin owner)
  within owner := before.within (origin owner)
  across a b different := before.across (origin a) (origin b) fun same => different (injective same)

/-- One owner is handed a region above the old pointer and below the new one. -/
theorem grow [DecidableEq O] (before : Separated held bump) (owner : O) (fresh : Region)
    (above : bump ≤ fresh.offset) (inside : fresh.stop ≤ bump') :
    Separated (update held owner (held owner ++ [fresh])) bump' := by
  have moved : bump ≤ bump' := by
    simp only [Region.stop] at inside
    omega
  -- a region held now was held before by the same owner, or is the new one
  have origin : ∀ o, ∀ region ∈ update held owner (held owner ++ [fresh]) o,
      region ∈ held o ∨ o = owner ∧ region = fresh := by
    intro o region member
    by_cases same : o = owner
    · subst o
      rw [update_self] at member
      exact (List.mem_append.mp member).imp_right fun new => ⟨rfl, List.mem_singleton.mp new⟩
    · rw [update_of_ne same] at member
      exact .inl member
  have apart : ∀ o, ∀ region ∈ held o, region.Apart fresh := fun o region member =>
    .inl (Nat.le_trans (before.below o region member) above)
  constructor
  · intro o region member
    rcases origin o region member with old | ⟨_, rfl⟩
    · exact Nat.le_trans (before.below o region old) moved
    · exact inside
  · intro o
    by_cases same : o = owner
    · subst o
      rw [update_self, List.pairwise_append]
      refine ⟨before.within owner, List.pairwise_singleton _ _, ?_⟩
      intro region member other new
      rw [List.mem_singleton.mp new]
      exact apart owner region member
    · rw [update_of_ne same]
      exact before.within o
  · intro a b different region member other member'
    rcases origin a region member with old | ⟨mine, rfl⟩ <;>
      rcases origin b other member' with old' | ⟨mine', rfl⟩
    · exact before.across a b different region old other old'
    · exact apart a region old
    · exact (apart b other old').symm
    · exact absurd (mine.trans mine'.symm) different

end Separated
end Holdings
