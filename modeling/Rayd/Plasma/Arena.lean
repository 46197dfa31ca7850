import Rayd.Lib.Memory
import Mathlib.Algebra.Group.Nat.Defs

/-! The bump arena of the plasma server. Offsets and sizes are u64 values held
as naturals; `create` refuses a capacity that does not fit an i64, so the bump
pointer never comes near the word size. Space is never given back. -/
namespace Rayd.Plasma
open Memory

def objectAlign : Nat := 16

inductive ArenaError where
  /-- The capacity does not fit the file-offset type. -/
  | invalidCapacity
  | outOfMemory (requested remaining : Nat)
  deriving DecidableEq, Repr

def ArenaError.toString : ArenaError → String
  | .invalidCapacity => "arena syscall: EINVAL: Invalid argument"
  | .outOfMemory requested remaining =>
    s!"arena out of memory: requested {requested} bytes, only {remaining} remaining"

structure Arena where
  id : Nat
  capacity : Nat
  bump : Nat
  capacity_lt : capacity < 2 ^ 63
  bump_le : bump ≤ capacity

namespace Arena

def create (id capacity : Nat) : Except ArenaError Arena :=
  if fits : capacity < 2 ^ 63 then .ok ⟨id, capacity, 0, fits, Nat.zero_le _⟩
  else .error .invalidCapacity

def used (arena : Arena) : Nat := arena.bump

def remaining (arena : Arena) : Nat := arena.capacity - arena.used

/-- `(bump + OBJECT_ALIGN - 1) & !(OBJECT_ALIGN - 1)` on a 64-bit word. -/
def aligned (bump : Nat) : Nat :=
  let padded := (bump + objectAlign - 1) % 2 ^ 64
  padded - padded % objectAlign

def alloc (arena : Arena) (size : Nat) : Except ArenaError (Nat × Arena) :=
  let start := aligned arena.bump
  if start + size < 2 ^ 64 then
    if inside : start + size ≤ arena.capacity then
      .ok (start, { arena with bump := start + size, bump_le := inside })
    else .error (.outOfMemory size (arena.capacity - arena.bump))
  else .error (.outOfMemory size 0)

theorem bump_le_aligned (arena : Arena) : arena.bump ≤ aligned arena.bump := by
  have below := arena.bump_le
  have small := arena.capacity_lt
  simp only [aligned, objectAlign]
  omega

/-- The same on machine words, as the source writes it. -/
def alignedWord (bump : UInt64) : UInt64 := (bump + 16 - 1) &&& ~~~(16 - 1)

theorem and_clear_low {x : Nat} (word : x < 2 ^ 64) : x &&& (2 ^ 64 - 16) = x - x % 16 := by
  have shifted : x - x % 16 = (x >>> 4) <<< 4 := by
    rw [Nat.shiftLeft_eq, Nat.shiftRight_eq_div_pow]
    omega
  have mask : 2 ^ 64 - 16 = (2 ^ 60 - 1) <<< 4 := by decide
  rw [shifted, mask]
  apply Nat.eq_of_testBit_eq
  intro i
  simp only [Nat.testBit_and, Nat.testBit_shiftLeft, Nat.testBit_two_pow_sub_one,
    Nat.testBit_shiftRight]
  by_cases low : i < 4
  · simp [Nat.not_le.mpr low]
  · by_cases high : i < 64
    · have inside : i - 4 < 60 := by omega
      simp [Nat.le_of_not_lt low, inside, Nat.add_sub_cancel' (Nat.le_of_not_lt low)]
    · have zero : x.testBit i = false :=
        Nat.testBit_lt_two_pow (Nat.lt_of_lt_of_le word (Nat.pow_le_pow_right (by decide) (Nat.le_of_not_lt high)))
      simp [zero, Nat.add_sub_cancel' (Nat.le_of_not_lt low)]

theorem alignedWord_toNat (bump : UInt64) : (alignedWord bump).toNat = aligned bump.toNat := by
  have padded : (bump + 16 - 1).toNat = (bump.toNat + objectAlign - 1) % 2 ^ 64 := by
    have bound := bump.toNat_lt
    simp only [UInt64.toNat_sub, UInt64.toNat_add, objectAlign, UInt64.reduceToNat]
    omega
  rw [alignedWord, UInt64.toNat_and, padded]
  exact and_clear_low (Nat.mod_lt _ (by decide))

theorem aligned_dvd (bump : Nat) : objectAlign ∣ aligned bump := Nat.dvd_sub_mod _

/-- Rounding up never wraps: the pointer stays below the capacity. -/
theorem aligned_eq (arena : Arena) :
    arena.bump + objectAlign < 2 ^ 64 ∧
      aligned arena.bump = (arena.bump + (objectAlign - 1)) / objectAlign * objectAlign := by
  have below := arena.bump_le
  have small := arena.capacity_lt
  simp only [aligned, objectAlign]
  omega

/-- A successful allocation starts at or above the old bump pointer, ends at the
new one, and changes nothing else of the arena. -/
theorem alloc_ok {arena after : Arena} (allocated : arena.alloc size = .ok (start, after)) :
    start = aligned arena.bump ∧ arena.bump ≤ start ∧ after.bump = start + size ∧
      after.id = arena.id ∧ after.capacity = arena.capacity := by
  simp only [alloc] at allocated
  split at allocated
  · split at allocated
    · cases allocated
      exact ⟨rfl, bump_le_aligned arena, rfl, rfl, rfl⟩
    · cases allocated
  · cases allocated

theorem alloc_error {arena : Arena} {failure : ArenaError} (refused : arena.alloc size = .error failure) :
    ∃ remaining ≤ arena.capacity, failure = .outOfMemory size remaining := by
  simp only [alloc] at refused
  split at refused
  · split at refused
    · cases refused
    · cases refused
      exact ⟨_, Nat.sub_le .., rfl⟩
  · cases refused
    exact ⟨0, Nat.zero_le _, rfl⟩

theorem alloc_bump_le {arena after : Arena} (allocated : arena.alloc size = .ok (start, after)) :
    arena.bump ≤ after.bump := by
  obtain ⟨_, above, moved, _⟩ := alloc_ok allocated
  omega

/-- One page, nothing allocated. -/
def onePage : Arena := ⟨0, 4096, 0, by decide, by decide⟩

/-- 512 bytes, allocated up to here. -/
def small (bump : Nat) (inside : bump ≤ 512) : Arena := ⟨0, 512, bump, by decide, inside⟩

def unused : Arena := .small 0 (Nat.zero_le _)

end Arena
end Rayd.Plasma
