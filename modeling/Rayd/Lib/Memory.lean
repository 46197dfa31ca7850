import Mathlib.Data.List.Basic

/-! Flat byte memory. Only what a slot-based store needs: a write is read back,
and a write outside a region leaves the region as it was. -/
namespace Memory

abbrev Bytes := List UInt8

/-- A half-open address range. -/
structure Region where
  offset : Nat
  size : Nat
  deriving DecidableEq, Repr

namespace Region

def stop (region : Region) : Nat := region.offset + region.size

def Apart (a b : Region) : Prop := a.stop ≤ b.offset ∨ b.stop ≤ a.offset

theorem Apart.symm (apart : Apart a b) : Apart b a := Or.symm apart

end Region

def write (memory : Nat → UInt8) (offset : Nat) (bytes : Bytes) : Nat → UInt8 :=
  fun address => if offset ≤ address then (bytes[address - offset]?).getD (memory address)
    else memory address

def read (memory : Nat → UInt8) (region : Region) : Bytes :=
  (List.range region.size).map fun i => memory (region.offset + i)

theorem read_write_same (memory : Nat → UInt8) (offset : Nat) (bytes : Bytes) :
    read (write memory offset bytes) ⟨offset, bytes.length⟩ = bytes := by
  apply List.ext_getElem
  · simp [read]
  · intro i _ inside
    simp [read, write, inside]

theorem write_outside (memory : Nat → UInt8) (offset : Nat) (bytes : Bytes) (address : Nat)
    (outside : address < offset ∨ offset + bytes.length ≤ address) :
    write memory offset bytes address = memory address := by
  rcases outside with below | above
  · simp only [write, if_neg (Nat.not_le.mpr below)]
  · have past : bytes.length ≤ address - offset := by omega
    simp [write, List.getElem?_eq_none past]

theorem read_write_apart (memory : Nat → UInt8) (offset : Nat) (bytes : Bytes) (region : Region)
    (apart : region.Apart ⟨offset, bytes.length⟩) :
    read (write memory offset bytes) region = read memory region := by
  apply List.map_congr_left
  intro i member
  have inside := List.mem_range.mp member
  apply write_outside
  simp only [Region.Apart, Region.stop] at apart
  omega

end Memory
