import Rayd.Lib.LittleEndian

/-! Bytes on their way between the two ends of a stream: in order, in pieces of
any size. An empty piece is a moment at which nothing has come in. A read takes
from the first piece that has something; reading a fixed number repeats that until
the number is reached. Both fail only at the end of the stream. A frame is a body
behind its length in four little-endian bytes. -/
namespace ByteStream
open Memory

/-- One read into a buffer of `count` bytes. -/
def read (count : Nat) : List Bytes → Option (Bytes × List Bytes)
  | [] => none
  | [] :: later => read count later
  | piece :: later => some (piece.take count, piece.drop count :: later)

def readExact (count : Nat) : List Bytes → Option (Bytes × List Bytes)
  | [] => if count = 0 then some ([], []) else none
  | piece :: later =>
    if count ≤ piece.length then some (piece.take count, piece.drop count :: later)
    else (readExact (count - piece.length) later).map fun (bytes, rest) => (piece ++ bytes, rest)

theorem read_flatten {pieces : List Bytes} (found : read count pieces = some (header, rest)) :
    pieces.flatten = header ++ rest.flatten := by
  induction pieces with
  | nil => cases found
  | cons piece later ih =>
    cases piece with
    | nil => exact ih found
    | cons byte piece =>
      cases found
      rw [List.flatten_cons, List.flatten_cons, ← List.append_assoc, List.take_append_drop]

/-- However the stream is cut, a fixed number of bytes comes in whole. -/
theorem readExact_flatten {pieces : List Bytes} {bytes behind : Bytes}
    (whole : pieces.flatten = bytes ++ behind) :
    ∃ rest, readExact bytes.length pieces = some (bytes, rest) ∧ rest.flatten = behind := by
  induction pieces generalizing bytes with
  | nil =>
    obtain ⟨rfl, rfl⟩ := List.append_eq_nil_iff.mp whole.symm
    exact ⟨[], rfl, rfl⟩
  | cons piece later ih =>
    rw [List.flatten_cons] at whole
    simp only [readExact]
    split
    · rename_i inside
      obtain ⟨more, rfl⟩ : ∃ more, piece = bytes ++ more :=
        (List.prefix_of_prefix_length_le ⟨behind, whole.symm⟩ ⟨later.flatten, rfl⟩ inside).imp
          fun _ same => same.symm
      rw [List.append_assoc, List.append_cancel_left_eq] at whole
      refine ⟨more :: later, ?_, whole⟩
      rw [List.take_left, List.drop_left]
    · rename_i beyond
      obtain ⟨more, rfl⟩ : ∃ more, bytes = piece ++ more :=
        (List.prefix_of_prefix_length_le ⟨later.flatten, rfl⟩ ⟨behind, whole.symm⟩
          (Nat.le_of_not_le beyond)).imp fun _ same => same.symm
      rw [List.append_assoc, List.append_cancel_left_eq] at whole
      obtain ⟨rest, found, left⟩ := ih whole
      refine ⟨rest, ?_, left⟩
      rw [List.length_append, Nat.add_sub_cancel_left, found, Option.map_some]

/-- Meant for bodies whose length fits the header. -/
def frame (body : Bytes) : Bytes := LittleEndian.encode 4 body.length ++ body

theorem readExact_header {pieces : List Bytes} {body behind : Bytes} (fits : body.length < 2 ^ 32)
    (whole : pieces.flatten = frame body ++ behind) :
    ∃ header rest, readExact 4 pieces = some (header, rest) ∧
      LittleEndian.decode header = body.length ∧ rest.flatten = body ++ behind := by
  rw [frame, List.append_assoc] at whole
  obtain ⟨rest, found, left⟩ := readExact_flatten whole
  rw [LittleEndian.encode_length] at found
  exact ⟨_, rest, found, LittleEndian.decode_encode (by simpa using fits), left⟩

end ByteStream
