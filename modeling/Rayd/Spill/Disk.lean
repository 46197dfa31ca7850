import Rayd.Lib.Fallible
import Rayd.Spill.Urls

/-! The spill backend on a disk that may fail, under any canonical root. What the disk does
is a parameter: the outcome of each step of a spill, of opening a file, of each read and
of a removal. A spill writes to a temporary name and renames at the end; a step that does
not get through leaves anything at that name. The renaming itself is atomic. Lengths are
64 bits wide. -/
namespace Rayd.Spill
open Memory Urls

inductive ErrorKind where
  | notFound
  | interrupted
  | unexpectedEof
  | other
  deriving DecidableEq

structure IoError where
  kind : ErrorKind
  text : Text
  deriving DecidableEq

/-- `SpillError` with its I/O form. -/
inductive DiskError where
  | notFound (url : Text)
  | io (error : IoError)
  | corrupt (url reason : Text)
  deriving DecidableEq

/-- What becomes of a call: a vector that is too large to ask for panics. -/
inductive Answer (A : Type) where
  | returned (result : Except DiskError A)
  | panicked

structure Disk where
  root : Root
  files : FiniteMap (List Name) Bytes
  tmpCounter : Nat

namespace Disk

/-- The corruption errors of the url check. -/
def ofSpillError : SpillError → DiskError
  | .notFound url => .notFound url
  | .corrupt url reason => .corrupt url reason

def fileFor (disk : Disk) (id : ObjectId) : List Name := disk.root.names ++ [Root.fileName id]

def tmpName (id : ObjectId) (counter : Nat) : Name :=
  Utf8.encode (hex id.bytes ++ ".spill.tmp.".toList ++ (toString counter).toList)

def tmpFileFor (disk : Disk) (id : ObjectId) : List Name := disk.root.names ++ [tmpName id disk.tmpCounter]

section Spilling

/-- One step of a spill. It may fail, or the process stops in it; then what is at the
temporary name can be anything. -/
inductive Outcome where
  | done
  | broken (error : IoError) (debris : Option Bytes)

/-- What is left at the temporary name. -/
def leave (files : FiniteMap (List Name) Bytes) (path : List Name) : Option Bytes → FiniteMap (List Name) Bytes
  | none => files.erase path
  | some content => files.insert path content

/-- The step with this number; where no outcome is given it gets through. -/
def perform (outcomes : List Outcome) (number : Nat) : Except (DiskError × Option Bytes) Unit :=
  match outcomes.getD number .done with
  | .done => .ok ()
  | .broken error debris => .error (.io error, debris)

def checkMetadata (disk : Disk) (id : ObjectId) (metadata : Bytes) : Except (DiskError × Option Bytes) Unit :=
  if metadata.length < 2 ^ 32 then .ok ()
  else .error (.corrupt (Utf8.lossy (join disk.root.path (tmpName id disk.tmpCounter)))
    s!"metadata too large: {metadata.length} bytes".toList, some [])

/-- The file is created, then come both lengths with what they announce, `sync_all` and the
renaming, which leaves the temporary file as it is when it fails. -/
def write (disk : Disk) (id : ObjectId) (object : RestoredObject) (outcomes : List Outcome) :
    Except (DiskError × Option Bytes) Unit := do
  perform outcomes 0
  disk.checkMetadata id object.metadata
  perform outcomes 1
  perform outcomes 2
  perform outcomes 3
  perform outcomes 4
  perform outcomes 5
  (perform outcomes 6).mapError fun (problem, _) => (problem, some (encodeBody object))

def spill (disk : Disk) (id : ObjectId) (metadata data : Bytes) (outcomes : List Outcome) :
    Except DiskError Text × Disk :=
  let tmp := disk.tmpFileFor id
  let tmpCounter := (disk.tmpCounter + 1) % 2 ^ 64
  match disk.write id ⟨metadata, data⟩ outcomes with
  | .error (problem, debris) => (.error problem, ⟨disk.root, leave disk.files tmp debris, tmpCounter⟩)
  | .ok () =>
    (.ok (Root.urlFor (disk.root.pathFor id)),
      ⟨disk.root, (disk.files.erase tmp).insert (disk.fileFor id) (encodeBody ⟨metadata, data⟩), tmpCounter⟩)

end Spilling

section Restoring

/-- One `read`: at least one byte if there are any, and at most one more than this; or an error. -/
inductive Read where
  | bytes (more : Nat)
  | failed (error : IoError)

def endOfFile : IoError := ⟨.unexpectedEof, "failed to fill whole buffer".toList⟩

/-- `read_exact`: the bytes asked for, the rest of the file and of the outcomes. Reads are
made until there are enough; interrupted ones are made again. Reads with no outcome given
bring all there is. -/
def readExact (needed : Nat) (file : Bytes) : List Read → Except IoError (Bytes × Bytes × List Read)
  | [] => if needed ≤ file.length then .ok (file.take needed, file.drop needed, []) else .error endOfFile
  | first :: reads =>
    if needed = 0 then .ok ([], file, first :: reads)
    else
      match first with
      | .failed error => if error.kind = .interrupted then readExact needed file reads else .error error
      | .bytes more =>
        if file = [] then .error endOfFile
        else
          let count := min (more + 1) needed
          (readExact (needed - (file.take count).length) (file.drop count) reads).map
            fun (piece, rest) => (file.take count ++ piece, rest)

inductive Stop where
  | io (error : IoError)
  | capacityOverflow
  deriving DecidableEq

/-- `vec!` with a length above `isize::MAX` panics. -/
def reserve (length : Nat) : Except Stop Unit := if length < 2 ^ 63 then .ok () else .error .capacityOverflow

section Fields
variable {M : Type → Type} [Monad M]

/-- A length of so many bytes, a vector for what it announces, and the bytes; the request
is made beside what is left of the file. -/
def fieldBy (read : Nat → Bytes → List Read → M (Bytes × Bytes × List Read)) (request : Nat → Nat → M Unit)
    (width : Nat) (file : Bytes) (reads : List Read) : M (Bytes × Bytes × List Read) := do
  let (lengthBytes, file, reads) ← read width file reads
  let length := LittleEndian.decode lengthBytes
  request length file.length
  read length file reads

/-- The part of `restore` behind the opened file. -/
def bodyBy (field : Nat → Bytes → List Read → M (Bytes × Bytes × List Read)) (file : Bytes)
    (reads : List Read) : M RestoredObject := do
  let (metadata, file, reads) ← field 4 file reads
  let (data, _) ← field 8 file reads
  return ⟨metadata, data⟩

end Fields

def readField : Nat → Bytes → List Read → Except Stop (Bytes × Bytes × List Read) :=
  fieldBy (fun length file reads => (readExact length file reads).mapError .io) fun length _ => reserve length

def readBody : Bytes → List Read → Except Stop RestoredObject := bodyBy readField

/-- `corrupt_io` makes every failed read a corruption. -/
def restoreBody (url : Text) (file : Bytes) (reads : List Read) : Answer RestoredObject :=
  match readBody file reads with
  | .ok object => .returned (.ok object)
  | .error (.io error) => .returned (.error (.corrupt url ("truncated or unreadable: ".toList ++ error.text)))
  | .error .capacityOverflow => .panicked

/-- A failure of the operating system other than that the file is not there. -/
abbrev OtherError := { error : IoError // error.kind ≠ .notFound }

def restore (disk : Disk) (url : Text) (opened : Option OtherError) (reads : List Read) : Answer RestoredObject :=
  match disk.root.parseUrl url with
  | .error problem => .returned (.error (ofSpillError problem))
  | .ok path =>
    match opened with
    | some error => .returned (.error (.io error))
    | none =>
      match disk.files.lookup (resolve path) with
      | none => .returned (.error (.notFound url))
      | some file => restoreBody url file reads

end Restoring

/-- A file that is gone already counts as removed. -/
def remove (disk : Disk) (url : Text) (unlinked : Option OtherError) : Except DiskError Unit × Disk :=
  match disk.root.parseUrl url with
  | .error problem => (.error (ofSpillError problem), disk)
  | .ok path =>
    match unlinked with
    | some error => (.error (.io error), disk)
    | none => (.ok (), { disk with files := disk.files.erase (resolve path) })

section Reading
variable {file rest piece : Bytes} {reads left : List Read} {error : IoError} {object : RestoredObject}

/-- Reads fail only to be made again. -/
def Steady (reads : List Read) : Prop := ∀ error, .failed error ∈ reads → error.kind = .interrupted

theorem readExact_split (file : Bytes) (within : count ≤ needed) :
    Spill.readExact needed file =
      (Spill.readExact (needed - (file.take count).length) (file.drop count)).map
        fun (piece, rest) => (file.take count ++ piece, rest) := by
  simp only [Spill.readExact, List.length_take, List.length_drop]
  by_cases enough : needed ≤ file.length
  · have first : min count file.length = count := by omega
    rw [first, if_pos enough, if_pos (by omega), Option.map_some, ← List.take_add, List.drop_drop,
      Nat.add_sub_cancel' within]
  · rw [if_neg enough, if_neg (by omega), Option.map_none]

theorem readExact_zero (file : Bytes) (reads : List Read) : readExact 0 file reads = .ok ([], file, reads) := by
  cases reads <;> rfl

theorem readExact_failed (some : needed ≠ 0) (file : Bytes) (error : IoError) (reads : List Read) :
    readExact needed file (.failed error :: reads) =
      if error.kind = .interrupted then readExact needed file reads else .error error :=
  if_neg some

theorem readExact_bytes (some : needed ≠ 0) (file : Bytes) (more : Nat) (reads : List Read) :
    readExact needed file (.bytes more :: reads) =
      if file = [] then .error endOfFile
      else (readExact (needed - (file.take (min (more + 1) needed)).length) (file.drop (min (more + 1) needed))
        reads).map fun (piece, rest) => (file.take (min (more + 1) needed) ++ piece, rest) :=
  if_neg some

/-- However the reads come in, they bring what stands in the file, unless one of them fails. -/
theorem readExact_cases (needed : Nat) (file : Bytes) (reads : List Read) :
    (∃ piece rest left, readExact needed file reads = .ok (piece, rest, left) ∧
      Spill.readExact needed file = some (piece, rest) ∧ left <:+ reads) ∨
    ∃ error, readExact needed file reads = .error error ∧
      (Spill.readExact needed file = none ∨ .failed error ∈ reads ∧ error.kind ≠ .interrupted) := by
  induction reads generalizing needed file with
  | nil =>
    simp only [readExact, Spill.readExact]
    split_ifs
    · exact .inl ⟨_, _, _, rfl, rfl, List.suffix_rfl⟩
    · exact .inr ⟨_, rfl, .inl rfl⟩
  | cons first reads ih =>
    by_cases none : needed = 0
    · subst none
      exact .inl ⟨[], file, _, readExact_zero .., rfl, List.suffix_rfl⟩
    · cases first with
      | failed error =>
        rw [readExact_failed none]
        split_ifs with again
        · rcases ih needed file with ⟨piece, rest, left, done, whole, behind⟩ | ⟨other, failed, why⟩
          · exact .inl ⟨piece, rest, left, done, whole, behind.trans (List.suffix_cons _ _)⟩
          · exact .inr ⟨other, failed, why.imp_right (And.imp_left (List.mem_cons_of_mem _))⟩
        · exact .inr ⟨error, rfl, .inr ⟨List.mem_cons_self, again⟩⟩
      | bytes more =>
        rw [readExact_bytes none, readExact_split file (min_le_right (more + 1) needed)]
        split_ifs with empty
        · refine .inr ⟨_, rfl, .inl ?_⟩
          subst empty
          rw [Spill.readExact, if_neg (by simp; omega), Option.map_none]
        · rcases ih (needed - (file.take (min (more + 1) needed)).length) (file.drop (min (more + 1) needed)) with
            ⟨piece, rest, left, done, whole, behind⟩ | ⟨error, failed, why⟩
          · exact .inl ⟨_, rest, left, by rw [done]; rfl, by rw [whole]; rfl,
              behind.trans (List.suffix_cons _ _)⟩
          · refine .inr ⟨error, by rw [failed]; rfl, ?_⟩
            rcases why with short | ⟨member, stays⟩
            · exact .inl (by rw [short, Option.map_none])
            · exact .inr ⟨List.mem_cons_of_mem _ member, stays⟩

/-- A complete spill body, of an object that fits in memory. -/
def Intact (file : Bytes) (object : RestoredObject) : Prop :=
  decodeBody file = some object ∧ object.data.length < 2 ^ 63

theorem readExact_some (found : Spill.readExact count file = some (piece, rest)) :
    file = piece ++ rest ∧ piece.length = count := by
  rw [Spill.readExact] at found
  split_ifs at found with enough
  cases found
  exact ⟨(List.take_append_drop ..).symm, List.length_take_of_le enough⟩

theorem readExact_extend (found : Spill.readExact count file = some (piece, rest)) (more : Bytes) :
    Spill.readExact count (file ++ more) = some (piece, rest ++ more) := by
  obtain ⟨rfl, rfl⟩ := readExact_some found
  rw [List.append_assoc]
  exact readExact_append _ _

/-- The length that a field announces. -/
def announced (width : Nat) (file : Bytes) : Option Nat :=
  (Spill.readExact width file).map fun found => LittleEndian.decode found.1

/-- A field, read without failures. -/
def plainField (width : Nat) (file : Bytes) : Option (Bytes × Bytes) := do
  let (lengthBytes, file) ← Spill.readExact width file
  Spill.readExact (LittleEndian.decode lengthBytes) file

theorem announced_lt (found : announced width file = some length) : length < 256 ^ width := by
  obtain ⟨⟨lengthBytes, rest⟩, read, rfl⟩ := Option.map_eq_some_iff.mp found
  exact (readExact_some read).2 ▸ LittleEndian.decode_lt lengthBytes

theorem plainField_iff : plainField width file = some (piece, rest) ↔
    piece.length < 256 ^ width ∧ file = LittleEndian.encode width piece.length ++ (piece ++ rest) := by
  simp only [plainField, Option.bind_eq_bind, Option.bind_eq_some_iff]
  constructor
  · rintro ⟨⟨lengthBytes, behind⟩, first, second⟩
    obtain ⟨rfl, rfl⟩ := readExact_some first
    obtain ⟨rfl, sized⟩ := readExact_some second
    rw [sized, LittleEndian.encode_decode]
    exact ⟨LittleEndian.decode_lt lengthBytes, rfl⟩
  · rintro ⟨fits, rfl⟩
    have first := readExact_append (LittleEndian.encode width piece.length) (piece ++ rest)
    rw [LittleEndian.encode_length] at first
    refine ⟨_, first, ?_⟩
    rw [LittleEndian.decode_encode fits]
    exact readExact_append piece rest

theorem plainField_announced (found : plainField width file = some (piece, rest)) :
    announced width file = some piece.length := by
  obtain ⟨fits, rfl⟩ := plainField_iff.mp found
  have first := readExact_append (LittleEndian.encode width piece.length) (piece ++ rest)
  rw [LittleEndian.encode_length] at first
  rw [announced, first, Option.map_some, LittleEndian.decode_encode fits]

theorem decodeBody_fields (file : Bytes) : decodeBody file = do
    let (metadata, file) ← plainField 4 file
    let (data, _) ← plainField 8 file
    return ⟨metadata, data⟩ := by
  simp only [decodeBody, plainField, Option.bind_eq_bind, Option.bind_assoc]

/-- A body that can be read is the one that was written, with anything behind it. -/
theorem decodeBody_iff : decodeBody file = some object ↔
    object.metadata.length < 2 ^ 32 ∧ object.data.length < 2 ^ 64 ∧ ∃ rest, file = encodeBody object ++ rest := by
  rw [decodeBody_fields]
  simp only [Option.bind_eq_bind, Option.bind_eq_some_iff]
  constructor
  · rintro ⟨⟨metadata, behind⟩, first, ⟨data, rest⟩, second, same⟩
    cases same
    obtain ⟨small, rfl⟩ := plainField_iff.mp first
    obtain ⟨fits, rfl⟩ := plainField_iff.mp second
    exact ⟨small, fits, rest, by simp [encodeBody]⟩
  · rintro ⟨small, fits, rest, rfl⟩
    refine ⟨(object.metadata, LittleEndian.encode 8 object.data.length ++ (object.data ++ rest)), ?_,
      (object.data, rest), plainField_iff.mpr ⟨fits, rfl⟩, rfl⟩
    exact plainField_iff.mpr ⟨small, by simp [encodeBody]⟩

theorem readField_eq (read : readExact width file reads = .ok (lengthBytes, rest, left)) :
    readField width file reads = reserve (LittleEndian.decode lengthBytes) >>= fun _ =>
      (readExact (LittleEndian.decode lengthBytes) rest left).mapError .io := by
  simp only [readField, fieldBy, read]
  rfl

theorem readField_cases (width : Nat) (file : Bytes) (reads : List Read) :
    (∃ piece rest left, readField width file reads = .ok (piece, rest, left) ∧
      plainField width file = some (piece, rest) ∧ piece.length < 2 ^ 63 ∧ left <:+ reads) ∨
    (readField width file reads = .error .capacityOverflow ∧
      ∃ length, announced width file = some length ∧ 2 ^ 63 ≤ length) ∨
    ∃ error, readField width file reads = .error (.io error) ∧
      (plainField width file = none ∨ .failed error ∈ reads ∧ error.kind ≠ .interrupted) := by
  rcases readExact_cases width file reads with ⟨lengthBytes, rest, left, read, plain, behind⟩ | ⟨error, read, why⟩
  · have field : plainField width file = Spill.readExact (LittleEndian.decode lengthBytes) rest := by
      rw [plainField, plain]
      rfl
    rw [readField_eq read, field]
    by_cases small : LittleEndian.decode lengthBytes < 2 ^ 63
    · rcases readExact_cases (LittleEndian.decode lengthBytes) rest left with
        ⟨piece, rest, left, read, plain, further⟩ | ⟨error, read, why⟩
      · refine .inl ⟨piece, rest, left, ?_, plain, (readExact_some plain).2.trans_lt small, further.trans behind⟩
        rw [reserve, if_pos small, read]
        rfl
      · refine .inr (.inr ⟨error, ?_, why.imp_right (And.imp_left fun member => behind.subset member)⟩)
        rw [reserve, if_pos small, read]
        rfl
    · refine .inr (.inl ⟨?_, _, by rw [announced, plain]; rfl, Nat.le_of_not_lt small⟩)
      rw [reserve, if_neg small]
      rfl
  · refine .inr (.inr ⟨error, ?_, why.imp_left fun short => ?_⟩)
    · simp only [readField, fieldBy, read]
      rfl
    · rw [plainField, short]
      rfl

/-- The length that the data's field announces. -/
def announcedData (file : Bytes) : Option Nat := do
  let (_, file) ← plainField 4 file
  announced 8 file

/-- Reading a body: it is complete and comes out, or the vector for its data cannot be
had, or it is cut off or a read has failed. -/
theorem readBody_cases (file : Bytes) (reads : List Read) :
    (∃ object, readBody file reads = .ok object ∧ Intact file object) ∨
    (readBody file reads = .error .capacityOverflow ∧
      ∃ length, announcedData file = some length ∧ 2 ^ 63 ≤ length) ∨
    ∃ error, readBody file reads = .error (.io error) ∧
      (decodeBody file = none ∨ .failed error ∈ reads ∧ error.kind ≠ .interrupted) := by
  simp only [readBody, bodyBy, Intact, decodeBody_fields, announcedData]
  rcases readField_cases 4 file reads with
    ⟨metadata, rest, left, read, plain, _, behind⟩ | ⟨_, length, found, large⟩ | ⟨error, read, why⟩
  · rw [read, plain]
    rcases readField_cases 8 rest left with
      ⟨data, rest, left, read, plain, small, _⟩ | ⟨read, length, found, large⟩ | ⟨error, read, why⟩
    · exact .inl ⟨⟨metadata, data⟩, by simp only [bind, Except.bind, read]; rfl, by simp [plain], small⟩
    · exact .inr (.inl ⟨by simp only [bind, Except.bind, read], length, found, large⟩)
    · refine .inr (.inr ⟨error, by simp only [bind, Except.bind, read], ?_⟩)
      rcases why with short | ⟨member, stays⟩
      · exact .inl (by simp [short])
      · exact .inr ⟨behind.subset member, stays⟩
  · have bound : length < 256 ^ 4 := announced_lt found
    omega
  · exact .inr (.inr ⟨error, by rw [read]; rfl, why.imp_left fun short => by rw [short]; rfl⟩)

theorem Intact.announced (intact : Intact file object) : announcedData file = some object.data.length := by
  have decoded := intact.1
  rw [decodeBody_fields] at decoded
  simp only [Option.bind_eq_bind, Option.bind_eq_some_iff] at decoded
  obtain ⟨⟨metadata, behind⟩, first, ⟨data, rest⟩, second, same⟩ := decoded
  cases same
  rw [announcedData, first]
  exact plainField_announced second

theorem announcedData_extend (found : announcedData file = some length) (more : Bytes) :
    announcedData (file ++ more) = some length := by
  simp only [announcedData, Option.bind_eq_bind, Option.bind_eq_some_iff] at found
  obtain ⟨⟨metadata, behind⟩, first, found⟩ := found
  obtain ⟨⟨lengthBytes, rest⟩, read, rfl⟩ := Option.map_eq_some_iff.mp found
  obtain ⟨small, rfl⟩ := plainField_iff.mp first
  have longer : plainField 4 (LittleEndian.encode 4 metadata.length ++ (metadata ++ behind) ++ more) =
      some (metadata, behind ++ more) := plainField_iff.mpr ⟨small, by simp⟩
  rw [announcedData, longer]
  exact Option.map_eq_some_iff.mpr ⟨_, readExact_extend read more, rfl⟩

theorem intact_encodeBody (object : RestoredObject) (small : object.metadata.length < 2 ^ 32)
    (fits : object.data.length < 2 ^ 63) : Intact (encodeBody object) object :=
  ⟨decodeBody_encodeBody object small (by omega), fits⟩

theorem restoreBody_cut (small : object.metadata.length < 2 ^ 32) (fits : object.data.length < 2 ^ 63)
    (front : file <+: encodeBody object) (cut : file ≠ encodeBody object) (url : Text) (reads : List Read) :
    ∃ reason, restoreBody url file reads = .returned (.error (.corrupt url reason)) := by
  have whole := intact_encodeBody object small fits
  obtain ⟨more, same⟩ := front
  rcases readBody_cases file reads with ⟨other, _, intact⟩ | ⟨_, length, found, large⟩ | ⟨error, failed, _⟩
  · obtain ⟨small', fits', rest, rfl⟩ := decodeBody_iff.mp intact.1
    have again : decodeBody (encodeBody object) = some other :=
      decodeBody_iff.mpr ⟨small', fits', rest ++ more, by rw [← same, List.append_assoc]⟩
    cases again.symm.trans whole.1
    have lengths := congrArg List.length same
    have none : rest = [] := by
      simp only [List.length_append] at lengths
      exact List.eq_nil_of_length_eq_zero (by omega)
    exact absurd (by rw [none, List.append_nil]) cut
  · have longer := announcedData_extend found more
    rw [same, whole.announced] at longer
    cases longer
    exact absurd fits (Nat.not_lt.mpr large)
  · exact ⟨_, by rw [restoreBody, failed]⟩

theorem readBody_intact (intact : Intact file object) (reads : List Read) :
    readBody file reads = .ok object ∨
      ∃ error, readBody file reads = .error (.io error) ∧ .failed error ∈ reads ∧ error.kind ≠ .interrupted := by
  rcases readBody_cases file reads with ⟨other, done, same⟩ | ⟨_, length, found, large⟩ | ⟨error, failed, why⟩
  · cases same.1.symm.trans intact.1
    exact .inl done
  · cases found.symm.trans intact.announced
    exact absurd intact.2 (Nat.not_lt.mpr large)
  · refine .inr ⟨error, failed, why.resolve_left fun broken => ?_⟩
    cases broken.symm.trans intact.1

theorem restoreBody_steady (intact : Intact file object) (steady : Steady reads) (url : Text) :
    restoreBody url file reads = .returned (.ok object) := by
  rcases readBody_intact intact reads with done | ⟨error, _, member, stays⟩
  · rw [restoreBody, done]
  · exact absurd (steady error member) stays

end Reading

section Spilled
variable {disk after : Disk} {id other : ObjectId} {metadata data : Bytes} {outcomes : List Outcome}

theorem tmpFileFor_ne (disk : Disk) (id other : ObjectId) : disk.fileFor other ≠ disk.tmpFileFor id := by
  intro same
  rw [fileFor, tmpFileFor, List.append_cancel_left_eq, List.cons.injEq] at same
  have lengths := congrArg List.length (Utf8.encode_injective same.1)
  simp [LocalFsBackend.hex_length, id.size_eq, other.size_eq] at lengths
  omega

theorem fileFor_injective (same : disk.fileFor id = disk.fileFor other) : id = other := by
  rw [fileFor, fileFor, List.append_cancel_left_eq, List.cons.injEq] at same
  exact Root.fileName_injective same.1

theorem lookup_leave (files : FiniteMap (List Name) Bytes) {path tmp : List Name} (different : path ≠ tmp)
    (debris : Option Bytes) : (leave files tmp debris).lookup path = files.lookup path := by
  cases debris with
  | none => exact (FiniteMap.lookup_erase ..).trans (if_neg different)
  | some content => exact (FiniteMap.lookup_insert ..).trans (if_neg different)

theorem write_ok {object : RestoredObject} (written : disk.write id object outcomes = .ok ()) :
    object.metadata.length < 2 ^ 32 := by
  simp only [write, Fallible.bind_ok_iff] at written
  obtain ⟨_, _, _, checked, _⟩ := written
  rw [checkMetadata] at checked
  split_ifs at checked with small
  exact small

/-- Nothing but the length of the metadata keeps a spill from getting through. -/
theorem write_done {object : RestoredObject} (small : object.metadata.length < 2 ^ 32)
    (done : ∀ outcome ∈ outcomes, outcome = .done) : disk.write id object outcomes = .ok () := by
  have each : ∀ number, perform outcomes number = .ok () := by
    intro number
    have here : outcomes.getD number .done = .done := by
      rw [List.getD_eq_getElem?_getD]
      cases found : outcomes[number]? with
      | none => rfl
      | some outcome => exact done outcome (List.mem_of_getElem? found)
    rw [perform, here]
  simp only [write, each, checkMetadata, if_pos small]
  rfl

theorem spill_ok (spilled : disk.spill id metadata data outcomes = (.ok url, after)) :
    after.root = disk.root ∧ metadata.length < 2 ^ 32 ∧ url = Root.urlFor (disk.root.pathFor id) ∧
      ∀ other, after.files.lookup (disk.fileFor other) =
        if other = id then some (encodeBody ⟨metadata, data⟩) else disk.files.lookup (disk.fileFor other) := by
  cases written : disk.write id ⟨metadata, data⟩ outcomes with
  | error stopped =>
    simp only [spill, written, Prod.mk.injEq, reduceCtorEq, false_and] at spilled
  | ok _ =>
    simp only [spill, written, Prod.mk.injEq, Except.ok.injEq] at spilled
    obtain ⟨rfl, rfl⟩ := spilled
    refine ⟨rfl, write_ok written, rfl, fun other => ?_⟩
    rw [FiniteMap.lookup_insert, FiniteMap.lookup_erase]
    by_cases same : other = id
    · rw [if_pos (by rw [same]), if_pos same]
    · rw [if_neg fun paths => same (fileFor_injective paths), if_neg (disk.tmpFileFor_ne id other), if_neg same]

theorem spill_done (small : metadata.length < 2 ^ 32) (done : ∀ outcome ∈ outcomes, outcome = .done) :
    (disk.spill id metadata data outcomes).1 = .ok (Root.urlFor (disk.root.pathFor id)) := by
  have written : disk.write id ⟨metadata, data⟩ outcomes = .ok () := write_done small done
  simp only [spill, written]

/-- A spill that does not get through has touched nothing but its temporary file. -/
theorem spill_error (failed : disk.spill id metadata data outcomes = (.error problem, after)) :
    after.root = disk.root ∧
      ∀ other, after.files.lookup (disk.fileFor other) = disk.files.lookup (disk.fileFor other) := by
  cases written : disk.write id ⟨metadata, data⟩ outcomes with
  | error stopped =>
    simp only [spill, written, Prod.mk.injEq] at failed
    obtain ⟨_, rfl⟩ := failed
    exact ⟨rfl, fun other => lookup_leave _ (disk.tmpFileFor_ne id other) _⟩
  | ok _ =>
    simp only [spill, written, Prod.mk.injEq, reduceCtorEq, false_and] at failed

end Spilled

section Objects
variable {disk : Disk}

theorem restore_unshown (unshown : ¬ disk.root.Shown) (id : ObjectId) (opened : Option OtherError)
    (reads : List Read) : ∃ reason, disk.restore (Root.urlFor (disk.root.pathFor id)) opened reads =
      .returned (.error (.corrupt (Root.urlFor (disk.root.pathFor id)) reason)) := by
  cases parsed : disk.root.parseUrl (Root.urlFor (disk.root.pathFor id)) with
  | ok path => exact absurd ((disk.root.parseUrl_urlFor_iff id path).mp parsed).1 unshown
  | error problem =>
    obtain ⟨reason, rfl⟩ := Root.parseUrl_error parsed
    exact ⟨reason, by rw [restore, parsed]; rfl⟩

theorem parseUrl_shown (shown : disk.root.Shown) (id : ObjectId) :
    disk.root.parseUrl (Root.urlFor (disk.root.pathFor id)) = .ok (disk.root.pathFor id) :=
  (disk.root.parseUrl_urlFor_iff id _).mpr ⟨shown, rfl⟩

theorem restore_unopened (shown : disk.root.Shown) (id : ObjectId) (error : OtherError) (reads : List Read) :
    disk.restore (Root.urlFor (disk.root.pathFor id)) (some error) reads = .returned (.error (.io error)) := by
  rw [restore, parseUrl_shown shown]

theorem restore_found (shown : disk.root.Shown) {id : ObjectId}
    (found : disk.files.lookup (disk.fileFor id) = some file) (reads : List Read) :
    disk.restore (Root.urlFor (disk.root.pathFor id)) none reads =
      restoreBody (Root.urlFor (disk.root.pathFor id)) file reads := by
  have place : disk.files.lookup (resolve (disk.root.pathFor id)) = some file := by
    rw [Root.resolve_pathFor]
    exact found
  simp only [restore, parseUrl_shown shown, place]

theorem restore_missing (shown : disk.root.Shown) {id : ObjectId}
    (missing : disk.files.lookup (disk.fileFor id) = none) (reads : List Read) :
    disk.restore (Root.urlFor (disk.root.pathFor id)) none reads =
      .returned (.error (.notFound (Root.urlFor (disk.root.pathFor id)))) := by
  have place : disk.files.lookup (resolve (disk.root.pathFor id)) = none := by
    rw [Root.resolve_pathFor]
    exact missing
  simp only [restore, parseUrl_shown shown, place]

theorem restore_congr {after : Disk} {id : ObjectId} (root : after.root = disk.root)
    (same : after.files.lookup (disk.fileFor id) = disk.files.lookup (disk.fileFor id))
    (opened : Option OtherError) (reads : List Read) :
    after.restore (Root.urlFor (disk.root.pathFor id)) opened reads =
      disk.restore (Root.urlFor (disk.root.pathFor id)) opened reads := by
  rw [restore, restore, root]
  cases parsed : disk.root.parseUrl (Root.urlFor (disk.root.pathFor id)) with
  | error problem => rfl
  | ok path =>
    have place : after.files.lookup (resolve path) = disk.files.lookup (resolve path) := by
      rw [((disk.root.parseUrl_urlFor_iff id path).mp parsed).2, Root.resolve_pathFor]
      exact same
    cases opened with
    | some error => rfl
    | none => simp only [place]

theorem remove_unshown (unshown : ¬ disk.root.Shown) (id : ObjectId) (unlinked : Option OtherError) :
    ∃ problem, disk.remove (Root.urlFor (disk.root.pathFor id)) unlinked = (.error problem, disk) := by
  cases parsed : disk.root.parseUrl (Root.urlFor (disk.root.pathFor id)) with
  | ok path => exact absurd ((disk.root.parseUrl_urlFor_iff id path).mp parsed).1 unshown
  | error problem => exact ⟨_, by rw [remove, parsed]⟩

theorem remove_failed (shown : disk.root.Shown) (id : ObjectId) (error : OtherError) :
    disk.remove (Root.urlFor (disk.root.pathFor id)) (some error) = (.error (.io error), disk) := by
  rw [remove, parseUrl_shown shown]

theorem remove_done (shown : disk.root.Shown) (id : ObjectId) :
    disk.remove (Root.urlFor (disk.root.pathFor id)) none =
      (.ok (), { disk with files := disk.files.erase (disk.fileFor id) }) := by
  simp only [remove, parseUrl_shown shown, Root.resolve_pathFor]
  rfl

end Objects

theorem remove_root (disk : Disk) (url : Text) (unlinked : Option OtherError) :
    (disk.remove url unlinked).2.root = disk.root := by
  rw [remove]
  cases disk.root.parseUrl url with
  | error problem => rfl
  | ok path => cases unlinked <;> rfl

theorem remove_files {disk : Disk} (left : (disk.remove url unlinked).2.files.lookup path = some file) :
    disk.files.lookup path = some file := by
  rw [remove] at left
  cases parsed : disk.root.parseUrl url with
  | error problem =>
    rw [parsed] at left
    exact left
  | ok target =>
    rw [parsed] at left
    cases unlinked with
    | some error => exact left
    | none =>
      rw [FiniteMap.lookup_erase] at left
      split_ifs at left
      exact left

/-- Where accepted urls lead, and which urls of spilled objects are accepted. A url may
climb out of the root behind it. It leads below the root exactly if it also comes back
down by the names it has climbed past and then goes on. The url a spill returns leads
back to the object's file if all of the root is UTF-8 and is refused otherwise. -/
theorem spill_urls_confined_iff (disk : Disk) :
    (∀ url path, disk.root.parseUrl url = .ok path →
      (disk.root.Below (resolve path) ↔ disk.root.Returns (climb (disk.root.stepsBelow path)))) ∧
    (∀ id metadata data outcomes url after, disk.spill id metadata data outcomes = (.ok url, after) →
      ∀ path, after.root.parseUrl url = .ok path ↔ disk.root.Shown ∧ path = disk.root.pathFor id) ∧
    ∀ id other, disk.root.pathFor id = disk.root.pathFor other → id = other := by
  refine ⟨fun url path accepted => ?_, fun id metadata data outcomes url after spilled path => ?_,
    fun id other => disk.root.pathFor_injective⟩
  · rw [Root.resolve_of_startsWith (Root.parseUrl_ok_iff.mp accepted).2.2]
    exact disk.root.below_arrive_iff _
  · obtain ⟨root, _, rfl, _⟩ := spill_ok spilled
    rw [root]
    exact disk.root.parseUrl_urlFor_iff id path

def rootNamed (name : Name) (plain : Plain name) : Root :=
  ⟨[name], fun _ member => List.mem_singleton.mp member ▸ plain⟩

/-- `/spill` and a directory whose name is the byte 255. -/
def spillRoot : Root := rootNamed (Utf8.encode "spill".toList) ⟨by decide, by decide, by decide, by decide⟩

def latinRoot : Root := rootNamed [255] ⟨by decide, by decide, by decide, by decide⟩

theorem accepted_url_escapes :
    spillRoot.parseUrl "file:///spill/../etc/passwd".toList =
      .ok (Utf8.encode "/spill/../etc/passwd".toList) ∧
    resolve (Utf8.encode "/spill/../etc/passwd".toList) =
      [Utf8.encode "etc".toList, Utf8.encode "passwd".toList] ∧
    ¬ spillRoot.Below [Utf8.encode "etc".toList, Utf8.encode "passwd".toList] ∧
    ∀ id, ∃ url after, spill ⟨latinRoot, ∅, 0⟩ id [] [] [] = (.ok url, after) ∧
      ∀ path, latinRoot.parseUrl url ≠ .ok path := by
  refine ⟨by decide, by decide, ?_, fun id => ⟨_, _, rfl, fun path accepted => ?_⟩⟩
  · rintro ⟨name, rest, same⟩
    have first := (List.cons.inj same).1
    revert first
    decide
  · have shown := ((latinRoot.parseUrl_urlFor_iff id path).mp accepted).1
    exact (shown [255] List.mem_cons_self).first? (by decide) (by decide)

end Disk
end Rayd.Spill
