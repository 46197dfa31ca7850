import Rayd.Lib.Reservation
import Rayd.Raylet.Transport
import Rayd.Spill.Disk

/-! The vectors that three receivers ask for on the word of a length they have read: a
restore for the metadata and for the data of a spill file, the client's pull and the push
handler for the data of a first frame. What there is for them is the rest of the file or
the data frames that follow. A usize has 64 bits, so every length fits one. -/
namespace Rayd.Raylet.Announced
open Memory Spill Plasma Transport Reservation Asking

section Files

def corruptIo (url : Text) (error : IoError) : DiskError :=
  .corrupt url ("truncated or unreadable: ".toList ++ error.text)

def restoringField (url : Text) : Nat → Bytes → List Disk.Read → Asking DiskError (Bytes × Bytes × List Disk.Read) :=
  Disk.fieldBy (fun length file reads => lift ((Disk.readExact length file reads).mapError (corruptIo url))) reserve

/-- `restore` behind the opened file. -/
def restoring (url : Text) : Bytes → List Disk.Read → Asking DiskError RestoredObject :=
  Disk.bodyBy (restoringField url)

end Files

section Streams

/-- The bytes of the data frames, up to the frame that ends them. -/
def supplied {Kind : Type} (bytes? : Kind → Option Bytes) : Stream Kind → Nat
  | .ok (some kind) :: rest => (bytes? kind).elim 0 fun bytes => bytes.length + supplied bytes? rest
  | _ => 0

def pulledBytes : PullKind → Option Bytes
  | .data bytes => some bytes
  | .objectMetadata .. => none

def pushedBytes : PushKind → Option Bytes
  | .data bytes => some bytes
  | .header .. => none

def pulling : Stream PullKind → Asking ClientError PulledObject
  | .ok (some (.objectMetadata metadata dataSize)) :: rest => do
    reserve dataSize (supplied pulledBytes rest)
    lift (pull (.ok (some (.objectMetadata metadata dataSize)) :: rest))
  | stream => lift (pull stream)

/-- The push handler up to the sealing of the object. -/
def pushing : Stream PushKind → Asking Status Call
  | [] => lift (.error (invalid "push stream closed before header"))
  | .error status :: _ => lift (.error status)
  | .ok (some (.header objectId metadata dataSize)) :: rest => do
    let id ← lift (parseObjectId objectId)
    reserve dataSize (supplied pushedBytes rest)
    let data ← lift (gather dataSize [] rest)
    return ⟨id, metadata, data⟩
  | .ok (some (.data _)) :: _ => lift (.error (invalid "first push frame must be a Header, got Data"))
  | .ok none :: _ => lift (.error (invalid "first push frame is empty"))

end Streams

section Refinement

/-- A stopped read is a corruption or a panic. -/
def settle (url : Text) : Except Disk.Stop A → Option (Except DiskError A)
  | .ok value => some (.ok value)
  | .error (.io error) => some (.error (corruptIo url error))
  | .error .capacityOverflow => none

variable {url : Text} {file rest : Bytes} {reads left : List Disk.Read}

theorem bind_settle {asking : Asking DiskError A} {next : A → Asking DiskError B} {run : Except Disk.Stop A}
    {runNext : A → Except Disk.Stop B} (first : asking.result = settle url run)
    (second : ∀ value, (next value).result = settle url (runNext value)) :
    (asking >>= next).result = settle url (run >>= runNext) := by
  rcases run with (error | _) | value
  · rw [bind_error first]
    rfl
  · rw [bind_none first]
    rfl
  · rw [bind_ok first]
    exact second value

theorem lift_settle (read : Except IoError A) :
    (lift (read.mapError (corruptIo url))).result = settle url (read.mapError .io) := by
  cases read <;> rfl

theorem reserve_settle (length available : Nat) :
    (Asking.reserve length available).result = settle url (Disk.reserve length) := by
  rw [Asking.reserve, Disk.reserve]
  split_ifs <;> rfl

theorem restoringField_result (url : Text) (width : Nat) (file : Bytes) (reads : List Disk.Read) :
    (restoringField url width file reads).result = settle url (Disk.readField width file reads) :=
  bind_settle (lift_settle _) fun _ => bind_settle (reserve_settle _ _) fun _ => lift_settle _

theorem restoring_result (url : Text) (file : Bytes) (reads : List Disk.Read) :
    (restoring url file reads).result = settle url (Disk.readBody file reads) :=
  bind_settle (restoringField_result ..) fun _ => bind_settle (restoringField_result ..) fun _ => rfl

/-- A restore answers as before, and panics if one of its requests does. -/
theorem restoreBody_restoring (url : Text) (file : Bytes) (reads : List Disk.Read) :
    Disk.restoreBody url file reads = (restoring url file reads).result.elim .panicked .returned := by
  rw [restoring_result, Disk.restoreBody]
  rcases Disk.readBody file reads with (error | _) | object <;> rfl

end Refinement

/-- Where a length stands, that much stands behind it. -/
def HonestField (width : Nat) (file : Bytes) : Prop :=
  ∀ lengthBytes rest, readExact width file = some (lengthBytes, rest) →
    LittleEndian.decode lengthBytes < 2 ^ 63 ∧ LittleEndian.decode lengthBytes ≤ rest.length

structure Honest (file : Bytes) : Prop where
  metadata : HonestField 4 file
  data : ∀ metadata rest, Disk.plainField 4 file = some (metadata, rest) → HonestField 8 rest

section Restores
variable {url : Text} {width : Nat} {file rest piece : Bytes} {reads left : List Disk.Read}

theorem plain_of_readExact (read : Disk.readExact width file reads = .ok (piece, rest, left)) :
    readExact width file = some (piece, rest) := by
  rcases Disk.readExact_cases width file reads with ⟨_, _, _, same, plain, _⟩ | ⟨error, failed, _⟩
  · cases read.symm.trans same
    exact plain
  · cases read.symm.trans failed

theorem readExact_plain (plain : readExact width file = some (piece, rest)) :
    Disk.readExact width file [] = .ok (piece, rest, []) := by
  rcases Disk.readExact_cases width file [] with ⟨_, _, left, read, same, behind⟩ | ⟨error, _, why⟩
  · cases same.symm.trans plain
    rw [read, List.suffix_nil.mp behind]
  · rcases why with short | ⟨member, _⟩
    · cases short.symm.trans plain
    · cases member

theorem restoringField_cautious (honest : HonestField width file) (url : Text) (reads : List Disk.Read) :
    (restoringField url width file reads).Cautious := by
  refine cautious_bind.mpr ⟨cautious_lift _, fun (lengthBytes, rest, left) read => ?_⟩
  have plain := plain_of_readExact (Fallible.mapError_ok_iff.mp (Option.some.inj read))
  exact cautious_bind.mpr ⟨(cautious_reserve _ _).mpr (honest _ _ plain), fun _ _ => cautious_lift _⟩

theorem honestField_of_cautious (cautious : (restoringField url width file []).Cautious) :
    HonestField width file := by
  intro lengthBytes rest plain
  have read : (lift ((Disk.readExact width file []).mapError (corruptIo url))).result =
      some (.ok (lengthBytes, rest, [])) := by
    rw [readExact_plain plain]
    rfl
  have second := (cautious_bind.mp cautious).2 _ read
  exact (cautious_reserve _ _).mp (cautious_bind.mp second).1

theorem plain_of_restoringField
    (read : (restoringField url width file reads).result = some (.ok (piece, rest, left))) :
    Disk.plainField width file = some (piece, rest) := by
  rw [restoringField_result] at read
  rcases Disk.readField_cases width file reads with
    ⟨_, _, _, same, plain, _⟩ | ⟨panicked, _⟩ | ⟨error, failed, _⟩
  · rw [same] at read
    cases read
    exact plain
  · rw [panicked] at read
    cases read
  · rw [failed] at read
    cases read

theorem restoringField_plain (returns : (restoringField url width file []).result ≠ none)
    (plain : Disk.plainField width file = some (piece, rest)) :
    ∃ left, left <:+ [] ∧ (restoringField url width file []).result = some (.ok (piece, rest, left)) := by
  rw [restoringField_result] at returns ⊢
  rcases Disk.readField_cases width file [] with
    ⟨_, _, left, read, same, _, behind⟩ | ⟨panicked, _⟩ | ⟨error, _, why⟩
  · cases same.symm.trans plain
    exact ⟨left, behind, by rw [read]; rfl⟩
  · rw [panicked] at returns
    exact absurd rfl returns
  · rcases why with short | ⟨member, _⟩
    · cases short.symm.trans plain
    · cases member

theorem restoring_cautious_iff (url : Text) (file : Bytes) :
    (∀ reads, (restoring url file reads).Cautious) ↔ Honest file := by
  constructor
  · intro cautious
    have both := cautious_bind.mp (cautious [])
    refine ⟨honestField_of_cautious both.1, fun metadata rest plain => ?_⟩
    obtain ⟨left, behind, read⟩ := restoringField_plain both.1.returns plain
    cases List.suffix_nil.mp behind
    exact honestField_of_cautious (cautious_bind.mp (both.2 _ read)).1
  · intro honest reads
    refine cautious_bind.mpr ⟨restoringField_cautious honest.metadata url reads, ?_⟩
    intro (metadata, rest, left) read
    have data := honest.data metadata rest (plain_of_restoringField read)
    exact cautious_bind.mpr ⟨restoringField_cautious data url left, fun _ _ => cautious_lift _⟩

end Restores

section Receives

theorem pulling_cautious_iff (stream : Stream PullKind) :
    (pulling stream).Cautious ↔ ∀ metadata dataSize rest,
      stream = .ok (some (.objectMetadata metadata dataSize)) :: rest →
      dataSize < 2 ^ 63 ∧ dataSize ≤ supplied pulledBytes rest := by
  unfold pulling
  split
  · rename_i metadata dataSize rest
    rw [cautious_reserve_bind (cautious_lift _)]
    constructor
    · intro bound _ _ _ same
      cases same
      exact bound
    · intro bound
      exact bound metadata dataSize rest rfl
  · rename_i other
    refine iff_of_true (cautious_lift _) fun metadata dataSize rest same => ?_
    exact absurd same (other metadata dataSize rest)

/-- As long as nothing panics, the client's pull is what it was. -/
theorem pull_pulling {stream : Stream PullKind} (returned : (pulling stream).result = some answer) :
    pull stream = answer := by
  unfold pulling at returned
  split at returned
  · rename_i metadata dataSize rest
    by_cases small : dataSize < 2 ^ 63
    · rw [reserve_bind_small small] at returned
      exact Option.some.inj returned
    · rw [reserve_bind_large small] at returned
      cases returned
  · exact Option.some.inj returned

theorem pushing_cautious_iff (stream : Stream PushKind) :
    (pushing stream).Cautious ↔ ∀ objectId metadata dataSize rest,
      stream = .ok (some (.header objectId metadata dataSize)) :: rest → (∃ id, parseObjectId objectId = .ok id) →
      dataSize < 2 ^ 63 ∧ dataSize ≤ supplied pushedBytes rest := by
  unfold pushing
  split
  case h_3 objectId metadata dataSize rest =>
    cases parsed : parseObjectId objectId with
    | error status =>
      refine iff_of_true (cautious_lift _) fun _ _ _ _ same ⟨id, found⟩ => ?_
      cases same
      cases parsed.symm.trans found
    | ok id =>
      rw [lift_ok_bind, cautious_reserve_bind (cautious_bind.mpr ⟨cautious_lift _, fun _ _ => cautious_lift _⟩)]
      constructor
      · intro bound _ _ _ _ same _
        cases same
        exact bound
      · intro bound
        exact bound objectId metadata dataSize rest rfl ⟨id, parsed⟩
  all_goals exact iff_of_true (cautious_lift _) fun _ _ _ _ same => by cases same

/-- The sealing behind the gathered object. -/
def finish (store : Store) : Except Status Call → Except Status Unit × Store
  | .error status => (.error status, store)
  | .ok call => sealPushed store call

theorem pushHandler_pushing (store : Store) {stream : Stream PushKind}
    (returned : (pushing stream).result = some answer) : pushHandler store stream = finish store answer := by
  unfold pushing at returned
  split at returned
  case h_3 objectId metadata dataSize rest =>
    simp only [pushHandler]
    cases parsed : parseObjectId objectId with
    | error status =>
      rw [parsed] at returned
      cases returned
      rfl
    | ok id =>
      rw [parsed, lift_ok_bind] at returned
      by_cases small : dataSize < 2 ^ 63
      · rw [reserve_bind_small small] at returned
        cases gathered : gather dataSize [] rest <;>
        · rw [gathered] at returned
          cases returned
          rfl
      · rw [reserve_bind_large small] at returned
        cases returned
  all_goals
    cases returned
    rfl

end Receives

/-- A receiver comes back and asks for no more than it gets exactly if the lengths it reads
are below 2⁶³ and no larger than what comes after them. -/
theorem requests_covered_iff (url : Text) (file : Bytes) (pulled : Stream PullKind) (pushed : Stream PushKind) :
    ((∀ reads, (restoring url file reads).Cautious) ↔ Honest file) ∧
    ((pulling pulled).Cautious ↔ ∀ metadata dataSize rest,
      pulled = .ok (some (.objectMetadata metadata dataSize)) :: rest →
      dataSize < 2 ^ 63 ∧ dataSize ≤ supplied pulledBytes rest) ∧
    ((pushing pushed).Cautious ↔ ∀ objectId metadata dataSize rest,
      pushed = .ok (some (.header objectId metadata dataSize)) :: rest → (∃ id, parseObjectId objectId = .ok id) →
      dataSize < 2 ^ 63 ∧ dataSize ≤ supplied pushedBytes rest) :=
  ⟨restoring_cautious_iff url file, pulling_cautious_iff pulled, pushing_cautious_iff pushed⟩

/-- No metadata, and 2⁶³ bytes of data announced: all three panic. With 2⁴⁰ bytes announced
they ask for them and get none. -/
theorem announced_lengths_trusted :
    Disk.restoreBody [] (LittleEndian.encode 4 0 ++ LittleEndian.encode 8 (2 ^ 63)) [] = .panicked ∧
    (pulling [.ok (some (.objectMetadata [] (2 ^ 63)))]).result = none ∧
    (pushing [.ok (some (.header (Id.nil 28).bytes [] (2 ^ 63)))]).result = none ∧
    (restoring [] (LittleEndian.encode 4 0 ++ LittleEndian.encode 8 (2 ^ 40)) []).requests =
      [⟨0, 8⟩, ⟨2 ^ 40, 0⟩] ∧
    (pulling [.ok (some (.objectMetadata [] (2 ^ 40)))]).requests = [⟨2 ^ 40, 0⟩] ∧
    (pushing [.ok (some (.header (Id.nil 28).bytes [] (2 ^ 40)))]).requests = [⟨2 ^ 40, 0⟩] := by
  refine ⟨rfl, rfl, rfl, rfl, rfl, rfl⟩

end Rayd.Raylet.Announced
