import Rayd.Lib.ByteStream

/-! The frames of the dispatch protocol, as the driver sends and receives them and
as the worker process does. The driver checks a body against the four-byte length
only; the other three functions know the frame limit. Socket failures other than
the peer closing are left out, and so is what the bodies mean. -/
namespace Rayd.Tasks.Wire
open Memory ByteStream

def maxFrameBytes : Nat := 64 * 1024 * 1024

inductive FrameError where
  | invalidData (message : String)
  | unexpectedEof
  | valueError (message : String)
  | connectionError (message : String)
  deriving DecidableEq, Repr

def tooLarge (length : Nat) : String := s!"dispatch frame too large: {length} bytes"

/-- The length check and the write of both senders; `written` is what the socket
has been given so far. -/
def sendUpTo (limit : Nat) (refusal : String → FrameError) (written body : Bytes) :
    Except FrameError Unit × Bytes :=
  if body.length ≤ limit then (.ok (), written ++ frame body)
  else (.error (refusal (tooLarge body.length)), written)

/-- Both receivers: a stream that ends in the header counts as closed. -/
def recvUpTo (refusal : String → FrameError) (truncated : FrameError) (pieces : List Bytes) :
    Except FrameError (Option Bytes) × List Bytes :=
  match readExact 4 pieces with
  | none => (.ok none, [])
  | some (header, rest) =>
    let length := LittleEndian.decode header
    if maxFrameBytes < length then (.error (refusal (tooLarge length)), rest)
    else
      match readExact length rest with
      | none => (.error truncated, [])
      | some (body, rest) => (.ok (some body), rest)

namespace Driver

/-- `u32::try_from` is the only check. -/
def sendFrame : Bytes → Bytes → Except FrameError Unit × Bytes := sendUpTo (2 ^ 32 - 1) .invalidData

def recvFrame : List Bytes → Except FrameError (Option Bytes) × List Bytes :=
  recvUpTo .invalidData .unexpectedEof

end Driver

namespace Worker

def sendFrame : Bytes → Bytes → Except FrameError Unit × Bytes := sendUpTo maxFrameBytes .valueError

def recvFrame : List Bytes → Except FrameError (Option Bytes) × List Bytes :=
  recvUpTo .valueError (.connectionError "EOF mid-body during recv")

end Worker

inductive Direction where
  | toWorker
  | toDriver
  deriving DecidableEq, Repr

namespace Direction

def send : Direction → Bytes → Bytes → Except FrameError Unit × Bytes
  | .toWorker => Driver.sendFrame
  | .toDriver => Worker.sendFrame

def recv : Direction → List Bytes → Except FrameError (Option Bytes) × List Bytes
  | .toWorker => Worker.recvFrame
  | .toDriver => Driver.recvFrame

/-- One frame after the other, up to the first refusal. -/
def sendAll (direction : Direction) (written : Bytes) : List Bytes → Except FrameError Unit × Bytes
  | [] => (.ok (), written)
  | body :: bodies =>
    match direction.send written body with
    | (.ok (), written) => direction.sendAll written bodies
    | (.error failure, written) => (.error failure, written)

def recvAll (direction : Direction) :
    Nat → List Bytes → List (Except FrameError (Option Bytes)) × List Bytes
  | 0, pieces => ([], pieces)
  | count + 1, pieces =>
    let (result, pieces) := direction.recv pieces
    let (results, pieces) := direction.recvAll count pieces
    (result :: results, pieces)

/-- The receiver's answer to the frame of this body is an error, if there is such a
frame. -/
def Refuses (direction : Direction) (body : Bytes) : Prop :=
  body.length < 2 ^ 32 → ∃ failure, (direction.recv [frame body]).1 = .error failure

/-- The lengths that both ends treat alike: of the others, the driver sends what the
worker will not take. -/
def Agrees (direction : Direction) (body : Bytes) : Prop :=
  direction = .toWorker → body.length ≤ maxFrameBytes ∨ 2 ^ 32 ≤ body.length

end Direction

theorem sendUpTo_ok (sent : sendUpTo limit refusal written body = (.ok (), after)) :
    body.length ≤ limit ∧ after = written ++ frame body := by
  simp only [sendUpTo] at sent
  split at sent
  · rename_i fits
    cases sent
    exact ⟨fits, rfl⟩
  · cases sent

theorem recvUpTo_frame {refusal : String → FrameError} {truncated : FrameError} {pieces : List Bytes}
    {body behind : Bytes} (small : body.length ≤ maxFrameBytes)
    (whole : pieces.flatten = frame body ++ behind) :
    ∃ rest, recvUpTo refusal truncated pieces = (.ok (some body), rest) ∧ rest.flatten = behind := by
  have fits : body.length < 2 ^ 32 := small.trans_lt (by decide)
  obtain ⟨header, tail, found, length, left⟩ := readExact_header fits whole
  obtain ⟨rest, all, done⟩ := readExact_flatten left
  refine ⟨rest, ?_, done⟩
  simp only [recvUpTo, found, length, if_neg (Nat.not_lt.mpr small), all]

theorem recvUpTo_large {refusal : String → FrameError} {truncated : FrameError} {pieces : List Bytes}
    {body behind : Bytes} (fits : body.length < 2 ^ 32) (large : maxFrameBytes < body.length)
    (whole : pieces.flatten = frame body ++ behind) :
    ∃ rest, recvUpTo refusal truncated pieces = (.error (refusal (tooLarge body.length)), rest) := by
  obtain ⟨header, rest, found, length, _⟩ := readExact_header fits whole
  exact ⟨rest, by simp only [recvUpTo, found, length, if_pos large]⟩

namespace Direction

/-- What goes through the sender's check, and that it writes the frame or nothing. -/
theorem send_ok (direction : Direction) (agrees : direction.Agrees body)
    (sent : direction.send written body = (.ok (), after)) :
    body.length ≤ maxFrameBytes ∧ after = written ++ frame body := by
  cases direction with
  | toWorker =>
    obtain ⟨fits, same⟩ := sendUpTo_ok sent
    refine ⟨(agrees rfl).resolve_right fun large => ?_, same⟩
    exact absurd (large.trans fits) (by decide)
  | toDriver => exact sendUpTo_ok sent

theorem recv_frame (direction : Direction) (small : body.length ≤ maxFrameBytes) {pieces : List Bytes}
    (whole : pieces.flatten = frame body ++ behind) :
    ∃ rest, direction.recv pieces = (.ok (some body), rest) ∧ rest.flatten = behind := by
  cases direction <;> exact recvUpTo_frame small whole

theorem recv_large (direction : Direction) (fits : body.length < 2 ^ 32)
    (large : maxFrameBytes < body.length) {pieces : List Bytes}
    (whole : pieces.flatten = frame body ++ behind) :
    ∃ failure rest, direction.recv pieces = (.error failure, rest) := by
  cases direction <;> exact ⟨_, recvUpTo_large fits large whole⟩

theorem large_of_refuses (direction : Direction) (refuses : direction.Refuses body) :
    maxFrameBytes < body.length := by
  by_contra small
  have small := Nat.le_of_not_lt small
  obtain ⟨failure, refused⟩ := refuses (small.trans_lt (by decide))
  have whole : [frame body].flatten = frame body ++ [] := by simp
  obtain ⟨rest, received, _⟩ := direction.recv_frame small whole
  rw [received] at refused
  cases refused

theorem recvAll_sendAll (direction : Direction) {bodies : List Bytes} {written after behind : Bytes}
    (agrees : ∀ body ∈ bodies, direction.Agrees body)
    (sent : direction.sendAll written bodies = (.ok (), after)) :
    ∃ frames, after = written ++ frames ∧ ∀ pieces : List Bytes, pieces.flatten = frames ++ behind →
      ∃ rest, rest.flatten = behind ∧
        direction.recvAll bodies.length pieces = (bodies.map fun body => .ok (some body), rest) := by
  induction bodies generalizing written with
  | nil =>
    cases sent
    exact ⟨[], (List.append_nil _).symm, fun pieces whole => ⟨pieces, whole, rfl⟩⟩
  | cons body bodies ih =>
    obtain ⟨here, others⟩ := List.forall_mem_cons.mp agrees
    simp only [sendAll] at sent
    split at sent
    · rename_i grown first
      obtain ⟨small, rfl⟩ := direction.send_ok here first
      obtain ⟨frames, rfl, arrive⟩ := ih others sent
      refine ⟨frame body ++ frames, List.append_assoc .., ?_⟩
      intro pieces whole
      rw [List.append_assoc] at whole
      obtain ⟨middle, received, left⟩ := direction.recv_frame small whole
      obtain ⟨rest, done, others⟩ := arrive middle left
      refine ⟨rest, done, ?_⟩
      simp only [recvAll, List.length_cons, received, others, List.map_cons]
    · cases sent

/-- A body the receiver would not take is refused by the sender, if their checks agree
on it. -/
theorem send_refused (direction : Direction) (agrees : direction.Agrees body)
    (refuses : direction.Refuses body) (written : Bytes) :
    ∃ failure, direction.send written body = (.error failure, written) := by
  have large := direction.large_of_refuses refuses
  cases direction with
  | toWorker =>
    have beyond := (agrees rfl).resolve_left (Nat.not_le.mpr large)
    exact ⟨.invalidData (tooLarge body.length), if_neg (Nat.not_le.mpr (beyond.trans_lt' (by decide)))⟩
  | toDriver => exact ⟨.valueError (tooLarge body.length), if_neg (Nat.not_le.mpr large)⟩

/-- A body between the two limits is written, though the worker refuses it. -/
theorem send_between (large : maxFrameBytes < body.length) (fits : body.length < 2 ^ 32) (written : Bytes) :
    Direction.toWorker.Refuses body ∧ Direction.toWorker.send written body = (.ok (), written ++ frame body) := by
  have whole : [frame body].flatten = frame body ++ [] := by simp
  obtain ⟨failure, rest, refused⟩ := Direction.toWorker.recv_large fits large whole
  exact ⟨fun _ => ⟨failure, congrArg Prod.fst refused⟩, if_pos (Nat.le_sub_one_of_lt fits)⟩

/-- What a sender accepts is what the receiver gets, however the stream is cut, and the
sender refuses whatever the receiver would, with nothing written: so it is for just the
bodies on whose length both ends agree. -/
theorem bodies_arrive_iff (direction : Direction) (bodies : List Bytes) :
    ((∀ written, direction.sendAll [] bodies = (.ok (), written) →
        ∀ pieces : List Bytes, pieces.flatten = written →
          ∃ rest, rest.flatten = [] ∧
            direction.recvAll bodies.length pieces = (bodies.map fun body => .ok (some body), rest)) ∧
      ∀ body ∈ bodies, direction.Refuses body →
        ∀ written, ∃ failure, direction.send written body = (.error failure, written)) ↔
    ∀ body ∈ bodies, direction.Agrees body := by
  constructor
  · rintro ⟨_, refused⟩ body member rfl
    by_contra apart
    obtain ⟨large, fits⟩ := not_or.mp apart
    obtain ⟨refuses, sent⟩ := send_between (Nat.not_le.mp large) (Nat.not_le.mp fits) []
    obtain ⟨failure, failed⟩ := refused body member refuses []
    cases sent.symm.trans failed
  · intro agrees
    constructor
    · intro written sent pieces whole
      obtain ⟨frames, same, arrive⟩ := direction.recvAll_sendAll agrees sent
      exact arrive pieces (by rw [whole, same, List.nil_append, List.append_nil])
    · exact fun body member refuses => direction.send_refused (agrees body member) refuses

/-- One byte above the limit: the driver sends it without complaint, and the worker
stops at its header. -/
theorem oversized_body_refused_late :
    ∃ body : Bytes, body.length = maxFrameBytes + 1 ∧
      (∃ written, Direction.toWorker.sendAll [] [body] = (.ok (), written) ∧
        ∃ failure rest, Direction.toWorker.recvAll 1 [written] = ([.error failure], rest)) ∧
      Direction.toWorker.Refuses body := by
  obtain ⟨body, length⟩ : ∃ body : Bytes, body.length = maxFrameBytes + 1 :=
    ⟨List.replicate _ 0, List.length_replicate⟩
  have fits : body.length < 2 ^ 32 := by rw [length]; decide
  have large : maxFrameBytes < body.length := by rw [length]; exact Nat.lt_succ_self _
  have whole : [frame body].flatten = frame body ++ [] := by simp
  obtain ⟨failure, rest, refused⟩ := Direction.toWorker.recv_large fits large whole
  obtain ⟨refuses, sent⟩ := send_between large fits []
  refine ⟨body, length, ⟨frame body, ?_, failure, rest, ?_⟩, refuses⟩
  · simp only [sendAll, sent, List.nil_append]
  · simp only [recvAll, refused]

end Direction
end Rayd.Tasks.Wire
