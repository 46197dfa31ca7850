import Rayd.Core.Metadata
import Rayd.Lib.Fallible

/-! The data buffer of a failed object: a message and, each behind a flag, a traceback
and the pickled exception, with the granular code between them. What stands behind the
last field is not looked at. -/
namespace Rayd.Core
open Memory

inductive ErrorPayloadCodecError where
  | truncated (needed : Nat)
  | lengthOverflow (claimed remaining : Nat)
  | invalidUtf8
  | invalidFlag (byte : UInt8)
  deriving DecidableEq, Repr

structure ErrorPayload where
  message : String
  traceback : Option String
  rawCode : UInt16
  pickledPythonException : Option Bytes
  deriving DecidableEq, Repr

/-- What the user is shown of a payload, with the category of the header. -/
structure ErrorInfo where
  category : ErrorCategory
  message : String
  rawCode : UInt16
  traceback : Option String
  deriving DecidableEq, Repr

namespace ErrorPayload

abbrev Reader (A : Type) := StateT Bytes (Except ErrorPayloadCodecError) A

def ensure (needed : Nat) : Reader Unit := do
  let buf ← get
  if buf.length < needed then throw (.truncated (needed - buf.length))

/-- The next bytes; there are as many. -/
def splitAt (count : Nat) : Reader Bytes := do
  let buf ← get
  set (buf.drop count)
  return buf.take count

def readU16Le : Reader UInt16 := do
  ensure 2
  return UInt16.ofNat (LittleEndian.decode (← splitAt 2))

def readU32Le : Reader Nat := do
  ensure 4
  return LittleEndian.decode (← splitAt 4)

def readFlag : Reader Bool := do
  ensure 1
  match ← splitAt 1 with
  | [0] => return false
  | [1] => return true
  | bytes => throw (.invalidFlag (bytes.headD 0))

def readLengthPrefixed : Reader Bytes := do
  let length ← readU32Le
  let buf ← get
  if buf.length < length then throw (.lengthOverflow length buf.length)
  splitAt length

def readString : Reader String := do
  match String.fromUTF8? ⟨(← readLengthPrefixed).toArray⟩ with
  | some text => return text
  | none => throw .invalidUtf8

def readBytes : Reader Bytes := readLengthPrefixed

def readIf (reader : Reader A) : Reader (Option A) := do
  if ← readFlag then return some (← reader) else return none

def read : Reader ErrorPayload := do
  let message ← readString
  let traceback ← readIf readString
  let rawCode ← readU16Le
  let pickledPythonException ← readIf readBytes
  return ⟨message, traceback, rawCode, pickledPythonException⟩

def decode (input : Bytes) : Except ErrorPayloadCodecError ErrorPayload := read.run' input

def putLengthPrefixed (bytes : Bytes) : Bytes := LittleEndian.encode 4 bytes.length ++ bytes

def putIf (put : A → Bytes) : Option A → Bytes
  | none => [0]
  | some value => 1 :: put value

def utf8 (text : String) : Bytes := text.toUTF8.data.toList

/-- Each length prefix has room for its length. -/
def encode (payload : ErrorPayload) : Bytes :=
  putLengthPrefixed (utf8 payload.message) ++
    (putIf (fun text => putLengthPrefixed (utf8 text)) payload.traceback ++
      (LittleEndian.encode 2 payload.rawCode.toNat ++ putIf putLengthPrefixed payload.pickledPythonException))

/-- The fields fit their length prefixes. -/
structure Fits (payload : ErrorPayload) : Prop where
  message : (utf8 payload.message).length < 256 ^ 4
  traceback : ∀ text ∈ payload.traceback, (utf8 text).length < 256 ^ 4
  pickled : ∀ blob ∈ payload.pickledPythonException, blob.length < 256 ^ 4

/-- Takes exactly these bytes, whatever stands behind them. -/
def Reads (reader : Reader A) (bytes : Bytes) (value : A) : Prop :=
  ∀ rest, reader (bytes ++ rest) = .ok (value, rest)

theorem bind_apply (reader : Reader A) (next : A → Reader B) (buf : Bytes) :
    (reader >>= next) buf = (reader buf).bind fun read => next read.1 read.2 := rfl

namespace Reads
variable {A B : Type} {bytes more : Bytes}

theorem bind {reader : Reader A} {next : A → Reader B} (first : Reads reader bytes value)
    (second : Reads (next value) more result) : Reads (reader >>= next) (bytes ++ more) result := by
  intro rest
  rw [bind_apply, List.append_assoc, first]
  exact second rest

theorem pure (value : A) : Reads (Pure.pure value) [] value := fun _ => rfl

theorem map {reader : Reader A} (f : A → B) (first : Reads reader bytes value) :
    Reads (reader >>= fun value => Pure.pure (f value)) bytes (f value) := by
  intro rest
  rw [bind_apply, first]
  rfl

theorem splitAt (sized : bytes.length = count) : Reads (splitAt count) bytes bytes := by
  subst sized
  intro rest
  change Except.ok ((bytes ++ rest).take bytes.length, (bytes ++ rest).drop bytes.length) = _
  rw [List.take_left, List.drop_left]

theorem ensured {next : Reader A} (read : Reads next bytes value) (enough : needed ≤ bytes.length) :
    Reads (ensure needed >>= fun _ => next) bytes value := by
  intro rest
  have long : ¬ (bytes ++ rest).length < needed := by
    rw [List.length_append]
    omega
  have ensures : ensure needed (bytes ++ rest) = .ok ((), bytes ++ rest) := by
    change (if (bytes ++ rest).length < needed then _ else _ : Reader Unit) (bytes ++ rest) = _
    rw [if_neg long]
    rfl
  rw [bind_apply, ensures]
  exact read rest

theorem readU32Le (fits : value < 256 ^ 4) :
    Reads ErrorPayload.readU32Le (LittleEndian.encode 4 value) value := by
  have read := ((splitAt (LittleEndian.encode_length 4 value)).map LittleEndian.decode).ensured
    (LittleEndian.encode_length 4 value).ge
  rwa [LittleEndian.decode_encode fits] at read

theorem readU16Le (code : UInt16) :
    Reads ErrorPayload.readU16Le (LittleEndian.encode 2 code.toNat) code := by
  have fits : code.toNat < 256 ^ 2 := code.toNat_lt
  have read := ((splitAt (LittleEndian.encode_length 2 code.toNat)).map
    fun bytes => UInt16.ofNat (LittleEndian.decode bytes)).ensured (LittleEndian.encode_length 2 code.toNat).ge
  rwa [LittleEndian.decode_encode fits, UInt16.ofNat_toNat] at read

theorem readLengthPrefixed (fits : bytes.length < 256 ^ 4) :
    Reads ErrorPayload.readLengthPrefixed (putLengthPrefixed bytes) bytes := by
  refine (readU32Le fits).bind fun rest => ?_
  have long : ¬ (bytes ++ rest).length < bytes.length := by
    rw [List.length_append]
    omega
  have read : Reads (ErrorPayload.splitAt bytes.length) bytes bytes := splitAt rfl
  refine Eq.trans ?_ (read rest)
  change (if (bytes ++ rest).length < bytes.length then _ else _ : Reader Bytes) (bytes ++ rest) = _
  rw [if_neg long]

theorem readString {text : String} (fits : (utf8 text).length < 256 ^ 4) :
    Reads ErrorPayload.readString (putLengthPrefixed (utf8 text)) text := by
  have valid : String.fromUTF8? ⟨(utf8 text).toArray⟩ = some text := by
    simp [utf8, String.fromUTF8?, String.toUTF8, String.fromUTF8, text.isValidUTF8]
  intro rest
  rw [ErrorPayload.readString, bind_apply, readLengthPrefixed fits]
  simp only [Except.bind, valid]
  rfl

theorem readIf {reader : Reader A} {put : A → Bytes} {value : Option A}
    (read : ∀ inner ∈ value, Reads reader (put inner) inner) :
    Reads (ErrorPayload.readIf reader) (putIf put value) value := by
  have flag : ∀ byte set, (byte = 0 ∧ set = false) ∨ (byte = 1 ∧ set = true) →
      Reads readFlag [byte] set := by
    intro byte set either
    refine ensured ?_ le_rfl
    have one : Reads (ErrorPayload.splitAt 1) [byte] [byte] := splitAt rfl
    intro rest
    rw [bind_apply, one]
    rcases either with ⟨rfl, rfl⟩ | ⟨rfl, rfl⟩ <;> rfl
  cases value with
  | none => exact (flag 0 false (.inl ⟨rfl, rfl⟩)).bind (pure none)
  | some inner => exact (flag 1 true (.inr ⟨rfl, rfl⟩)).bind ((read inner rfl).map some)

end Reads

theorem reads_encode {payload : ErrorPayload} (fits : payload.Fits) : Reads read payload.encode payload := by
  refine (Reads.readString fits.message).bind ?_
  refine (Reads.readIf fun text present => Reads.readString (fits.traceback text present)).bind ?_
  refine (Reads.readU16Le payload.rawCode).bind ?_
  exact (Reads.readIf fun blob present => Reads.readLengthPrefixed (fits.pickled blob present)).map _

theorem decode_encode {payload : ErrorPayload} (fits : payload.Fits) :
    decode payload.encode = .ok payload := by
  have done := reads_encode fits []
  rw [List.append_nil] at done
  simp only [decode, StateT.run', done]
  rfl

/-- What this reader takes off the front is what is put for its result. -/
def Takes (reader : Reader A) (put : A → Bytes) (fits : A → Prop) : Prop :=
  ∀ buf value rest, reader buf = .ok (value, rest) → fits value ∧ buf = put value ++ rest

theorem bind_ok_iff {reader : Reader A} {next : A → Reader B} {buf rest : Bytes} {result : B} :
    (reader >>= next) buf = .ok (result, rest) ↔
      ∃ value middle, reader buf = .ok (value, middle) ∧ next value middle = .ok (result, rest) := by
  rw [bind_apply]
  constructor
  · intro done
    obtain ⟨⟨value, middle⟩, first, second⟩ := Fallible.bind_ok_iff.mp done
    exact ⟨value, middle, first, second⟩
  · rintro ⟨value, middle, first, second⟩
    exact Fallible.bind_ok_iff.mpr ⟨(value, middle), first, second⟩

namespace Takes
variable {A : Type} {buf rest bytes : Bytes}

theorem ensured {next : Reader A} (done : (ensure needed >>= fun _ => next) buf = .ok (value, rest)) :
    needed ≤ buf.length ∧ next buf = .ok (value, rest) := by
  obtain ⟨_, middle, first, second⟩ := bind_ok_iff.mp done
  by_cases short : buf.length < needed
  · change (if buf.length < needed then _ else _ : Reader Unit) buf = _ at first
    rw [if_pos short] at first
    cases first
  · change (if buf.length < needed then _ else _ : Reader Unit) buf = _ at first
    rw [if_neg short] at first
    cases first
    exact ⟨Nat.le_of_not_lt short, second⟩

theorem splitAt (enough : count ≤ buf.length) (done : ErrorPayload.splitAt count buf = .ok (bytes, rest)) :
    bytes.length = count ∧ buf = bytes ++ rest := by
  cases done
  exact ⟨List.length_take_of_le enough, (List.take_append_drop ..).symm⟩

theorem readU32Le : Takes ErrorPayload.readU32Le (LittleEndian.encode 4) (· < 256 ^ 4) := by
  intro buf value rest done
  obtain ⟨enough, done⟩ := ensured done
  obtain ⟨bytes, middle, first, second⟩ := bind_ok_iff.mp done
  cases second
  obtain ⟨sized, rfl⟩ := splitAt enough first
  rw [← sized, LittleEndian.encode_decode]
  exact ⟨LittleEndian.decode_lt bytes, rfl⟩

theorem readU16Le :
    Takes ErrorPayload.readU16Le (fun code => LittleEndian.encode 2 code.toNat) fun _ => True := by
  intro buf code rest done
  obtain ⟨enough, done⟩ := ensured done
  obtain ⟨bytes, middle, first, second⟩ := bind_ok_iff.mp done
  cases second
  obtain ⟨sized, rfl⟩ := splitAt enough first
  have small := LittleEndian.decode_lt bytes
  rw [sized] at small
  refine ⟨trivial, ?_⟩
  show bytes ++ rest = LittleEndian.encode 2 (UInt16.ofNat (LittleEndian.decode bytes)).toNat ++ rest
  rw [UInt16.toNat_ofNat_of_lt' small, ← sized, LittleEndian.encode_decode]

theorem readFlag : Takes ErrorPayload.readFlag (fun set => [if set then 1 else 0]) fun _ => True := by
  intro buf set rest done
  obtain ⟨enough, done⟩ := ensured done
  obtain ⟨bytes, middle, first, second⟩ := bind_ok_iff.mp done
  obtain ⟨sized, rfl⟩ := splitAt enough first
  obtain ⟨byte, rfl⟩ := List.length_eq_one_iff.mp sized
  refine ⟨trivial, ?_⟩
  by_cases zero : byte = 0
  · subst zero
    cases second
    rfl
  by_cases one : byte = 1
  · subst one
    cases second
    rfl
  · simp only [List.cons.injEq, zero, one, false_and, imp_self] at second
    cases second

theorem readLengthPrefixed :
    Takes ErrorPayload.readLengthPrefixed putLengthPrefixed fun bytes => bytes.length < 256 ^ 4 := by
  intro buf bytes rest done
  obtain ⟨length, behind, first, second⟩ := bind_ok_iff.mp done
  obtain ⟨fits, rfl⟩ := readU32Le buf length behind first
  by_cases short : behind.length < length
  · change (if behind.length < length then _ else _ : Reader Bytes) behind = _ at second
    rw [if_pos short] at second
    cases second
  · change (if behind.length < length then _ else _ : Reader Bytes) behind = _ at second
    rw [if_neg short] at second
    obtain ⟨rfl, rfl⟩ := splitAt (Nat.le_of_not_lt short) second
    exact ⟨fits, (List.append_assoc ..).symm⟩

theorem utf8_fromUTF8? {text : String} (valid : String.fromUTF8? ⟨bytes.toArray⟩ = some text) :
    utf8 text = bytes := by
  simp only [String.fromUTF8?] at valid
  split_ifs at valid
  cases valid
  rfl

theorem readString :
    Takes ErrorPayload.readString (fun text => putLengthPrefixed (utf8 text))
      fun text => (utf8 text).length < 256 ^ 4 := by
  intro buf text rest done
  obtain ⟨bytes, middle, first, second⟩ := bind_ok_iff.mp done
  obtain ⟨fits, rfl⟩ := readLengthPrefixed buf bytes middle first
  cases valid : String.fromUTF8? ⟨bytes.toArray⟩ with
  | none =>
    rw [valid] at second
    cases second
  | some found =>
    rw [valid] at second
    cases second
    obtain rfl := utf8_fromUTF8? valid
    exact ⟨fits, rfl⟩

theorem readIf {reader : Reader A} {put : A → Bytes} {fits : A → Prop} (takes : Takes reader put fits) :
    Takes (ErrorPayload.readIf reader) (putIf put) fun value => ∀ inner ∈ value, fits inner := by
  intro buf value rest done
  obtain ⟨set, middle, first, second⟩ := bind_ok_iff.mp done
  obtain ⟨_, rfl⟩ := readFlag buf set middle first
  cases set with
  | false =>
    cases second
    exact ⟨fun _ present => (by cases present), rfl⟩
  | true =>
    obtain ⟨inner, behind, third, last⟩ := bind_ok_iff.mp second
    obtain ⟨small, rfl⟩ := takes middle inner behind third
    cases last
    refine ⟨fun _ present => ?_, rfl⟩
    cases present
    exact small

theorem read : Takes ErrorPayload.read encode Fits := by
  intro buf payload rest done
  obtain ⟨message, buf₁, first, done⟩ := bind_ok_iff.mp done
  obtain ⟨traceback, buf₂, second, done⟩ := bind_ok_iff.mp done
  obtain ⟨rawCode, buf₃, third, done⟩ := bind_ok_iff.mp done
  obtain ⟨pickled, buf₄, fourth, done⟩ := bind_ok_iff.mp done
  cases done
  obtain ⟨messageFits, rfl⟩ := readString _ _ _ first
  obtain ⟨tracebackFits, rfl⟩ := readIf readString _ _ _ second
  obtain ⟨_, rfl⟩ := readU16Le _ _ _ third
  obtain ⟨pickledFits, rfl⟩ := readIf readLengthPrefixed _ _ _ fourth
  exact ⟨⟨messageFits, tracebackFits, pickledFits⟩, by simp only [encode, List.append_assoc]⟩

end Takes

theorem decode_iff {input : Bytes} {payload : ErrorPayload} :
    decode input = .ok payload ↔ payload.Fits ∧ ∃ rest, input = payload.encode ++ rest := by
  simp only [decode, StateT.run']
  constructor
  · intro done
    obtain ⟨⟨value, rest⟩, whole, same⟩ := Fallible.bind_ok_iff.mp done
    cases same
    obtain ⟨fits, behind⟩ := Takes.read input value rest whole
    exact ⟨fits, rest, behind⟩
  · rintro ⟨fits, rest, rfl⟩
    rw [reads_encode fits rest]
    rfl

/-- Encodings are read back, and nothing else is. Each input that can be read starts with
the encoding of its payload and of no other, and an encoding cannot be cut off. -/
theorem decode_exact :
    (∀ input payload, decode input = .ok payload ↔ payload.Fits ∧ ∃ rest, input = payload.encode ++ rest) ∧
    (∀ payload : ErrorPayload, payload.Fits → decode payload.encode = .ok payload) ∧
    (∀ payload : ErrorPayload, payload.Fits → ∀ cut, cut <+: payload.encode → cut ≠ payload.encode →
      ∃ problem, decode cut = .error problem) ∧
    ∀ input payload other, decode input = .ok payload → other.Fits → other.encode <+: input →
      other = payload := by
  refine ⟨fun _ _ => decode_iff, fun _ => decode_encode, fun payload fits cut ⟨more, whole⟩ strict => ?_,
    fun input payload other done fits ⟨rest, front⟩ => ?_⟩
  · cases done : decode cut with
    | error problem => exact ⟨problem, rfl⟩
    | ok other =>
      obtain ⟨otherFits, rest, rfl⟩ := decode_iff.mp done
      rw [List.append_assoc] at whole
      have again := decode_iff.mpr ⟨otherFits, rest ++ more, whole.symm⟩
      cases again.symm.trans (decode_encode fits)
      have none : rest ++ more = [] := List.append_right_eq_self.mp whole
      exact absurd (by rw [(List.append_eq_nil_iff.mp none).1, List.append_nil]) strict
  · have again := decode_iff.mpr ⟨fits, rest, front.symm⟩
    exact Except.ok.inj (again.symm.trans done)

section Writing

/-- The length is checked by `expect`, which panics at 4 GiB. -/
def writeLengthPrefixed (bytes : Bytes) : Option Bytes :=
  if bytes.length < 256 ^ 4 then some (putLengthPrefixed bytes) else none

def writeIf (write : A → Option Bytes) : Option A → Option Bytes
  | none => some [0]
  | some value => (write value).map fun written => 1 :: written

/-- `encode` with its panics. -/
def write (payload : ErrorPayload) : Option Bytes := do
  let message ← writeLengthPrefixed (utf8 payload.message)
  let traceback ← writeIf (fun text => writeLengthPrefixed (utf8 text)) payload.traceback
  let pickled ← writeIf writeLengthPrefixed payload.pickledPythonException
  return message ++ (traceback ++ (LittleEndian.encode 2 payload.rawCode.toNat ++ pickled))

theorem writeLengthPrefixed_iff {bytes written : Bytes} :
    writeLengthPrefixed bytes = some written ↔ bytes.length < 256 ^ 4 ∧ written = putLengthPrefixed bytes := by
  by_cases fits : bytes.length < 256 ^ 4
  · rw [writeLengthPrefixed, if_pos fits, Option.some.injEq, eq_comm, and_iff_right fits]
  · rw [writeLengthPrefixed, if_neg fits]
    exact iff_of_false (fun done => by cases done) fun writes => fits writes.1

theorem writeIf_iff {write : A → Option Bytes} {put : A → Bytes} {fits : A → Prop} {value : Option A}
    (each : ∀ inner written, write inner = some written ↔ fits inner ∧ written = put inner) :
    writeIf write value = some written ↔ (∀ inner ∈ value, fits inner) ∧ written = putIf put value := by
  cases value with
  | none =>
    rw [writeIf, Option.some.injEq, eq_comm]
    exact (and_iff_right fun _ present => by cases present).symm
  | some inner =>
    rw [writeIf, Option.map_eq_some_iff]
    simp only [each, Option.mem_some_iff, forall_eq', putIf]
    constructor
    · rintro ⟨_, ⟨small, rfl⟩, rfl⟩
      exact ⟨small, rfl⟩
    · rintro ⟨small, rfl⟩
      exact ⟨_, ⟨small, rfl⟩, rfl⟩

/-- The encoder panics exactly if a field does not fit its length prefix. -/
theorem write_iff {payload : ErrorPayload} {written : Bytes} :
    payload.write = some written ↔ payload.Fits ∧ written = payload.encode := by
  simp only [write, Option.bind_eq_bind, Option.bind_eq_some_iff, writeLengthPrefixed_iff,
    writeIf_iff fun _ _ => writeLengthPrefixed_iff]
  constructor
  · rintro ⟨_, ⟨message, rfl⟩, _, ⟨traceback, rfl⟩, _, ⟨pickled, rfl⟩, same⟩
    cases same
    exact ⟨⟨message, traceback, pickled⟩, rfl⟩
  · rintro ⟨fits, rfl⟩
    exact ⟨_, ⟨fits.message, rfl⟩, _, ⟨fits.traceback, rfl⟩, _, ⟨fits.pickled, rfl⟩, rfl⟩

end Writing

end ErrorPayload
end Rayd.Core
