import Rayd.Lib.LittleEndian

/-! Prefix codecs for fixed-width little-endian formats: what was written is read
back, and what stands behind it is left alone. `Fits` says which values the format
has room for. -/
open Memory

structure Codec (A : Type) where
  Fits : A → Prop
  encode : A → Bytes
  decode : Bytes → Option (A × Bytes)
  decode_encode : ∀ {value : A} (rest : Bytes), Fits value →
    decode (encode value ++ rest) = some (value, rest)

namespace Codec
variable {A B : Type}

/-- Read with one codec and wrap what comes out. -/
def via (codec : Codec A) (wrap : A → B) (bytes : Bytes) : Option (B × Bytes) :=
  (codec.decode bytes).map fun (value, rest) => (wrap value, rest)

theorem via_encode (codec : Codec A) (wrap : A → B) {value : A} (fits : codec.Fits value)
    (rest : Bytes) : codec.via wrap (codec.encode value ++ rest) = some (wrap value, rest) := by
  rw [via, codec.decode_encode rest fits, Option.map_some]

/-- Bytes of a length both sides know. -/
def fixed (count : Nat) : Codec Bytes where
  Fits bytes := bytes.length = count
  encode bytes := bytes
  decode bytes := if count ≤ bytes.length then some (bytes.take count, bytes.drop count) else none
  decode_encode := by
    intro bytes rest sized
    subst sized
    simp

def convert (codec : Codec A) (pack : A → Option B) (unpack : B → A)
    (inverse : ∀ value, codec.Fits (unpack value) → pack (unpack value) = some value) : Codec B where
  Fits value := codec.Fits (unpack value)
  encode value := codec.encode (unpack value)
  decode bytes := do
    let (inner, rest) ← codec.decode bytes
    let value ← pack inner
    return (value, rest)
  decode_encode := by
    intro value rest fits
    simp [codec.decode_encode rest fits, inverse value fits]

def pair (first : Codec A) (second : Codec B) : Codec (A × B) where
  Fits value := first.Fits value.1 ∧ second.Fits value.2
  encode value := first.encode value.1 ++ second.encode value.2
  decode bytes := do
    let (left, rest) ← first.decode bytes
    let (right, rest) ← second.decode rest
    return ((left, right), rest)
  decode_encode := by
    intro value rest fits
    simp [List.append_assoc, first.decode_encode _ fits.1, second.decode_encode rest fits.2]

def word (width : Nat) : Codec Nat where
  Fits value := value < 256 ^ width
  encode := LittleEndian.encode width
  decode := (fixed width).via LittleEndian.decode
  decode_encode := by
    intro value rest fits
    have sized : (fixed width).Fits (LittleEndian.encode width value) := LittleEndian.encode_length ..
    have read := (fixed width).via_encode LittleEndian.decode sized rest
    rw [LittleEndian.decode_encode fits] at read
    exact read

def bool : Codec Bool :=
  (word 1).convert (fun | 0 => some false | 1 => some true | _ => none) Bool.toNat
    (fun value _ => by cases value <;> rfl)

theorem bool_fits (value : Bool) : bool.Fits value := by
  show value.toNat < 256 ^ 1
  cases value <;> decide

def byte : Codec UInt8 :=
  (word 1).convert (fun value => some (UInt8.ofNat value)) UInt8.toNat
    (fun value _ => by rw [UInt8.ofNat_toNat])

theorem byte_fits (value : UInt8) : byte.Fits value := value.toNat_lt

theorem byte_length (value : UInt8) : (byte.encode value).length = 1 := LittleEndian.encode_length ..

def option (codec : Codec A) : Codec (Option A) where
  Fits value := ∀ inner ∈ value, codec.Fits inner
  encode
    | none => bool.encode false
    | some value => bool.encode true ++ codec.encode value
  decode bytes := do
    let (present, rest) ← bool.decode bytes
    if present then codec.via some rest else return (none, rest)
  decode_encode := by
    intro value rest fits
    cases value with
    | none => simp [bool.decode_encode rest (bool_fits false)]
    | some value => simp [bool.decode_encode _ (bool_fits true), codec.via_encode some (fits value rfl)]

/-- A known number of elements, one behind the other. -/
def decodeMany (codec : Codec A) : Nat → Bytes → Option (List A × Bytes)
  | 0, bytes => some ([], bytes)
  | count + 1, bytes => do
    let (value, rest) ← codec.decode bytes
    let (values, rest) ← codec.decodeMany count rest
    return (value :: values, rest)

theorem decodeMany_flatMap (codec : Codec A) {values : List A} (fits : ∀ value ∈ values, codec.Fits value)
    (rest : Bytes) :
    codec.decodeMany values.length (values.flatMap codec.encode ++ rest) = some (values, rest) := by
  induction values with
  | nil => rfl
  | cons value values ih =>
    have later := ih fun other member => fits other (List.mem_cons_of_mem _ member)
    simp [decodeMany, List.append_assoc, codec.decode_encode _ (fits value List.mem_cons_self), later]

/-- Elements behind their number. -/
def vec (codec : Codec A) : Codec (List A) where
  Fits values := values.length < 256 ^ 8 ∧ ∀ value ∈ values, codec.Fits value
  encode values := (word 8).encode values.length ++ values.flatMap codec.encode
  decode bytes := do
    let (count, rest) ← (word 8).decode bytes
    codec.decodeMany count rest
  decode_encode := by
    intro values rest fits
    simp [List.append_assoc, (word 8).decode_encode _ fits.1, codec.decodeMany_flatMap fits.2]

def string : Codec String :=
  (vec byte).convert (fun bytes => String.fromUTF8? ⟨bytes.toArray⟩) (fun text => text.toUTF8.data.toList)
    (fun text _ => by simp [String.fromUTF8?, String.toUTF8, String.fromUTF8, text.isValidUTF8])

/-- One of several forms: its number, then its fields. -/
def variant (number : Nat) (fields : Bytes) : Bytes := (word 4).encode number ++ fields

def tagged (fields : Nat → Bytes → Option (A × Bytes)) (bytes : Bytes) : Option (A × Bytes) := do
  let (number, rest) ← (word 4).decode bytes
  fields number rest

theorem tagged_variant {fields : Nat → Bytes → Option (A × Bytes)} {number : Nat} {body rest : Bytes}
    (small : number < 256) : tagged fields (variant number body ++ rest) = fields number (body ++ rest) := by
  have fits : (word 4).Fits number := Nat.lt_of_lt_of_le small (by decide)
  simp [tagged, variant, List.append_assoc, (word 4).decode_encode _ fits]

theorem variant_length (number : Nat) (fields : Bytes) :
    (variant number fields).length = 4 + fields.length := by
  rw [variant, List.length_append]
  exact congrArg (· + fields.length) (LittleEndian.encode_length 4 number)

theorem vec_length (codec : Codec A) (values : List A)
    (each : ∀ value, (codec.encode value).length = size) :
    ((vec codec).encode values).length = 8 + size * values.length := by
  have all : (values.flatMap codec.encode).length = size * values.length := by
    induction values with
    | nil => rfl
    | cons value values ih =>
      simp only [List.flatMap_cons, List.length_append, each, ih, List.length_cons, Nat.mul_succ]
      omega
  simp only [vec, word, List.length_append, LittleEndian.encode_length, all]

end Codec
