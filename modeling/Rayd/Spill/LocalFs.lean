import Rayd.Id
import Rayd.Lib.FiniteMap

/-! The local-filesystem spill backend: one file per object under a canonical
UTF-8 root, named by the object's hex id. The url of a file is `file://` and the
displayed path. A spill is modeled at its rename, where the complete file
appears at once; disks do not fail. -/
namespace Rayd.Spill
open Memory

abbrev Text := List Char

/-- The names of an absolute path, root first. -/
abbrev Path := List Text

/-- A name that path parsing gives back unchanged. -/
def PlainName (name : Text) : Prop := name ≠ [] ∧ name ≠ ['.'] ∧ '/' ∉ name

def display : Path → Text
  | [] => ['/']
  | path => ['/'].intercalate ([] :: path)

/-- The names of a displayed absolute path: empty pieces and `.` vanish. -/
def components (text : Text) : Path :=
  (text.splitOn '/').filter fun name => name ≠ [] ∧ name ≠ ['.']

theorem components_display {path : Path} (plain : ∀ name ∈ path, PlainName name) :
    components (display path) = path := by
  cases path with
  | nil => decide
  | cons first rest =>
    have clean : ∀ name ∈ ([] :: first :: rest), '/' ∉ name := by
      intro name member
      rcases List.mem_cons.mp member with rfl | member
      · exact List.not_mem_nil
      · exact (plain name member).2.2
    simp only [components, display, List.splitOn_intercalate '/' clean (by simp)]
    rw [List.filter_cons_of_neg (by simp)]
    apply List.filter_eq_self.mpr
    intro name member
    simpa using ⟨(plain name member).1, (plain name member).2.1⟩

def hexDigit (n : Nat) : Char := "0123456789abcdef".toList.getD n '0'

def hexByte (byte : UInt8) : Text := [hexDigit (byte.toNat / 16), hexDigit (byte.toNat % 16)]

def hex (bytes : Bytes) : Text := bytes.flatMap hexByte

theorem hexDigit_injective : ∀ a < 16, ∀ b < 16, hexDigit a = hexDigit b → a = b := by decide

theorem hexDigit_plain : ∀ a < 16, hexDigit a ≠ '/' := by decide

theorem hexByte_injective {a b : UInt8} (same : hexByte a = hexByte b) : a = b := by
  have boundA := a.toNat_lt
  have boundB := b.toNat_lt
  simp only [hexByte, List.cons.injEq, and_true] at same
  have high := hexDigit_injective _ (by omega) _ (by omega) same.1
  have low := hexDigit_injective _ (by omega) _ (by omega) same.2
  exact UInt8.toNat_inj.mp (by omega)

theorem hex_injective {left right : Bytes} (same : hex left = hex right) : left = right := by
  induction left generalizing right with
  | nil =>
    cases right with
    | nil => rfl
    | cons b right => simp [hex, hexByte] at same
  | cons a left ih =>
    cases right with
    | nil => simp [hex, hexByte] at same
    | cons b right =>
      simp only [hex, List.flatMap_cons] at same
      obtain ⟨first, rest⟩ := List.append_inj same rfl
      rw [hexByte_injective first, ih rest]

theorem hex_plain (bytes : Bytes) : '/' ∉ hex bytes := by
  intro member
  obtain ⟨byte, _, here⟩ := List.mem_flatMap.mp member
  have bound := byte.toNat_lt
  simp only [hexByte, List.mem_cons, List.not_mem_nil, or_false] at here
  rcases here with here | here
  · exact hexDigit_plain _ (by omega) here.symm
  · exact hexDigit_plain _ (by omega) here.symm

inductive SpillError where
  | notFound (url : Text)
  | corrupt (url : Text) (reason : Text)
  deriving DecidableEq

structure RestoredObject where
  metadata : Bytes
  data : Bytes
  deriving DecidableEq

/-- On-disk layout: both parts behind their little-endian lengths. -/
def encodeBody (object : RestoredObject) : Bytes :=
  LittleEndian.encode 4 object.metadata.length ++ object.metadata ++
    (LittleEndian.encode 8 object.data.length ++ object.data)

/-- `read_exact`: the bytes asked for and the rest, or nothing. -/
def readExact (count : Nat) (bytes : Bytes) : Option (Bytes × Bytes) :=
  if count ≤ bytes.length then some (bytes.take count, bytes.drop count) else none

def decodeBody (bytes : Bytes) : Option RestoredObject := do
  let (lengthBytes, rest) ← readExact 4 bytes
  let (metadata, rest) ← readExact (LittleEndian.decode lengthBytes) rest
  let (lengthBytes, rest) ← readExact 8 rest
  let (data, _) ← readExact (LittleEndian.decode lengthBytes) rest
  return ⟨metadata, data⟩

theorem readExact_append (first rest : Bytes) :
    readExact first.length (first ++ rest) = some (first, rest) := by
  simp [readExact]

theorem decodeBody_encodeBody (object : RestoredObject)
    (metadata_small : object.metadata.length < 2 ^ 32) (data_small : object.data.length < 2 ^ 64) :
    decodeBody (encodeBody object) = some object := by
  have header := readExact_append (LittleEndian.encode 4 object.metadata.length)
    (object.metadata ++ (LittleEndian.encode 8 object.data.length ++ object.data))
  have middle := readExact_append (LittleEndian.encode 8 object.data.length) object.data
  have last := readExact_append object.data []
  rw [LittleEndian.encode_length] at header middle
  rw [List.append_nil] at last
  have metadata_length := LittleEndian.decode_encode
    (show object.metadata.length < 256 ^ 4 from metadata_small)
  have data_length := LittleEndian.decode_encode
    (show object.data.length < 256 ^ 8 from data_small)
  simp only [decodeBody, encodeBody, List.append_assoc, header, metadata_length, readExact_append,
    middle, data_length, last, Option.bind_eq_bind, Option.bind_some, Option.pure_def]

structure LocalFsBackend where
  root : Path
  canonical : ∀ name ∈ root, PlainName name
  files : FiniteMap Path Bytes
  tmpCounter : Nat

namespace LocalFsBackend

/-- Without files; this many temporary names have been used. -/
def empty (tmpCounter : Nat) : LocalFsBackend := ⟨[], by simp, ∅, tmpCounter⟩

def urlScheme : Text := "file://".toList

def pathFor (backend : LocalFsBackend) (id : ObjectId) : Path :=
  backend.root ++ [hex id.bytes ++ ".spill".toList]

def tmpPathFor (backend : LocalFsBackend) (id : ObjectId) : Path :=
  backend.root ++ [hex id.bytes ++ ".spill.tmp.".toList ++ (toString backend.tmpCounter).toList]

def urlFor (path : Path) : Text := urlScheme ++ display path

def parseUrl (backend : LocalFsBackend) (url : Text) : Except SpillError Path :=
  if urlScheme <+: url then
    let stripped := url.drop urlScheme.length
    if stripped.head? = some '/' ∧ backend.root <+: components stripped then
      .ok (components stripped)
    else .error (.corrupt url ("path is outside spill root ".toList ++ display backend.root))
  else .error (.corrupt url "url missing file:// prefix".toList)

def spill (backend : LocalFsBackend) (id : ObjectId) (metadata data : Bytes) :
    Except SpillError Text × LocalFsBackend :=
  let path := backend.pathFor id
  let tmpPath := backend.tmpPathFor id
  if metadata.length < 2 ^ 32 then
    (.ok (urlFor path), { backend with
      files := (backend.files.erase tmpPath).insert path (encodeBody ⟨metadata, data⟩)
      tmpCounter := backend.tmpCounter + 1 })
  else
    (.error (.corrupt (display tmpPath)
      s!"metadata too large: {metadata.length} bytes".toList), { backend with
      files := backend.files.insert tmpPath []
      tmpCounter := backend.tmpCounter + 1 })

def restore (backend : LocalFsBackend) (url : Text) : Except SpillError RestoredObject :=
  match backend.parseUrl url with
  | .error failure => .error failure
  | .ok path =>
    match backend.files.lookup path with
    | none => .error (.notFound url)
    | some body =>
      match decodeBody body with
      | some object => .ok object
      | none => .error (.corrupt url "truncated or unreadable: failed to fill whole buffer".toList)

def remove (backend : LocalFsBackend) (url : Text) : Except SpillError Unit × LocalFsBackend :=
  match backend.parseUrl url with
  | .error failure => (.error failure, backend)
  | .ok path => (.ok (), { backend with files := backend.files.erase path })

theorem pathFor_plain (backend : LocalFsBackend) (id : ObjectId) :
    ∀ name ∈ backend.pathFor id, PlainName name := by
  intro name member
  rcases List.mem_append.mp member with old | new
  · exact backend.canonical name old
  · rw [List.mem_singleton.mp new]
    refine ⟨by simp, ?_, ?_⟩
    · intro same
      have sized := congrArg List.length same
      simp at sized
    · simp only [List.mem_append, not_or]
      exact ⟨hex_plain _, by decide⟩

theorem pathFor_injective (backend : LocalFsBackend) {a b : ObjectId}
    (same : backend.pathFor a = backend.pathFor b) : a = b := by
  simp only [pathFor, List.append_cancel_left_eq, List.cons.injEq, and_true,
    List.append_cancel_right_eq] at same
  exact Id.ext (hex_injective same)

theorem display_cons (name : Text) (rest : Path) :
    display (name :: rest) = '/' :: ['/'].intercalate (name :: rest) := by
  simp [display, List.intercalate]

theorem parseUrl_urlFor (backend : LocalFsBackend) (id : ObjectId) :
    backend.parseUrl (urlFor (backend.pathFor id)) = .ok (backend.pathFor id) := by
  have stripped : (urlFor (backend.pathFor id)).drop urlScheme.length = display (backend.pathFor id) :=
    List.drop_left' rfl
  have absolute : (display (backend.pathFor id)).head? = some '/' := by
    obtain ⟨name, rest, same⟩ := List.exists_cons_of_ne_nil
      (show backend.pathFor id ≠ [] by simp [pathFor])
    rw [same, display_cons, List.head?_cons]
  simp only [parseUrl]
  rw [if_pos (show urlScheme <+: urlFor (backend.pathFor id) from List.prefix_append _ _), stripped,
    components_display (backend.pathFor_plain id), if_pos ⟨absolute, List.prefix_append _ _⟩]

/-- The object's file is in place and complete. -/
def Holds (backend : LocalFsBackend) (id : ObjectId) (object : RestoredObject) : Prop :=
  backend.files.lookup (backend.pathFor id) = some (encodeBody object) ∧
    object.metadata.length < 2 ^ 32 ∧ object.data.length < 2 ^ 64

theorem restore_holds {backend : LocalFsBackend} {id : ObjectId} (holds : backend.Holds id object) :
    backend.restore (urlFor (backend.pathFor id)) = .ok object := by
  simp only [restore, parseUrl_urlFor, holds.1,
    decodeBody_encodeBody object holds.2.1 holds.2.2]

theorem hex_length (bytes : Bytes) : (hex bytes).length = 2 * bytes.length := by
  induction bytes with
  | nil => rfl
  | cons byte rest ih =>
    simp only [hex, List.flatMap_cons, List.length_append, List.length_cons] at ih ⊢
    simp only [ih, hexByte, List.length_cons, List.length_nil]
    omega

theorem tmpPathFor_ne (backend : LocalFsBackend) (id other : ObjectId) :
    backend.pathFor other ≠ backend.tmpPathFor id := by
  intro same
  simp only [pathFor, tmpPathFor, List.append_cancel_left_eq, List.cons.injEq, and_true] at same
  have sized := congrArg List.length same
  simp [hex_length, id.size_eq, other.size_eq] at sized
  omega

theorem spill_ok (backend : LocalFsBackend) (id : ObjectId) (metadata data : Bytes)
    (small : metadata.length < 2 ^ 32) :
    (backend.spill id metadata data).1 = .ok (urlFor (backend.pathFor id)) := by
  simp only [spill, if_pos small]

theorem spill_root (backend : LocalFsBackend) (id : ObjectId) (metadata data : Bytes) :
    (backend.spill id metadata data).2.root = backend.root := by
  simp only [spill]
  split <;> rfl

theorem spill_pathFor (backend : LocalFsBackend) (id other : ObjectId) (metadata data : Bytes) :
    (backend.spill id metadata data).2.pathFor other = backend.pathFor other := by
  simp only [pathFor, spill_root]

theorem spill_files (backend : LocalFsBackend) (id other : ObjectId) (metadata data : Bytes)
    (small : metadata.length < 2 ^ 32) :
    (backend.spill id metadata data).2.files.lookup (backend.pathFor other) =
      if other = id then some (encodeBody ⟨metadata, data⟩)
      else backend.files.lookup (backend.pathFor other) := by
  simp only [spill, if_pos small, FiniteMap.lookup_insert, FiniteMap.lookup_erase]
  by_cases same : other = id
  · simp only [same, if_true]
  · rw [if_neg (fun paths => same (backend.pathFor_injective paths)),
      if_neg (backend.tmpPathFor_ne id other), if_neg same]

theorem spill_holds (backend : LocalFsBackend) (id : ObjectId) (object : RestoredObject)
    (metadata_small : object.metadata.length < 2 ^ 32) (data_small : object.data.length < 2 ^ 64) :
    (backend.spill id object.metadata object.data).2.Holds id object := by
  refine ⟨?_, metadata_small, data_small⟩
  rw [spill_pathFor, spill_files _ _ _ _ _ metadata_small, if_pos rfl]

theorem spill_keeps {backend : LocalFsBackend} {id other : ObjectId} (different : other ≠ id)
    (holds : backend.Holds other object) (metadata data : Bytes) (small : metadata.length < 2 ^ 32) :
    (backend.spill id metadata data).2.Holds other object := by
  refine ⟨?_, holds.2⟩
  rw [spill_pathFor, spill_files _ _ _ _ _ small, if_neg different]
  exact holds.1

end LocalFsBackend
end Rayd.Spill
