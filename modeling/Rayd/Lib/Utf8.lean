import Rayd.Lib.Memory

/-! UTF-8 text from arbitrary bytes. A sequence that is no character is given up at the
first byte that cannot belong to it and becomes one replacement character. -/
namespace Utf8
open Memory

def encode (text : List Char) : Bytes := text.flatMap String.utf8EncodeChar

def Valid (bytes : Bytes) : Prop := ∃ text, bytes = encode text

def replacement : Char := '�'

/-- The character the bytes begin with. -/
def first? (bytes : Bytes) : Option Char := bytes.toByteArray.utf8DecodeChar? 0

def isContinuation (byte : UInt8) : Bool := byte &&& 192 == 128

/-- What may come second in a sequence of three: no overlong forms, no surrogates. -/
def fitsThree (first second : UInt8) : Bool :=
  if first = 0xE0 then 0xA0 ≤ second && second ≤ 0xBF
  else if first = 0xED then 0x80 ≤ second && second ≤ 0x9F
  else 0x80 ≤ second && second ≤ 0xBF

/-- What may come second in a sequence of four: no overlong forms, nothing too large. -/
def fitsFour (first second : UInt8) : Bool :=
  if first = 0xF0 then 0x90 ≤ second && second ≤ 0xBF
  else if first = 0xF4 then 0x80 ≤ second && second ≤ 0x8F
  else 0x80 ≤ second && second ≤ 0xBF

/-- How many bytes are given up where no character begins. Behind the end there are zeros. -/
def givenUp (bytes : Bytes) : Nat :=
  let first := bytes.getD 0 0
  let second := bytes.getD 1 0
  if 0xE0 ≤ first ∧ first ≤ 0xEF then if fitsThree first second then 2 else 1
  else if 0xF0 ≤ first ∧ first ≤ 0xF4 then
    if fitsFour first second then if isContinuation (bytes.getD 2 0) then 3 else 2 else 1
  else 1

theorem givenUp_pos (bytes : Bytes) : 0 < givenUp bytes := by
  simp only [givenUp]
  split_ifs <;> decide

def lossy (bytes : Bytes) : List Char :=
  if bytes = [] then []
  else
    match first? bytes with
    | some c => c :: lossy (bytes.drop c.utf8Size)
    | none => replacement :: lossy (bytes.drop (givenUp bytes))
termination_by bytes.length
decreasing_by
  · have some : 0 < bytes.length := List.length_pos_iff.mpr ‹_›
    have positive := c.utf8Size_pos
    rw [List.length_drop]
    omega
  · have some : 0 < bytes.length := List.length_pos_iff.mpr ‹_›
    have positive := givenUp_pos bytes
    rw [List.length_drop]
    omega

@[simp] theorem encode_nil : encode [] = [] := rfl

@[simp] theorem encode_cons (c : Char) (text : List Char) :
    encode (c :: text) = String.utf8EncodeChar c ++ encode text := rfl

@[simp] theorem encode_append (first second : List Char) :
    encode (first ++ second) = encode first ++ encode second :=
  List.flatMap_append

section First
variable {bytes rest : Bytes} {c : Char}

theorem first?_encode (c : Char) (rest : Bytes) : first? (String.utf8EncodeChar c ++ rest) = some c := by
  rw [first?, List.toByteArray_append]
  exact ByteArray.utf8DecodeChar?_utf8EncodeChar_append

theorem first?_some_iff : first? bytes = some c ↔ ∃ rest, bytes = String.utf8EncodeChar c ++ rest := by
  constructor
  · intro found
    obtain ⟨rest, whole⟩ := ByteArray.exists_of_utf8DecodeChar?_eq_some found
    have lists := congrArg (fun bytes => bytes.data.toList) whole
    simp only [List.data_toByteArray, ByteArray.toList_data_append] at lists
    exact ⟨_, lists⟩
  · rintro ⟨rest, rfl⟩
    exact first?_encode c rest

end First

@[simp] theorem lossy_nil : lossy [] = [] := by
  rw [lossy, if_pos rfl]

theorem lossy_encodeChar (c : Char) (rest : Bytes) :
    lossy (String.utf8EncodeChar c ++ rest) = c :: lossy rest := by
  rw [lossy, if_neg (by simp), first?_encode]
  simp only [List.drop_left' (String.length_utf8EncodeChar c)]

theorem lossy_of_none (some : bytes ≠ []) (none : first? bytes = none) :
    lossy bytes = replacement :: lossy (bytes.drop (givenUp bytes)) := by
  rw [lossy, if_neg some, none]

theorem lossy_encode (text : List Char) : lossy (encode text) = text := by
  induction text with
  | nil => exact lossy_nil
  | cons c text ih => rw [encode_cons, lossy_encodeChar, ih]

theorem encode_injective {text other : List Char} (same : encode text = encode other) : text = other := by
  rw [← lossy_encode text, same, lossy_encode]

theorem encode_lossy {bytes : Bytes} (kept : replacement ∉ lossy bytes) : encode (lossy bytes) = bytes := by
  fun_induction lossy bytes with
  | case1 => rfl
  | case2 bytes some c found ih =>
    obtain ⟨rest, rfl⟩ := first?_some_iff.mp found
    rw [List.drop_left' (String.length_utf8EncodeChar c)] at ih kept ⊢
    rw [encode_cons, ih fun later => kept (List.mem_cons_of_mem _ later)]
  | case3 => exact absurd List.mem_cons_self kept

theorem eq_of_encode_lossy {bytes : Bytes} (text : List Char) (clean : replacement ∉ text)
    (same : encode (lossy bytes) = encode text) : bytes = encode text := by
  have texts := encode_injective same
  rw [← same, encode_lossy (texts ▸ clean)]

theorem valid_iff_encode_lossy : Valid bytes ↔ encode (lossy bytes) = bytes := by
  constructor
  · rintro ⟨text, rfl⟩
    rw [lossy_encode]
  · intro kept
    exact ⟨lossy bytes, kept.symm⟩

theorem Valid.first? {bytes : Bytes} (valid : Valid bytes) (some : bytes ≠ []) : first? bytes ≠ none := by
  obtain ⟨text, rfl⟩ := valid
  cases text with
  | nil => exact absurd rfl some
  | cons c text =>
    rw [encode_cons, first?_encode]
    exact Option.some_ne_none c

section Separators
variable {separator : UInt8} {bytes rest : Bytes}

theorem encodeChar_ascii (ascii : separator < 128) :
    String.utf8EncodeChar (Char.ofNat separator.toNat) = [separator] := by
  have small : separator.toNat < 128 := ascii
  have valid : separator.toNat.isValidChar := .inl (by omega)
  have value : (Char.ofNat separator.toNat).val.toNat = separator.toNat := by
    rw [Char.ofNat, dif_pos valid]
    rfl
  rw [String.utf8EncodeChar.eq_1, value, if_pos (by omega), UInt8.ofNat_toNat]

/-- An ASCII byte stands only at the start of a character. -/
theorem ascii_first (ascii : separator < 128) (c : Char)
    (inside : String.utf8EncodeChar c = bytes ++ separator :: rest) : bytes = [] := by
  have large : ∀ byte ∈ (String.utf8EncodeChar c).tail, 128 ≤ byte.toNat := by
    rw [String.utf8EncodeChar.eq_1]
    split_ifs <;> simp <;> omega
  cases bytes with
  | nil => rfl
  | cons first bytes =>
    have member : separator ∈ (String.utf8EncodeChar c).tail := by
      rw [inside]
      simp
    exact absurd ascii (Nat.not_lt.mpr (large separator member))

/-- ASCII bytes of encoded text are its ASCII characters. -/
theorem mem_encode_ascii (ascii : separator < 128) {text : List Char} (member : separator ∈ encode text) :
    Char.ofNat separator.toNat ∈ text := by
  obtain ⟨c, here, inside⟩ := List.mem_flatMap.mp member
  obtain ⟨before, behind, whole⟩ := List.append_of_mem inside
  rw [ascii_first ascii c whole] at whole
  have other := first?_encode (Char.ofNat separator.toNat) behind
  rw [encodeChar_ascii ascii, List.singleton_append, ← List.nil_append (separator :: behind), ← whole,
    ← List.append_nil (String.utf8EncodeChar c), first?_encode] at other
  exact Option.some.inj other ▸ here

theorem fitsThree_ascii (ascii : separator < 128) (first : UInt8) : fitsThree first separator = false := by
  have small : separator.toNat < 128 := ascii
  simp only [fitsThree]
  split_ifs <;> simp [UInt8.le_iff_toNat_le] <;> omega

theorem fitsFour_ascii (ascii : separator < 128) (first : UInt8) : fitsFour first separator = false := by
  have small : separator.toNat < 128 := ascii
  simp only [fitsFour]
  split_ifs <;> simp [UInt8.le_iff_toNat_le] <;> omega

theorem isContinuation_ascii (ascii : separator < 128) : isContinuation separator = false := by
  have all : ∀ n < 128, n &&& 192 ≠ 128 := by decide
  have different := all separator.toNat ascii
  refine beq_false_of_ne fun same => different ?_
  rw [← UInt8.toNat_inj, UInt8.toNat_and] at same
  exact same

/-- A separator is as good as the end. -/
theorem givenUp_append (ascii : separator < 128) (some : bytes ≠ []) (rest : Bytes) :
    givenUp (bytes ++ separator :: rest) = givenUp bytes ∧ givenUp bytes ≤ bytes.length := by
  have zero : (0 : UInt8) < 128 := by decide
  match bytes, some with
  | [first], _ =>
    simp [givenUp, fitsThree_ascii ascii, fitsFour_ascii ascii, fitsThree_ascii zero, fitsFour_ascii zero]
  | [first, second], _ =>
    simp only [givenUp, List.cons_append, List.nil_append, List.getD_cons_zero, List.getD_cons_succ, List.getD_nil,
      isContinuation_ascii ascii, isContinuation_ascii zero, Bool.false_eq_true, if_false, true_and]
    split_ifs <;> simp
  | first :: second :: third :: bytes, _ =>
    simp only [givenUp, List.cons_append, List.getD_cons_zero, List.getD_cons_succ, true_and]
    split_ifs <;> simp

theorem first?_append_none (ascii : separator < 128) (some : bytes ≠ []) (none : first? bytes = none)
    (rest : Bytes) : first? (bytes ++ separator :: rest) = Option.none := by
  refine Option.eq_none_iff_forall_not_mem.mpr fun c found => ?_
  obtain ⟨behind, whole⟩ := first?_some_iff.mp found
  have early : ∀ more, bytes ≠ String.utf8EncodeChar c ++ more := by
    rintro more rfl
    cases none.symm.trans (first?_encode c more)
  rcases List.append_eq_append_iff.mp whole with ⟨inner, character, behind⟩ | ⟨more, character, _⟩
  · cases inner with
    | nil => exact early [] (by rw [character, List.append_nil, List.append_nil])
    | cons byte inner =>
      cases behind
      exact some (ascii_first ascii c character)
  · exact early more character

/-- Text on both sides of a separator is decoded apart. -/
theorem lossy_append (ascii : separator < 128) (bytes rest : Bytes) :
    lossy (bytes ++ separator :: rest) = lossy bytes ++ Char.ofNat separator.toNat :: lossy rest := by
  fun_induction lossy bytes with
  | case1 =>
    have here := lossy_encodeChar (Char.ofNat separator.toNat) rest
    rwa [encodeChar_ascii ascii] at here
  | case2 bytes some c found ih =>
    obtain ⟨behind, rfl⟩ := first?_some_iff.mp found
    rw [List.drop_left' (String.length_utf8EncodeChar c)] at ih ⊢
    rw [List.append_assoc, lossy_encodeChar, ih, List.cons_append]
  | case3 bytes some none ih =>
    obtain ⟨same, inside⟩ := givenUp_append ascii some rest
    rw [lossy_of_none (by simp) (first?_append_none ascii some none rest), same,
      List.drop_append_of_le_length inside, ih, List.cons_append]

theorem mem_of_mem_encode_lossy (ascii : separator < 128) (member : separator ∈ encode (lossy bytes)) :
    separator ∈ bytes := by
  fun_induction lossy bytes with
  | case1 => exact member
  | case2 bytes some c found ih =>
    obtain ⟨rest, rfl⟩ := first?_some_iff.mp found
    rw [List.drop_left' (String.length_utf8EncodeChar c)] at ih member
    rw [encode_cons, List.mem_append] at member
    exact List.mem_append.mpr (member.imp_right ih)
  | case3 bytes some none ih =>
    rw [encode_cons, List.mem_append] at member
    rcases member with member | member
    · have three : String.utf8EncodeChar replacement = [239, 191, 189] := by decide
      have large : ∀ byte ∈ String.utf8EncodeChar replacement, ¬ byte < 128 := by simp [three]
      exact absurd ascii (large separator member)
    · exact List.mem_of_mem_drop (ih member)

end Separators

end Utf8
