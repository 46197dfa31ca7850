import Mathlib.Data.List.Basic

/-! Readers that take what they understand from the front of a text. A reader that
fails leaves the text as it was. A reader stops at a character if that character
is the same to it as the end of the text, whatever stands behind it. -/
namespace Rayd.Scan

abbrev Reader (A : Type) := StateT (List Char) Option A

def given (c : Char) : Reader Unit
  | [] => none
  | d :: rest => if d = c then some ((), rest) else none

def toDigit (radix : Nat) (c : Char) : Option Nat :=
  let value :=
    if c.isDigit then c.toNat - '0'.toNat
    else if c.isLower then c.toNat - 'a'.toNat + 10
    else if c.isUpper then c.toNat - 'A'.toNat + 10
    else radix
  if value < radix then some value else none

/-- Takes digits as long as there are any, with their value and their number. Values
from `bound` on do not fit the result's type. -/
def digits (radix bound : Nat) (maxDigits : Option Nat) :
    Nat → Nat → List Char → Option ((Nat × Nat) × List Char)
  | value, count, [] => some ((value, count), [])
  | value, count, c :: rest =>
    match toDigit radix c with
    | none => some ((value, count), c :: rest)
    | some digit =>
      if bound ≤ radix * value + digit ∨ maxDigits.any (· < count + 1) then none
      else digits radix bound maxDigits (radix * value + digit) (count + 1) rest

/-- No digit at all, or a zero in front of others where that is not allowed. -/
def refused (zeroPrefix : Bool) (head : Option Char) (count : Nat) : Bool :=
  count == 0 || (!zeroPrefix && head == some '0' && decide (1 < count))

def number (radix bound : Nat) (maxDigits : Option Nat) (zeroPrefix : Bool) : Reader Nat := fun text =>
  (digits radix bound maxDigits 0 0 text).bind fun read =>
    match refused zeroPrefix text.head? read.1.2 with
    | true => none
    | false => some (read.1.1, read.2)

/-- A reader that has to take the whole text. -/
def readAll (reader : Reader A) (text : List Char) : Option A :=
  match reader text with
  | some (value, []) => some value
  | _ => none

theorem bind_apply (reader : Reader A) (next : A → Reader B) (text : List Char) :
    (reader >>= next) text = (reader text).bind fun read => next read.1 read.2 := rfl

theorem orElse_apply (first second : Reader A) (text : List Char) :
    (first <|> second) text = (first text).or (second text) := by
  change (first text <|> second text) = _
  cases first text <;> rfl

/-- The same reading, with more text left over. -/
def behind (rest : List Char) (read : A × List Char) : A × List Char := (read.1, read.2 ++ rest)

def Stops (c : Char) (reader : Reader A) : Prop :=
  ∀ text rest, reader (text ++ c :: rest) = (reader text).map (behind (c :: rest))

namespace Stops
variable {c : Char}

theorem pure (value : A) : Stops c (pure value : Reader A) := fun _ _ => rfl

theorem failure : Stops c (failure : Reader A) := fun _ _ => rfl

theorem bind {reader : Reader A} {next : A → Reader B} (first : Stops c reader)
    (second : ∀ value, Stops c (next value)) : Stops c (reader >>= next) := by
  intro text rest
  simp only [bind_apply, first text rest]
  cases reader text with
  | none => rfl
  | some read => exact second read.1 read.2 rest

theorem orElse {first second : Reader A} (left : Stops c first) (right : Stops c second) :
    Stops c (first <|> second) := by
  intro text rest
  simp only [orElse_apply, left text rest, right text rest]
  cases first text <;> rfl

theorem given {d : Char} (different : c ≠ d) : Stops c (given d) := by
  intro text rest
  cases text with
  | nil => simp [Scan.given, different]
  | cons e text =>
    simp only [List.cons_append, Scan.given]
    split <;> rfl

theorem digits {radix bound : Nat} (unread : toDigit radix c = none) (value count : Nat)
    (text rest : List Char) : Scan.digits radix bound maxDigits value count (text ++ c :: rest) =
      (Scan.digits radix bound maxDigits value count text).map (behind (c :: rest)) := by
  induction text generalizing value count with
  | nil => simp [Scan.digits, unread, behind]
  | cons d text ih =>
    simp only [List.cons_append, Scan.digits]
    cases toDigit radix d with
    | none => rfl
    | some digit =>
      simp only [ih]
      split <;> rfl

theorem number {radix bound : Nat} (unread : toDigit radix c = none) :
    Stops c (number radix bound maxDigits zeroPrefix) := by
  intro text rest
  simp only [Scan.number, digits unread]
  cases text with
  | nil => simp [Scan.digits, behind, refused]
  | cons d text =>
    cases Scan.digits radix bound maxDigits 0 0 (d :: text) with
    | none => rfl
    | some read =>
      simp only [Option.map_some, Option.bind_some, behind, List.cons_append, List.head?_cons]
      cases refused zeroPrefix (some d) read.1.2 <;> rfl

end Stops

/-- What is left is an end of the text. -/
def Shrinks (reader : Reader A) : Prop :=
  ∀ text value rest, reader text = some (value, rest) → rest <:+ text

namespace Shrinks

theorem pure (value : A) : Shrinks (pure value : Reader A) := by
  intro text found rest read
  cases read
  exact List.suffix_refl _

theorem failure : Shrinks (failure : Reader A) := by
  intro text found rest read
  cases read

theorem bind {reader : Reader A} {next : A → Reader B} (first : Shrinks reader)
    (second : ∀ value, Shrinks (next value)) : Shrinks (reader >>= next) := by
  intro text found rest read
  rw [bind_apply] at read
  obtain ⟨⟨value, middle⟩, start, finish⟩ := Option.bind_eq_some_iff.mp read
  exact (second value middle found rest finish).trans (first text value middle start)

theorem orElse {first second : Reader A} (left : Shrinks first) (right : Shrinks second) :
    Shrinks (first <|> second) := by
  intro text found rest read
  rw [orElse_apply, Option.or_eq_some_iff] at read
  rcases read with read | ⟨_, read⟩
  · exact left text found rest read
  · exact right text found rest read

theorem given (c : Char) : Shrinks (given c) := by
  intro text found rest read
  cases text with
  | nil => cases read
  | cons d text =>
    simp only [Scan.given] at read
    split at read
    · cases read
      exact List.suffix_cons ..
    · cases read

theorem digits {radix bound : Nat} {text : List Char}
    (read : Scan.digits radix bound maxDigits value count text = some (found, rest)) : rest <:+ text := by
  induction text generalizing value count with
  | nil =>
    cases read
    exact List.suffix_refl _
  | cons c text ih =>
    simp only [Scan.digits] at read
    split at read
    · cases read
      exact List.suffix_refl _
    · split at read
      · cases read
      · exact (ih read).trans (List.suffix_cons ..)

theorem number : Shrinks (number radix bound maxDigits zeroPrefix) := by
  intro text found rest read
  obtain ⟨⟨taken, left⟩, found, kept⟩ := Option.bind_eq_some_iff.mp read
  split at kept
  · cases kept
  · cases kept
    exact digits found

end Shrinks

theorem given_append {text : List Char} (some : text ≠ []) (c : Char) (rest : List Char) :
    given c (text ++ rest) = (given c text).map (behind rest) := by
  cases text with
  | nil => exact absurd rfl some
  | cons d text =>
    simp only [List.cons_append, given]
    split <;> rfl

theorem number_head {text : List Char}
    (read : number radix bound maxDigits zeroPrefix text = some (value, rest)) :
    ∃ c tail, text = c :: tail ∧ (toDigit radix c).isSome = true := by
  cases text with
  | nil => simp [number, digits, refused] at read
  | cons c tail =>
    refine ⟨c, tail, rfl, ?_⟩
    cases digit : toDigit radix c with
    | some => rfl
    | none => simp [number, digits, digit, refused] at read

theorem toDigit_decimal {c : Char} (digit : c.isDigit = true) :
    toDigit 10 c = some (c.toNat - '0'.toNat) := by
  have range := Char.isDigit_iff_toNat.mp digit
  have small : c.toNat - '0'.toNat < 10 := by
    have nine : '9'.toNat = '0'.toNat + 9 := rfl
    omega
  simp only [toDigit, digit, if_true, if_pos small]

theorem le_ofDigitChars (text : List Char) (value : Nat) : value ≤ Nat.ofDigitChars 10 text value := by
  induction text generalizing value with
  | nil => exact Nat.le_refl _
  | cons c text ih =>
    rw [Nat.ofDigitChars_cons]
    exact Nat.le_trans (by omega) (ih _)

theorem digits_decimal {text : List Char} (decimal : ∀ c ∈ text, c.isDigit = true)
    (small : Nat.ofDigitChars 10 text value < bound) (count : Nat) :
    digits 10 bound none value count text =
      some ((Nat.ofDigitChars 10 text value, count + text.length), []) := by
  induction text generalizing value count with
  | nil => rfl
  | cons c text ih =>
    rw [Nat.ofDigitChars_cons] at small ⊢
    have digit := toDigit_decimal (decimal c List.mem_cons_self)
    have fits : ¬ bound ≤ 10 * value + (c.toNat - '0'.toNat) := by
      have grows := le_ofDigitChars text (10 * value + (c.toNat - '0'.toNat))
      omega
    have rest := ih (fun d member => decimal d (List.mem_cons_of_mem c member)) small (count + 1)
    simp only [digits, digit, Option.any_none, Bool.false_eq_true, or_false, if_neg fits, rest,
      List.length_cons, Nat.add_assoc, Nat.add_comm 1]

theorem number_toDigits (small : n < bound) :
    number 10 bound none true (Nat.toDigits 10 n) = some (n, []) := by
  have value : Nat.ofDigitChars 10 (Nat.toDigits 10 n) 0 = n :=
    Nat.ofDigitChars_toDigits (by decide) (by decide)
  have decimal : ∀ c ∈ Nat.toDigits 10 n, c.isDigit = true := fun c member =>
    Nat.isDigit_of_mem_toDigits (by decide) (by decide) member
  have some : (0 + (Nat.toDigits 10 n).length == 0) = false := by
    have positive := Nat.length_toDigits_pos (b := 10) (n := n)
    exact beq_false_of_ne (by omega)
  rw [number, digits_decimal decimal (value.symm ▸ small), value]
  simp only [Option.bind_some, refused, some, Bool.not_true, Bool.false_and, Bool.or_false]

end Rayd.Scan
