import Mathlib.Data.List.Basic

/-! Logs whose entries carry their position, counted from one, and the window of
newest entries that a bounded buffer keeps of a log. -/
namespace Log
variable {T : Type} {number : T → Nat} {log : List T}

def Numbered (number : T → Nat) (log : List T) : Prop :=
  ∀ (index : Nat) (entry : T), log[index]? = some entry → number entry = index + 1

/-- The part of a log that a buffer of this capacity still has. -/
def window (capacity : Nat) (log : List T) : List T := log.drop (log.length - capacity)

/-- A full buffer gives up its oldest entry. -/
def push (capacity : Nat) (kept : List T) (entry : T) : List T :=
  (if kept.length = capacity then kept.tail else kept) ++ [entry]

theorem push_window (positive : 0 < capacity) (log : List T) (entry : T) :
    push capacity (window capacity log) entry = window capacity (log ++ [entry]) := by
  have size : (window capacity log).length = min log.length capacity := by
    simp only [window, List.length_drop]
    omega
  have grown : window capacity (log ++ [entry]) = log.drop (log.length + 1 - capacity) ++ [entry] := by
    simp only [window, List.length_append, List.length_singleton]
    exact List.drop_append_of_le_length (by omega)
  rw [grown, push]
  split
  · rename_i full
    rw [window, List.tail_drop]
    congr 2
    omega
  · rename_i free
    rw [window]
    congr 2
    omega

namespace Numbered

theorem nil : Numbered number [] := by
  intro index entry found
  cases found

theorem append (numbered : Numbered number log) (next : number entry = log.length + 1) :
    Numbered number (log ++ [entry]) := by
  intro index other found
  by_cases old : index < log.length
  · exact numbered index other (by rwa [List.getElem?_append_left old] at found)
  · rw [List.getElem?_append_right (by omega)] at found
    obtain ⟨here, same⟩ := List.getElem?_eq_some_iff.mp found
    simp only [List.length_singleton] at here
    have last : index = log.length := by omega
    simp only [last, Nat.sub_self, List.getElem_cons_zero] at same
    rw [← same, next, last]

theorem of_append (numbered : Numbered number (log ++ more)) : Numbered number log := by
  intro index entry found
  have inside : index < log.length := (List.getElem?_eq_some_iff.mp found).1
  exact numbered index entry (by rwa [List.getElem?_append_left inside])

theorem lt_of_append (numbered : Numbered number (log ++ more)) (member : entry ∈ more) :
    log.length < number entry := by
  obtain ⟨index, found⟩ := List.mem_iff_getElem?.mp member
  have place := numbered (log.length + index) entry
    (by rw [List.getElem?_append_right (by omega), Nat.add_sub_cancel_left, found])
  omega

theorem getElem?_of_mem (numbered : Numbered number log) (member : entry ∈ log) :
    1 ≤ number entry ∧ log[number entry - 1]? = some entry := by
  obtain ⟨index, found⟩ := List.mem_iff_getElem?.mp member
  have place := numbered index entry found
  exact ⟨by omega, by rw [place, Nat.add_sub_cancel, found]⟩

theorem le_length (numbered : Numbered number log) (member : entry ∈ log) : number entry ≤ log.length := by
  obtain ⟨positive, found⟩ := numbered.getElem?_of_mem member
  have inside := (List.getElem?_eq_some_iff.mp found).1
  omega

theorem mem_drop (numbered : Numbered number log) (member : entry ∈ log) :
    entry ∈ log.drop count ↔ count < number entry := by
  constructor
  · intro dropped
    obtain ⟨index, found⟩ := List.mem_iff_getElem?.mp dropped
    rw [List.getElem?_drop] at found
    have place := numbered _ entry found
    omega
  · intro above
    obtain ⟨positive, found⟩ := numbered.getElem?_of_mem member
    refine List.mem_iff_getElem?.mpr ⟨number entry - 1 - count, ?_⟩
    rw [List.getElem?_drop, ← found]
    congr 1
    omega

theorem mem_take (numbered : Numbered number log) (member : entry ∈ log) :
    entry ∈ log.take count ↔ number entry ≤ count := by
  obtain ⟨positive, found⟩ := numbered.getElem?_of_mem member
  constructor
  · intro taken
    obtain ⟨index, found⟩ := List.mem_iff_getElem?.mp taken
    obtain ⟨inside, _⟩ := List.getElem?_eq_some_iff.mp found
    rw [List.length_take] at inside
    rw [List.getElem?_take_of_lt (by omega)] at found
    have place := numbered _ entry found
    omega
  · intro below
    refine List.mem_iff_getElem?.mpr ⟨number entry - 1, ?_⟩
    rw [List.getElem?_take_of_lt (by omega), found]

theorem filter_take (numbered : Numbered number log) (low : count ≤ above) :
    (log.take count).filter (fun entry => above < number entry) = [] := by
  rw [List.filter_eq_nil_iff]
  intro entry member
  have place := (numbered.mem_take (List.mem_of_mem_take member)).mp member
  simp only [decide_eq_true_eq]
  omega

/-- Among the entries from one place on, those above a number are those from the
later of the two places on. -/
theorem filter_drop (numbered : Numbered number log) (count above : Nat) :
    (log.drop count).filter (fun entry => above < number entry) = log.drop (max count above) := by
  have kept : ∀ {count}, above ≤ count →
      (log.drop count).filter (fun entry => above < number entry) = log.drop count := by
    intro count low
    rw [List.filter_eq_self]
    intro entry member
    have place := (numbered.mem_drop (List.mem_of_mem_drop member)).mp member
    simp only [decide_eq_true_eq]
    omega
  rcases Nat.le_total above count with low | high
  · rw [Nat.max_eq_left low, kept low]
  · have splits : ∀ place, place ≤ above → log.filter (fun entry => above < number entry) =
        (log.drop place).filter fun entry => above < number entry := by
      intro place low
      conv_lhs => rw [← List.take_append_drop place log, List.filter_append, numbered.filter_take low]
      rfl
    rw [Nat.max_eq_right high, ← splits count high, splits above (Nat.le_refl _), kept (Nat.le_refl _)]

theorem of_drop_cons (numbered : Numbered number log) (first : log.drop count = entry :: rest) :
    number entry = count + 1 ∧ count < log.length ∧ rest = log.drop (count + 1) := by
  have inside : count < log.length := by
    by_contra outside
    rw [List.drop_of_length_le (Nat.not_lt.mp outside)] at first
    cases first
  rw [List.drop_eq_getElem_cons inside] at first
  cases first
  exact ⟨numbered count _ (List.getElem?_eq_getElem inside), inside, rfl⟩

theorem eq_of_number (numbered : Numbered number log) (member : entry ∈ log) (other : second ∈ log)
    (same : number entry = number second) : entry = second := by
  obtain ⟨_, found⟩ := numbered.getElem?_of_mem member
  obtain ⟨_, again⟩ := numbered.getElem?_of_mem other
  rw [same, again] at found
  exact (Option.some.inj found).symm

theorem head?_drop (numbered : Numbered number log) (inside : count < log.length) :
    (log.drop count).head?.map number = some (count + 1) := by
  rw [List.head?_drop, List.getElem?_eq_getElem inside, Option.map_some,
    numbered count _ (List.getElem?_eq_getElem inside)]

theorem getLast?_drop (numbered : Numbered number log) (inside : count < log.length) :
    (log.drop count).getLast?.map number = some log.length := by
  rw [List.getLast?_drop, if_neg (by omega), List.getLast?_eq_getElem?, List.getElem?_eq_getElem (by omega),
    Option.map_some, numbered (log.length - 1) _ (List.getElem?_eq_getElem (by omega))]
  congr 1
  omega

end Numbered
end Log
