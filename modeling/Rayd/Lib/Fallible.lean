import Mathlib.Data.List.Forall2

/-! When computations that may fail come to a result: in sequence, with errors translated,
and one for each element of a list. -/
namespace Fallible
variable {A B E F : Type}

theorem bind_ok_iff {x : Except E A} {f : A → Except E B} :
    x >>= f = .ok result ↔ ∃ value, x = .ok value ∧ f value = .ok result := by
  cases x with
  | ok value => exact ⟨fun done => ⟨value, rfl, done⟩, fun ⟨_, same, done⟩ => by cases same; exact done⟩
  | error failure => exact ⟨nofun, fun ⟨_, same, _⟩ => nomatch same⟩

theorem bind_error_iff {x : Except E A} {f : A → Except E B} :
    x >>= f = .error reason ↔ x = .error reason ∨ ∃ value, x = .ok value ∧ f value = .error reason := by
  cases x with
  | ok value =>
    constructor
    · exact fun failed => .inr ⟨value, rfl, failed⟩
    · rintro (other | ⟨_, same, failed⟩)
      · cases other
      · cases same
        exact failed
  | error other =>
    constructor
    · intro failed
      cases failed
      exact .inl rfl
    · rintro (same | ⟨_, same, _⟩)
      · cases same
        rfl
      · cases same

theorem mapError_ok_iff {x : Except E A} {f : E → F} : x.mapError f = .ok value ↔ x = .ok value := by
  cases x <;> simp [Except.mapError]

theorem mapM_ok_iff {f : A → Except E B} {results : List B} (inputs : List A) :
    inputs.mapM f = .ok results ↔ List.Forall₂ (fun input result => f input = .ok result) inputs results := by
  induction inputs generalizing results with
  | nil =>
    rw [List.mapM_nil, List.forall₂_nil_left_iff]
    exact ⟨fun same => (Except.ok.inj same).symm, fun same => same ▸ rfl⟩
  | cons input rest ih =>
    rw [List.mapM_cons, List.forall₂_cons_left_iff]
    simp only [bind_ok_iff, ih]
    constructor
    · rintro ⟨first, done, others, later, same⟩
      cases same
      exact ⟨first, others, done, later, rfl⟩
    · rintro ⟨first, others, done, later, rfl⟩
      exact ⟨first, done, others, later, rfl⟩

theorem forall₂_append_left {R : A → B → Prop} {results : List B} (before : List A) {after : List A} :
    List.Forall₂ R (before ++ after) results ↔
      ∃ first rest, results = first ++ rest ∧ List.Forall₂ R before first ∧ List.Forall₂ R after rest := by
  induction before generalizing results with
  | nil => simp
  | cons input before ih =>
    simp only [List.cons_append, List.forall₂_cons_left_iff, ih]
    constructor
    · rintro ⟨result, _, related, ⟨first, rest, rfl, former, later⟩, rfl⟩
      exact ⟨result :: first, rest, rfl, ⟨result, first, related, former, rfl⟩, later⟩
    · rintro ⟨_, rest, rfl, ⟨result, first, related, former, rfl⟩, later⟩
      exact ⟨result, first ++ rest, related, ⟨first, rest, rfl, former, later⟩, rfl⟩

/-- The first element that fails decides. -/
theorem mapM_error_iff {f : A → Except E B} (inputs : List A) :
    inputs.mapM f = .error reason ↔ ∃ before input after results, inputs = before ++ input :: after ∧
      List.Forall₂ (fun input result => f input = .ok result) before results ∧ f input = .error reason := by
  induction inputs with
  | nil =>
    refine iff_of_false (fun failed => by cases failed) ?_
    rintro ⟨before, input, after, _, whole, _⟩
    simp at whole
  | cons input rest ih =>
    rw [List.mapM_cons, bind_error_iff]
    constructor
    · rintro (failed | ⟨first, done, later⟩)
      · exact ⟨[], input, rest, [], rfl, .nil, failed⟩
      · rcases bind_error_iff.mp later with failed | ⟨_, _, none⟩
        · obtain ⟨before, other, after, results, rfl, passed, failed⟩ := ih.mp failed
          exact ⟨input :: before, other, after, first :: results, rfl, .cons done passed, failed⟩
        · cases none
    · rintro ⟨before, other, after, results, whole, passed, failed⟩
      cases passed with
      | nil =>
        cases whole
        exact .inl failed
      | cons done passed =>
        cases whole
        refine .inr ⟨_, done, bind_error_iff.mpr (.inl (ih.mpr ?_))⟩
        exact ⟨_, _, _, _, rfl, passed, failed⟩

theorem exists_forall₂_iff {related : A → B → Prop} (inputs : List A) :
    (∃ results, List.Forall₂ related inputs results) ↔ ∀ input ∈ inputs, ∃ result, related input result := by
  induction inputs with
  | nil => simp
  | cons input rest ih =>
    rw [List.forall_mem_cons, ← ih]
    simp only [List.forall₂_cons_left_iff]
    constructor
    · rintro ⟨_, first, others, here, later, rfl⟩
      exact ⟨⟨first, here⟩, others, later⟩
    · rintro ⟨⟨first, here⟩, others, later⟩
      exact ⟨_, first, others, here, later, rfl⟩

end Fallible
