import Mathlib.Algebra.Group.Nat.Defs

/-! Computations that ask for a vector before they have what goes into it. Every request is
kept beside the number of bytes that there are for it. A request above `isize::MAX`
panics, and nothing comes after it. -/
namespace Reservation

structure Request where
  length : Nat
  available : Nat
  deriving DecidableEq

/-- The requests in order, and the result unless the last of them panicked. -/
structure Asking (E A : Type) where
  requests : List Request
  result : Option (Except E A)

namespace Asking
variable {E A B : Type}

def lift (result : Except E A) : Asking E A := ⟨[], some result⟩

def andThen (asking : Asking E A) (next : A → Asking E B) : Asking E B :=
  match asking.result with
  | none => ⟨asking.requests, none⟩
  | some (.error problem) => ⟨asking.requests, some (.error problem)⟩
  | some (.ok value) => ⟨asking.requests ++ (next value).requests, (next value).result⟩

instance : Monad (Asking E) where
  pure value := lift (.ok value)
  bind := andThen

def reserve (length available : Nat) : Asking E Unit :=
  ⟨[⟨length, available⟩], if length < 2 ^ 63 then some (.ok ()) else none⟩

/-- It comes back, and never asks for more than there is. -/
structure Cautious (asking : Asking E A) : Prop where
  returns : asking.result ≠ none
  covered : ∀ request ∈ asking.requests, request.length ≤ request.available

section Rules
variable {asking : Asking E A} {next : A → Asking E B}

theorem bind_ok (value : asking.result = some (.ok found)) :
    asking >>= next = ⟨asking.requests ++ (next found).requests, (next found).result⟩ := by
  show asking.andThen next = _
  rw [andThen, value]

theorem bind_error (failed : asking.result = some (.error problem)) :
    asking >>= next = ⟨asking.requests, some (.error problem)⟩ := by
  show asking.andThen next = _
  rw [andThen, failed]

theorem bind_none (panicked : asking.result = none) : asking >>= next = ⟨asking.requests, none⟩ := by
  show asking.andThen next = _
  rw [andThen, panicked]

theorem lift_ok_bind (value : A) (next : A → Asking E B) : lift (.ok value) >>= next = next value := rfl

section Reserve
variable {next : Unit → Asking E A} {length : Nat}

theorem reserve_bind_small (small : length < 2 ^ 63) (available : Nat) :
    reserve length available >>= next = ⟨⟨length, available⟩ :: (next ()).requests, (next ()).result⟩ :=
  bind_ok (if_pos small)

theorem reserve_bind_large (large : ¬ length < 2 ^ 63) (available : Nat) :
    reserve length available >>= next = ⟨[⟨length, available⟩], none⟩ :=
  bind_none (if_neg large)

end Reserve

theorem cautious_lift (result : Except E A) : (lift result).Cautious :=
  ⟨Option.some_ne_none result, fun _ member => by cases member⟩

theorem cautious_reserve (length available : Nat) :
    (reserve length available : Asking E Unit).Cautious ↔ length < 2 ^ 63 ∧ length ≤ available := by
  constructor
  · rintro ⟨returns, covered⟩
    exact ⟨Decidable.of_not_not fun large => returns (if_neg large), covered _ List.mem_cons_self⟩
  · rintro ⟨small, enough⟩
    constructor
    · rw [reserve, if_pos small]
      exact Option.some_ne_none _
    · intro request member
      rw [List.mem_singleton.mp member]
      exact enough

theorem cautious_bind :
    (asking >>= next).Cautious ↔
      asking.Cautious ∧ ∀ value, asking.result = some (.ok value) → (next value).Cautious := by
  rcases found : asking.result with _ | problem | value
  · rw [bind_none found]
    exact iff_of_false (fun cautious => cautious.returns rfl) fun cautious => cautious.1.returns found
  · rw [bind_error found]
    refine ⟨fun cautious => ⟨⟨found ▸ Option.some_ne_none _, cautious.covered⟩, fun _ other => by cases other⟩,
      fun cautious => ⟨Option.some_ne_none _, cautious.1.covered⟩⟩
  · rw [bind_ok found]
    constructor
    · intro cautious
      refine ⟨⟨found ▸ Option.some_ne_none _, fun request member => ?_⟩, fun other same => ?_⟩
      · exact cautious.covered request (List.mem_append_left _ member)
      · cases same
        exact ⟨cautious.returns, fun request member => cautious.covered request (List.mem_append_right _ member)⟩
    · rintro ⟨first, second⟩
      refine ⟨(second value rfl).returns, fun request member => ?_⟩
      rcases List.mem_append.mp member with before | after
      · exact first.covered request before
      · exact (second value rfl).covered request after

theorem cautious_reserve_bind {next : Unit → Asking E A} (calm : (next ()).Cautious) (length available : Nat) :
    (reserve length available >>= next).Cautious ↔ length < 2 ^ 63 ∧ length ≤ available := by
  rw [cautious_bind, cautious_reserve]
  exact and_iff_left fun _ _ => calm

end Rules
end Asking
end Reservation
