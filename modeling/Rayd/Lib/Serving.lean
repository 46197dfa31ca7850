/-! A service that takes calls one after the other. -/
namespace Serving
variable {S T C R : Type}

/-- The replies to a list of calls. -/
def replies (serve : S → C → R × S) (s : S) : List C → List R
  | [] => []
  | call :: calls => (serve s call).1 :: replies serve (serve s call).2 calls

/-- Two services that reply alike and stay related under every call give the same replies. -/
theorem replies_eq {serve : S → C → R × S} {other : T → C → R × T} (related : S → T → Prop) (fits : C → Prop)
    (step : ∀ {s t call}, related s t → fits call →
      (serve s call).1 = (other t call).1 ∧ related (serve s call).2 (other t call).2)
    {s : S} {t : T} (start : related s t) (calls : List C) (all : ∀ call ∈ calls, fits call) :
    replies serve s calls = replies other t calls := by
  induction calls generalizing s t with
  | nil => rfl
  | cons call calls ih =>
    obtain ⟨first, later⟩ := List.forall_mem_cons.mp all
    obtain ⟨same, after⟩ := step start first
    rw [replies, replies, same, ih after later]

end Serving
