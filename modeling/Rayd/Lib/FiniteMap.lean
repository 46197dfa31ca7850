import Mathlib.Data.List.AList

/-! Finite maps with one value type, in some iteration order. Lookups after an
update are stated with a single equality test, the form the case splits of a
transition proof need. -/

abbrev FiniteMap (K V : Type) := AList fun _ : K => V

namespace FiniteMap
variable {K V W : Type} [DecidableEq K]

theorem lookup_insert (m : FiniteMap K V) (key : K) (value : V) (other : K) :
    (m.insert key value).lookup other = if other = key then some value else m.lookup other := by
  by_cases same : other = key
  · subst other
    simp only [AList.lookup_insert, if_true]
  · simp only [AList.lookup_insert_ne same, if_neg same]

theorem lookup_erase (m : FiniteMap K V) (key other : K) :
    (m.erase key).lookup other = if other = key then none else m.lookup other := by
  by_cases same : other = key
  · subst other
    simp only [AList.lookup_erase, if_true]
  · simp only [AList.lookup_erase_ne same, if_neg same]

theorem lookup_insert_self (m : FiniteMap K V) (key : K) (value : V) :
    (m.insert key value).lookup key = some value :=
  AList.lookup_insert m

/-- A map after a value was put under each of these keys, in any order and with repeats. -/
theorem lookup_foldl_insert (f : K → V) (keys : List K) (m : FiniteMap K V) (other : K) :
    (keys.foldl (fun m key => m.insert key (f key)) m).lookup other =
      if other ∈ keys then some (f other) else m.lookup other := by
  induction keys generalizing m with
  | nil => simp
  | cons key keys ih =>
    rw [List.foldl_cons, ih, lookup_insert]
    by_cases same : other = key <;> simp [same]

theorem mem_keys_iff {m : FiniteMap K V} {key : K} : key ∈ m.keys ↔ ∃ value, m.lookup key = some value := by
  rw [← AList.mem_keys, ← AList.lookup_isSome, Option.isSome_iff_exists]

theorem length_keys_insert {m : FiniteMap K V} (value : V) (absent : m.lookup key = none) :
    (m.insert key value).keys.length = m.keys.length + 1 := by
  have new : key ∉ m.keys := fun member => by
    obtain ⟨value, found⟩ := mem_keys_iff.mp member
    rw [absent] at found
    cases found
  rw [AList.keys_insert, List.length_cons, List.erase_of_not_mem new]

theorem length_keys_erase {m : FiniteMap K V} (found : m.lookup key = some value) :
    (m.erase key).keys.length + 1 = m.keys.length := by
  have member := mem_keys_iff.mpr ⟨value, found⟩
  rw [AList.keys_erase, List.length_erase_of_mem member]
  exact Nat.sub_add_cancel (List.length_pos_of_mem member)

/-- The values, in the order of iteration. -/
def values (m : FiniteMap K V) : List V := m.entries.map fun entry => entry.2

theorem values_insert (m : FiniteMap K V) (key : K) (value : V) :
    values (m.insert key value) = value :: values (m.erase key) := rfl

theorem values_erase_absent {m : FiniteMap K V} (absent : m.lookup key = none) :
    values (m.erase key) = values m := by
  have new : key ∉ m.keys := fun member => by
    obtain ⟨value, found⟩ := mem_keys_iff.mp member
    rw [absent] at found
    cases found
  exact congrArg (List.map fun entry => entry.2) (List.kerase_of_notMem_keys new)

theorem values_erase_perm {m : FiniteMap K V} (found : m.lookup key = some value) :
    (value :: values (m.erase key)).Perm (values m) := by
  obtain ⟨held, first, last, _, whole, erased⟩ :=
    List.exists_of_kerase (mem_keys_iff.mpr ⟨value, found⟩)
  have member : ⟨key, held⟩ ∈ m.entries := by
    rw [whole]
    exact List.mem_append_right _ List.mem_cons_self
  have same : held = value := Option.some.inj ((AList.mem_lookup_iff.mpr member).symm.trans found)
  subst same
  have rest : (m.erase key).entries = first ++ last := erased
  rw [values, rest, values, whole, List.map_append, List.map_append, List.map_cons]
  exact List.perm_middle.symm

theorem countP_values_insert_new (p : V → Bool) {m : FiniteMap K V} (value : V)
    (absent : m.lookup key = none) :
    (values (m.insert key value)).countP p = (values m).countP p + (p value).toNat := by
  rw [values_insert, values_erase_absent absent, List.countP_cons]
  cases p value <;> rfl

theorem countP_values_insert (p : V → Bool) {m : FiniteMap K V} (value : V)
    (found : m.lookup key = some old) :
    (values (m.insert key value)).countP p + (p old).toNat = (values m).countP p + (p value).toNat := by
  rw [values_insert, ← (values_erase_perm found).countP_eq, List.countP_cons, List.countP_cons]
  cases p old <;> cases p value <;> simp

def mapValues (f : V → W) (m : FiniteMap K V) : FiniteMap K W where
  entries := m.entries.map (.map id fun _ => f)
  nodupKeys := List.NodupKeys.map₂ _ _ m.nodupKeys

theorem lookup_mapValues (f : V → W) (m : FiniteMap K V) (key : K) :
    (mapValues f m).lookup key = (m.lookup key).map f :=
  List.dlookup_map₂ key

omit [DecidableEq K] in
theorem values_mapValues (f : V → W) (m : FiniteMap K V) : values (mapValues f m) = (values m).map f := by
  simp only [values, mapValues, List.map_map]
  rfl

end FiniteMap
