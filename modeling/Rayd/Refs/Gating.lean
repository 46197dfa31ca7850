import Rayd.Refs.Settled

/-! The liveness gate of `_ensure_local_for_remote_refs`, ref by ref. The list of nodes
that one ref hands on to the next is empty when the first remote owner was answered from
the index: it stands for a list that was never asked for, and the later refs take it for
the answer. -/
namespace Rayd.Refs
open Memory Core Plasma Gcs Raylet Raylet.Fetch Tasks Fallible

/-- The pass ends with `OwnerDiedError`. -/
def OwnerDied (outcome : Except Raised Unit) : Prop := ∃ message, outcome = .error (.ownerDied message)

namespace Turn

/-- The owner is gone by the index, or, where that does not know it, by the list. -/
def OwnerGone (turn : Turn) (listed : Except String (List NodeInfo)) (owner : NodeId) : Prop :=
  match turn.index.statusOf owner with
  | some status => status ≠ .alive
  | none => ∃ nodes, listed = .ok nodes ∧ ownerStatus nodes owner ≠ some .alive

section Gate
variable {turn : Turn} {binding : GcsBinding} {owner : NodeId} {cache : Option (List NodeInfo)}

theorem fetchWithRetries_native {id : ObjectId} {attempt : GcsBinding × Session}
    {later : List (GcsBinding × Session)} (failed : fetchWithRetries id owner attempt later = .error raised) :
    ∃ failure, raised = .native failure := by
  induction later generalizing attempt with
  | nil =>
    rw [fetchWithRetries] at failed
    cases answered : tryFetch id owner attempt with
    | ok =>
      rw [answered] at failed
      cases failed
    | error failure =>
      rw [answered] at failed
      cases failed
      exact ⟨failure, rfl⟩
  | cons next rest ih =>
    rw [fetchWithRetries] at failed
    split at failed
    · cases failed
    · split at failed
      · exact ih failed
      · cases failed
        exact ⟨_, rfl⟩
    · cases failed
      exact ⟨_, rfl⟩

/-- What comes after the gate fails with an error of the native calls only. -/
theorem fetch_not_ownerDied {rest : Unit → Except Raised (List NodeInfo)}
    (after : ∀ message, rest () ≠ .error (.ownerDied message)) (message : String) :
    turn.fetch owner >>= rest ≠ .error (.ownerDied message) := by
  intro died
  rcases bind_error_iff.mp died with failed | ⟨_, _, failed⟩
  · obtain ⟨_, native⟩ := fetchWithRetries_native failed
    cases native
  · exact after message failed

theorem resolveRemoteRef_ownerDied_iff :
    (∃ message, turn.resolveRemoteRef binding owner cache = .error (.ownerDied message)) ↔
      turn.OwnerGone (cache.elim binding.listNodes .ok) owner := by
  simp only [resolveRemoteRef, OwnerGone]
  cases turn.index.statusOf owner with
  | some status =>
    by_cases alive : status = .alive
    · simp only [alive, ne_eq, not_true_eq_false, if_false, iff_false, not_exists]
      exact fetch_not_ownerDied fun message other => by cases other
    · simp [alive]
  | none =>
    have asked : ∀ nodes, cachedNodes binding cache = .ok nodes ↔ cache.elim binding.listNodes .ok = .ok nodes := by
      intro nodes
      cases cache with
      | some nodes => simp [cachedNodes]
      | none => exact mapError_ok_iff
    constructor
    · rintro ⟨message, died⟩
      rcases bind_error_iff.mp died with failed | ⟨nodes, answered, gone⟩
      · cases cache with
        | some nodes => cases failed
        | none =>
          rw [cachedNodes] at failed
          cases listed : binding.listNodes with
          | ok nodes =>
            rw [listed] at failed
            cases failed
          | error failure =>
            rw [listed] at failed
            cases failed
      · refine ⟨nodes, (asked nodes).mp answered, fun alive => ?_⟩
        rw [if_neg (not_not_intro alive)] at gone
        exact fetch_not_ownerDied (fun message other => by cases other) message gone
    · rintro ⟨nodes, answered, gone⟩
      rw [(asked nodes).mpr answered]
      exact ⟨_, if_pos gone⟩

end Gate
end Turn

section Batch
variable {gcs : Option GcsBinding} {turn : Turn} {earlier : List Turn}

theorem ensure_one_ownerDied_iff (cache : Option (List NodeInfo)) :
    OwnerDied (ensureLocalForRemoteRefs gcs cache [turn]) ↔
      ∃ binding owner, turn.remoteOwner gcs = some (binding, owner) ∧
        turn.OwnerGone (cache.elim binding.listNodes .ok) owner := by
  rw [OwnerDied, ensureLocalForRemoteRefs]
  cases remote : turn.remoteOwner gcs with
  | none =>
    refine iff_of_false ?_ ?_
    · rintro ⟨message, died⟩
      rcases bind_error_iff.mp died with failed | ⟨_, _, failed⟩
      · simp only [Turn.maybeResubmitLocalLineage] at failed
        split at failed
        · cases failed
        · split at failed <;> cases failed
      · cases failed
    · rintro ⟨_, _, other, _⟩
      cases other
  | some pair =>
    obtain ⟨binding, owner⟩ := pair
    simp only [Option.some.injEq, Prod.mk.injEq, ← Turn.resolveRemoteRef_ownerDied_iff]
    constructor
    · rintro ⟨message, died⟩
      rcases bind_error_iff.mp died with failed | ⟨_, _, failed⟩
      · exact ⟨binding, owner, ⟨rfl, rfl⟩, message, failed⟩
      · cases failed
    · rintro ⟨_, _, ⟨rfl, rfl⟩, message, died⟩
      exact ⟨message, bind_error_iff.mpr (.inl died)⟩

/-- What refs that were let through leave in the cache. -/
inductive Leaves (gcs : Option GcsBinding) (earlier : List Turn) : Option (List NodeInfo) → Prop where
  | unasked : earlier.find? (fun turn => (turn.remoteOwner gcs).isSome) = none → Leaves gcs earlier none
  | emptied : earlier.find? (fun turn => (turn.remoteOwner gcs).isSome) = some first →
      first.unindexed gcs = false → Leaves gcs earlier (some [])
  | listed : earlier.find? (fun turn => (turn.remoteOwner gcs).isSome) = some first →
      first.unindexed gcs = true → listed gcs = .ok nodes → Leaves gcs earlier (some nodes)

theorem ensure_cached_append (nodes : List NodeInfo)
    (passed : ensureLocalForRemoteRefs gcs (some nodes) earlier = .ok ()) (rest : List Turn) :
    ensureLocalForRemoteRefs gcs (some nodes) (earlier ++ rest) =
      ensureLocalForRemoteRefs gcs (some nodes) rest := by
  induction earlier with
  | nil => rfl
  | cons turn earlier ih =>
    rw [List.cons_append, ensureLocalForRemoteRefs]
    rw [ensureLocalForRemoteRefs] at passed
    cases remote : turn.remoteOwner gcs with
    | none =>
      simp only [remote] at passed ⊢
      obtain ⟨_, here, later⟩ := bind_ok_iff.mp passed
      rw [here]
      exact ih later
    | some pair =>
      obtain ⟨binding, owner⟩ := pair
      simp only [remote] at passed ⊢
      obtain ⟨found, here, later⟩ := bind_ok_iff.mp passed
      have same : found = nodes := by
        cases known : turn.index.statusOf owner with
        | some status => exact ((Turn.resolveRemoteRef_indexed known).mp here).2
        | none => exact (Except.ok.inj ((Turn.resolveRemoteRef_unindexed known).mp here).2).symm
      rw [here]
      rw [same] at later ⊢
      exact ih later

theorem ensure_append (passed : ensureLocalForRemoteRefs gcs none earlier = .ok ()) :
    ∃ cache, Leaves gcs earlier cache ∧ ∀ rest,
      ensureLocalForRemoteRefs gcs none (earlier ++ rest) = ensureLocalForRemoteRefs gcs cache rest := by
  induction earlier with
  | nil => exact ⟨none, .unasked rfl, fun _ => rfl⟩
  | cons turn earlier ih =>
    rw [ensureLocalForRemoteRefs] at passed
    cases remote : turn.remoteOwner gcs with
    | none =>
      simp only [remote] at passed
      obtain ⟨_, here, later⟩ := bind_ok_iff.mp passed
      obtain ⟨cache, leaves, goesOn⟩ := ih later
      refine ⟨cache, ?_, fun rest => ?_⟩
      · have skipped : (turn :: earlier).find? (fun turn => (turn.remoteOwner gcs).isSome) =
            earlier.find? fun turn => (turn.remoteOwner gcs).isSome := by
          simp only [List.find?_cons, remote, Option.isSome_none]
        cases leaves with
        | unasked none => exact .unasked (skipped.trans none)
        | emptied first indexed => exact .emptied (skipped.trans first) indexed
        | listed first unindexed answered => exact .listed (skipped.trans first) unindexed answered
      · rw [List.cons_append, ensureLocalForRemoteRefs]
        simp only [remote, here]
        exact goesOn rest
    | some pair =>
      obtain ⟨binding, owner⟩ := pair
      simp only [remote] at passed
      obtain ⟨found, here, later⟩ := bind_ok_iff.mp passed
      refine ⟨some found, ?_, fun rest => ?_⟩
      · have first : (turn :: earlier).find? (fun turn => (turn.remoteOwner gcs).isSome) = some turn := by
          simp only [List.find?_cons, remote, Option.isSome_some]
        cases known : turn.index.statusOf owner with
        | some status =>
          have empty := ((Turn.resolveRemoteRef_indexed known).mp here).2
          rw [empty]
          exact .emptied first (by simp only [Turn.unindexed, remote, known]; rfl)
        | none =>
          have answered := ((Turn.resolveRemoteRef_unindexed known).mp here).2
          refine .listed first (by simp only [Turn.unindexed, remote, known]; rfl) ?_
          rw [remoteOwner_gcs remote]
          exact answered
      · rw [List.cons_append, ensureLocalForRemoteRefs]
        simp only [remote, here]
        exact ensure_cached_append found later rest

/-- The first ref with a remote owner had it in the index. -/
def Emptied (gcs : Option GcsBinding) (earlier : List Turn) : Prop :=
  ∃ first, earlier.find? (fun turn => (turn.remoteOwner gcs).isSome) = some first ∧ first.unindexed gcs = false

theorem ownerGone_nil (remote : turn.remoteOwner gcs = some (binding, owner)) :
    turn.OwnerGone (.ok []) owner ↔
      turn.OwnerGone binding.listNodes owner ∨ turn.unindexed gcs = true := by
  simp only [Turn.OwnerGone, Turn.unindexed, remote]
  cases turn.index.statusOf owner with
  | some status => simp
  | none => simp [ownerStatus]

/-- The gate raises `OwnerDiedError` for every ref it comes to exactly when it does so for
that ref alone, if and only if no ref of an owner that is not indexed, and not gone by the
node list either, comes after a first remote owner that is indexed. -/
theorem owner_died_per_ref_iff (gcs : Option GcsBinding) (turns : List Turn) :
    (∀ earlier turn later, turns = earlier ++ turn :: later →
      ensureLocalForRemoteRefs gcs none earlier = .ok () →
      (OwnerDied (ensureLocalForRemoteRefs gcs none (earlier ++ [turn])) ↔
        OwnerDied (ensureLocalForRemoteRefs gcs none [turn]))) ↔
    ∀ earlier turn later, turns = earlier ++ turn :: later →
      ensureLocalForRemoteRefs gcs none earlier = .ok () →
      turn.unindexed gcs = true → Emptied gcs earlier →
        ∃ binding owner, turn.remoteOwner gcs = some (binding, owner) ∧
          turn.OwnerGone binding.listNodes owner := by
  refine forall_congr' fun earlier => forall_congr' fun turn => forall_congr' fun later =>
    forall_congr' fun _ => forall_congr' fun passed => ?_
  obtain ⟨cache, leaves, goesOn⟩ := ensure_append passed
  rw [goesOn [turn], ensure_one_ownerDied_iff, ensure_one_ownerDied_iff]
  cases leaves with
  | unasked none =>
    refine iff_of_true Iff.rfl ?_
    rintro _ ⟨first, found, _⟩
    cases none.symm.trans found
  | listed first unindexed answered =>
    refine iff_of_true (exists_congr fun binding => exists_congr fun owner => ?_) ?_
    · refine and_congr_right fun remote => ?_
      rw [remoteOwner_gcs remote] at answered
      rw [Option.elim_none, Option.elim_some, show binding.listNodes = .ok _ from answered]
    · rintro _ ⟨other, found, indexed⟩
      cases first.symm.trans found
      cases unindexed.symm.trans indexed
  | emptied first indexed =>
    simp only [Option.elim_none, Option.elim_some]
    constructor
    · intro same unindexed _
      cases remote : turn.remoteOwner gcs with
      | none =>
        rw [Turn.unindexed, remote] at unindexed
        cases unindexed
      | some pair =>
        rw [← remote]
        exact same.mp ⟨_, _, remote, (ownerGone_nil remote).mpr (.inr unindexed)⟩
    · intro unindexed
      constructor
      · rintro ⟨binding, owner, remote, gone⟩
        rcases (ownerGone_nil remote).mp gone with gone | missing
        · exact ⟨binding, owner, remote, gone⟩
        · exact unindexed missing ⟨_, first, indexed⟩
      · rintro ⟨binding, owner, remote, gone⟩
        exact ⟨binding, owner, remote, (ownerGone_nil remote).mpr (.inl gone)⟩

end Batch

/-- The first ref's owner is indexed; the second's is alive in the node list and passes
the gate alone, but not behind the first. -/
theorem indexed_ref_hides_node_list :
    ensureLocalForRemoteRefs (some pairBinding) none
        [(sampleTurn (some otherOwner) (indexedAs .alive otherOwner)).toTurn] = .ok () ∧
      ensureLocalForRemoteRefs (some pairBinding) none
        [(sampleTurn (some sampleOwner) (indexedAs .alive otherOwner)).toTurn] = .ok () ∧
      OwnerDied (ensureLocalForRemoteRefs (some pairBinding) none
        [(sampleTurn (some otherOwner) (indexedAs .alive otherOwner)).toTurn,
          (sampleTurn (some sampleOwner) (indexedAs .alive otherOwner)).toTurn]) :=
  ⟨rfl, rfl, _, rfl⟩

end Rayd.Refs
