import Rayd.Refs.Settled

/-! Which replica a fetch goes to. `fetch_object` picks one of the holders that the owner
lists, the first that is another node, and stays with it: the others are not tried when
that one is not registered, cannot be reached or has lost the object. -/
namespace Rayd.Refs
open Memory Core Plasma Gcs Raylet Raylet.Fetch Fallible

section Holders
variable {binding : GcsBinding} {s : Session} {id : ObjectId} {owner : NodeId} {nodes : List NodeInfo}
  {ownerAddr : SocketAddr} {locations : List NodeId}

def chosenHolder (binding : GcsBinding) (locations : List NodeId) : Option NodeId :=
  (locations.find? (· ≠ binding.nodeId)).or locations.head?

/-- The holder is registered and sends the object when asked. -/
def Delivers (binding : GcsBinding) (s : Session) (nodes : List NodeInfo) (id : ObjectId) (holder : NodeId) :
    Prop :=
  ∃ holderAddr pulled middle, binding.rayletAddrFor nodes holder = some holderAddr ∧
    binding.pullFrom holderAddr id s = (.ok pulled, middle)

/-- The holder delivers, plasma has a place for what it sent, and the owner takes note of
the new replica. -/
def Replicates (binding : GcsBinding) (s : Session) (nodes : List NodeInfo) (ownerAddr : SocketAddr)
    (id : ObjectId) (holder : NodeId) : Prop :=
  ∃ holderAddr pulled middle metadata,
    binding.rayletAddrFor nodes holder = some holderAddr ∧
    binding.pullFrom holderAddr id s = (.ok pulled, middle) ∧
    Metadata.decode pulled.metadata = .ok metadata ∧
    Placeable middle.plasma ⟨id, metadata.encode, pulled.data⟩ ∧
    binding.registerObjectAt ownerAddr id binding.nodeId = .ok ()

theorem locate_iff (listed : binding.listNodes = .ok nodes)
    (found : binding.rayletAddrFor nodes owner = some ownerAddr)
    (located : binding.getObjectLocationsAt ownerAddr id = .ok locations) (addr holderAddr : SocketAddr) :
    binding.locate id owner = .ok (addr, holderAddr) ↔
      addr = ownerAddr ∧ ∃ holder, chosenHolder binding locations = some holder ∧
        binding.rayletAddrFor nodes holder = some holderAddr := by
  simp only [GcsBinding.locate, listed, Except.mapError, found, located, bind, Except.bind]
  rw [← chosenHolder]
  cases chosen : chosenHolder binding locations with
  | none => simp
  | some holder =>
    cases reached : binding.rayletAddrFor nodes holder with
    | none => simp [reached]
    | some other =>
      simp only [pure, Except.pure, Except.ok.injEq, Prod.mk.injEq, Option.some.injEq, exists_eq_left', reached]
      exact and_congr_left' eq_comm

theorem fetchObject_ok_iff (listed : binding.listNodes = .ok nodes)
    (found : binding.rayletAddrFor nodes owner = some ownerAddr)
    (located : binding.getObjectLocationsAt ownerAddr id = .ok locations) :
    (fetchObject (some binding) s id.bytes owner.bytes).1 = .ok () ↔
      ∃ holder, chosenHolder binding locations = some holder ∧ Replicates binding s nodes ownerAddr id holder := by
  have served : (fetchObject (some binding) s id.bytes owner.bytes).1 = .ok () ↔ Served binding s id owner :=
    @tryFetch_ok_iff id owner (binding, s)
  rw [served]
  constructor
  · rintro ⟨addr, holderAddr, pulled, middle, metadata, reached, sent⟩
    obtain ⟨rfl, holder, chosen, reached⟩ := (locate_iff listed found located _ _).mp reached
    exact ⟨holder, chosen, holderAddr, pulled, middle, metadata, reached, sent⟩
  · rintro ⟨holder, chosen, holderAddr, pulled, middle, metadata, reached, sent⟩
    exact ⟨ownerAddr, holderAddr, pulled, middle, metadata,
      (locate_iff listed found located _ _).mpr ⟨rfl, holder, chosen, reached⟩, sent⟩

/-- With any holders listed in any order, and any nodes: one that delivers the object is
enough for the fetch exactly when the chosen one does, and what it sends is placed here. -/
theorem replica_suffices_iff (listed : binding.listNodes = .ok nodes)
    (found : binding.rayletAddrFor nodes owner = some ownerAddr)
    (located : binding.getObjectLocationsAt ownerAddr id = .ok locations) :
    ((∃ holder ∈ locations, Delivers binding s nodes id holder) →
        (fetchObject (some binding) s id.bytes owner.bytes).1 = .ok ()) ↔
      ((∃ holder ∈ locations, Delivers binding s nodes id holder) →
        ∃ holder, chosenHolder binding locations = some holder ∧
          Replicates binding s nodes ownerAddr id holder) := by
  rw [fetchObject_ok_iff listed found located]

end Holders

section Samples

/-- The owner lists these holders; only the owner itself is registered. -/
def heldBy (locations : List NodeId) : GcsBinding :=
  { sampleBinding with getObjectLocationsAt := fun _ _ => .ok locations }

def sampleDelivered : Transport.PulledObject := ⟨(Metadata.pickle5 false).encode, [6, 7]⟩

def sampleNodes : List NodeInfo := [⟨some ⟨.literal (.v4 10 0 0 2), 60001, sampleOwner.bytes⟩, .alive, 0⟩]

theorem owner_delivers (locations : List NodeId) :
    Delivers (heldBy locations) (sampleSession ∅) sampleNodes sampleObject sampleOwner :=
  ⟨⟨.v4 10 0 0 2, 60001⟩, sampleDelivered, sampleSession ∅, rfl, rfl⟩

/-- The owner first, and behind it a holder that is gone. -/
theorem first_replica_delivers :
    (fetchObject (some (heldBy [sampleOwner, otherOwner])) (sampleSession ∅) sampleObject.bytes
      sampleOwner.bytes).1 = .ok () := by
  refine (replica_suffices_iff rfl rfl rfl).mpr (fun _ => ?_)
    ⟨sampleOwner, List.mem_cons_self, owner_delivers [sampleOwner, otherOwner]⟩
  exact ⟨sampleOwner, rfl, ⟨.v4 10 0 0 2, 60001⟩, sampleDelivered, sampleSession ∅, .pickle5 false, rfl, rfl, rfl,
    .inr (by decide), rfl⟩

/-- The same holders in the other order: the fetch fails at the one that is gone, with a
replica at hand. -/
theorem stale_first_holder_fails :
    (∃ holder ∈ [otherOwner, sampleOwner],
      Delivers (heldBy [otherOwner, sampleOwner]) (sampleSession ∅) sampleNodes sampleObject holder) ∧
    (fetchObject (some (heldBy [otherOwner, sampleOwner])) (sampleSession ∅) sampleObject.bytes
      sampleOwner.bytes).1 = .error (.runtime "holder node 02000000 not found in GCS") :=
  ⟨⟨sampleOwner, by simp, owner_delivers [otherOwner, sampleOwner]⟩, by decide⟩

end Samples

end Rayd.Refs
