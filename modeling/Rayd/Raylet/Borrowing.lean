import Rayd.Raylet.Directory

/-! Drivers that borrow an object, and its owner. A borrower unpickles any number of
refs, fetches the object and registers as a holder at the owner; every ref it drops
sends the owner a removal, and one removal is all it takes. Calls are delivered, each
within the step sequence of the thread that makes it. How nodes are found and what a
holder answers to a pull is left open; so are failed nodes and shutdowns. -/
namespace Rayd.Core.Session

/-- Local counts and borrowers do not mix: an entry that goes with a local count had
no borrower. -/
theorem borrowers_decLocalRef (s : Session) (object other : ObjectId) :
    (s.decLocalRef object).borrowers other = s.borrowers other := by
  simp only [borrowers, decLocalRef, release_refs, RefCounter.decLocal, RefCounter.borrowers_unpin]
  split
  · rename_i same
    rw [same]
  · rfl

theorem borrowers_sealValue (s : Session) (object : ObjectId) (metadata : Metadata) (data : Memory.Bytes)
    (other : ObjectId) : (s.sealValue object metadata data).2.borrowers other = s.borrowers other := by
  rcases s.sealValue_stored object metadata data with ⟨_, stored⟩ | ⟨_, untouched⟩
  · simp only [borrowers, stored.refs, RefCounter.addOwned, RefCounter.snapshot_pin]
    split
    · rename_i same
      subst same
      cases s.worker.refs.snapshot other <;> rfl
    · rfl
  · simp only [borrowers, untouched.worker]

end Rayd.Core.Session

namespace Rayd.Raylet.Borrowing
open Memory Core Threads Transition Function

structure Borrower where
  session : Session
  /-- Live `ObjectRef`s that answer for a count, by object. -/
  refs : ObjectId → Nat
  /-- A fetch was completed since the borrower last had no ref. -/
  fetched : ObjectId → Bool

namespace Borrower

def unpickle (b : Borrower) (object : ObjectId) : Borrower :=
  { b with refs := update b.refs object (b.refs object + 1) }

/-- What a dropped ref does at home. -/
def drop (b : Borrower) (object : ObjectId) : Borrower where
  session := b.session.decLocalRef object
  refs := update b.refs object (b.refs object - 1)
  fetched := if b.refs object = 1 then update b.fetched object false else b.fetched

def completeFetch (b : Borrower) (object : ObjectId) : Borrower :=
  { b with fetched := update b.fetched object true }

end Borrower

structure World where
  owner : Registration.Owner
  borrowers : NodeId → Borrower

namespace World

def set (s : World) (node : NodeId) (b : Borrower) : World :=
  { s with borrowers := update s.borrowers node b }

theorem set_self (s : World) (node : NodeId) (b : Borrower) : (s.set node b).borrowers node = b :=
  update_self _ _ _

theorem set_other (s : World) {node other : NodeId} (different : other ≠ node) (b : Borrower) :
    (s.set node b).borrowers other = s.borrowers other :=
  update_of_ne different _ _

def listed (s : World) (object : ObjectId) : Finset NodeId := s.owner.session.borrowers object

/-- The borrower has fetched the object and still has a ref to it. -/
def References (s : World) (node : NodeId) (object : ObjectId) : Prop :=
  (s.borrowers node).fetched object = true ∧ 0 < (s.borrowers node).refs object

end World

inductive Rpc where
  | registerObject | waitForRefRemoved
  deriving DecidableEq

def Rpc.request (object : ObjectId) (node : NodeId) : Rpc → Registration.Act
  | .registerObject => .registerObject object.bytes node.bytes
  | .waitForRefRemoved => .waitForRefRemoved object.bytes node.bytes

inductive Phase where
  | idle
  | located (node : NodeId) (object : ObjectId) (holder : NodeId)
  | pulled (node : NodeId) (object : ObjectId) (metadata : Metadata) (data : Bytes)
  /-- A call at the owner, from its sending to its answer, with the handler's state. -/
  | calling (rpc : Rpc) (node : NodeId) (object : ObjectId) (handler : Registration.Phase)
  | failed

namespace Phase

def finished : Phase → Bool
  | .idle | .failed => true
  | _ => false

def call? : Phase → Option (Rpc × NodeId × ObjectId)
  | .calling rpc node object _ => some (rpc, node, object)
  | _ => none

end Phase

inductive Act where
  | unpickle (node : NodeId) (object : ObjectId)
  | drop (node : NodeId) (object : ObjectId)
  | locate (node : NodeId) (object : ObjectId)
  | pull (metadata : Metadata) (data : Bytes)
  | pullFailed
  | sealReplica
  | request
  | sink
  | finish
  | ownerSeals (object : ObjectId) (metadata : Metadata) (data : Bytes)
  | ownerLists (object : ObjectId)
  | ownerDrops (object : ObjectId)

/-- A replica that is there already will do. -/
def accepted : Except CoreError Nat → Bool
  | .ok _ => true
  | .error (.plasma (.server .alreadyExists _)) => true
  | .error _ => false

inductive Own (self : NodeId) (s : World) (phase : Phase) : Act → World → Phase → Prop where
  | unpickle : phase.finished = true → node ≠ self →
      Own self s phase (.unpickle node object) (s.set node ((s.borrowers node).unpickle object)) .idle
  /-- Any holder but the caller, and the caller only if there is no other. -/
  | locate : phase.finished = true → node ≠ self → holder ∈ s.owner.directory.locations object →
      (holder = node → s.owner.directory.locations object = {node}) →
      Own self s phase (.locate node object) s (.located node object holder)
  | noHolder : phase.finished = true → node ≠ self → s.owner.directory.locations object = ∅ →
      Own self s phase (.locate node object) s .failed
  | pull : phase = .located node object holder →
      Own self s phase (.pull metadata data) s (.pulled node object metadata data)
  | pullFailed : phase = .located node object holder → Own self s phase .pullFailed s .failed
  | sealReplica : phase = .pulled node object metadata data →
      (s.borrowers node).session.sealValueToPlasma object metadata data = (result, session) →
      accepted result = true →
      Own self s phase .sealReplica (s.set node { s.borrowers node with session })
        (.calling .registerObject node object .idle)
  | sealFailed : phase = .pulled node object metadata data →
      (s.borrowers node).session.sealValueToPlasma object metadata data = (result, session) →
      accepted result = false →
      Own self s phase .sealReplica (s.set node { s.borrowers node with session }) .failed
  | drop : phase.finished = true → node ≠ self → 0 < (s.borrowers node).refs object →
      Own self s phase (.drop node object) (s.set node ((s.borrowers node).drop object))
        (.calling .waitForRefRemoved node object .idle)
  /-- The two steps of the owner's handler. -/
  | request : phase = .calling rpc node object .idle →
      Registration.Own self s.owner .idle (rpc.request object node) owner handler →
      Own self s phase .request { s with owner } (.calling rpc node object handler)
  | sink : phase = .calling rpc node object handler →
      Registration.Own self s.owner handler .sink owner after →
      Own self s phase .sink { s with owner } (.calling rpc node object after)
  | fetched : phase = .calling .registerObject node object (.answered (.ok ())) →
      Own self s phase .finish (s.set node ((s.borrowers node).completeFetch object)) .idle
  | refused : phase = .calling .registerObject node object (.answered (.error status)) →
      Own self s phase .finish s .failed
  | dropped : phase = .calling .waitForRefRemoved node object (.answered result) →
      Own self s phase .finish s .idle
  | ownerSeals : phase.finished = true →
      Own self s phase (.ownerSeals object metadata data)
        { s with owner := { s.owner with session := (s.owner.session.sealValue object metadata data).2 } } .idle
  | ownerLists : phase.finished = true →
      Registration.Own self s.owner .idle (.registerSelf object) owner .idle →
      Own self s phase (.ownerLists object) { s with owner } .idle
  | ownerDrops : phase.finished = true →
      Own self s phase (.ownerDrops object)
        { s with owner := { s.owner with session := s.owner.session.decLocalRef object } } .idle

/-- A drop waits for the registrations of its object by the same borrower that are on
their way, a registration for the removals. -/
def Lets (_ : World) (other own : Phase) : Act → Prop
  | .drop node object => other.call? ≠ some (.registerObject, node, object)
  | .sealReplica => ∀ node object metadata data, own = .pulled node object metadata data →
      other.call? ≠ some (.waitForRefRemoved, node, object)
  | _ => True

/-- Of an object that it has fetched, a borrower drops only its last ref. -/
def Last (s : World) : Act → Prop
  | .drop node object => (s.borrowers node).fetched object = true → (s.borrowers node).refs object = 1
  | _ => True

abbrev CarefulOwn (self : NodeId) (s : World) (phase : Phase) (act : Act) (t : World) (next : Phase) : Prop :=
  Last s act ∧ Own self s phase act t next

section Listing
variable (self : NodeId)

def Apart (p q : Phase) : Prop :=
  ∀ node object, p.call? = some (.registerObject, node, object) →
    q.call? ≠ some (.waitForRefRemoved, node, object)

theorem apart_of_quiet {p : Phase} (q : Phase) (quiet : p.call? = none) : Apart p q ∧ Apart q p := by
  constructor
  · intro node object calls
    cases quiet.symm.trans calls
  · intro node object _ calls
    cases quiet.symm.trans calls

/-- A borrower's registrations and removals of one object are never on their way
together. -/
def exclusion : Exclusion (CarefulOwn self) Lets where
  apart p q := Apart p q ∧ Apart q p
  symm both := ⟨both.2, both.1⟩
  kept {s p act t q r} own apart lets := by
    cases own.2 with
    | sealReplica here _ _ =>
      constructor
      · intro node object calls
        cases calls
        exact lets _ _ _ _ here
      · intro node object _ calls
        cases calls
    | drop =>
      constructor
      · intro node object calls
        cases calls
      · intro node object other calls
        cases calls
        exact lets other
    | request here | sink here =>
      subst here
      exact apart
    | _ => exact apart_of_quiet r rfl

/-- The handler works for the thread that called it. -/
def Serves (object : ObjectId) (node : NodeId) : Rpc → Registration.Phase → Prop
  | .registerObject, .addBorrower target holder => target = object ∧ holder = node
  | .waitForRefRemoved, .removeBorrower target holder => target = object ∧ holder = node
  | _, .idle | _, .answered _ => True
  | _, _ => False

/-- While a removal is on its way its object is not fetched; a registration that was
answered has been entered. -/
def Asserted (s : World) : Phase → Prop
  | .calling rpc node object handler => Serves object node rpc handler ∧
      (rpc = .waitForRefRemoved → (s.borrowers node).fetched object = false) ∧
      (rpc = .registerObject → handler = .answered (.ok ()) → node ∈ s.listed object)
  | _ => True

variable {self} {s t : World} {p q : Phase}

theorem request_serves {owner after : Registration.Owner} {object : ObjectId} {node : NodeId}
    (own : Registration.Own self owner .idle (rpc.request object node) after handler) :
    after.session = owner.session ∧ Serves object node rpc handler ∧ handler ≠ .answered (.ok ()) := by
  have parsed : Registration.parseIds object.bytes node.bytes = .ok (object, node) := by
    simp only [Registration.parseIds, parseObjectId, parseNodeId, parseId_bytes, bind, Except.bind]
    rfl
  cases rpc with
  | registerObject =>
    cases own with
    | registerObject _ found =>
      cases parsed.symm.trans found
      exact ⟨rfl, ⟨rfl, rfl⟩, fun same => by cases same⟩
    | registerRefused _ found => cases parsed.symm.trans found
  | waitForRefRemoved =>
    cases own with
    | waitForRefRemoved _ found =>
      cases parsed.symm.trans found
      exact ⟨rfl, ⟨rfl, rfl⟩, fun same => by cases same⟩
    | waitRefused _ found => cases parsed.symm.trans found

/-- What a step does to the owner's lists and to the flags of the borrowers. -/
inductive Effect (s : World) (p : Phase) (t : World) : Prop where
  | quiet : (∀ object, t.listed object = s.listed object) →
      (∀ node object, (t.borrowers node).fetched object = true → (s.borrowers node).fetched object = true) →
      Effect s p t
  | enters : p.call? = some (.registerObject, node, object) → t.borrowers = s.borrowers →
      (∀ other, t.listed other = if other = object then insert node (s.listed object) else s.listed other) →
      Effect s p t
  | leaves : p.call? = some (.waitForRefRemoved, node, object) → t.borrowers = s.borrowers →
      (∀ other, t.listed other = if other = object then (s.listed object).erase node else s.listed other) →
      Effect s p t
  | completes : p.call? = some (.registerObject, node, object) → node ∈ s.listed object →
      (∀ object, t.listed object = s.listed object) →
      (∀ holder held, (t.borrowers holder).fetched held = true →
        (s.borrowers holder).fetched held = true ∨ holder = node ∧ held = object) → Effect s p t

theorem fetched_set {s : World} {node : NodeId} {b : Borrower}
    (falls : ∀ object, b.fetched object = true → (s.borrowers node).fetched object = true) :
    ∀ other object, ((s.set node b).borrowers other).fetched object = true →
      (s.borrowers other).fetched object = true := by
  intro other object fetched
  by_cases same : other = node
  · subst same
    rw [World.set_self] at fetched
    exact falls object fetched
  · rwa [World.set_other _ same] at fetched

theorem drop_fetched (b : Borrower) (object : ObjectId) :
    ∀ other, (b.drop object).fetched other = true → b.fetched other = true := by
  intro other fetched
  simp only [Borrower.drop] at fetched
  split at fetched
  · rw [update_apply] at fetched
    split at fetched
    · cases fetched
    · exact fetched
  · exact fetched

theorem own_effect (own : Own self s p act t q) (asserted : Asserted s p) : Effect s p t := by
  cases own with
  | unpickle | sealReplica | sealFailed => exact .quiet (fun _ => rfl) (fetched_set fun _ fetched => fetched)
  | locate | noHolder | pull | pullFailed | refused | dropped =>
    exact .quiet (fun _ => rfl) (fun _ _ fetched => fetched)
  | drop => exact .quiet (fun _ => rfl) (fetched_set (drop_fetched _ _))
  | request _ own =>
    refine .quiet (fun object => ?_) (fun _ _ fetched => fetched)
    simp only [World.listed, (request_serves own).1]
  | @sink rpc node object handler owner after here own =>
    subst here
    cases own with
    | addBorrower same =>
      subst same
      cases rpc with
      | registerObject =>
        obtain ⟨rfl, rfl⟩ := asserted.1
        exact .enters rfl rfl (s.owner.session.borrowers_addBorrowerPin _ · _)
      | waitForRefRemoved => exact asserted.1.elim
    | removeBorrower same =>
      subst same
      cases rpc with
      | registerObject => exact asserted.1.elim
      | waitForRefRemoved =>
        obtain ⟨rfl, rfl⟩ := asserted.1
        exact .leaves rfl rfl (s.owner.session.borrowers_removeBorrowerPin _ · _)
  | @fetched node object here =>
    subst here
    refine .completes rfl (asserted.2.2 rfl rfl) (fun _ => rfl) fun holder held fetched => ?_
    by_cases same : holder = node
    · subst same
      by_cases target : held = object
      · exact .inr ⟨rfl, target⟩
      · rw [World.set_self] at fetched
        exact .inl ((update_of_ne target _ _).symm.trans fetched)
    · rw [World.set_other _ same] at fetched
      exact .inl fetched
  | ownerSeals => exact .quiet (s.owner.session.borrowers_sealValue _ _ _) (fun _ _ fetched => fetched)
  | ownerLists _ own =>
    cases own with
    | registerSelf => exact .quiet (fun _ => rfl) (fun _ _ fetched => fetched)
  | ownerDrops => exact .quiet (s.owner.session.borrowers_decLocalRef _) (fun _ _ fetched => fetched)

theorem unfetched_of_call (asserted : Asserted s p)
    (calls : p.call? = some (.waitForRefRemoved, node, object)) :
    (s.borrowers node).fetched object = false := by
  cases p with
  | calling rpc node object handler =>
    cases calls
    exact asserted.2.1 rfl
  | _ => cases calls

theorem listed_step (own : Own self s p act t q) (asserted : Asserted s p)
    (listed : ∀ node object, (s.borrowers node).fetched object = true → node ∈ s.listed object) :
    ∀ node object, (t.borrowers node).fetched object = true → node ∈ t.listed object := by
  intro node object fetched
  cases own_effect own asserted with
  | quiet same falls =>
    rw [same]
    exact listed node object (falls node object fetched)
  | enters _ same grows =>
    have old := listed node object (same ▸ fetched)
    rw [grows]
    split
    · rename_i here
      exact Finset.mem_insert_of_mem (here ▸ old)
    · exact old
  | leaves calls same shrinks =>
    have old := listed node object (same ▸ fetched)
    rw [shrinks]
    split
    · rename_i here
      subst here
      refine Finset.mem_erase.mpr ⟨fun target => ?_, old⟩
      subst target
      rw [same, unfetched_of_call asserted calls] at fetched
      cases fetched
    · exact old
  | completes _ entered same rises =>
    rw [same]
    rcases rises node object fetched with old | ⟨rfl, rfl⟩
    · exact listed node object old
    · exact entered

theorem asserted_step (own : CarefulOwn self s p act t q) (asserted : Asserted s p) : Asserted t q := by
  obtain ⟨last, own⟩ := own
  cases own with
  | @drop node object =>
    refine ⟨trivial, fun _ => ?_, fun same => (by cases same)⟩
    rw [World.set_self]
    by_cases only : (s.borrowers node).refs object = 1
    · simp only [Borrower.drop, if_pos only, update_self]
    · simp only [Borrower.drop, if_neg only]
      exact Bool.eq_false_iff.mpr fun fetched => only (last fetched)
  | sealReplica => exact ⟨trivial, fun same => (by cases same), fun _ same => (by cases same)⟩
  | request here answered =>
    subst here
    obtain ⟨_, serves, unanswered⟩ := request_serves answered
    exact ⟨serves, asserted.2.1, fun _ same => absurd same unanswered⟩
  | @sink rpc node object handler owner after here own =>
    subst here
    cases own with
    | addBorrower same =>
      subst same
      cases rpc with
      | registerObject =>
        obtain ⟨rfl, rfl⟩ := asserted.1
        refine ⟨trivial, asserted.2.1, fun _ _ => ?_⟩
        simp only [World.listed, Session.borrowers_addBorrowerPin, if_true, Finset.mem_insert_self]
      | waitForRefRemoved => exact asserted.1.elim
    | removeBorrower same =>
      subst same
      cases rpc with
      | registerObject => exact asserted.1.elim
      | waitForRefRemoved => exact ⟨trivial, asserted.2.1, fun same => (by cases same)⟩
  | _ => trivial

theorem asserted_other {r : Phase} (own : Own self s p act t q) (asserted : Asserted s p)
    (kept : Asserted s r) (apart : Apart p r ∧ Apart r p) : Asserted t r := by
  cases r with
  | calling rpc node object handler =>
    obtain ⟨serves, unfetched, entered⟩ := kept
    refine ⟨serves, fun removal => ?_, fun registration done => ?_⟩
    · subst removal
      refine Bool.eq_false_iff.mpr fun fetched => ?_
      have before : (s.borrowers node).fetched object ≠ true := Bool.eq_false_iff.mp (unfetched rfl)
      cases own_effect own asserted with
      | quiet _ falls => exact before (falls node object fetched)
      | enters _ same | leaves _ same => exact before (same ▸ fetched)
      | completes calls _ _ rises =>
        rcases rises node object fetched with old | ⟨rfl, rfl⟩
        · exact before old
        · exact apart.1 _ _ calls rfl
    · subst registration
      have before := entered rfl done
      cases own_effect own asserted with
      | quiet same => rwa [same]
      | completes _ _ same => rwa [same]
      | enters _ _ grows =>
        rw [grows]
        split
        · rename_i here
          exact Finset.mem_insert_of_mem (here ▸ before)
        · exact before
      | leaves calls _ shrinks =>
        rw [shrinks]
        split
        · rename_i here
          subst here
          refine Finset.mem_erase.mpr ⟨fun target => ?_, before⟩
          subst target
          exact apart.2 _ _ rfl calls
        · exact before
  | _ => trivial

variable (self) in
def assertions : Assertions (CarefulOwn self) (fun s r p act => Lets s r p act ∧ (exclusion self).apart p r) where
  shared s := ∀ node object, (s.borrowers node).fetched object = true → node ∈ s.listed object
  phase := Asserted
  preserved own listed asserted := ⟨listed_step own.2 asserted listed, asserted_step own asserted⟩
  undisturbed own _ asserted kept lets := asserted_other own.2 asserted kept lets.2

end Listing

/-- Where a borrower that has fetched an object drops no ref to it but the last, and
its registrations and removals of one object do not overlap, the owner lists it as a
borrower as long as it has fetched the object and has a ref; so the object's entry
is not given up. -/
theorem referencing_borrower_listed {self : NodeId} {start : World} {node : NodeId} {object : ObjectId}
    (fresh : ∀ node object, (start.borrowers node).fetched object = false)
    (run : Run (Guarded (fun pool label => Last pool.shared label.2 ∧ Unopposed Lets pool label)
      (Step (Own self))) ⟨start, fun _ => .idle⟩ path pool)
    (references : pool.shared.References node object) :
    node ∈ pool.shared.owner.session.borrowers object ∧
      pool.shared.owner.session.worker.refs.snapshot object ≠ none := by
  have run : Run (Guarded (Unopposed Lets) (Step (CarefulOwn self))) ⟨start, fun _ => .idle⟩ path pool := by
    refine run.mono ?_
    rintro before ⟨thread, act⟩ after ⟨⟨last, unopposed⟩, ⟨own⟩⟩
    exact ⟨unopposed, .act ⟨last, own⟩⟩
  have apart := (exclusion self).run run fun _ _ _ => apart_of_quiet _ rfl
  have holds : (assertions self).Holds ⟨start, fun _ => .idle⟩ := by
    refine ⟨fun node object fetched => ?_, fun _ => trivial⟩
    rw [fresh] at fetched
    cases fetched
  have listed := ((assertions self).run apart holds).1 node object references.1
  refine ⟨listed, fun released => ?_⟩
  rw [World.listed, Session.borrowers, released] at listed
  exact Finset.notMem_empty _ listed

section Samples
open Registration (sampleSelf sampleOwner)

def sampleWorld : World := ⟨sampleOwner, fun _ => ⟨sampleOwner.session, fun _ => 0, fun _ => false⟩⟩

theorem resting (s : World) (own : Phase) (act : Act) : Lets s .idle own act := by
  cases act with
  | drop => exact fun calls => by cases calls
  | sealReplica => exact fun _ _ _ _ _ calls => by cases calls
  | _ => trivial

theorem advance {pool : Pool World Phase} {a : Act}
    (run : Run (Guarded (fun pool label => Last pool.shared label.2 ∧ Unopposed Lets pool label)
      (Step (Own sampleSelf))) ⟨sampleWorld, fun _ => .idle⟩ path pool) (only : pool.Only .idle)
    (last : Last pool.shared a) (own : Own sampleSelf pool.shared (pool.threads 0) a s phase) :
    Run (Guarded (fun pool label => Last pool.shared label.2 ∧ Unopposed Lets pool label)
      (Step (Own sampleSelf))) ⟨sampleWorld, fun _ => .idle⟩ (path ++ [(0, a)]) (pool.set 0 s phase) ∧
      (pool.set 0 s phase).Only .idle :=
  only.next run ⟨last, only.unopposed resting a⟩ own

/-- The owner stores a value and a borrower with two refs fetches it; then the owner
has no ref of its own any more. -/
theorem fetching_run :
    ∃ path pool, Run (Guarded (fun pool label => Last pool.shared label.2 ∧ Unopposed Lets pool label)
        (Step (Own sampleSelf))) ⟨sampleWorld, fun _ => .idle⟩ path pool ∧
      pool.Only .idle ∧ pool.threads 0 = .idle ∧ (pool.shared.borrowers (.nil 16)).refs (.nil 28) = 2 ∧
      (pool.shared.borrowers (.nil 16)).fetched (.nil 28) = true ∧
      pool.shared.owner.session.worker.refs.snapshot (.nil 28) = some ⟨0, {.nil 16}, 0⟩ := by
  have run : Run (Guarded (fun pool label => Last pool.shared label.2 ∧ Unopposed Lets pool label)
    (Step (Own sampleSelf))) ⟨sampleWorld, fun _ => .idle⟩ [] _ := .refl
  have only : Pool.Only (⟨sampleWorld, fun _ => .idle⟩ : Pool World Phase) .idle := fun _ _ => rfl
  obtain ⟨run, only⟩ := advance run only (a := .ownerSeals (.nil 28) .raw [7]) trivial (.ownerSeals rfl)
  obtain ⟨run, only⟩ := advance run only (a := .ownerLists (.nil 28)) trivial
    (.ownerLists rfl (.registerSelf rfl))
  obtain ⟨run, only⟩ := advance run only (a := .unpickle (.nil 16) (.nil 28)) trivial
    (.unpickle rfl (by decide))
  obtain ⟨run, only⟩ := advance run only (a := .unpickle (.nil 16) (.nil 28)) trivial
    (.unpickle rfl (by decide))
  obtain ⟨run, only⟩ := advance run only (a := .locate (.nil 16) (.nil 28)) trivial
    (.locate rfl (by decide) (show sampleSelf ∈ _ by decide) (by decide))
  obtain ⟨run, only⟩ := advance run only (a := .pull .raw [7]) trivial (.pull rfl)
  obtain ⟨run, only⟩ := advance run only (a := .sealReplica) trivial (.sealReplica rfl rfl rfl)
  obtain ⟨run, only⟩ := advance run only (a := .request) trivial (.request rfl (.registerObject rfl rfl))
  obtain ⟨run, only⟩ := advance run only (a := .sink) trivial (.sink rfl (.addBorrower rfl))
  obtain ⟨run, only⟩ := advance run only (a := .finish) trivial (.fetched rfl)
  obtain ⟨run, only⟩ := advance run only (a := .ownerDrops (.nil 28)) trivial (.ownerDrops rfl)
  exact ⟨_, _, run, only, rfl, rfl, rfl, by decide⟩

theorem fetched_object_listed :
    ∃ path pool, Run (Guarded (fun pool label => Last pool.shared label.2 ∧ Unopposed Lets pool label)
        (Step (Own sampleSelf))) ⟨sampleWorld, fun _ => .idle⟩ path pool ∧
      pool.shared.References (.nil 16) (.nil 28) ∧
      Id.nil 16 ∈ pool.shared.owner.session.borrowers (.nil 28) := by
  obtain ⟨path, pool, run, _, _, refs, fetched, _⟩ := fetching_run
  have references : pool.shared.References (.nil 16) (.nil 28) := ⟨fetched, by omega⟩
  exact ⟨path, pool, run, references, (referencing_borrower_listed (fun _ _ => rfl) run references).1⟩

/-- The borrower drops one of its two refs, and the owner frees the object. -/
theorem one_drop_frees :
    ∃ path pool, Run (Step (Own sampleSelf)) ⟨sampleWorld, fun _ => .idle⟩ path pool ∧
      (∀ thread, pool.threads thread = .idle) ∧ pool.shared.References (.nil 16) (.nil 28) ∧
      pool.shared.owner.session.worker.refs.snapshot (.nil 28) = none ∧
      pool.shared.owner.session.worker.store.getEntry (.nil 28) = none := by
  obtain ⟨path, ⟨⟨owner, borrowers⟩, threads⟩, run, only, idle, refs, fetched, pinned⟩ := fetching_run
  have run := run.mono fun step => step.2
  have run := run.next (a := (0, .drop (.nil 16) (.nil 28)))
    (.act (.drop (by rw [idle]; rfl) (by decide) (by omega)))
  have run := run.next (a := (0, .request))
    (.act (.request (Pool.set_self _ _ _ _) (.waitForRefRemoved rfl rfl)))
  have run := run.next (a := (0, .sink)) (.act (.sink (Pool.set_self _ _ _ _) (.removeBorrower rfl)))
  have run := run.next (a := (0, .finish)) (.act (.dropped (Pool.set_self _ _ _ _)))
  have released : (owner.session.worker.refs.removeBorrower (.nil 28) (.nil 16)).1 = true := by
    rw [RefCounter.removeBorrower, RefCounter.unpin_freed_iff, pinned]
    decide
  have dropped : update borrowers (.nil 16) ((borrowers (.nil 16)).drop (.nil 28)) (.nil 16) =
      (borrowers (.nil 16)).drop (.nil 28) := update_self _ _ _
  refine ⟨_, _, run, fun thread => ?_, ⟨?_, ?_⟩, ?_, ?_⟩
  · exact ((((only.set _ _).set _ _).set _ _).set _ _).all (f := (· = .idle))
      (Pool.set_self _ _ _ _) rfl thread
  · refine (congrArg (fun b => b.fetched (Id.nil 28)) dropped).trans ?_
    have two : (borrowers (.nil 16)).refs (.nil 28) ≠ 1 := by
      have refs : (borrowers (.nil 16)).refs (.nil 28) = 2 := refs
      omega
    simp only [Borrower.drop, if_neg two]
    exact fetched
  · refine lt_of_lt_of_eq ?_ (congrArg (fun b => b.refs (Id.nil 28)) dropped).symm
    have refs : (borrowers (.nil 16)).refs (.nil 28) = 2 := refs
    simp only [Borrower.drop, update_self, refs]
    decide
  · refine (congrArg (fun refs => RefCounter.snapshot refs (Id.nil 28)) (Session.release_refs _ _ _)).trans ?_
    exact RefCounter.unpin_cleared released
  · exact (Session.release_entry _ _ _ _).trans (if_pos ⟨released, rfl⟩)

end Samples

end Rayd.Raylet.Borrowing
