import Mathlib.Data.List.Nodup
import Mathlib.Data.List.Perm.Subperm

/-! Histories of calls to a server that may be replaced: which thread made a call and for
which incarnation of the server, when it was written, executed or declared dead, and when
an incarnation was started. -/
namespace Incarnations
variable {Thread Call : Type}

inductive Event (Thread Call : Type) where
  | accepted (thread : Thread) (call : Call) (incarnation : Nat)
  | sent (thread : Thread) (call : Call)
  | executed (incarnation : Nat) (call : Call)
  | died (call : Call)
  | started (incarnation : Nat)
  deriving DecidableEq

namespace Event

def acceptedCall : Event Thread Call → Option Call
  | accepted _ call _ => some call
  | _ => none

def sentCall : Event Thread Call → Option Call
  | sent _ call => some call
  | _ => none

def executedCall : Event Thread Call → Option Call
  | executed _ call => some call
  | _ => none

variable [DecidableEq Thread]

def acceptedCallOf (thread : Thread) : Event Thread Call → Option Call
  | accepted caller call _ => if caller = thread then some call else none
  | _ => none

def sentCallOf (thread : Thread) : Event Thread Call → Option Call
  | sent caller call => if caller = thread then some call else none
  | _ => none

end Event

/-- What has happened, oldest first. -/
abbrev History (Thread Call : Type) := List (Event Thread Call)

namespace History

def accepted (log : History Thread Call) : List Call := log.filterMap Event.acceptedCall
def sent (log : History Thread Call) : List Call := log.filterMap Event.sentCall
def executed (log : History Thread Call) : List Call := log.filterMap Event.executedCall

section Threads
variable [DecidableEq Thread]

/-- The calls one thread made, in the order it made them. -/
def acceptedBy (log : History Thread Call) (thread : Thread) : List Call :=
  log.filterMap (Event.acceptedCallOf thread)

def sentBy (log : History Thread Call) (thread : Thread) : List Call :=
  log.filterMap (Event.sentCallOf thread)

end Threads

/-- One event before another. -/
def Before (log : History Thread Call) (first second : Event Thread Call) : Prop :=
  [first, second].Sublist log

theorem mem_snoc {log : History Thread Call} : other ∈ log ++ [event] ↔ other ∈ log ∨ other = event := by
  rw [List.mem_append, List.mem_singleton]

theorem before_snoc {log : History Thread Call} :
    Before (log ++ [event]) first second ↔ Before log first second ∨ first ∈ log ∧ second = event := by
  constructor
  · intro before
    obtain ⟨left, right, whole, inLog, inLast⟩ := List.sublist_append_iff.mp before
    rcases left with _ | ⟨a, _ | ⟨b, left⟩⟩
    · rw [List.nil_append] at whole
      have long := (whole ▸ inLast).length_le
      simp at long
    · obtain ⟨rfl, rfl⟩ := List.cons.inj whole
      exact .inr ⟨List.singleton_sublist.mp inLog, List.mem_singleton.mp (inLast.subset List.mem_cons_self)⟩
    · simp only [List.cons_append, List.cons.injEq, List.nil_eq, List.append_eq_nil_iff] at whole
      obtain ⟨rfl, rfl, rfl, rfl⟩ := whole
      exact .inl inLog
  · rintro (before | ⟨member, rfl⟩)
    · exact before.trans (List.sublist_append_left _ _)
    · exact (List.singleton_sublist.mpr member).append (.refl _)

theorem mem_accepted {log : History Thread Call} :
    call ∈ accepted log ↔ ∃ thread incarnation, Event.accepted thread call incarnation ∈ log := by
  simp only [accepted, List.mem_filterMap]
  constructor
  · rintro ⟨event, member, found⟩
    cases event <;> cases found
    exact ⟨_, _, member⟩
  · rintro ⟨thread, incarnation, member⟩
    exact ⟨_, member, rfl⟩

theorem mem_sent {log : History Thread Call} :
    call ∈ sent log ↔ ∃ thread, Event.sent thread call ∈ log := by
  simp only [sent, List.mem_filterMap]
  constructor
  · rintro ⟨event, member, found⟩
    cases event <;> cases found
    exact ⟨_, member⟩
  · rintro ⟨thread, member⟩
    exact ⟨_, member, rfl⟩

theorem mem_executed {log : History Thread Call} :
    call ∈ executed log ↔ ∃ incarnation, Event.executed incarnation call ∈ log := by
  simp only [executed, List.mem_filterMap]
  constructor
  · rintro ⟨event, member, found⟩
    cases event <;> cases found
    exact ⟨_, member⟩
  · rintro ⟨incarnation, member⟩
    exact ⟨_, member, rfl⟩

theorem accepted_snoc (log : History Thread Call) (event : Event Thread Call) :
    accepted (log ++ [event]) = accepted log ++ event.acceptedCall.toList := by
  cases event <;> simp [accepted, Event.acceptedCall]

theorem sent_snoc (log : History Thread Call) (event : Event Thread Call) :
    sent (log ++ [event]) = sent log ++ event.sentCall.toList := by
  cases event <;> simp [sent, Event.sentCall]

theorem executed_snoc (log : History Thread Call) (event : Event Thread Call) :
    executed (log ++ [event]) = executed log ++ event.executedCall.toList := by
  cases event <;> simp [executed, Event.executedCall]

theorem accepted_of_none (log : History Thread Call) (unaccepted : event.acceptedCall = none) :
    accepted (log ++ [event]) = accepted log := by
  rw [accepted_snoc, unaccepted, Option.toList_none, List.append_nil]

theorem sent_of_none (log : History Thread Call) (unsent : event.sentCall = none) :
    sent (log ++ [event]) = sent log := by
  rw [sent_snoc, unsent, Option.toList_none, List.append_nil]

theorem executed_of_none (log : History Thread Call) (unexecuted : event.executedCall = none) :
    executed (log ++ [event]) = executed log := by
  rw [executed_snoc, unexecuted, Option.toList_none, List.append_nil]

section Threads
variable [DecidableEq Thread]

theorem acceptedBy_snoc (log : History Thread Call) (event : Event Thread Call) (thread : Thread) :
    acceptedBy (log ++ [event]) thread = acceptedBy log thread ++ (event.acceptedCallOf thread).toList := by
  rw [acceptedBy, List.filterMap_append]
  cases found : event.acceptedCallOf thread <;> simp [acceptedBy, found]

theorem sentBy_snoc (log : History Thread Call) (event : Event Thread Call) (thread : Thread) :
    sentBy (log ++ [event]) thread = sentBy log thread ++ (event.sentCallOf thread).toList := by
  rw [sentBy, List.filterMap_append]
  cases found : event.sentCallOf thread <;> simp [sentBy, found]

theorem filter_sent {log : History Thread Call} {mine : Call → Bool}
    (told : ∀ caller call, Event.sent caller call ∈ log → (mine call = true ↔ caller = thread)) :
    (sent log).filter mine = sentBy log thread := by
  induction log with
  | nil => rfl
  | cons event log ih =>
    have later := ih fun caller call member => told caller call (List.mem_cons_of_mem _ member)
    cases event with
    | sent caller call =>
      have here := told caller call List.mem_cons_self
      by_cases same : caller = thread
      · have kept : mine call = true := here.mpr same
        simpa [sent, sentBy, Event.sentCall, Event.sentCallOf, same, kept] using later
      · have dropped : ¬ mine call = true := fun kept => same (here.mp kept)
        simpa [sent, sentBy, Event.sentCall, Event.sentCallOf, same, dropped] using later
    | _ => exact later

theorem mem_acceptedBy {log : History Thread Call} :
    call ∈ acceptedBy log thread ↔ ∃ incarnation, Event.accepted thread call incarnation ∈ log := by
  simp only [acceptedBy, List.mem_filterMap]
  constructor
  · rintro ⟨event, member, found⟩
    cases event with
    | accepted caller made incarnation =>
      simp only [Event.acceptedCallOf, Option.ite_none_right_eq_some, Option.some.injEq] at found
      obtain ⟨rfl, rfl⟩ := found
      exact ⟨incarnation, member⟩
    | _ => cases found
  · rintro ⟨incarnation, member⟩
    exact ⟨_, member, if_pos rfl⟩

end Threads

/-- Where calls are accepted once, a call tells its thread and its incarnation. -/
theorem accepted_unique {log : History Thread Call} (once : (accepted log).Nodup)
    (first : Event.accepted thread call incarnation ∈ log) (second : Event.accepted other call later ∈ log) :
    thread = other ∧ incarnation = later := by
  induction log with
  | nil => cases first
  | cons event log ih =>
    rcases List.mem_cons.mp first with rfl | inFirst
    · rcases List.mem_cons.mp second with same | inSecond
      · cases same
        exact ⟨rfl, rfl⟩
      · exact absurd (mem_accepted.mpr ⟨_, _, inSecond⟩) (List.nodup_cons.mp once).1
    · rcases List.mem_cons.mp second with rfl | inSecond
      · exact absurd (mem_accepted.mpr ⟨_, _, inFirst⟩) (List.nodup_cons.mp once).1
      · exact ih (once.sublist ((List.sublist_cons_self _ _).filterMap _)) inFirst inSecond

theorem accepted_died (calls : List Call) : accepted (calls.map .died : History Thread Call) = [] := by
  refine List.filterMap_eq_nil_iff.mpr fun event member => ?_
  obtain ⟨call, _, rfl⟩ := List.mem_map.mp member
  rfl

theorem acceptedBy_sublist [DecidableEq Thread] (log : History Thread Call) (thread : Thread) :
    (acceptedBy log thread).Sublist (accepted log) := by
  induction log with
  | nil => exact .slnil
  | cons event log ih =>
    cases event with
    | accepted caller call incarnation =>
      by_cases same : caller = thread
      · simpa [acceptedBy, accepted, Event.acceptedCallOf, Event.acceptedCall, same] using ih
      · simpa [acceptedBy, accepted, Event.acceptedCallOf, Event.acceptedCall, same] using ih.cons call
    | _ => exact ih

theorem before_total {log : History Thread Call} (first : a ∈ log) (second : b ∈ log) (different : a ≠ b) :
    Before log a b ∨ Before log b a := by
  obtain ⟨early, late, rfl⟩ := List.mem_iff_append.mp first
  rcases List.mem_append.mp second with before | after
  · exact .inr ((List.singleton_sublist.mpr before).append
      (List.cons_sublist_cons.mpr (List.nil_sublist _)))
  · have after := (List.mem_cons.mp after).resolve_left different.symm
    exact .inl ((List.cons_sublist_cons.mpr (List.singleton_sublist.mpr after)).trans
      (List.sublist_append_right _ _))

end History
end Incarnations
