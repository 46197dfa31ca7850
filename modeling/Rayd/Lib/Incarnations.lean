import Rayd.Lib.CallHistory
import Mathlib.Logic.Function.Basic
import Mathlib.Logic.Relation

/-! A server that is replaced after a crash, and the threads that call it. A call is
tied to the incarnation that was current when it was accepted, and written to that one
later or not at all. An incarnation reads its calls in the order they were written. Calls
that a crash leaves without an answer are declared dead before the next incarnation
serves; when that cannot be done there is no next one. -/
namespace Incarnations
open History Function
variable {Thread Call : Type}

inductive Phase where
  | serving
  | crashed
  /-- There will be no further incarnation. -/
  | abandoned

structure Service (Thread Call : Type) where
  /-- The last incarnation started. -/
  newest : Nat
  /-- The incarnation that callers are given. -/
  current : Nat
  phase : Phase
  /-- Written to the current incarnation and not yet read. -/
  unread : List Call
  /-- To be declared dead after a crash. -/
  pending : List Call
  /-- The call each thread is making, with the incarnation it was given. -/
  held : Thread → Option (Call × Nat)
  log : History Thread Call

inductive Step [DecidableEq Thread] (s : Service Thread Call) : Service Thread Call → Prop where
  | accept : s.held thread = none → call ∉ accepted s.log →
      Step s { s with
        pending := call :: s.pending
        held := update s.held thread (some (call, s.current))
        log := s.log ++ [.accepted thread call s.current] }
  | send : s.phase = .serving → s.held thread = some (call, s.current) →
      Step s { s with
        unread := s.unread ++ [call]
        held := update s.held thread none
        log := s.log ++ [.sent thread call] }
  | giveUp (thread : Thread) : Step s { s with held := update s.held thread none }
  | execute : s.phase = .serving → s.unread = call :: rest →
      Step s { s with unread := rest, log := s.log ++ [.executed s.current call] }
  /-- A call that has been executed needs no other answer. -/
  | settle : (∀ call ∈ pending, call ∈ s.pending) →
      (∀ call ∈ s.pending, call ∈ pending ∨ call ∈ executed s.log) → Step s { s with pending := pending }
  | crash : s.phase = .serving → Step s { s with phase := .crashed }
  | declare : s.phase = .crashed → s.pending = call :: rest →
      Step s { s with pending := rest, log := s.log ++ [.died call] }
  | start : s.phase = .crashed → s.newest < fresh →
      Step s { s with newest := fresh, log := s.log ++ [.started fresh] }
  | replace : s.phase = .crashed → s.pending = [] → s.current < s.newest →
      Step s { s with current := s.newest, phase := .serving, unread := [] }
  | abandon : s.phase = .crashed → s.current ≤ current → current ≤ s.newest →
      Step s { s with current := current, phase := .abandoned, pending := pending }

theorem held_cases [DecidableEq Thread] {held : Thread → Option (Call × Nat)}
    (found : update held thread value caller = some taken) :
    caller = thread ∧ value = some taken ∨ caller ≠ thread ∧ held caller = some taken := by
  by_cases same : caller = thread
  · subst same
    rw [update_self] at found
    exact .inl ⟨rfl, found⟩
  · rw [update_of_ne same] at found
    exact .inr ⟨same, found⟩

theorem declare_all [DecidableEq Thread] (first rest : List Call) (s : Service Thread Call)
    (crashed : s.phase = .crashed) (front : s.pending = first ++ rest) :
    Relation.ReflTransGen Step s { s with pending := rest, log := s.log ++ first.map .died } := by
  induction first generalizing s with
  | nil =>
    obtain ⟨newest, current, phase, unread, pending, held, log⟩ := s
    cases front
    rw [List.map_nil, List.append_nil]
  | cons call first ih =>
    have here : Step s { s with pending := first ++ rest, log := s.log ++ [.died call] } :=
      .declare crashed front
    have later := ih { s with pending := first ++ rest, log := s.log ++ [.died call] } crashed rfl
    rw [List.append_assoc] at later
    exact .head here later

section Invariants
variable {s t : Service Thread Call}

/-- What the threads have in hand agrees with the history. -/
structure Booked [DecidableEq Thread] (s : Service Thread Call) : Prop where
  once : (accepted s.log).Nodup
  sentOnce : (sent s.log).Nodup
  known : ∀ {thread call}, .sent thread call ∈ s.log →
    ∃ incarnation, .accepted thread call incarnation ∈ s.log
  holding : ∀ {thread call incarnation}, s.held thread = some (call, incarnation) →
    .accepted thread call incarnation ∈ s.log ∧ call ∉ sent s.log
  turns : ∀ thread,
    (sentBy s.log thread ++ ((s.held thread).map Prod.fst).toList).Sublist (acceptedBy s.log thread)
  bound : ∀ {thread call incarnation}, .accepted thread call incarnation ∈ s.log → incarnation ≤ s.current
  numbered : s.current ≤ s.newest

/-- Calls are read in the order they were written. -/
structure Queued (s : Service Thread Call) : Prop where
  order : (executed s.log ++ s.unread).Sublist (sent s.log)
  unread : s.phase = .serving → ∀ call ∈ s.unread, ∃ thread, .accepted thread call s.current ∈ s.log
  ran : ∀ {call incarnation}, .executed incarnation call ∈ s.log →
    ∃ thread, .accepted thread call incarnation ∈ s.log
  waiting : s.phase = .serving → ∀ call ∈ sent s.log,
    call ∈ executed s.log ∨ .died call ∈ s.log ∨ call ∈ s.unread
  fifo : ∀ {thread other first second incarnation}, Before s.log (.sent thread first) (.sent other second) →
    .executed incarnation second ∈ s.log →
    (∃ earlier, Before s.log (.executed earlier first) (.executed incarnation second)) ∨
      Before s.log (.died first) (.executed incarnation second)

/-- No call is forgotten while there may be another incarnation. -/
structure Answerable (s : Service Thread Call) : Prop where
  accepted : s.phase ≠ .abandoned → ∀ call ∈ s.pending, ∃ thread, .accepted thread call s.current ∈ s.log
  held : s.phase ≠ .abandoned → ∀ thread call, s.held thread = some (call, s.current) →
    call ∈ s.pending ∨ .died call ∈ s.log
  sent : s.phase ≠ .abandoned → ∀ call ∈ sent s.log,
    call ∈ executed s.log ∨ .died call ∈ s.log ∨ call ∈ s.pending
  died : ∀ {call}, .died call ∈ s.log → ∃ thread incarnation, .accepted thread call incarnation ∈ s.log
  late : ∀ {call incarnation}, Before s.log (.died call) (.started incarnation) →
    ∃ thread earlier, .accepted thread call earlier ∈ s.log ∧ earlier < incarnation

theorem Queued.note (kept : Queued s) (unread : t.unread = s.unread) (current : t.current = s.current)
    (phase : t.phase = .serving → s.phase = .serving) {event : Event Thread Call}
    (log : t.log = s.log ++ [event]) (unsent : event.sentCall = none)
    (unexecuted : event.executedCall = none) : Queued t := by
  have sameSent : sent t.log = sent s.log := by rw [log, sent_of_none _ unsent]
  have sameExecuted : executed t.log = executed s.log := by rw [log, executed_of_none _ unexecuted]
  have grown : ∀ {other}, other ∈ s.log → other ∈ t.log := by
    intro other member
    rw [log]
    exact List.mem_append_left _ member
  have later : ∀ {first second}, Before s.log first second → Before t.log first second := by
    intro first second before
    rw [log, before_snoc]
    exact .inl before
  have ran : ∀ {call incarnation}, .executed incarnation call ∈ t.log →
      .executed incarnation call ∈ s.log := by
    intro call incarnation member
    rw [log] at member
    refine (mem_snoc.mp member).resolve_right fun last => ?_
    rw [← last] at unexecuted
    cases unexecuted
  refine ⟨?_, fun serving call member => ?_, fun member => ?_, fun serving call member => ?_,
    fun before member => ?_⟩
  · rw [sameSent, sameExecuted, unread]
    exact kept.order
  · rw [current]
    exact (kept.unread (phase serving) call (unread ▸ member)).imp fun _ => grown
  · exact (kept.ran (ran member)).imp fun _ => grown
  · rw [sameExecuted, unread]
    exact (kept.waiting (phase serving) call (sameSent ▸ member)).imp_right (.imp_left grown)
  · rw [log, before_snoc] at before
    have before := before.resolve_right fun last => by
      rw [← last.2] at unsent
      cases unsent
    exact (kept.fifo before (ran member)).imp (.imp fun _ => later) later

theorem Queued.advance (kept : Queued s) (unread : t.unread = s.unread) (log : t.log = s.log)
    (phase : t.phase = .serving → s.phase = .serving ∧ t.current = s.current) : Queued t := by
  refine ⟨?_, fun serving => ?_, ?_, fun serving => ?_, ?_⟩
  · rw [log, unread]
    exact kept.order
  · rw [log, unread, (phase serving).2]
    exact kept.unread (phase serving).1
  · rw [log]
    exact kept.ran
  · rw [log, unread]
    exact kept.waiting (phase serving).1
  · rw [log]
    exact kept.fifo

theorem Queued.head_first (kept : Queued s) (once : (sent s.log).Nodup) (front : s.unread = call :: rest)
    (member : other ∈ rest) (before : Before s.log (.sent thread other) (.sent caller call)) : False := by
  have behind : [call, other].Sublist (sent s.log) := by
    refine List.Sublist.trans ?_ kept.order
    rw [front]
    exact (List.cons_sublist_cons.mpr (List.singleton_sublist.mpr member)).trans
      (List.sublist_append_right _ _)
  have ahead : [other, call].Sublist (sent s.log) := before.filterMap Event.sentCall
  cases (List.Nodup.perm_iff_eq_of_sublist once behind ahead).mp (.swap ..)
  exact List.nodup_iff_sublist.mp once _ behind

/-- Who died, and before which incarnation, is told by two kinds of events only. -/
theorem Answerable.note (kept : Answerable s) (event : Event Thread Call)
    (undead : ∀ call, event ≠ .died call) (unstarted : ∀ incarnation, event ≠ .started incarnation) :
    (∀ {call}, .died call ∈ s.log ++ [event] →
        ∃ thread incarnation, .accepted thread call incarnation ∈ s.log ++ [event]) ∧
      ∀ {call incarnation}, Before (s.log ++ [event]) (.died call) (.started incarnation) →
        ∃ thread earlier, .accepted thread call earlier ∈ s.log ++ [event] ∧ earlier < incarnation := by
  constructor
  · intro call member
    rcases mem_snoc.mp member with inside | last
    · exact (kept.died inside).imp fun _ => .imp fun _ => List.mem_append_left _
    · exact absurd last.symm (undead call)
  · intro call incarnation before
    rcases before_snoc.mp before with before | ⟨_, last⟩
    · exact (kept.late before).imp fun _ => .imp fun _ => .imp_left (List.mem_append_left _)
    · exact absurd last.symm (unstarted incarnation)

/-- What has been written and not executed stays answerable as the history grows. -/
theorem Answerable.grow (kept : Answerable s) (going : s.phase ≠ .abandoned) (more : History Thread Call)
    (member : call ∈ History.sent s.log) :
    call ∈ executed (s.log ++ more) ∨ .died call ∈ s.log ++ more ∨ call ∈ s.pending := by
  refine (kept.sent going call member).imp (fun ran => ?_) (.imp_left (List.mem_append_left _))
  rw [executed, List.filterMap_append]
  exact List.mem_append_left _ ran

theorem Answerable.log (kept : Answerable s) {event : Event Thread Call} (unsent : event.sentCall = none)
    (died : ∀ {call}, .died call ∈ s.log ++ [event] →
      ∃ thread incarnation, .accepted thread call incarnation ∈ s.log ++ [event])
    (late : ∀ {call incarnation}, Before (s.log ++ [event]) (.died call) (.started incarnation) →
      ∃ thread earlier, .accepted thread call earlier ∈ s.log ++ [event] ∧ earlier < incarnation)
    (newest : Nat) (unread : List Call) :
    Answerable { s with newest := newest, unread := unread, log := s.log ++ [event] } := by
  refine ⟨fun going other member => ?_, fun going _ _ holds => ?_, fun going other member => ?_, died, late⟩
  · exact (kept.accepted going other member).imp fun _ => List.mem_append_left _
  · exact (kept.held going _ _ holds).imp_right (List.mem_append_left _)
  · rw [sent_of_none _ unsent] at member
    exact kept.grow going _ member

theorem Answerable.declare (kept : Answerable s) (going : s.phase ≠ .abandoned)
    (front : s.pending = call :: rest) :
    Answerable { s with pending := rest, log := s.log ++ [.died call] } := by
  have dead : ∀ {other}, other ∈ s.pending → .died other ∈ s.log ++ [.died call] ∨ other ∈ rest := by
    intro other member
    rw [front] at member
    refine (List.mem_cons.mp member).imp_left ?_
    rintro rfl
    exact List.mem_append_right _ List.mem_cons_self
  refine ⟨fun _ other member => ?_, fun _ _ _ holds => ?_, fun _ other member => ?_, fun member => ?_,
    fun before => ?_⟩
  · have inside : other ∈ s.pending := front ▸ List.mem_cons_of_mem _ member
    exact (kept.accepted going other inside).imp fun _ => List.mem_append_left _
  · rcases kept.held going _ _ holds with pending | already
    · exact (dead pending).symm
    · exact .inr (List.mem_append_left _ already)
  · rw [sent_of_none _ rfl] at member
    rcases kept.grow going [.died call] member with ran | already | pending
    · exact .inl ran
    · exact .inr (.inl already)
    · exact .inr (dead pending)
  · rcases mem_snoc.mp member with inside | last
    · exact (kept.died inside).imp fun _ => .imp fun _ => List.mem_append_left _
    · cases last
      exact (kept.accepted going call (front ▸ List.mem_cons_self)).imp fun _ accepted =>
        ⟨_, List.mem_append_left _ accepted⟩
  · rcases before_snoc.mp before with before | ⟨_, last⟩
    · exact (kept.late before).imp fun _ => .imp fun _ => .imp_left (List.mem_append_left _)
    · cases last

theorem Queued.execute (kept : Queued s) (once : (sent s.log).Nodup) (serving : s.phase = .serving)
    (front : s.unread = call :: rest) :
    Queued { s with unread := rest, log := s.log ++ [.executed s.current call] } := by
  have sameSent : sent (s.log ++ [.executed s.current call]) = sent s.log := sent_of_none _ rfl
  have moreExecuted : executed (s.log ++ [.executed s.current call]) = executed s.log ++ [call] :=
    executed_snoc _ _
  have waits := kept.waiting serving
  rw [front] at waits
  refine ⟨?_, fun _ other member => ?_, fun member => ?_, fun _ other member => ?_, fun before member => ?_⟩
  · rw [sameSent, moreExecuted, List.append_assoc, List.singleton_append, ← front]
    exact kept.order
  · have inside : other ∈ s.unread := front ▸ List.mem_cons_of_mem _ member
    exact (kept.unread serving other inside).imp fun _ => List.mem_append_left _
  · rcases mem_snoc.mp member with inside | last
    · exact (kept.ran inside).imp fun _ => List.mem_append_left _
    · cases last
      exact (kept.unread serving call (front ▸ List.mem_cons_self)).imp fun _ => List.mem_append_left _
  · rw [sameSent] at member
    rw [moreExecuted]
    rcases waits other member with ran | died | unread
    · exact .inl (List.mem_append_left _ ran)
    · exact .inr (.inl (List.mem_append_left _ died))
    · rcases List.mem_cons.mp unread with rfl | behind
      · exact .inl (List.mem_append_right _ List.mem_cons_self)
      · exact .inr (.inr behind)
  · rename_i thread caller first second incarnation
    have before : Before s.log (.sent thread first) (.sent caller second) := by
      refine (before_snoc.mp before).resolve_right fun last => ?_
      cases last.2
    rcases mem_snoc.mp member with inside | last
    · refine (kept.fifo before inside).imp (.imp fun _ before => ?_) fun before => ?_
      · exact before_snoc.mpr (.inl before)
      · exact before_snoc.mpr (.inl before)
    · cases last
      rcases waits first (mem_sent.mpr ⟨thread, before.subset List.mem_cons_self⟩) with ran | died | unread
      · obtain ⟨earlier, ran⟩ := mem_executed.mp ran
        exact .inl ⟨earlier, before_snoc.mpr (.inr ⟨ran, rfl⟩)⟩
      · exact .inr (before_snoc.mpr (.inr ⟨died, rfl⟩))
      · rcases List.mem_cons.mp unread with rfl | behind
        · have twice : [first, first].Sublist (sent s.log) := before.filterMap Event.sentCall
          exact absurd twice (List.nodup_iff_sublist.mp once _)
        · exact (kept.head_first once front behind before).elim

variable [DecidableEq Thread]

theorem Booked.known_snoc (kept : Booked s) {event : Event Thread Call}
    (member : .sent thread call ∈ s.log ++ [event]) :
    (∃ incarnation, .accepted thread call incarnation ∈ s.log ++ [event]) ∨ .sent thread call = event := by
  rcases mem_snoc.mp member with inside | last
  · obtain ⟨incarnation, accepted⟩ := kept.known inside
    exact .inl ⟨incarnation, List.mem_append_left _ accepted⟩
  · exact .inr last

theorem Booked.turns_snoc (kept : Booked s) {event : Event Thread Call} (different : caller ≠ thread)
    (unaccepted : event.acceptedCallOf caller = none) (unsent : event.sentCallOf caller = none)
    (now : Option (Call × Nat)) :
    (sentBy (s.log ++ [event]) caller ++
        ((update s.held thread now caller).map Prod.fst).toList).Sublist
      (acceptedBy (s.log ++ [event]) caller) := by
  rw [acceptedBy_snoc, sentBy_snoc, unaccepted, unsent, update_of_ne different, Option.toList_none,
    List.append_nil, List.append_nil]
  exact kept.turns caller

theorem Booked.note (kept : Booked s) (held : t.held = s.held) {event : Event Thread Call}
    (log : t.log = s.log ++ [event]) (unaccepted : event.acceptedCall = none) (unsent : event.sentCall = none)
    (current : s.current ≤ t.current) (numbered : t.current ≤ t.newest) : Booked t := by
  have old : ∀ {other}, other ∈ t.log → other ∈ s.log ∨ other = event := by
    intro other member
    rw [log] at member
    exact mem_snoc.mp member
  have grown : ∀ {other}, other ∈ s.log → other ∈ t.log := by
    intro other member
    rw [log]
    exact List.mem_append_left _ member
  have sameSent : sent t.log = sent s.log := by rw [log, sent_of_none _ unsent]
  have turns : ∀ thread, acceptedBy t.log thread = acceptedBy s.log thread ∧
      sentBy t.log thread = sentBy s.log thread := by
    intro thread
    rw [log, acceptedBy_snoc, sentBy_snoc]
    cases event with
    | accepted => cases unaccepted
    | sent => cases unsent
    | _ => exact ⟨List.append_nil _, List.append_nil _⟩
  refine ⟨?_, sameSent ▸ kept.sentOnce, fun member => ?_, fun holds => ?_, fun thread => ?_,
    fun member => ?_, numbered⟩
  · rw [log, accepted_of_none _ unaccepted]
    exact kept.once
  · rw [log] at member ⊢
    rcases kept.known_snoc member with accepted | rfl
    · exact accepted
    · cases unsent
  · rw [held] at holds
    exact ⟨grown (kept.holding holds).1, sameSent ▸ (kept.holding holds).2⟩
  · rw [(turns thread).1, (turns thread).2, held]
    exact kept.turns thread
  · rcases old member with inside | rfl
    · exact Nat.le_trans (kept.bound inside) current
    · cases unaccepted

theorem Booked.accept (kept : Booked s) (idle : s.held thread = none) (fresh : call ∉ accepted s.log) :
    Booked { s with
      pending := call :: s.pending
      held := update s.held thread (some (call, s.current))
      log := s.log ++ [.accepted thread call s.current] } := by
  have unsent : call ∉ sent s.log := by
    intro member
    obtain ⟨caller, inside⟩ := mem_sent.mp member
    obtain ⟨incarnation, accepted⟩ := kept.known inside
    exact fresh (mem_accepted.mpr ⟨_, _, accepted⟩)
  have sameSent : sent (s.log ++ [.accepted thread call s.current]) = sent s.log := sent_of_none _ rfl
  refine ⟨?_, sameSent ▸ kept.sentOnce, fun member => ?_, @fun caller made incarnation holds => ?_,
    fun caller => ?_, fun member => ?_, kept.numbered⟩
  · rw [accepted_snoc]
    exact List.concat_eq_append ▸ List.Nodup.concat fresh kept.once
  · exact (kept.known_snoc member).resolve_right fun last => by cases last
  · rcases held_cases holds with ⟨rfl, now⟩ | ⟨_, holds⟩
    · cases now
      exact ⟨List.mem_append_right _ List.mem_cons_self, sameSent ▸ unsent⟩
    · exact ⟨List.mem_append_left _ (kept.holding holds).1, sameSent ▸ (kept.holding holds).2⟩
  · by_cases same : caller = thread
    · subst same
      have turns := kept.turns caller
      rw [idle] at turns
      rw [acceptedBy_snoc, sentBy_snoc]
      simp only [Event.sentCallOf, Event.acceptedCallOf, Option.toList_none, List.append_nil,
        update_self, if_true]
      exact ((List.append_nil _).symm ▸ turns).append (.refl _)
    · refine kept.turns_snoc same ?_ rfl _
      exact if_neg (Ne.symm same)
  · rcases mem_snoc.mp member with inside | last
    · exact kept.bound inside
    · cases last
      exact Nat.le_refl _

theorem Booked.release (kept : Booked s) (thread : Thread) :
    Booked { s with held := update s.held thread none } := by
  refine ⟨kept.once, kept.sentOnce, kept.known, @fun caller made incarnation holds => ?_, fun caller => ?_,
    kept.bound, kept.numbered⟩
  · exact kept.holding ((held_cases holds).resolve_left nofun).2
  · have turns := kept.turns caller
    change (sentBy s.log caller ++ ((update s.held thread none caller).map Prod.fst).toList).Sublist _
    by_cases same : caller = thread
    · subst same
      rw [update_self]
      exact (List.Sublist.append (.refl _) (List.nil_sublist _)).trans turns
    · rw [update_of_ne same]
      exact turns

theorem Booked.send (kept : Booked s) (holds : s.held thread = some (call, s.current)) :
    Booked { s with
      unread := s.unread ++ [call]
      held := update s.held thread none
      log := s.log ++ [.sent thread call] } := by
  obtain ⟨acceptedHere, unsent⟩ := kept.holding holds
  have sameAccepted : ∀ {other caller incarnation},
      Event.accepted caller other incarnation ∈ s.log ++ [.sent thread call] →
        Event.accepted caller other incarnation ∈ s.log := by
    intro other caller incarnation member
    apply (mem_snoc.mp member).resolve_right
    intro last
    cases last
  refine ⟨?_, ?_, fun member => ?_, @fun caller made incarnation held => ?_, fun caller => ?_,
    fun member => kept.bound (sameAccepted member), kept.numbered⟩
  · rw [accepted_of_none _ rfl]
    exact kept.once
  · rw [sent_snoc]
    exact List.concat_eq_append ▸ List.Nodup.concat unsent kept.sentOnce
  · rcases kept.known_snoc member with accepted | last
    · exact accepted
    · cases last
      exact ⟨_, List.mem_append_left _ acceptedHere⟩
  · obtain ⟨different, held⟩ := (held_cases held).resolve_left nofun
    obtain ⟨accepted, before⟩ := kept.holding held
    refine ⟨List.mem_append_left _ accepted, fun member => ?_⟩
    rw [sent_snoc] at member
    rcases List.mem_append.mp member with inside | last
    · exact before inside
    · cases List.mem_singleton.mp last
      exact different (accepted_unique kept.once accepted acceptedHere).1
  · by_cases same : caller = thread
    · subst same
      have turns := kept.turns caller
      rw [holds] at turns
      rw [acceptedBy_snoc, sentBy_snoc]
      simp only [Event.sentCallOf, Event.acceptedCallOf, update_self, if_true, Option.map_none,
        Option.toList_none, List.append_nil]
      exact turns
    · refine kept.turns_snoc same rfl ?_ none
      exact if_neg (Ne.symm same)

theorem Booked.advance (kept : Booked s) (held : t.held = s.held) (log : t.log = s.log)
    (current : s.current ≤ t.current) (numbered : t.current ≤ t.newest) : Booked t := by
  obtain ⟨once, sentOnce, known, holding, turns, bound, _⟩ := kept
  rw [← log] at once sentOnce known holding turns bound
  rw [← held] at holding turns
  exact ⟨once, sentOnce, known, holding, turns, fun member => Nat.le_trans (bound member) current, numbered⟩

theorem booked_step (kept : Booked s) (step : Step s t) : Booked t := by
  cases step with
  | accept idle fresh => exact kept.accept idle fresh
  | send _ holds => exact kept.send holds
  | giveUp thread => exact kept.release thread
  | execute | declare => exact kept.note rfl rfl rfl rfl (Nat.le_refl _) kept.numbered
  | start _ newer =>
    exact kept.note rfl rfl rfl rfl (Nat.le_refl _) (Nat.le_trans kept.numbered (Nat.le_of_lt newer))
  | settle | crash => exact kept.advance rfl rfl (Nat.le_refl _) kept.numbered
  | replace _ _ newer => exact kept.advance rfl rfl (Nat.le_of_lt newer) (Nat.le_refl _)
  | abandon _ later numbered => exact kept.advance rfl rfl later numbered

theorem Queued.send (kept : Queued s) (booked : Booked s) (holds : s.held thread = some (call, s.current)) :
    Queued { s with
      unread := s.unread ++ [call]
      held := update s.held thread none
      log := s.log ++ [.sent thread call] } := by
  obtain ⟨acceptedHere, unsent⟩ := booked.holding holds
  have sameExecuted : executed (s.log ++ [.sent thread call]) = executed s.log := executed_of_none _ rfl
  have ran : ∀ {other incarnation}, Event.executed incarnation other ∈ s.log ++ [.sent thread call] →
      Event.executed incarnation other ∈ s.log := by
    intro other incarnation member
    apply (mem_snoc.mp member).resolve_right
    intro last
    cases last
  refine ⟨?_, fun serving other member => ?_, fun member => ?_, fun serving other member => ?_,
    fun before member => ?_⟩
  · rw [sent_snoc, sameExecuted, ← List.append_assoc]
    exact kept.order.append (.refl _)
  · rcases List.mem_append.mp member with inside | last
    · exact (kept.unread serving other inside).imp fun _ => List.mem_append_left _
    · cases List.mem_singleton.mp last
      exact ⟨thread, List.mem_append_left _ acceptedHere⟩
  · exact (kept.ran (ran member)).imp fun _ => List.mem_append_left _
  · rw [sent_snoc] at member
    rw [sameExecuted]
    rcases List.mem_append.mp member with inside | last
    · exact (kept.waiting serving other inside).imp_right
        (.imp (List.mem_append_left _) (List.mem_append_left _))
    · exact .inr (.inr (List.mem_append_right _ last))
  · rcases before_snoc.mp before with before | ⟨_, last⟩
    · refine (kept.fifo before (ran member)).imp (.imp fun _ before => ?_) fun before => ?_
      · exact before_snoc.mpr (.inl before)
      · exact before_snoc.mpr (.inl before)
    · cases last
      -- a call just written has not been executed
      exact absurd (kept.order.subset (List.mem_append_left _ (mem_executed.mpr ⟨_, ran member⟩))) unsent

theorem queued_step (kept : Queued s) (booked : Booked s) (answerable : Answerable s) (step : Step s t) :
    Queued t := by
  cases step with
  | accept => exact kept.note rfl rfl id rfl rfl rfl
  | send _ holds => exact kept.send booked holds
  | execute serving front => exact kept.execute booked.sentOnce serving front
  | giveUp | settle => exact kept.advance rfl rfl fun serving => ⟨serving, rfl⟩
  | crash | abandon => exact kept.advance rfl rfl nofun
  | declare | start => exact kept.note rfl rfl id rfl rfl rfl
  | replace crashed none =>
    have unabandoned : s.phase ≠ .abandoned := by
      rw [crashed]
      exact nofun
    refine ⟨?_, fun _ => nofun, kept.ran, fun _ call member => ?_, kept.fifo⟩
    · exact (List.Sublist.append (.refl _) (List.nil_sublist _)).trans kept.order
    · -- nothing is pending, so what was written has been executed or declared dead
      refine (answerable.sent unabandoned call member).imp_right (.imp_right fun pending => ?_)
      rw [none] at pending
      cases pending

theorem Answerable.accept (kept : Answerable s) (thread : Thread) (call : Call) :
    Answerable { s with
      pending := call :: s.pending
      held := update s.held thread (some (call, s.current))
      log := s.log ++ [.accepted thread call s.current] } := by
  obtain ⟨died, late⟩ := kept.note (.accepted thread call s.current) nofun nofun
  refine ⟨fun going other member => ?_, fun going caller made holds => ?_, fun going other member => ?_,
    died, late⟩
  · rcases List.mem_cons.mp member with rfl | old
    · exact ⟨thread, List.mem_append_right _ List.mem_cons_self⟩
    · exact (kept.accepted going other old).imp fun _ => List.mem_append_left _
  · rcases held_cases holds with ⟨rfl, now⟩ | ⟨_, holds⟩
    · cases now
      exact .inl List.mem_cons_self
    · exact (kept.held going _ _ holds).imp (List.mem_cons_of_mem _) (List.mem_append_left _)
  · rw [sent_of_none _ rfl] at member
    exact (kept.grow going _ member).imp_right (.imp_right (List.mem_cons_of_mem _))

theorem Answerable.release (kept : Answerable s) (thread : Thread) :
    Answerable { s with held := update s.held thread none } := by
  refine ⟨kept.accepted, fun going caller made holds => ?_, kept.sent, kept.died, kept.late⟩
  exact kept.held going _ _ ((held_cases holds).resolve_left nofun).2

theorem Answerable.send (kept : Answerable s) (holds : s.held thread = some (call, s.current)) :
    Answerable { s with
      unread := s.unread ++ [call]
      held := update s.held thread none
      log := s.log ++ [.sent thread call] } := by
  obtain ⟨died, late⟩ := kept.note (.sent thread call) nofun nofun
  refine ⟨fun going other member => ?_, fun going caller made held => ?_, fun going other member => ?_,
    died, late⟩
  · exact (kept.accepted going other member).imp fun _ => List.mem_append_left _
  · exact ((kept.release thread).held going _ _ held).imp_right (List.mem_append_left _)
  · rw [sent_snoc] at member
    rcases List.mem_append.mp member with inside | last
    · exact kept.grow going _ inside
    · cases List.mem_singleton.mp last
      exact (kept.held going _ _ holds).elim (fun pending => .inr (.inr pending))
        fun dead => .inr (.inl (List.mem_append_left _ dead))

/-- Whoever has been declared dead was given an earlier incarnation. -/
theorem Answerable.start (kept : Answerable s) (booked : Booked s) (newer : s.newest < fresh) :
    Answerable { s with newest := fresh, log := s.log ++ [.started fresh] } := by
  refine kept.log rfl (fun member => ?_) (fun before => ?_) fresh s.unread
  · have inside := (mem_snoc.mp member).resolve_right nofun
    exact (kept.died inside).imp fun _ => .imp fun _ => List.mem_append_left _
  · rcases before_snoc.mp before with before | ⟨dead, last⟩
    · exact (kept.late before).imp fun _ => .imp fun _ => .imp_left (List.mem_append_left _)
    · cases last
      obtain ⟨thread, earlier, accepted⟩ := kept.died dead
      refine ⟨thread, earlier, List.mem_append_left _ accepted, ?_⟩
      exact Nat.lt_of_le_of_lt (Nat.le_trans (booked.bound accepted) booked.numbered) newer

theorem answerable_step (kept : Answerable s) (booked : Booked s) (queued : Queued s) (step : Step s t) :
    Answerable t := by
  cases step with
  | accept => exact kept.accept _ _
  | send _ holds => exact kept.send holds
  | giveUp thread => exact kept.release thread
  | execute =>
    obtain ⟨died, late⟩ := kept.note (.executed s.current _) nofun nofun
    exact kept.log rfl died late _ _
  | settle fewer rest =>
    refine ⟨fun going call member => kept.accepted going call (fewer call member),
      fun going _ _ holds => ?_, fun going call member => ?_, kept.died, kept.late⟩
    · refine (kept.held going _ _ holds).imp_left fun pending => (rest _ pending).resolve_right fun ran => ?_
      -- a call in hand has not been written
      exact (booked.holding holds).2 (queued.order.subset (List.mem_append_left _ ran))
    · rcases kept.sent going call member with ran | dead | pending
      · exact .inl ran
      · exact .inr (.inl dead)
      · exact (rest call pending).elim (fun stays => .inr (.inr stays)) .inl
  | crash serving =>
    have going : s.phase ≠ .abandoned := by
      rw [serving]
      exact nofun
    exact ⟨fun _ => kept.accepted going, fun _ => kept.held going, fun _ => kept.sent going, kept.died,
      kept.late⟩
  | declare crashed front =>
    refine kept.declare ?_ front
    rw [crashed]
    exact nofun
  | start _ newer => exact kept.start booked newer
  | replace crashed none newer =>
    have going : s.phase ≠ .abandoned := by
      rw [crashed]
      exact nofun
    refine ⟨fun _ call member => ?_, fun _ _ _ holds => ?_, fun _ => kept.sent going, kept.died, kept.late⟩
    · have member : call ∈ s.pending := member
      rw [none] at member
      cases member
    · exact absurd (booked.bound (booked.holding holds).1) (Nat.not_le_of_lt newer)
  | abandon =>
    exact ⟨fun going => absurd rfl going, fun going => absurd rfl going, fun going => absurd rfl going,
      kept.died, kept.late⟩

/-- All that holds of a service at any time. -/
structure Orderly (s : Service Thread Call) : Prop where
  booked : Booked s
  queued : Queued s
  answerable : Answerable s

theorem orderly_step (kept : Orderly s) (step : Step s t) : Orderly t :=
  ⟨booked_step kept.booked step, queued_step kept.queued kept.booked kept.answerable step,
    answerable_step kept.answerable kept.booked kept.queued step⟩

theorem orderly_steps (kept : Orderly s) (steps : Relation.ReflTransGen Step s t) : Orderly t := by
  induction steps with
  | refl => exact kept
  | tail _ last ih => exact orderly_step ih last

theorem orderly_start (first : Nat) :
    Orderly (⟨first, first, .serving, [], [], fun _ => none, [.started first]⟩ : Service Thread Call) := by
  have only : ∀ {event : Event Thread Call}, event ∈ [.started first] → event = .started first :=
    List.mem_singleton.mp
  have apart : ∀ {a b : Event Thread Call}, ¬ Before [.started first] a b := fun before =>
    absurd before.length_le (Nat.not_succ_le_self 1)
  refine ⟨⟨List.nodup_nil, List.nodup_nil, fun member => ?_, nofun, fun _ => .slnil, fun member => ?_,
    Nat.le_refl _⟩, ⟨.slnil, fun _ => nofun, fun member => ?_, fun _ => nofun, fun before => (apart before).elim⟩,
    ⟨fun _ => nofun, fun _ => nofun, fun _ => nofun, fun member => ?_, fun before => (apart before).elim⟩⟩
  all_goals cases only member

namespace Orderly

theorem executed_once (kept : Orderly s) : (executed s.log).Nodup :=
  kept.booked.sentOnce.sublist ((List.sublist_append_left _ _).trans kept.queued.order)

theorem executed_by_one (kept : Orderly s) (first : .executed incarnation call ∈ s.log)
    (second : .executed later call ∈ s.log) : incarnation = later := by
  obtain ⟨thread, accepted⟩ := kept.queued.ran first
  obtain ⟨other, again⟩ := kept.queued.ran second
  exact (accepted_unique kept.booked.once accepted again).2

theorem not_executed_after_death (kept : Orderly s)
    (late : Before s.log (.died call) (.started incarnation)) :
    .executed incarnation call ∉ s.log := by
  intro ran
  obtain ⟨thread, accepted⟩ := kept.queued.ran ran
  obtain ⟨other, earlier, before, older⟩ := kept.answerable.late late
  exact Nat.ne_of_lt older (accepted_unique kept.booked.once before accepted).2

theorem executed_in_order [DecidableEq Call] (kept : Orderly s) (thread : Thread) :
    ((executed s.log).filter (· ∈ acceptedBy s.log thread)).Sublist (acceptedBy s.log thread) := by
  have told : ∀ caller call, .sent caller call ∈ s.log →
      (decide (call ∈ acceptedBy s.log thread) = true ↔ caller = thread) := by
    intro caller call member
    obtain ⟨incarnation, accepted⟩ := kept.booked.known member
    rw [decide_eq_true_iff, mem_acceptedBy]
    constructor
    · rintro ⟨later, again⟩
      exact (accepted_unique kept.booked.once accepted again).1
    · rintro rfl
      exact ⟨incarnation, accepted⟩
  have written : ((executed s.log).filter (· ∈ acceptedBy s.log thread)).Sublist (sentBy s.log thread) := by
    rw [← filter_sent told]
    exact ((List.sublist_append_left _ _).trans kept.queued.order).filter _
  exact written.trans ((List.sublist_append_left _ _).trans (kept.booked.turns thread))

/-- Of two calls of one thread the second is not executed while the first is still to come. -/
theorem skipped_only_dead (kept : Orderly s) (made : [first, second].Sublist (acceptedBy s.log thread))
    (written : .sent thread first ∈ s.log) (ran : .executed incarnation second ∈ s.log) :
    (∃ earlier, Before s.log (.executed earlier first) (.executed incarnation second)) ∨
      Before s.log (.died first) (.executed incarnation second) := by
  have once : (acceptedBy s.log thread).Nodup := kept.booked.once.sublist (acceptedBy_sublist _ _)
  have different : first ≠ second := by
    rintro rfl
    exact List.nodup_iff_sublist.mp once _ made
  obtain ⟨caller, also⟩ := mem_sent.mp
    (kept.queued.order.subset (List.mem_append_left _ (mem_executed.mpr ⟨_, ran⟩)))
  have same : caller = thread := by
    obtain ⟨earlier, accepted⟩ := kept.booked.known also
    obtain ⟨later, again⟩ := mem_acceptedBy.mp (made.subset (List.mem_cons_of_mem _ List.mem_cons_self))
    exact (accepted_unique kept.booked.once accepted again).1
  subst same
  refine kept.queued.fifo ((before_total written also ?_).resolve_right fun swapped => ?_) ran
  · intro equal
    cases equal
    exact different rfl
  · have turned : [second, first].Sublist (sentBy s.log caller) := by
      simpa [sentBy, Event.sentCallOf] using swapped.filterMap (Event.sentCallOf caller)
    have turned := turned.trans ((List.sublist_append_left _ _).trans (kept.booked.turns caller))
    cases (List.Nodup.perm_iff_eq_of_sublist once turned made).mp (.swap ..)
    exact different rfl

end Orderly

end Invariants
end Incarnations
