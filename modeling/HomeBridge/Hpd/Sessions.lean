import HomeBridge.Hpd.EventQueue

/-!
# The threads at a session's queue

Each connection of a session has a thread: it takes events out of the session's queue (`dequeue_event`), and when its client has
gone it waits for another connection or for its timeout (`wait_for_timeout`). One field, `is_waiting`, says that somebody waits, and
every thread that comes back from a wait clears it, whoever waits besides. So a thread that blocks is woken for the next event
exactly as long as no other thread comes or goes in the meantime.
-/

namespace HomeBridge.Hpd

open Runs

/-- Where the thread of a connection is: not at the queue, or blocked in one of its two waits, and then with or without a broadcast
on its way. -/
inductive Place where
  | away
  | dequeue (signalled : Bool)
  | timeout (signalled : Bool)
  deriving DecidableEq

/-- A broadcast reaches a thread. -/
def Place.signal : Place → Place
  | .away => .away
  | .dequeue _ => .dequeue true
  | .timeout _ => .timeout true

/-- A session: its queue, where the thread of each connection is, and how many connection IDs have been generated. -/
structure Session where
  queue : EventQueue
  place : Nat → Place
  issued : Nat

/-- The sections under the mutex of the queue, each with the connection whose thread runs it, if it is such a thread. -/
inductive SessionAct where
  | queue (event : Event)
  | subscribe (URL : String)
  | unsubscribe (URL : String)
  | setAvailability (URL : String) (availability : Int)
  | toggleLog
  | dequeue (connection_id : Nat)
  | timeout (connection_id : Nat)
  | wake (connection_id : Nat)
  | setUp
  | exit

namespace Session

/-- A broadcast reaches the threads that wait, if there is one. -/
def places (s : Session) (woken : Bool) : Nat → Place := if woken then fun c => (s.place c).signal else s.place

/-- `queue_event` on the session's queue. -/
def accept (s : Session) (event : Event) : Session :=
  let r := queue_event s.queue event HPD_NO
  { s with queue := r.1, place := s.places r.2 }

/-- One section, and the event `dequeue_event` returns if it is the last section of that. -/
def act (s : Session) : SessionAct → Option (Session × Option Event)
  | .queue event => some (s.accept event, none)
  | .subscribe URL => some ({ s with queue := add_service_id_to_queue URL s.queue }, none)
  | .unsubscribe URL => some ({ s with queue := remove_service_id_from_queue URL s.queue }, none)
  | .setAvailability URL availability => some ({ s with queue := (set_availability_of_service URL s.queue availability).2 }, none)
  | .toggleLog => some ({ s with queue := subscribe_to_log_events s.queue }, none)
  | .dequeue c =>
    if c < s.issued ∧ s.place c = .away then
      (dequeue_event s.queue (some c) HPD_NO).map fun r =>
        ({ s with queue := r.1, place := if r.2.isSome then s.place else Function.update s.place c (.dequeue false) },
          r.2.getD none)
    else none
  | .timeout c =>
    if c < s.issued ∧ s.place c = .away then
      some ({ s with queue := wait_for_timeout s.queue, place := Function.update s.place c (.timeout false) }, none)
    else none
  | .wake c =>
    match s.place c with
    | .away => none
    | .dequeue _ => (dequeue_wake s.queue (some c) HPD_NO).map fun r =>
      ({ s with queue := r.1, place := Function.update s.place c .away }, r.2)
    | .timeout _ => some ({ s with queue := wait_for_timeout_wake s.queue, place := Function.update s.place c .away }, none)
  | .setUp =>
    let r := set_up_server_sent_event_connection s.queue s.issued
    some ({ queue := r.1, place := s.places r.2, issued := s.issued + 1 }, none)
  | .exit =>
    let r := exit_event_queue s.queue
    some ({ s with queue := r.1, place := s.places r.2 }, none)

/-- One section. -/
def step (s : Session) (a : SessionAct) : Option Session := (s.act a).map Prod.fst

/-- A new session. -/
def start : Session := ⟨create_event_queue, fun _ => .away, 0⟩

/-- The thread of the session's connection is blocked in `dequeue_event`, and no broadcast is on its way to it. -/
def Blocked (s : Session) (c : Nat) : Prop := s.queue.connection_id = some c ∧ s.place c = .dequeue false

/-- While the thread of the session's connection is blocked, the queue says so, and it is empty: otherwise a broadcast is on its way. -/
structure NoLostWakeup (s : Session) : Prop where
  waiting : ∀ c, s.Blocked c → s.queue.is_waiting = HPD_YES
  empty : ∀ c, s.Blocked c → s.queue.event_queue_head = []

/-- The sections that write `is_waiting`, the return from a wait and the entry to the timed one, are run while the thread of the
session's connection is not blocked, or by that thread. -/
def Undisturbed (s : Session) : SessionAct → Prop
  | .wake c | .timeout c => ∀ d, s.Blocked d → d = c
  | _ => True

/-! ## The invariant -/

/-- What holds between the sections while they are undisturbed. -/
structure Inv (s : Session) : Prop where
  noLostWakeup : NoLostWakeup s
  unissued : ∀ c, s.issued ≤ c → s.place c = .away

theorem inv_start : Inv start := ⟨⟨nofun, nofun⟩, fun _ _ => rfl⟩

section step

variable {s s' : Session}

theorem signal_ne (p : Place) : p.signal ≠ .dequeue false := by
  cases p <;> exact nofun

theorem places_away {woken : Bool} {c : Nat} (h : s.place c = .away) : s.places woken c = .away := by
  cases woken
  · exact h
  · exact congrArg Place.signal h

/-- A section that changes neither the connection, the events nor the flag keeps the invariant; a broadcast unblocks everybody. -/
theorem Inv.keep (h : Inv s) {queue : EventQueue} (woken : Bool) (hc : queue.connection_id = s.queue.connection_id)
    (hb : ∀ c, s.Blocked c → woken = false → queue.is_waiting = HPD_YES ∧ queue.event_queue_head = []) :
    Inv { s with queue := queue, place := s.places woken } := by
  have hblocked : ∀ c, Blocked { s with queue := queue, place := s.places woken } c → s.Blocked c ∧ woken = false := by
    rintro c ⟨h1, h2⟩
    cases woken with
    | false => exact ⟨⟨hc ▸ h1, h2⟩, rfl⟩
    | true => exact absurd h2 (signal_ne _)
  refine ⟨⟨fun c hb' => ?_, fun c hb' => ?_⟩, fun c hi => places_away (h.unissued c hi)⟩
  · obtain ⟨h1, h2⟩ := hblocked c hb'
    exact (hb c h1 h2).1
  · obtain ⟨h1, h2⟩ := hblocked c hb'
    exact (hb c h1 h2).2

/-- The invariant of the state before, as `Inv.keep` asks for it. -/
theorem Inv.blocked (h : Inv s) {c : Nat} (hb : s.Blocked c) :
    s.queue.is_waiting = HPD_YES ∧ s.queue.event_queue_head = [] :=
  ⟨h.noLostWakeup.waiting c hb, h.noLostWakeup.empty c hb⟩

/-- An event is queued: where it is appended, a blocked thread is sent a broadcast. -/
theorem Inv.accept (h : Inv s) (e : Event) : Inv (s.accept e) := by
  unfold Session.accept
  rcases queue_event_cases s.queue e HPD_NO with he | he
  · rw [he]
    exact h.keep _ rfl fun c hb _ => h.blocked hb
  · rw [he]
    refine h.keep _ rfl fun c hb hw => ?_
    simp [(h.blocked hb).1, hb.1] at hw

/-- A thread that is not at the queue blocks, in the wait that `is_waiting` is set for, or the queue's thread leaves it. -/
theorem Inv.move (h : Inv s) {c : Nat} (hi : c < s.issued) {queue : EventQueue} {p : Place}
    (hb : ∀ d, Blocked { s with queue := queue, place := Function.update s.place c p } d →
      queue.is_waiting = HPD_YES ∧ queue.event_queue_head = []) :
    Inv { s with queue := queue, place := Function.update s.place c p } := by
  refine ⟨⟨fun d hd => (hb d hd).1, fun d hd => (hb d hd).2⟩, fun d hd => ?_⟩
  have hne : d ≠ c := fun he => absurd hi (by rw [← he]; exact Nat.not_lt.mpr hd)
  change Function.update s.place c p d = .away
  rw [Function.update_of_ne hne]
  exact h.unissued d hd

/-- A thread that is at the queue has an ID. -/
theorem Inv.issued (h : Inv s) {c : Nat} (hp : s.place c ≠ .away) : c < s.issued :=
  Nat.lt_of_not_le fun hi => hp (h.unissued c hi)

/-- Another thread is blocked after a move exactly if it was before. -/
theorem blocked_of_ne {queue : EventQueue} {c d : Nat} {p : Place} (hq : queue.connection_id = s.queue.connection_id) (hne : d ≠ c) :
    Blocked { s with queue := queue, place := Function.update s.place c p } d ↔ s.Blocked d := by
  unfold Blocked
  rw [hq]
  change _ ∧ Function.update s.place c p d = _ ↔ _
  rw [Function.update_of_ne hne]

/-- What `dequeue_event` leaves of the queue when it does not wait. -/
theorem dequeue_rest_frame {q q' : EventQueue} {c : Option Nat} {g : Int} {e : Option Event}
    (h : dequeue_rest q c g = some (q', e)) : q'.connection_id = q.connection_id ∧ q'.is_waiting = q.is_waiting := by
  rcases dequeue_rest_cases h with ⟨rfl, -⟩ | ⟨_, _, -, rfl, -⟩
  · exact ⟨rfl, rfl⟩
  · exact ⟨rfl, rfl⟩

/-- What a thread that enters `dequeue_event` does: it blocks on an empty queue, and does not on another one. -/
theorem step_dequeue {c : Nat} (h : s.step (.dequeue c) = some s') : c < s.issued ∧ s.place c = .away ∧
    (s.queue.event_queue_head = [] ∧ s' = { s with
      queue := { s.queue with is_waiting := HPD_YES }, place := Function.update s.place c (.dequeue false) } ∨
    s.queue.event_queue_head ≠ [] ∧ ∃ q, q.connection_id = s.queue.connection_id ∧ s' = { s with queue := q }) := by
  simp only [step, act] at h
  split at h
  case isFalse => cases h
  case isTrue hc =>
    refine ⟨hc.1, hc.2, ?_⟩
    simp only [dequeue_event, Option.map_map, Option.map_eq_some_iff] at h
    obtain ⟨r, hr, rfl⟩ := h
    split at hr
    · rename_i hq
      cases hr
      exact .inl ⟨hq, rfl⟩
    · rename_i hq
      obtain ⟨⟨q, e⟩, hrest, rfl⟩ := Option.map_eq_some_iff.mp hr
      exact .inr ⟨by simp [hq], q, (dequeue_rest_frame hrest).1, rfl⟩

/-- What a thread does that enters `wait_for_timeout`. -/
theorem step_timeout {c : Nat} (h : s.step (.timeout c) = some s') : c < s.issued ∧ s.place c = .away ∧ s' = { s with
    queue := { s.queue with is_waiting := HPD_WAIT_FOR_TIMEOUT }, place := Function.update s.place c (.timeout false) } := by
  simp only [step, act] at h
  split at h
  case isFalse => cases h
  case isTrue hc =>
    cases h
    exact ⟨hc.1, hc.2, rfl⟩

/-- What a thread does that comes back from a wait: it takes back the flag. -/
theorem step_wake {c : Nat} (h : s.step (.wake c) = some s') : s.place c ≠ .away ∧ ∃ q, q.connection_id = s.queue.connection_id ∧
    q.is_waiting = HPD_NO ∧ s' = { s with queue := q, place := Function.update s.place c .away } := by
  simp only [step, act] at h
  split at h
  · cases h
  · rename_i hp
    simp only [Option.map_map, Option.map_eq_some_iff] at h
    obtain ⟨⟨q, e⟩, hr, rfl⟩ := h
    obtain ⟨hid, hw⟩ := dequeue_rest_frame hr
    exact ⟨by simp [hp], q, hid, hw, rfl⟩
  · rename_i hp
    cases h
    exact ⟨by simp [hp], wait_for_timeout_wake s.queue, rfl, rfl, rfl⟩

/-- The step lemma: an undisturbed section keeps the invariant. -/
theorem Inv.step (h : Inv s) {a : SessionAct} (hc : s.Undisturbed a) (hs : s.step a = some s') : Inv s' := by
  cases a with
  | queue event =>
    cases hs
    exact h.accept event
  | subscribe URL =>
    cases hs
    exact h.keep false rfl fun c hb _ => h.blocked hb
  | unsubscribe URL =>
    cases hs
    exact h.keep false rfl fun c hb _ => h.blocked hb
  | setAvailability URL availability =>
    cases hs
    obtain ⟨l, hq⟩ := set_availability_of_service_frame URL s.queue availability
    rw [hq]
    exact h.keep false rfl fun c hb _ => h.blocked hb
  | toggleLog =>
    cases hs
    exact h.keep false rfl fun c hb _ => h.blocked hb
  | dequeue c =>
    obtain ⟨hi, -, ⟨hq, rfl⟩ | ⟨hq, q, hid, rfl⟩⟩ := step_dequeue hs
    · exact h.move hi fun d _ => ⟨rfl, hq⟩
    · -- the queue is not empty, so nobody was blocked
      exact h.keep false hid fun d hb _ => absurd (h.blocked hb).2 hq
  | timeout c =>
    obtain ⟨hi, -, rfl⟩ := step_timeout hs
    refine h.move hi fun d hd => ?_
    by_cases hdc : d = c
    · subst hdc
      exact absurd hd.2 (by simp)
    · exact absurd (hc d ((blocked_of_ne rfl hdc).mp hd)) hdc
  | wake c =>
    obtain ⟨hp, q, hid, -, rfl⟩ := step_wake hs
    refine h.move (h.issued hp) fun d hd => ?_
    by_cases hdc : d = c
    · subst hdc
      exact absurd hd.2 (by simp)
    · exact absurd (hc d ((blocked_of_ne hid hdc).mp hd)) hdc
  | exit =>
    cases hs
    exact h.keep _ rfl fun c hb _ => h.blocked hb
  | setUp =>
    cases hs
    -- the new connection's thread has not come to the queue yet
    have hblocked : ∀ c, ¬Blocked ⟨(set_up_server_sent_event_connection s.queue s.issued).1,
        s.places (set_up_server_sent_event_connection s.queue s.issued).2, s.issued + 1⟩ c := by
      rintro c ⟨hid, hp⟩
      cases hid
      exact absurd ((places_away (h.unissued _ (Nat.le_refl _))).symm.trans hp) nofun
    exact ⟨⟨fun c hb => absurd hb (hblocked c), fun c hb => absurd hb (hblocked c)⟩,
      fun c hi => places_away (h.unissued c (Nat.le_of_succ_le hi))⟩

/-- A section that does not leave the flag alone breaks the property: the blocked thread stays where it is. -/
theorem undisturbed_of_noLostWakeup {a : SessionAct} (hs : s.step a = some s') (h : NoLostWakeup s') : s.Undisturbed a := by
  cases a with
  | timeout c =>
    intro d hd
    by_contra hdc
    obtain ⟨-, -, rfl⟩ := step_timeout hs
    exact absurd (h.waiting d ((blocked_of_ne rfl hdc).mpr hd)) (by simp)
  | wake c =>
    intro d hd
    by_contra hdc
    obtain ⟨-, q, hid, hw, rfl⟩ := step_wake hs
    exact absurd (hw.symm.trans (h.waiting d ((blocked_of_ne hid hdc).mpr hd))) (by simp)
  | _ => trivial

end step

/-- In a run of a session's threads, a blocked thread is always sure of its wake-up exactly if no other thread returns from a wait, or
enters the timed one, while it is blocked. -/
theorem noLostWakeup_always_iff (acts : List SessionAct) : Always step NoLostWakeup start acts ↔ Along step Undisturbed start acts :=
  always_iff_along (fun _ h => h.noLostWakeup) (fun _ _ _ h hc hs => h.step hc hs)
    (fun _ _ _ _ hs h => undisturbed_of_noLostWakeup hs h) inv_start

/-- A client reconnects while the thread of its old connection is blocked. The new thread blocks as well, takes an event, and blocks
again; then the old thread comes back, clears the flag, and leaves. -/
def reconnected : List SessionAct :=
  [.subscribe "/lamp", .setUp, .dequeue 0, .setUp, .dequeue 1, .queue ⟨"/lamp", [49]⟩, .wake 1, .dequeue 1, .wake 0,
    .queue ⟨"/lamp", [50]⟩]

/-- The next event is queued, and nobody is woken for it. -/
theorem wakeup_lost : (∃ s, run step start reconnected = some s ∧ s.Blocked 1 ∧ s.queue.event_queue_head ≠ []) ∧
    ¬Always step NoLostWakeup start reconnected := by
  have hrun : ∃ s, run step start reconnected = some s ∧ s.Blocked 1 ∧ s.queue.event_queue_head ≠ [] :=
    ⟨_, rfl, ⟨rfl, rfl⟩, nofun⟩
  refine ⟨hrun, fun h => ?_⟩
  obtain ⟨s, hr, hb, hq⟩ := hrun
  exact hq ((always_iff_beginning.mp h reconnected [] s (List.append_nil _).symm hr).empty 1 hb)

/-! ## What the sections do to the events -/

/-- `queue_event` appends an event that is wanted. -/
theorem accept_head {s : Session} (hlog : s.queue.LogFlag) (event : Event) :
    (s.accept event).queue.event_queue_head = s.queue.event_queue_head ++ if s.queue.Wants event then [event] else [] := by
  change (queue_event s.queue event HPD_NO).1.event_queue_head = _
  rw [queue_event_session hlog]
  by_cases hw : s.queue.Wants event
  · rw [if_pos hw, if_pos hw]
  · rw [if_neg hw, if_neg hw, List.append_nil]

theorem accept_logFlag {s : Session} (hlog : s.queue.LogFlag) (event : Event) : (s.accept event).queue.LogFlag := by
  change (queue_event s.queue event HPD_NO).1.LogFlag
  rcases queue_event_cases s.queue event HPD_NO with he | he
  · rw [he]
    exact hlog
  · rw [he]
    exact hlog

/-- `dequeue_event` takes the first event, or none. -/
theorem dequeue_rest_events {q q' : EventQueue} {c : Option Nat} {g : Int} {e : Option Event} (h : dequeue_rest q c g = some (q', e)) :
    e.toList ++ q'.event_queue_head = q.event_queue_head ∧ q'.send_log_events = q.send_log_events := by
  rcases dequeue_rest_cases h with ⟨rfl, rfl⟩ | ⟨event, rest, hq, rfl, rfl⟩
  · exact ⟨rfl, rfl⟩
  · exact ⟨hq.symm, rfl⟩

/-- Apart from `queue_event`, a section takes the first event and returns it, or leaves the events alone. -/
theorem act_events {s s' : Session} {a : SessionAct} {e : Option Event} (hlog : s.queue.LogFlag) (ha : ∀ event, a ≠ .queue event)
    (h : s.act a = some (s', e)) : e.toList ++ s'.queue.event_queue_head = s.queue.event_queue_head ∧ s'.queue.LogFlag := by
  cases a with
  | queue event => exact absurd rfl (ha event)
  | dequeue c =>
    simp only [act] at h
    split at h
    case isFalse => cases h
    case isTrue =>
      obtain ⟨⟨q, r⟩, hr, h⟩ := Option.map_eq_some_iff.mp h
      cases h
      unfold dequeue_event at hr
      split at hr
      · rename_i hq
        cases hr
        exact ⟨hq.symm ▸ rfl, hlog⟩
      · obtain ⟨⟨q', e'⟩, hrest, hr⟩ := Option.map_eq_some_iff.mp hr
        cases hr
        obtain ⟨h1, h2⟩ := dequeue_rest_events hrest
        exact ⟨h1, by unfold EventQueue.LogFlag; rw [h2]; exact hlog⟩
  | timeout c =>
    simp only [act] at h
    split at h
    case isFalse => cases h
    case isTrue =>
      cases h
      exact ⟨rfl, hlog⟩
  | wake c =>
    simp only [act] at h
    split at h
    · cases h
    · obtain ⟨⟨q, r⟩, hr, h⟩ := Option.map_eq_some_iff.mp h
      cases h
      obtain ⟨h1, h2⟩ := dequeue_rest_events hr
      exact ⟨h1, by unfold EventQueue.LogFlag; rw [h2]; exact hlog⟩
    · cases h
      exact ⟨rfl, hlog⟩
  | setAvailability URL availability =>
    cases h
    obtain ⟨l, hq⟩ := set_availability_of_service_frame URL s.queue availability
    rw [hq]
    exact ⟨rfl, hlog⟩
  | toggleLog =>
    cases h
    refine ⟨rfl, ?_⟩
    by_cases hl : s.queue.send_log_events = HPD_YES
    · exact .inr (if_pos hl)
    · exact .inl (if_neg hl)
  | subscribe URL => cases h; exact ⟨rfl, hlog⟩
  | unsubscribe URL => cases h; exact ⟨rfl, hlog⟩
  | setUp => cases h; exact ⟨rfl, hlog⟩
  | exit => cases h; exact ⟨rfl, hlog⟩

end Session

end HomeBridge.Hpd
