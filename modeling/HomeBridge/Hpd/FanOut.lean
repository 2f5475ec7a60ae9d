import HomeBridge.Hpd.Sessions

/-!
# From the global queue to the sessions

Events are published in the global queue (`send_event_of_value_change`, `send_log_event`). One thread, `consume_global_event_queue`,
takes them out one by one and offers each to the queue of every session while it holds the mutex of their list; each queue keeps
what it wants at that moment. The sessions' own threads run between any two steps of it. The histories below are not in the
program: they say what was published, offered, appended and returned.
-/

namespace HomeBridge.Hpd

open Runs

/-- Where the thread of `consume_global_event_queue` is: before `dequeue_event`, in its wait, with an event in its hands, inside the
loop with the queues that are still to come, or at its end. -/
inductive Consumer where
  | idle
  | waiting
  | holding (new_event : Event)
  | offering (new_event : Event) (iterators : List Nat)
  | exited

/-- The event in its hands. -/
def Consumer.inHand : Consumer → List Event
  | .holding new_event | .offering new_event _ => [new_event]
  | _ => []

/-- What of that is still to be offered to the queue of session `n`. -/
def Consumer.pending : Consumer → Nat → List Event
  | .holding new_event, _ => [new_event]
  | .offering new_event iterators, n => if n ∈ iterators then [new_event] else []
  | _, _ => []

/-- The mutex of the list of queues is taken. -/
def Consumer.locked : Consumer → Bool
  | .offering _ _ => true
  | _ => false

theorem Consumer.ne_offering {c : Consumer} (h : ¬c.locked = true) (new_event : Event) (iterators : List Nat) :
    c ≠ .offering new_event iterators :=
  fun hc => h (hc ▸ rfl)

/-- A session with its history: how many events were done with before it was there, the events it was offered and whether it wanted
each when it was, the events appended to its queue and whether each came through the global queue, and what `dequeue_event` returned. -/
structure Subscriber where
  session : Session
  since : Nat
  offers : List (Event × Bool)
  arrivals : List (Event × Bool)
  returned : List Event

namespace Subscriber

/-- `create_event_queue`. -/
def create (since : Nat) : Subscriber := ⟨Session.start, since, [], [], []⟩

/-- What a section has appended to the queue. -/
def gained (u : Subscriber) (s : Session) : List Event :=
  s.queue.event_queue_head.drop u.session.queue.event_queue_head.length

/-- The consumer offers an event to the session. -/
def offer (u : Subscriber) (event : Event) : Subscriber :=
  let s := u.session.accept event
  { u with session := s, offers := u.offers ++ [(event, decide (u.session.queue.Wants event))],
           arrivals := u.arrivals ++ (u.gained s).map fun e => (e, true) }

/-- Any other section of the session. -/
def act (u : Subscriber) (a : SessionAct) : Option Subscriber :=
  (u.session.act a).map fun (s, e) =>
    { u with session := s, arrivals := u.arrivals ++ (u.gained s).map fun e => (e, false), returned := u.returned ++ e.toList }

end Subscriber

/-- The queues of the server, the consumer, and the events published and those the consumer is done with. -/
structure Hub where
  global_event_queue : EventQueue
  consumer : Consumer
  event_queue_list : List Nat
  created : Nat
  event_queue : Nat → Option Subscriber
  published : List Event
  done : List Event

/-- What happens next. The consumer may come back from its wait at any time. A new session is entered in the list, a session is taken
out of it, and destroyed afterwards. -/
inductive HubAct where
  | send_event_of_value_change (value_url : String) (value : List UInt8)
  | send_log_event (log_data : List UInt8)
  | consume
  | session (n : Nat) (a : SessionAct)
  | create
  | remove (n : Nat)
  | destroy (n : Nat)
  | exit

namespace Hub

/-- `initiate_global_event_queue`. -/
def start : Hub :=
  ⟨{ create_event_queue with send_log_events := HPD_YES }, .idle, [], 0, fun _ => none, [], []⟩

/-- An event is queued in the global queue, as long as that is there. -/
def publish (h : Hub) (event : Event) : Option Hub :=
  match h.consumer with
  | .exited => none
  | _ => some { h with global_event_queue := (queue_event h.global_event_queue event HPD_YES).1, published := h.published ++ [event] }

/-- `dequeue_event` has returned to the consumer. -/
def dequeued (h : Hub) : EventQueue × Option Event → Hub
  | (q, some new_event) => { h with global_event_queue := q, consumer := .holding new_event }
  | (q, none) => { h with global_event_queue := q, consumer := .exited }

/-- The next step of the consumer. -/
def consume (h : Hub) : Option Hub :=
  match h.consumer with
  | .idle => (dequeue_event h.global_event_queue none HPD_YES).map fun
    | (q, none) => { h with global_event_queue := q, consumer := .waiting }
    | (q, some e) => h.dequeued (q, e)
  | .waiting => (dequeue_wake h.global_event_queue none HPD_YES).map h.dequeued
  | .holding new_event => some { h with consumer := .offering new_event h.event_queue_list }
  | .offering new_event (n :: iterators) => (h.event_queue n).map fun u =>
    { h with consumer := .offering new_event iterators, event_queue := Function.update h.event_queue n (some (u.offer new_event)) }
  | .offering new_event [] => some { h with consumer := .idle, done := h.done ++ [new_event] }
  | .exited => none

/-- One step. -/
def step (h : Hub) : HubAct → Option Hub
  | .send_event_of_value_change value_url value => h.publish ⟨value_url, value⟩
  | .send_log_event log_data => h.publish ⟨"Log", log_data⟩
  | .consume => h.consume
  | .session n a => ((h.event_queue n).bind fun u => u.act a).map fun u =>
    { h with event_queue := Function.update h.event_queue n (some u) }
  | .create =>
    if h.consumer.locked then none
    else some { h with
      event_queue_list := h.event_queue_list ++ [h.created], created := h.created + 1
      event_queue := Function.update h.event_queue h.created (some (.create h.done.length)) }
  | .remove n =>
    if h.consumer.locked ∨ n ∉ h.event_queue_list then none
    else some { h with event_queue_list := h.event_queue_list.erase n }
  | .destroy n =>
    if n ∈ h.event_queue_list then none else some { h with event_queue := Function.update h.event_queue n none }
  | .exit => some { h with global_event_queue := (exit_event_queue h.global_event_queue).1 }

end Hub

/-! ## What the sessions see -/

/-- The session's view of the published events is exact: it is offered a stretch of them, from those done with when it was made on and,
as long as it is in the list, up to those still on their way; through the global queue it gets exactly those it wanted; and it
returns what it gets. -/
structure Exact (h : Hub) (n : Nat) (u : Subscriber) : Prop where
  offered : ∃ pre post, h.published = pre ++ u.offers.map Prod.fst ++ post ∧ pre.length = u.since ∧
    (n ∈ h.event_queue_list → post = h.consumer.pending n ++ h.global_event_queue.event_queue_head)
  appended : (u.arrivals.filter Prod.snd).map Prod.fst = (u.offers.filter Prod.snd).map Prod.fst
  returned : u.returned ++ u.session.queue.event_queue_head = u.arrivals.map Prod.fst

/-- A session's history fits the events `seen` by the consumer; of these, `pending` are still to come if the session is in the list. -/
structure Subscriber.Inv (u : Subscriber) (seen pending : List Event) (listed : Prop) : Prop where
  logFlag : u.session.queue.LogFlag
  offered : ∃ pre post, seen = pre ++ u.offers.map Prod.fst ++ post ∧ pre.length = u.since ∧ (listed → post = pending)
  appended : (u.arrivals.filter Prod.snd).map Prod.fst = (u.offers.filter Prod.snd).map Prod.fst
  returned : u.returned ++ u.session.queue.event_queue_head = u.arrivals.map Prod.fst

namespace Subscriber

variable {u : Subscriber} {seen pending : List Event} {listed : Prop}

/-- A new session has nothing behind it. -/
theorem inv_create : Inv (create seen.length) (seen ++ pending) pending listed :=
  ⟨.inr rfl, ⟨seen, pending, by rw [create, List.map_nil, List.append_nil], rfl, fun _ => rfl⟩, rfl, rfl⟩

/-- The consumer takes an event: it is pending for every session. -/
theorem Inv.see (h : u.Inv seen [] listed) (event : Event) : u.Inv (seen ++ [event]) [event] listed := by
  obtain ⟨pre, post, hseen, hpre, hpost⟩ := h.offered
  refine ⟨h.logFlag, ⟨pre, post ++ [event], ?_, hpre, fun hl => ?_⟩, h.appended, h.returned⟩
  · rw [hseen, List.append_assoc _ post]
  · rw [hpost hl, List.nil_append]

/-- A session that is out of the list is owed nothing. -/
theorem Inv.mono (h : u.Inv seen pending listed) {pending' : List Event} {listed' : Prop}
    (hl : listed' → listed ∧ pending' = pending) : u.Inv seen pending' listed' := by
  obtain ⟨pre, post, hseen, hpre, hpost⟩ := h.offered
  exact ⟨h.logFlag, ⟨pre, post, hseen, hpre, fun h' => (hpost (hl h').1).trans (hl h').2.symm⟩, h.appended, h.returned⟩

/-- What is appended is what the queue holds more than before. -/
theorem gained_eq {s : Session} {l : List Event} (h : s.queue.event_queue_head = u.session.queue.event_queue_head ++ l) :
    u.gained s = l := by
  rw [gained, h, List.drop_left]

/-- The pending event is offered: it is appended if it is wanted. -/
theorem Inv.offer {event : Event} (h : u.Inv seen [event] listed) (hl : listed) : (u.offer event).Inv seen [] listed := by
  obtain ⟨pre, post, hseen, hpre, hpost⟩ := h.offered
  have hhead := Session.accept_head h.logFlag event
  refine ⟨Session.accept_logFlag h.logFlag event, ⟨pre, [], ?_, hpre, fun _ => rfl⟩, ?_, ?_⟩
  · rw [hseen, hpost hl]
    simp only [Subscriber.offer, List.map_append, List.map_cons, List.map_nil, List.append_nil, List.append_assoc]
  · simp only [Subscriber.offer, gained_eq hhead, List.filter_append, List.map_append, h.appended]
    by_cases hw : u.session.queue.Wants event
    · simp [hw]
    · simp [hw]
  · simp only [Subscriber.offer, gained_eq hhead, hhead, List.map_append, ← h.returned, List.map_map]
    simp [Function.comp_def]

/-- The session's own sections do not touch what it was offered. -/
theorem Inv.act {u' : Subscriber} {a : SessionAct} (h : u.Inv seen pending listed) (ha : u.act a = some u') :
    u'.Inv seen pending listed := by
  obtain ⟨⟨s, e⟩, hs, rfl⟩ := Option.map_eq_some_iff.mp ha
  obtain ⟨pre, post, hseen, hpre, hpost⟩ := h.offered
  have hdirect : ∀ l : List Event, ((l.map fun e => (e, false)).filter Prod.snd).map Prod.fst = [] := by simp
  by_cases hq : ∃ event, a = .queue event
  · obtain ⟨event, rfl⟩ := hq
    cases hs
    have hhead := Session.accept_head h.logFlag event
    refine ⟨Session.accept_logFlag h.logFlag event, ⟨pre, post, hseen, hpre, hpost⟩, ?_, ?_⟩
    · simp only [List.filter_append, List.map_append, hdirect, List.append_nil, h.appended]
    · simp only [gained_eq hhead, hhead, List.map_append, ← h.returned, List.map_map]
      simp [Function.comp_def]
  · obtain ⟨hhead, hlog⟩ := Session.act_events h.logFlag (fun event he => hq ⟨event, he⟩) hs
    have hnone : u.gained s = [] := by
      rw [gained, ← hhead, List.drop_eq_nil_iff, List.length_append]
      exact Nat.le_add_left ..
    refine ⟨hlog, ⟨pre, post, hseen, hpre, hpost⟩, ?_, ?_⟩
    · simp only [hnone, List.map_nil, List.append_nil, h.appended]
    · simp only [hnone, List.map_nil, List.append_nil, List.append_assoc, hhead, h.returned]

end Subscriber

namespace Hub

/-- What holds between any two steps. -/
structure Inv (h : Hub) : Prop where
  sendLog : h.global_event_queue.send_log_events = HPD_YES
  published : h.published = h.done ++ h.consumer.inHand ++ h.global_event_queue.event_queue_head
  nodup : h.event_queue_list.Nodup
  created : ∀ n ∈ h.event_queue_list, n < h.created
  iterators : ∀ e iterators, h.consumer = .offering e iterators → iterators <:+ h.event_queue_list
  subscriber : ∀ n u, h.event_queue n = some u →
    u.Inv (h.done ++ h.consumer.inHand) (h.consumer.pending n) (n ∈ h.event_queue_list)

theorem inv_start : Inv start := ⟨rfl, rfl, .nil, nofun, nofun, nofun⟩

variable {h h' : Hub}

/-- The published events are those done with, the one in the consumer's hands and those in the global queue. -/
theorem Inv.exact (hi : h.Inv) {n : Nat} {u : Subscriber} (hu : h.event_queue n = some u) : Exact h n u := by
  have hs := hi.subscriber n u hu
  obtain ⟨pre, post, hseen, hpre, hpost⟩ := hs.offered
  refine ⟨⟨pre, post ++ h.global_event_queue.event_queue_head, ?_, hpre, fun hl => ?_⟩, hs.appended, hs.returned⟩
  · rw [hi.published, hseen, List.append_assoc _ post]
  · rw [hpost hl]

/-- One queue is replaced. -/
theorem subscriber_update {queues : Nat → Option Subscriber} {m : Nat} {o : Option Subscriber} {P : Nat → Subscriber → Prop}
    (hne : ∀ n u, n ≠ m → queues n = some u → P n u) (heq : ∀ u, o = some u → P m u) (n : Nat) (u : Subscriber)
    (hu : Function.update queues m o n = some u) : P n u := by
  by_cases hn : n = m
  · subst hn
    rw [Function.update_self] at hu
    exact heq u hu
  · rw [Function.update_of_ne hn] at hu
    exact hne n u hn hu

theorem Inv.publish (hi : h.Inv) {event : Event} (hs : h.publish event = some h') : h'.Inv := by
  have hh' : h' = { h with
      global_event_queue := (queue_event h.global_event_queue event HPD_YES).1, published := h.published ++ [event] } := by
    unfold Hub.publish at hs
    split at hs
    · cases hs
    · exact (Option.some.inj hs).symm
  rw [queue_event_global hi.sendLog] at hh'
  subst hh'
  exact ⟨hi.sendLog, by simp only [hi.published, List.append_assoc], hi.nodup, hi.created, hi.iterators, hi.subscriber⟩

/-- The consumer gets the first event of the global queue, and no session has been offered it, or it gets none and stops. -/
theorem Inv.dequeued (hi : h.Inv) (hhand : h.consumer.inHand = []) (hpending : ∀ n, h.consumer.pending n = []) {q : EventQueue}
    {e : Option Event} (he : e.toList ++ q.event_queue_head = h.global_event_queue.event_queue_head)
    (hlog : q.send_log_events = h.global_event_queue.send_log_events) : (h.dequeued (q, e)).Inv := by
  have hpublished := hi.published
  have hsubscriber := hi.subscriber
  simp only [hhand, List.append_nil, hpending] at hpublished hsubscriber
  cases e with
  | none =>
    refine ⟨hlog.trans hi.sendLog, ?_, hi.nodup, hi.created, nofun, fun n u hu => ?_⟩
    · change h.published = h.done ++ [] ++ q.event_queue_head
      rw [hpublished, ← he, List.append_nil, Option.toList_none, List.nil_append]
    · change u.Inv (h.done ++ []) [] _
      rw [List.append_nil]
      exact hsubscriber n u hu
  | some event =>
    refine ⟨hlog.trans hi.sendLog, ?_, hi.nodup, hi.created, nofun, fun n u hu => (hsubscriber n u hu).see event⟩
    change h.published = h.done ++ [event] ++ q.event_queue_head
    rw [hpublished, ← he, Option.toList_some, List.append_assoc]

/-- The step lemma for the consumer. -/
theorem Inv.consume (hi : h.Inv) (hs : h.consume = some h') : h'.Inv := by
  have hpublished := hi.published
  have hsubscriber := hi.subscriber
  unfold Hub.consume at hs
  split at hs
  case h_1 hc =>
    obtain ⟨⟨q, r⟩, hr, hh'⟩ := Option.map_eq_some_iff.mp hs
    unfold dequeue_event at hr
    split at hr
    · rename_i hq
      cases hr
      subst hh'
      simp only [hc] at hpublished hsubscriber
      exact ⟨hi.sendLog, hpublished, hi.nodup, hi.created, nofun, hsubscriber⟩
    · obtain ⟨⟨q', e⟩, hrest, hr⟩ := Option.map_eq_some_iff.mp hr
      cases hr
      subst hh'
      obtain ⟨he, hlog⟩ := Session.dequeue_rest_events hrest
      exact hi.dequeued (by rw [hc]; rfl) (fun n => by rw [hc]; rfl) he hlog
  case h_2 hc =>
    obtain ⟨⟨q, e⟩, hrest, rfl⟩ := Option.map_eq_some_iff.mp hs
    obtain ⟨he, hlog⟩ := Session.dequeue_rest_events hrest
    exact hi.dequeued (by rw [hc]; rfl) (fun n => by rw [hc]; rfl) he hlog
  case h_3 new_event hc =>
    cases hs
    simp only [hc] at hpublished hsubscriber
    refine ⟨hi.sendLog, hpublished, hi.nodup, hi.created, fun _ _ he => ?_, fun n u hu => ?_⟩
    · cases he
      exact List.suffix_refl _
    · exact (hsubscriber n u hu).mono fun hl => ⟨hl, if_pos hl⟩
  case h_4 new_event m iterators hc =>
    obtain ⟨u, hu, rfl⟩ := Option.map_eq_some_iff.mp hs
    simp only [hc] at hpublished hsubscriber
    have hsuffix := hi.iterators _ _ hc
    have hnotin : m ∉ iterators := (List.nodup_cons.mp (hi.nodup.sublist hsuffix.sublist)).1
    refine ⟨hi.sendLog, hpublished, hi.nodup, hi.created, fun _ _ he => ?_, subscriber_update (fun n v hn hv => ?_) fun v hv => ?_⟩
    · cases he
      exact (List.suffix_cons ..).trans hsuffix
    · refine (hsubscriber n v hv).mono fun hl => ⟨hl, ?_⟩
      simp only [Consumer.pending, List.mem_cons, hn, false_or]
    · cases hv
      have hm := hsubscriber m u hu
      simp only [Consumer.pending, List.mem_cons_self, if_true] at hm
      have hdone : Consumer.pending (.offering new_event iterators) m = [] := if_neg hnotin
      rw [hdone]
      exact hm.offer (hsuffix.subset (List.mem_cons_self ..))
  case h_5 new_event hc =>
    cases hs
    simp only [hc] at hpublished hsubscriber
    refine ⟨hi.sendLog, ?_, hi.nodup, hi.created, nofun, fun n u hu => ?_⟩
    · rw [hpublished]
      simp [Consumer.inHand]
    · simpa [Consumer.inHand, Consumer.pending] using hsubscriber n u hu
  case h_6 => cases hs

/-- A session comes, with a number that no other has had. -/
theorem Inv.create (hi : h.Inv) (hs : h.step .create = some h') : h'.Inv := by
  simp only [Hub.step] at hs
  split at hs
  case isTrue => cases hs
  case isFalse hlock =>
    cases hs
    have hpending : ∀ n, h.consumer.pending n = h.consumer.inHand := by
      intro n
      cases hc : h.consumer with
      | offering e ns => exact absurd hc (Consumer.ne_offering hlock e ns)
      | _ => rfl
    have hnew : h.created ∉ h.event_queue_list := fun hm => Nat.lt_irrefl _ (hi.created _ hm)
    refine ⟨hi.sendLog, hi.published, ?_, fun n hn => ?_, fun e ns hc => absurd hc (Consumer.ne_offering hlock e ns),
      subscriber_update (fun n u hn hu => ?_) fun u hu => ?_⟩
    · refine List.nodup_append.mpr ⟨hi.nodup, List.pairwise_singleton _ _, fun n hn m hm he => ?_⟩
      rw [he, List.mem_singleton.mp hm] at hn
      exact hnew hn
    · rcases List.mem_append.mp hn with hn | hn
      · exact Nat.lt_succ_of_lt (hi.created n hn)
      · rw [List.mem_singleton.mp hn]
        exact Nat.lt_succ_self _
    · refine (hi.subscriber n u hu).mono fun hl => ⟨?_, rfl⟩
      exact (List.mem_append.mp hl).resolve_right fun hm => hn (List.mem_singleton.mp hm)
    · cases hu
      change Subscriber.Inv _ _ (h.consumer.pending h.created) _
      rw [hpending]
      exact Subscriber.inv_create

/-- A session goes. -/
theorem Inv.remove (hi : h.Inv) {m : Nat} (hs : h.step (.remove m) = some h') : h'.Inv := by
  simp only [Hub.step] at hs
  split at hs
  case isTrue => cases hs
  case isFalse hlock =>
    cases hs
    refine ⟨hi.sendLog, hi.published, hi.nodup.erase m, fun n hn => hi.created n (List.mem_of_mem_erase hn),
      fun e ns hc => absurd hc (Consumer.ne_offering (fun hl => hlock (.inl hl)) e ns),
      fun n u hu => (hi.subscriber n u hu).mono fun hl => ⟨List.mem_of_mem_erase hl, rfl⟩⟩

/-- The step lemma. -/
theorem Inv.step (hi : h.Inv) {a : HubAct} (hs : h.step a = some h') : h'.Inv := by
  cases a with
  | send_event_of_value_change value_url value => exact hi.publish hs
  | send_log_event log_data => exact hi.publish hs
  | consume => exact hi.consume hs
  | session m a =>
    obtain ⟨u', hu', rfl⟩ := Option.map_eq_some_iff.mp hs
    obtain ⟨u, hu, ha⟩ := Option.bind_eq_some_iff.mp hu'
    refine ⟨hi.sendLog, hi.published, hi.nodup, hi.created, hi.iterators,
      subscriber_update (fun n v _ hv => hi.subscriber n v hv) fun v hv => ?_⟩
    cases hv
    exact (hi.subscriber m u hu).act ha
  | create => exact hi.create hs
  | remove m => exact hi.remove hs
  | destroy m =>
    simp only [Hub.step] at hs
    split at hs
    case isTrue => cases hs
    case isFalse =>
      cases hs
      exact ⟨hi.sendLog, hi.published, hi.nodup, hi.created, hi.iterators,
        subscriber_update (fun n u _ hu => hi.subscriber n u hu) nofun⟩
  | exit =>
    cases hs
    exact ⟨hi.sendLog, hi.published, hi.nodup, hi.created, hi.iterators, hi.subscriber⟩

end Hub

/-- In every state of every run, the view of every session that is there is exact. -/
theorem exact_always (acts : List HubAct) : Always Hub.step (fun h => ∀ n u, h.event_queue n = some u → Exact h n u) Hub.start acts :=
  always_of_invariant (I := Hub.Inv) (fun _ hi _ _ hu => hi.exact hu) (fun _ _ _ hi hs => hi.step hs) Hub.inv_start

/-- A session that leaves the service after an event was published, and before it is offered, does not get it. -/
example : ((run Hub.step Hub.start [.create, .session 0 (.subscribe "/lamp"), .send_event_of_value_change "/lamp" [49], .consume,
    .session 0 (.unsubscribe "/lamp"), .consume, .consume, .consume]).bind fun h => h.event_queue 0).map
      (fun u => (u.offers.map Prod.snd, u.arrivals.length)) = some ([false], 0) := rfl

end HomeBridge.Hpd
