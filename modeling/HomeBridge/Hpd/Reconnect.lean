import HomeBridge.Hpd.EventQueue

/-!
# A session whose client comes back

When a connection closes, the thread of its free callback looks its queue up, waits for five seconds under the queue's
mutex, takes the queue out of the list under the mutex of the list, and destroys it. A client that comes back in that
time stores a new connection ID in the queue and wakes the thread that waits. Between the end of the wait and the
destruction nothing holds a client back: it finds the queue in the list, or it has the pointer from before. Each section
under a mutex is one step here, of any number of threads, connections and sessions.

The session ID of a queue is its number. MHD runs one callback of a connection at a time, the free callback last, and
gives it what it asks for.
-/

namespace HomeBridge.Hpd

open Runs

/-- Where a thread is: in `server_sent_events_free_callback` of a connection that closed, in
`set_up_server_sent_event_connection` of a client that comes with the cookie of a session, or in
`server_sent_events_callback` of a connection. A thread that waits may have been `signalled`; one whose timed wait has
expired still has to take the mutex. -/
inductive Thread where
  | freeLookup (connection_id : Nat)
  | freeFound (connection_id event_queue : Nat)
  | freeWait (connection_id event_queue : Nat) (signalled : Bool)
  | freeExpired (connection_id event_queue : Nat)
  | freeTimedOut (connection_id event_queue : Nat)
  | freeRemoved (connection_id event_queue : Nat)
  | setUpLookup (session_id : Nat)
  | setUpFound (event_queue : Nat)
  | setUpStored (event_queue new_connection_id : Nat)
  | setUpAnswer (event_queue new_connection_id : Nat)
  | sendLookup (connection_id : Nat)
  | sendFound (connection_id event_queue : Nat)
  | sendWait (connection_id event_queue : Nat) (signalled : Bool)
  | sendNull (connection_id event_queue : Nat)
  | done
  deriving DecidableEq

namespace Thread

/-- The queue a thread has a pointer to. -/
def event_queue : Thread → Option Nat
  | freeFound _ q | freeWait _ q _ | freeExpired _ q | freeTimedOut _ q | freeRemoved _ q => some q
  | setUpFound q | setUpStored q _ | setUpAnswer q _ => some q
  | sendFound _ q | sendWait _ q _ | sendNull _ q => some q
  | freeLookup _ | setUpLookup _ | sendLookup _ | done => none

/-- A free callback that was told `HPD_YES` by `wait_for_timeout`: its connection and the queue it is going to
destroy. -/
def timedOut : Thread → Option (Nat × Nat)
  | freeTimedOut c q | freeRemoved c q => some (c, q)
  | _ => none

theorem event_queue_of_timedOut {t : Thread} {p : Nat × Nat} (h : t.timedOut = some p) : t.event_queue = some p.2 := by
  cases t <;> cases h <;> rfl

/-- A broadcast on the condition of a queue. -/
def signal (q : Nat) : Thread → Thread
  | freeWait c p signalled => freeWait c p (signalled || p == q)
  | sendWait c p signalled => sendWait c p (signalled || p == q)
  | t => t

end Thread

/-- A connection for MHD: not there, between two callbacks, in a callback, told that there is nothing more, or
closed. -/
inductive Connection where
  | none
  | idle
  | busy
  | ended
  | closed
  deriving DecidableEq

/-- The queues and the threads. The last three are not in the program: the queues destroyed so far, those used after
that, and those destroyed while they held another connection's ID than the one they were destroyed for. -/
structure SseServer where
  event_queue_list : List Nat
  event_queue : Nat → EventQueue
  created : Nat
  issued : Nat
  connection : Nat → Connection
  threads : List Thread
  destroyed : List Nat
  misused : List Nat
  lost : List Nat

/-- What happens next: a client without a session subscribes to a service, an event is offered to a queue of the list, a
client comes with a cookie, MHD wants data for a connection or frees what belongs to it, a thread runs its next section,
or the five seconds of its wait are over. -/
inductive SseAct where
  | subscribe (value_url : String)
  | queue_event (event_queue : Nat) (event : Event)
  | connect (session_id : Nat)
  | send (connection_id : Nat)
  | free (connection_id : Nat)
  | run (thread : Nat)
  | expire (thread : Nat)

namespace SseServer

def start : SseServer := ⟨[], fun _ => create_event_queue, 0, 0, fun _ => .none, [], [], [], []⟩

/-- A section reads or writes the queue. -/
def use (s : SseServer) (q : Nat) : SseServer := if q ∈ s.destroyed then { s with misused := q :: s.misused } else s

/-- A section leaves the queue as `e`, with a broadcast if `woken`. -/
def put (s : SseServer) (q : Nat) (e : EventQueue) (woken : Bool) : SseServer :=
  { s with
    event_queue := Function.update s.event_queue q e
    threads := if woken then s.threads.map (Thread.signal q) else s.threads }

def goTo (s : SseServer) (i : Nat) (t : Thread) : SseServer := { s with threads := s.threads.set i t }

def setConnection (s : SseServer) (c : Nat) (k : Connection) : SseServer :=
  { s with connection := Function.update s.connection c k }

/-- `destroy_event_queue`, by a thread of connection `c`. -/
def destroy_event_queue (s : SseServer) (c q : Nat) : SseServer :=
  { s.use q with
    destroyed := q :: s.destroyed
    lost := if (s.event_queue q).connection_id = some c then s.lost else q :: s.lost }

/-- `get_event_queue_with_connection_id`. A queue without a connection has no string to compare with. -/
def get_event_queue_with_connection_id (s : SseServer) (connection_id : Nat) : List Nat → Option (Option Nat)
  | [] => some none
  | iterator :: rest =>
    (s.event_queue iterator).connection_id.bind fun d =>
      if d = connection_id then some (some iterator) else s.get_event_queue_with_connection_id connection_id rest

/-- The end of `dequeue_event` and what `server_sent_events_callback` does with its result. -/
def dequeued (s : SseServer) (i c q : Nat) : EventQueue × Option Event → SseServer
  | (e, some _) => ((s.put q e false).setConnection c .idle).goTo i .done
  | (e, none) => (s.put q e false).goTo i (.sendNull c q)

/-- The next section of thread `i`, from where it is. -/
def next (s : SseServer) (i : Nat) : Thread → Option SseServer
  | .done => none
  | .freeLookup c => (s.get_event_queue_with_connection_id c s.event_queue_list).map fun r =>
    s.goTo i (r.elim .done (.freeFound c))
  | .freeFound c q => some (((s.use q).put q (wait_for_timeout (s.event_queue q)) false).goTo i (.freeWait c q false))
  -- the wait is over without a timeout
  | .freeWait _ q _ => some (((s.use q).put q (wait_for_timeout_wake (s.event_queue q)) false).goTo i .done)
  | .freeExpired c q => some (((s.use q).put q (wait_for_timeout_wake (s.event_queue q)) false).goTo i (.freeTimedOut c q))
  | .freeTimedOut c q =>
    if q ∈ s.event_queue_list then
      some ({ s.use q with event_queue_list := s.event_queue_list.erase q }.goTo i (.freeRemoved c q))
    else none
  | .freeRemoved c q => some ((s.destroy_event_queue c q).goTo i .done)
  | .setUpLookup n => some (s.goTo i (if n ∈ s.event_queue_list then .setUpFound n else .done))
  | .setUpFound q =>
    let r := set_up_server_sent_event_connection (s.event_queue q) s.issued
    some ({ (s.use q).put q r.1 r.2 with issued := s.issued + 1 }.goTo i (.setUpStored q s.issued))
  | .setUpStored q c =>
    let wanted := !(s.event_queue q).service_id_head.isEmpty || (s.event_queue q).send_log_events == HPD_YES
    some ((s.use q).goTo i (if wanted then .setUpAnswer q c else .done))
  | .setUpAnswer q c => some (((s.use q).setConnection c .idle).goTo i .done)
  | .sendLookup c => (s.get_event_queue_with_connection_id c s.event_queue_list).map fun
    | some q => s.goTo i (.sendFound c q)
    | none => (s.setConnection c .ended).goTo i .done
  | .sendFound c q => (dequeue_event (s.event_queue q) (some c) HPD_NO).map fun
    | (e, none) => ((s.use q).put q e false).goTo i (.sendWait c q false)
    | (e, some r) => (s.use q).dequeued i c q (e, r)
  | .sendWait c q _ => (dequeue_wake (s.event_queue q) (some c) HPD_NO).map ((s.use q).dequeued i c q)
  | .sendNull c q =>
    let s := s.use q
    let s := if (s.event_queue q).exit = HPD_YES then s.destroy_event_queue c q else s
    some ((s.setConnection c .ended).goTo i .done)

/-- One step. -/
def step (s : SseServer) : SseAct → Option SseServer
  | .subscribe value_url => some { s with
      event_queue_list := s.event_queue_list ++ [s.created], created := s.created + 1
      event_queue := Function.update s.event_queue s.created (add_service_id_to_queue value_url create_event_queue) }
  | .queue_event q event =>
    if q ∈ s.event_queue_list then
      let r := Hpd.queue_event (s.event_queue q) event HPD_NO
      some ((s.use q).put q r.1 r.2)
    else none
  | .connect n => some { s with threads := s.threads ++ [.setUpLookup n] }
  | .send c =>
    if s.connection c = .idle then some { s.setConnection c .busy with threads := s.threads ++ [.sendLookup c] } else none
  | .free c =>
    if s.connection c = .idle ∨ s.connection c = .ended then
      some { s.setConnection c .closed with threads := s.threads ++ [.freeLookup c] }
    else none
  | .run i => s.threads[i]?.bind (s.next i)
  | .expire i =>
    match s.threads[i]? with
    | some (.freeWait c q false) => some (s.goTo i (.freeExpired c q))
    | _ => none

/-- No queue was used after it was destroyed, or destroyed after a new connection ID had been stored in it. -/
structure Survives (s : SseServer) : Prop where
  unused : s.misused = []
  kept : s.lost = []

/-- A section that keeps out of the gap: `wait_for_timeout` times out while the queue has the ID of the connection that
closed, nothing is stored in a queue from then until it is destroyed, and when it is, no other thread has a pointer to
it. -/
def KeepsOut (s : SseServer) (i : Nat) : Thread → Prop
  | .freeExpired c q => (s.event_queue q).connection_id = some c
  | .setUpFound q => ∀ t ∈ s.threads, ∀ p ∈ t.timedOut, p.2 ≠ q
  | .freeRemoved _ q => ∀ t ∈ s.threads.eraseIdx i, t.event_queue ≠ some q
  | _ => True

/-- No reconnect in the gap. -/
def OutsideGap (s : SseServer) : SseAct → Prop
  | .run i => ∀ t ∈ s.threads[i]?, s.KeepsOut i t
  | _ => True

/-! ## The invariant -/

/-- A queue on its way to its destruction has the ID of the connection that closed; one that was destroyed is out of the
list, and no thread has a pointer to it. -/
structure Inv (s : SseServer) : Prop where
  survives : s.Survives
  kept : ∀ t ∈ s.threads, ∀ p ∈ t.timedOut, (s.event_queue p.2).connection_id = some p.1
  removed : ∀ c q, .freeRemoved c q ∈ s.threads → q ∉ s.event_queue_list
  freed : ∀ q ∈ s.destroyed, q < s.created ∧ q ∉ s.event_queue_list ∧ ∀ t ∈ s.threads, t.event_queue ≠ some q
  there : ∀ t ∈ s.threads, ∀ q ∈ t.event_queue, q < s.created
  listed : s.event_queue_list.Nodup ∧ ∀ q ∈ s.event_queue_list, q < s.created
  exit : ∀ q, (s.event_queue q).exit ≠ HPD_YES

theorem inv_start : start.Inv :=
  ⟨⟨rfl, rfl⟩, nofun, nofun, nofun, nofun, ⟨List.nodup_nil, nofun⟩, fun _ => (by decide : HPD_NO ≠ HPD_YES)⟩

variable {s : SseServer} {t : Thread} {i q : Nat}

/-- A thread goes where it has a pointer to a queue that is there, is out of the list if it was taken out, and has the
ID of the connection that closed if it is on its way to be destroyed. -/
structure Fits (s : SseServer) (t : Thread) : Prop where
  kept : ∀ p ∈ t.timedOut, (s.event_queue p.2).connection_id = some p.1
  removed : ∀ c q, t = .freeRemoved c q → q ∉ s.event_queue_list
  there : ∀ q ∈ t.event_queue, q < s.created ∧ q ∉ s.destroyed

theorem Inv.threads (h : s.Inv) (hfit : s.Fits t) {l : List Thread} (hl : ∀ u ∈ l, u ∈ s.threads ∨ u = t) :
    { s with threads := l }.Inv where
  survives := ⟨h.survives.unused, h.survives.kept⟩
  kept u hu p hp := by
    rcases hl u hu with hu | rfl
    · exact h.kept u hu p hp
    · exact hfit.kept p hp
  removed c q hu := by
    rcases hl _ hu with hu | hu
    · exact h.removed c q hu
    · exact hfit.removed c q hu.symm
  freed q hq := by
    refine ⟨(h.freed q hq).1, (h.freed q hq).2.1, fun u hu hp => ?_⟩
    rcases hl u hu with hu | rfl
    · exact (h.freed q hq).2.2 u hu hp
    · exact (hfit.there q hp).2 hq
  there u hu q hq := by
    rcases hl u hu with hu | rfl
    · exact h.there u hu q hq
    · exact (hfit.there q hq).1
  listed := h.listed
  exit := h.exit

theorem Inv.goTo (h : s.Inv) (hfit : s.Fits t) : (s.goTo i t).Inv := h.threads hfit fun _ => List.mem_or_eq_of_mem_set

theorem Inv.spawn (h : s.Inv) (hfit : s.Fits t) : { s with threads := s.threads ++ [t] }.Inv :=
  h.threads hfit fun u hu => by simpa using hu

/-- A thread without a pointer fits everywhere. -/
theorem fits_of_none (ht : t.event_queue = none) (hp : t.timedOut = none) (hr : ∀ c q, t ≠ .freeRemoved c q) : s.Fits t :=
  ⟨by simp [hp], fun c q h => absurd h (hr c q), by simp [ht]⟩

/-- So does one that keeps the pointer it has, or the one it has found in the list. -/
theorem Inv.fits (h : s.Inv) {u : Thread} (hu : u ∈ s.threads) (hq : u.event_queue = some q) (ht : t.event_queue = some q)
    (hp : ∀ p ∈ t.timedOut, (s.event_queue p.2).connection_id = some p.1)
    (hr : ∀ c q, t = .freeRemoved c q → q ∉ s.event_queue_list) :
    s.Fits t := by
  refine ⟨hp, hr, fun p hp => ?_⟩
  obtain rfl : q = p := Option.some.inj (ht.symm.trans hp)
  exact ⟨h.there u hu q hq, fun hd => (h.freed q hd).2.2 u hu hq⟩

/-- Every thread after a section is one from before it, or such a one with a broadcast. -/
theorem exists_of_mem_put {e : EventQueue} {woken : Bool} {u : Thread} (hu : u ∈ (s.put q e woken).threads) :
    ∃ t ∈ s.threads, u.event_queue = t.event_queue ∧ u.timedOut = t.timedOut ∧
      ∀ c p, u = .freeRemoved c p → t = .freeRemoved c p := by
  cases woken with
  | false => exact ⟨u, hu, rfl, rfl, fun _ _ h => h⟩
  | true =>
    obtain ⟨t, ht, rfl⟩ := List.mem_map.mp hu
    refine ⟨t, ht, ?_, ?_, ?_⟩ <;> cases t <;> simp [Thread.signal, Thread.event_queue, Thread.timedOut]

/-- A section that leaves the queue with an ID that no thread on its way to destroy it minds. -/
theorem Inv.put (h : s.Inv) {e : EventQueue} (woken : Bool)
    (he : ∀ t ∈ s.threads, ∀ p ∈ t.timedOut, p.2 = q → e.connection_id = some p.1) (hexit : e.exit ≠ HPD_YES) :
    (s.put q e woken).Inv where
  survives := ⟨h.survives.unused, h.survives.kept⟩
  kept u hu p hp := by
    obtain ⟨t, ht, -, htime, -⟩ := exists_of_mem_put hu
    rw [htime] at hp
    change (Function.update s.event_queue q e p.2).connection_id = some p.1
    by_cases hpq : p.2 = q
    · rw [hpq, Function.update_self]
      exact he t ht p hp hpq
    · rw [Function.update_of_ne hpq]
      exact h.kept t ht p hp
  removed c p hu := by
    obtain ⟨t, ht, -, -, hrem⟩ := exists_of_mem_put hu
    exact h.removed c p (hrem c p rfl ▸ ht)
  freed p hp := by
    refine ⟨(h.freed p hp).1, (h.freed p hp).2.1, fun u hu => ?_⟩
    obtain ⟨t, ht, hq, -, -⟩ := exists_of_mem_put hu
    rw [hq]
    exact (h.freed p hp).2.2 t ht
  there u hu p hp := by
    obtain ⟨t, ht, hq, -, -⟩ := exists_of_mem_put hu
    exact h.there t ht p (hq ▸ hp)
  listed := h.listed
  exit p := by
    change (Function.update s.event_queue q e p).exit ≠ HPD_YES
    by_cases hpq : p = q
    · rwa [hpq, Function.update_self]
    · rw [Function.update_of_ne hpq]
      exact h.exit p

/-- A section that leaves the ID and the exit flag of the queue as they are. -/
theorem Inv.putSame (h : s.Inv) {e : EventQueue} (woken : Bool) (hid : e.connection_id = (s.event_queue q).connection_id)
    (hexit : e.exit = (s.event_queue q).exit) : (s.put q e woken).Inv :=
  h.put woken (fun t ht p hp hpq => by rw [hid, ← hpq]; exact h.kept t ht p hp) (hexit ▸ h.exit q)

theorem Inv.issue (h : s.Inv) (n : Nat) : { s with issued := n }.Inv :=
  ⟨⟨h.survives.unused, h.survives.kept⟩, h.kept, h.removed, h.freed, h.there, h.listed, h.exit⟩

theorem Inv.setConnection (h : s.Inv) (c : Nat) (k : Connection) : (s.setConnection c k).Inv :=
  ⟨⟨h.survives.unused, h.survives.kept⟩, h.kept, h.removed, h.freed, h.there, h.listed, h.exit⟩

/-- A queue that is looked up is in the list. -/
theorem mem_of_lookup {c : Nat} : ∀ {l : List Nat}, s.get_event_queue_with_connection_id c l = some (some q) → q ∈ l := by
  intro l h
  induction l with
  | nil => cases h
  | cons iterator rest ih =>
    obtain ⟨d, -, hd⟩ := Option.bind_eq_some_iff.mp h
    by_cases hdc : d = c
    · rw [if_pos hdc] at hd
      cases hd
      exact List.mem_cons_self ..
    · rw [if_neg hdc] at hd
      exact List.mem_cons_of_mem _ (ih hd)

/-- Who finds a queue in the list has a pointer that fits. -/
theorem Inv.fits_listed (h : s.Inv) (hq : q ∈ s.event_queue_list) (ht : t.event_queue = some q) (hp : t.timedOut = none)
    (hr : ∀ c q, t ≠ .freeRemoved c q) : s.Fits t := by
  refine ⟨by simp [hp], fun c q h => absurd h (hr c q), fun p hp => ?_⟩
  obtain rfl : q = p := Option.some.inj (ht.symm.trans hp)
  exact ⟨h.listed.2 q hq, fun hd => (h.freed q hd).2.1 hq⟩

/-- `dequeue_event` leaves the ID and the exit flag as they are. -/
theorem dequeue_rest_same {e e' : EventQueue} {c : Option Nat} {r : Option Event}
    (h : dequeue_rest e c HPD_NO = some (e', r)) :
    e'.connection_id = e.connection_id ∧ e'.exit = e.exit := by
  rcases dequeue_rest_cases h with ⟨rfl, -⟩ | ⟨_, _, -, rfl, -⟩
  · exact ⟨rfl, rfl⟩
  · exact ⟨rfl, rfl⟩

theorem dequeue_event_same {e : EventQueue} {c : Option Nat} {r : EventQueue × Option (Option Event)}
    (h : dequeue_event e c HPD_NO = some r) : r.1.connection_id = e.connection_id ∧ r.1.exit = e.exit := by
  unfold dequeue_event at h
  split at h
  · cases h
    exact ⟨rfl, rfl⟩
  · obtain ⟨⟨e', x⟩, hrest, rfl⟩ := Option.map_eq_some_iff.mp h
    exact dequeue_rest_same hrest

theorem dequeue_wake_same {e : EventQueue} {c : Option Nat} {r : EventQueue × Option Event}
    (h : dequeue_wake e c HPD_NO = some r) : r.1.connection_id = e.connection_id ∧ r.1.exit = e.exit :=
  dequeue_rest_same (e := { e with is_waiting := HPD_NO }) h

/-- What follows `dequeue_event`. -/
theorem Inv.dequeued (h : s.Inv) (ht : s.threads[i]? = some t) (hq : t.event_queue = some q) (c : Nat)
    {r : EventQueue × Option Event}
    (hid : r.1.connection_id = (s.event_queue q).connection_id) (hexit : r.1.exit = (s.event_queue q).exit) :
    (s.dequeued i c q r).Inv := by
  obtain ⟨e, x⟩ := r
  have hput := h.putSame false hid hexit
  cases x with
  | some event => exact (hput.setConnection c .idle).goTo (fits_of_none rfl rfl nofun)
  | none => exact hput.goTo (hput.fits (List.mem_of_getElem? ht) hq rfl nofun nofun)

theorem Inv.use_eq (h : s.Inv) (ht : t ∈ s.threads) (hq : t.event_queue = some q) : s.use q = s :=
  if_neg fun hd => (h.freed q hd).2.2 t ht hq

/-- A queue is taken out of the list. -/
theorem Inv.remove (h : s.Inv) (q : Nat) : { s with event_queue_list := s.event_queue_list.erase q }.Inv where
  survives := ⟨h.survives.unused, h.survives.kept⟩
  kept := h.kept
  removed c p hp hmem := h.removed c p hp (List.mem_of_mem_erase hmem)
  freed p hp := ⟨(h.freed p hp).1, fun hmem => (h.freed p hp).2.1 (List.mem_of_mem_erase hmem), (h.freed p hp).2.2⟩
  there := h.there
  listed := ⟨h.listed.1.erase q, fun p hp => h.listed.2 p (List.mem_of_mem_erase hp)⟩
  exit := h.exit

/-- A thread destroys the queue it has taken out of the list, when no other thread has a pointer to it. -/
theorem Inv.destroy (h : s.Inv) {c : Nat} (ht : s.threads[i]? = some (.freeRemoved c q))
    (hc : ∀ t ∈ s.threads.eraseIdx i, t.event_queue ≠ some q) : ((s.destroy_event_queue c q).goTo i .done).Inv := by
  have hmem : .freeRemoved c q ∈ s.threads := List.mem_of_getElem? ht
  have hgone := h.goTo (i := i) (fits_of_none (s := s) (t := .done) rfl rfl nofun)
  have hothers : ∀ t ∈ s.threads.set i .done, t.event_queue ≠ some q := by
    intro t ht'
    obtain ⟨j, hj⟩ := List.mem_iff_getElem?.mp ht'
    by_cases hij : i = j
    · subst hij
      rw [List.getElem?_set_self'] at hj
      obtain ⟨_, -, rfl⟩ := Option.map_eq_some_iff.mp hj
      nofun
    · rw [List.getElem?_set_ne hij] at hj
      exact hc t (List.mem_eraseIdx_iff_getElem?.mpr ⟨j, Ne.symm hij, hj⟩)
  have hid : (s.event_queue q).connection_id = some c := h.kept _ hmem (c, q) rfl
  rw [destroy_event_queue, h.use_eq hmem rfl, if_pos hid]
  exact {
    survives := ⟨hgone.survives.unused, hgone.survives.kept⟩
    kept := hgone.kept
    removed := hgone.removed
    freed := fun p hp => by
      rcases List.mem_cons.mp hp with rfl | hp
      · exact ⟨h.there _ hmem p rfl, h.removed c p hmem, hothers⟩
      · exact hgone.freed p hp
    there := hgone.there
    listed := hgone.listed
    exit := hgone.exit }

/-- The next section of a thread, outside the gap. -/
theorem Inv.next (h : s.Inv) {s' : SseServer} (ht : s.threads[i]? = some t) (hc : s.KeepsOut i t)
    (hs : s.next i t = some s') : s'.Inv := by
  have hmem : t ∈ s.threads := List.mem_of_getElem? ht
  cases t with
  | done => cases hs
  | freeLookup c =>
    obtain ⟨r, hr, rfl⟩ := Option.map_eq_some_iff.mp hs
    cases r with
    | none => exact h.goTo (fits_of_none rfl rfl nofun)
    | some q => exact h.goTo (h.fits_listed (mem_of_lookup hr) rfl rfl nofun)
  | freeFound c q =>
    rw [SseServer.next, h.use_eq hmem rfl] at hs
    cases hs
    have hput := h.putSame (q := q) (e := wait_for_timeout (s.event_queue q)) false rfl rfl
    exact hput.goTo (hput.fits hmem rfl rfl nofun nofun)
  | freeWait c q signalled =>
    rw [SseServer.next, h.use_eq hmem rfl] at hs
    cases hs
    exact (h.putSame (q := q) (e := wait_for_timeout_wake (s.event_queue q)) false rfl rfl).goTo (fits_of_none rfl rfl nofun)
  | freeExpired c q =>
    rw [SseServer.next, h.use_eq hmem rfl] at hs
    cases hs
    have hput := h.putSame (q := q) (e := wait_for_timeout_wake (s.event_queue q)) false rfl rfl
    refine hput.goTo (hput.fits hmem rfl rfl ?_ nofun)
    -- the section leaves the ID in the queue, and it is that of the connection that closed
    rintro p ⟨⟩
    change (Function.update s.event_queue q _ q).connection_id = some c
    rw [Function.update_self]
    exact hc
  | freeTimedOut c q =>
    rw [SseServer.next, h.use_eq hmem rfl] at hs
    split at hs
    · cases hs
      have hrem := h.remove q
      refine hrem.goTo (hrem.fits hmem rfl rfl (h.kept (.freeTimedOut c q) hmem) ?_)
      rintro c' q' ⟨⟩
      exact h.listed.1.not_mem_erase
    · cases hs
  | freeRemoved c q =>
    cases hs
    exact h.destroy ht hc
  | setUpLookup n =>
    cases hs
    split
    · rename_i hn
      exact h.goTo (h.fits_listed hn rfl rfl nofun)
    · exact h.goTo (fits_of_none rfl rfl nofun)
  | setUpFound q =>
    rw [SseServer.next, h.use_eq hmem rfl] at hs
    cases hs
    have hput := h.put (q := q) (e := (set_up_server_sent_event_connection (s.event_queue q) s.issued).1)
      (set_up_server_sent_event_connection (s.event_queue q) s.issued).2
      (fun t ht p hp hpq => absurd hpq (hc t ht p hp)) (h.exit q)
    have hfit : s.Fits (.setUpStored q s.issued) := h.fits hmem rfl rfl nofun nofun
    exact (hput.issue (s.issued + 1)).goTo ⟨nofun, nofun, hfit.there⟩
  | setUpStored q c =>
    rw [SseServer.next, h.use_eq hmem rfl] at hs
    cases hs
    split
    · exact h.goTo (h.fits hmem rfl rfl nofun nofun)
    · exact h.goTo (fits_of_none rfl rfl nofun)
  | setUpAnswer q c =>
    rw [SseServer.next, h.use_eq hmem rfl] at hs
    cases hs
    exact (h.setConnection c .idle).goTo (fits_of_none rfl rfl nofun)
  | sendLookup c =>
    obtain ⟨r, hr, rfl⟩ := Option.map_eq_some_iff.mp hs
    cases r with
    | none => exact (h.setConnection c .ended).goTo (fits_of_none rfl rfl nofun)
    | some q => exact h.goTo (h.fits_listed (mem_of_lookup hr) rfl rfl nofun)
  | sendFound c q =>
    obtain ⟨⟨e, r⟩, hr, rfl⟩ := Option.map_eq_some_iff.mp hs
    obtain ⟨hid, hexit⟩ := dequeue_event_same hr
    rw [h.use_eq hmem rfl]
    cases r with
    | none =>
      have hput := h.putSame false hid hexit
      exact hput.goTo (hput.fits hmem rfl rfl nofun nofun)
    | some r => exact h.dequeued ht rfl c hid hexit
  | sendWait c q signalled =>
    rw [SseServer.next, h.use_eq hmem rfl] at hs
    obtain ⟨r, hr, rfl⟩ := Option.map_eq_some_iff.mp hs
    obtain ⟨hid, hexit⟩ := dequeue_wake_same hr
    exact h.dequeued ht rfl c hid hexit
  | sendNull c q =>
    rw [SseServer.next, h.use_eq hmem rfl] at hs
    cases hs
    rw [if_neg (h.exit q)]
    exact (h.setConnection c .ended).goTo (fits_of_none rfl rfl nofun)

/-- Who subscribes without a session gets a queue that nobody has a pointer to. -/
theorem Inv.subscribe (h : s.Inv) (value_url : String) : ({ s with
    event_queue_list := s.event_queue_list ++ [s.created], created := s.created + 1
    event_queue := Function.update s.event_queue s.created
      (add_service_id_to_queue value_url create_event_queue) } : SseServer).Inv := by
  have hnew : ∀ q < s.created, q ∉ s.event_queue_list → q ∉ s.event_queue_list ++ [s.created] := by
    intro q hq hmem
    simp only [List.mem_append, List.mem_singleton, not_or]
    exact ⟨hmem, Nat.ne_of_lt hq⟩
  have hlt : s.created ∉ s.event_queue_list := fun hmem => Nat.lt_irrefl _ (h.listed.2 _ hmem)
  exact {
    survives := ⟨h.survives.unused, h.survives.kept⟩
    kept := fun t ht p hp => by
      have hp2 : p.2 < s.created := h.there t ht p.2 (Thread.event_queue_of_timedOut hp)
      simp only [Function.update_of_ne (Nat.ne_of_lt hp2)]
      exact h.kept t ht p hp
    removed := fun c q hq => hnew q (h.there _ hq q rfl) (h.removed c q hq)
    freed := fun q hq => ⟨Nat.lt_succ_of_lt (h.freed q hq).1, hnew q (h.freed q hq).1 (h.freed q hq).2.1, (h.freed q hq).2.2⟩
    there := fun t ht q hq => Nat.lt_succ_of_lt (h.there t ht q hq)
    listed := by
      refine ⟨List.nodup_append.mpr ⟨h.listed.1, by simp, fun q hq p hp he => hlt (List.mem_singleton.mp hp ▸ he ▸ hq)⟩,
        fun q hq => ?_⟩
      rcases List.mem_append.mp hq with hq | hq
      · exact Nat.lt_succ_of_lt (h.listed.2 q hq)
      · exact List.mem_singleton.mp hq ▸ Nat.lt_succ_self _
    exit := fun q => by
      change (Function.update s.event_queue s.created _ q).exit ≠ HPD_YES
      by_cases hq : q = s.created
      · rw [hq, Function.update_self]
        exact (by decide : HPD_NO ≠ HPD_YES)
      · rw [Function.update_of_ne hq]
        exact h.exit q }

/-- One step outside the gap. -/
theorem Inv.step (h : s.Inv) {a : SseAct} {s' : SseServer} (hc : s.OutsideGap a) (hs : s.step a = some s') : s'.Inv := by
  cases a with
  | subscribe value_url =>
    cases hs
    exact h.subscribe value_url
  | queue_event q event =>
    rw [SseServer.step] at hs
    split at hs
    · rename_i hq
      cases hs
      rw [use, if_neg fun hd => (h.freed q hd).2.1 hq]
      rcases queue_event_cases (s.event_queue q) event HPD_NO with he | he <;> rw [he] <;> exact h.putSame _ rfl rfl
    · cases hs
  | connect n =>
    cases hs
    exact h.spawn (fits_of_none rfl rfl nofun)
  | send c =>
    rw [SseServer.step] at hs
    split at hs
    · cases hs
      exact (h.setConnection c .busy).spawn (fits_of_none rfl rfl nofun)
    · cases hs
  | free c =>
    rw [SseServer.step] at hs
    split at hs
    · cases hs
      exact (h.setConnection c .closed).spawn (fits_of_none rfl rfl nofun)
    · cases hs
  | run i =>
    obtain ⟨t, ht, hnext⟩ := Option.bind_eq_some_iff.mp hs
    exact h.next ht (hc t ht) hnext
  | expire i =>
    rw [SseServer.step] at hs
    split at hs
    · rename_i c q ht
      cases hs
      exact h.goTo (h.fits (List.mem_of_getElem? ht) rfl rfl nofun nofun)
    · cases hs

instance (s : SseServer) (i : Nat) : ∀ t, Decidable (s.KeepsOut i t)
  | .freeExpired c q => inferInstanceAs (Decidable ((s.event_queue q).connection_id = some c))
  | .setUpFound q => inferInstanceAs (Decidable (∀ t ∈ s.threads, ∀ p ∈ t.timedOut, p.2 ≠ q))
  | .freeRemoved _ q => inferInstanceAs (Decidable (∀ t ∈ s.threads.eraseIdx i, t.event_queue ≠ some q))
  | .done | .freeLookup _ | .freeFound _ _ | .freeWait _ _ _ | .freeTimedOut _ _
  | .setUpLookup _ | .setUpStored _ _ | .setUpAnswer _ _
  | .sendLookup _ | .sendFound _ _ | .sendWait _ _ _ | .sendNull _ _ => isTrue trivial

instance (s : SseServer) : ∀ a, Decidable (s.OutsideGap a)
  | .run i => inferInstanceAs (Decidable (∀ t ∈ s.threads[i]?, s.KeepsOut i t))
  | .subscribe _ | .queue_event _ _ | .connect _ | .send _ | .free _ | .expire _ => isTrue trivial

end SseServer

open SseServer in
/-- In every run of any number of threads in which no reconnect falls into the gap, no queue is destroyed after a new
connection ID has been stored in it, and none is used after it was destroyed. -/
theorem session_survives {acts : List SseAct} (h : Along SseServer.step OutsideGap SseServer.start acts) :
    Always SseServer.step Survives SseServer.start acts :=
  Along.always (I := SseServer.Inv) (fun _ h => h.survives) (fun _ _ _ h hc hs => h.step hc hs) inv_start h

/-- A client subscribes, connects, and its connection closes; the thread of the free callback is thread 1. -/
def closedConnection : List SseAct :=
  [.subscribe "/lamp/1", .connect 0, .run 0, .run 0, .run 0, .run 0, .free 0, .run 1, .run 1]

/-- The client comes back while that waits: it is woken, and the new connection gets an event; when that closes too, the
session is destroyed. -/
theorem session_survives_wait :
    Always SseServer.step SseServer.Survives SseServer.start
      (closedConnection ++ [.connect 0, .run 2, .run 2, .run 1, .run 2, .run 2,
      .queue_event 0 ⟨"/lamp/1", []⟩, .send 1, .run 3, .run 3, .free 1, .run 4, .run 4, .expire 4, .run 4, .run 4, .run 4]) :=
  session_survives (by decide)

/-- The client comes back between the end of the wait and the removal: its queue is destroyed with its ID in it. -/
theorem not_session_survives : ¬∀ acts, Always SseServer.step SseServer.Survives SseServer.start acts := by
  intro h
  have hrun : (run SseServer.step SseServer.start
      (closedConnection ++ [.expire 1, .run 1, .connect 0, .run 2, .run 2, .run 1, .run 1])).map
      SseServer.lost = some [0] := by
    decide
  obtain ⟨s, hs, hl⟩ := Option.map_eq_some_iff.mp hrun
  exact absurd (hl.symm.trans (always_iff_beginning.mp (h _) _ [] s (List.append_nil _).symm hs).kept) (by decide)

end HomeBridge.Hpd
