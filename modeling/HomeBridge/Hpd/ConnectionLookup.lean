import HomeBridge.Hpd.Reconnect
import HomeBridge.Hpd.Subscriptions

/-!
# The lookup of a connection

A queue is created when a client subscribes, and gets a connection ID only when the client connects. In between it stands in the list
with no ID at all, and `get_event_queue_with_connection_id`, which compares the IDs from the front of the list on, comes to it on its
way to the queues of other sessions.
-/

namespace HomeBridge.Hpd

/-- The calls that make or change the queues of the list: a client with or without a cookie subscribes to a service or to the log, one
connects with its cookie, or the queue of one that has gone is taken out. -/
inductive SessionCall where
  | subscribe_to_service (cookie : Option Nat) (value_url : String)
  | subscribe_to_log_events (cookie : Option Nat)
  | set_up_server_sent_event_connection (cookie : Nat)
  | timeout (event_queue : Nat)

namespace SseServer

/-- `get_queue`: the queue of the session a cookie names. -/
def get_queue (s : SseServer) (cookie : Option Nat) : Option Nat := cookie.filter fun session_id => session_id ∈ s.event_queue_list

/-- The queue for a client, a new one if it has none. -/
def queueFor (s : SseServer) (cookie : Option Nat) : SseServer × Nat :=
  match s.get_queue cookie with
  | some event_queue => (s, event_queue)
  | none => ({ s with
      event_queue_list := s.event_queue_list ++ [s.created], created := s.created + 1
      event_queue := Function.update s.event_queue s.created create_event_queue }, s.created)

/-- What `subscribe_to_service` does to the queue. -/
def toggleService (value_url : String) (event_queue : EventQueue) : EventQueue :=
  (subscribe_or_unsubscribe (is_queue_subscribed_to_service event_queue value_url) value_url event_queue).2

/-- One call. -/
def call (s : SseServer) : SessionCall → SseServer
  | .subscribe_to_service cookie value_url =>
    let (s, q) := s.queueFor cookie
    s.put q (toggleService value_url (s.event_queue q)) false
  | .subscribe_to_log_events cookie =>
    let (s, q) := s.queueFor cookie
    s.put q (Hpd.subscribe_to_log_events (s.event_queue q)) false
  | .set_up_server_sent_event_connection cookie =>
    match s.get_queue (some cookie) with
    | none => s
    | some q =>
      let r := Hpd.set_up_server_sent_event_connection (s.event_queue q) s.issued
      { s.put q r.1 r.2 with issued := s.issued + 1 }
  | .timeout q => { s with event_queue_list := s.event_queue_list.erase q }

/-- The state after some calls. -/
def calls (l : List SessionCall) : SseServer := l.foldl call start

/-- The connection of a queue. -/
def connectionOf (s : SseServer) (q : Nat) : Option Nat := (s.event_queue q).connection_id

/-- The lookup compares IDs only, and finds the queue that has the ID if one does. -/
def LooksUp (s : SseServer) (connection_id : Nat) : Prop :=
  ∃ r, s.get_event_queue_with_connection_id connection_id s.event_queue_list = some r ∧
    ∀ q, r = some q ↔ q ∈ s.event_queue_list ∧ s.connectionOf q = some connection_id

/-- Every queue without a connection stands behind the one with the ID. -/
def Behind (s : SseServer) (connection_id : Nat) : Prop :=
  ∀ before q after, s.event_queue_list = before ++ q :: after → s.connectionOf q = none →
    ∃ p ∈ before, s.connectionOf p = some connection_id

section lookup

variable {s : SseServer} {c : Nat}

/-- Over queues with other IDs the search goes on. -/
theorem lookup_skip {after : List Nat} : ∀ {before : List Nat}, (∀ p ∈ before, ∃ d, s.connectionOf p = some d ∧ d ≠ c) →
    s.get_event_queue_with_connection_id c (before ++ after) = s.get_event_queue_with_connection_id c after := by
  intro before
  induction before with
  | nil => exact fun _ => rfl
  | cons p before ih =>
    intro h
    obtain ⟨d, hd, hne⟩ := h p (List.mem_cons_self ..)
    have hrest := ih fun q hq => h q (List.mem_cons_of_mem _ hq)
    change (s.event_queue p).connection_id = some d at hd
    rw [List.cons_append, get_event_queue_with_connection_id, hd, Option.bind_some, if_neg hne, hrest]

/-- It ends at a queue with the ID, and has no result at one without any. -/
theorem lookup_found {q : Nat} {after : List Nat} (h : s.connectionOf q = some c) :
    s.get_event_queue_with_connection_id c (q :: after) = some (some q) := by
  change (s.event_queue q).connection_id = some c at h
  rw [get_event_queue_with_connection_id, h, Option.bind_some, if_pos rfl]

theorem lookup_null {q : Nat} {after : List Nat} (h : s.connectionOf q = none) :
    s.get_event_queue_with_connection_id c (q :: after) = none := by
  change (s.event_queue q).connection_id = none at h
  rw [get_event_queue_with_connection_id, h, Option.bind_none]

/-- All queues of a list have other IDs, or one is the first that has not. -/
theorem first_other (l : List Nat) : (∀ p ∈ l, ∃ d, s.connectionOf p = some d ∧ d ≠ c) ∨
    ∃ before q after, l = before ++ q :: after ∧ (∀ p ∈ before, ∃ d, s.connectionOf p = some d ∧ d ≠ c) ∧
      (s.connectionOf q = some c ∨ s.connectionOf q = none) := by
  induction l with
  | nil => exact .inl fun _ hp => absurd hp List.not_mem_nil
  | cons q l ih =>
    cases hq : s.connectionOf q with
    | none => exact .inr ⟨[], q, l, rfl, fun _ hp => absurd hp List.not_mem_nil, .inr hq⟩
    | some d =>
      by_cases hd : d = c
      · exact .inr ⟨[], q, l, rfl, fun _ hp => absurd hp List.not_mem_nil, .inl (hd ▸ hq)⟩
      · rcases ih with ih | ⟨before, p, after, rfl, hbefore, hp⟩
        · exact .inl (List.forall_mem_cons.mpr ⟨⟨d, hq, hd⟩, ih⟩)
        · exact .inr ⟨q :: before, p, after, rfl, List.forall_mem_cons.mpr ⟨⟨d, hq, hd⟩, hbefore⟩, hp⟩

/-- Behind a beginning of one kind, something of another kind comes behind what comes first. -/
theorem mem_of_split {P : Nat → Prop} {p q : Nat} {after after' : List Nat} (hp : ¬P p) (hpq : p ≠ q) :
    ∀ {before before' : List Nat}, (∀ x ∈ before, P x) → before ++ q :: after = before' ++ p :: after' → q ∈ before' := by
  intro before before'
  induction before' generalizing before with
  | nil =>
    intro h heq
    cases before with
    | nil => exact absurd (List.cons.inj heq).1.symm hpq
    | cons x before => exact absurd ((List.cons.inj heq).1 ▸ h x (List.mem_cons_self ..)) hp
  | cons y before' ih =>
    intro h heq
    cases before with
    | nil => exact (List.cons.inj heq).1 ▸ List.mem_cons_self ..
    | cons x before =>
      exact List.mem_cons_of_mem _ (ih (fun z hz => h z (List.mem_cons_of_mem _ hz)) (List.cons.inj heq).2)

/-- No two queues have one ID, and none has one that is still to be generated. -/
structure Apart (s : SseServer) : Prop where
  unique : ∀ p q d, s.connectionOf p = some d → s.connectionOf q = some d → p = q
  issued : ∀ q d, s.connectionOf q = some d → d < s.issued

/-- Where no two queues have one ID, the lookup is right exactly where the queues without one do not come in its way. -/
theorem looksUp_iff (h : s.Apart) : s.LooksUp c ↔ s.Behind c := by
  rcases @first_other s c s.event_queue_list with hall | ⟨before, q, after, hl, hbefore, hq⟩
  · -- all have other IDs
    refine iff_of_true ⟨none, ?_, fun q => ?_⟩ fun before q after hl hq => ?_
    · have hskip : s.get_event_queue_with_connection_id c (s.event_queue_list ++ []) = some none := lookup_skip hall
      rwa [List.append_nil] at hskip
    · refine iff_of_false (Option.some_ne_none q).symm ?_
      rintro ⟨hmem, hq⟩
      obtain ⟨d, hd, hne⟩ := hall q hmem
      exact hne (Option.some.inj (hd.symm.trans hq))
    · have hmem : q ∈ s.event_queue_list := hl ▸ List.mem_append_right _ (List.mem_cons_self ..)
      obtain ⟨d, hd, _⟩ := hall q hmem
      exact absurd (hd.symm.trans hq) (Option.some_ne_none d)
  · rcases hq with hq | hq
    · -- the queue with the ID comes first
      refine iff_of_true ⟨some q, ?_, fun p => ?_⟩ fun before' p after' hl' hp => ?_
      · rw [hl, lookup_skip hbefore, lookup_found hq]
      · constructor
        · rintro ⟨⟩
          exact ⟨hl ▸ List.mem_append_right _ (List.mem_cons_self ..), hq⟩
        · exact fun hp => congrArg some (h.unique q p c hq hp.2)
      · -- one without comes later
        refine ⟨q, mem_of_split ?_ ?_ hbefore (hl.symm.trans hl'), hq⟩
        · rintro ⟨d, hd, -⟩
          exact absurd (hd.symm.trans hp) (Option.some_ne_none d)
        · rintro rfl
          exact absurd (hq.symm.trans hp) (Option.some_ne_none c)
    · -- one without comes first
      refine iff_of_false ?_ fun hbehind => ?_
      · rintro ⟨r, hr, _⟩
        rw [hl, lookup_skip hbefore, lookup_null hq] at hr
        exact absurd hr.symm (Option.some_ne_none r)
      · obtain ⟨p, hp, hpc⟩ := hbehind before q after hl hq
        obtain ⟨d, hd, hne⟩ := hbefore p hp
        exact hne (Option.some.inj (hd.symm.trans hpc))

end lookup

/-! ## Every list the calls make -/

section calls

variable {s s' : SseServer}

/-- IDs that are only taken away stay apart. -/
theorem Apart.sub (h : s.Apart) (hc : ∀ q d, s'.connectionOf q = some d → s.connectionOf q = some d) (hi : s.issued ≤ s'.issued) :
    s'.Apart where
  unique p q d hp hq := h.unique p q d (hc p d hp) (hc q d hq)
  issued q d hq := Nat.lt_of_lt_of_le (h.issued q d (hc q d hq)) hi

theorem connectionOf_put (q : Nat) (e : EventQueue) (woken : Bool) (p : Nat) :
    (s.put q e woken).connectionOf p = if p = q then e.connection_id else s.connectionOf p := by
  change (Function.update s.event_queue q e p).connection_id = _
  by_cases hp : p = q
  · rw [if_pos hp, hp, Function.update_self]
  · rw [if_neg hp, Function.update_of_ne hp]
    rfl

/-- A section that leaves the connection of its queue alone. -/
theorem Apart.putSame (h : s.Apart) {q : Nat} {e : EventQueue} (woken : Bool) (he : e.connection_id = s.connectionOf q) :
    (s.put q e woken).Apart := by
  refine h.sub (fun p d hp => ?_) (Nat.le_refl _)
  rw [connectionOf_put] at hp
  split at hp
  · rename_i hpq
    rw [hpq, ← he]
    exact hp
  · exact hp

/-- A new queue has no connection. -/
theorem Apart.queueFor (h : s.Apart) (cookie : Option Nat) : (s.queueFor cookie).1.Apart := by
  unfold SseServer.queueFor
  split
  · exact h
  · refine h.sub (fun p d hp => ?_) (Nat.le_refl _)
    change (Function.update s.event_queue s.created create_event_queue p).connection_id = some d at hp
    by_cases hpc : p = s.created
    · rw [hpc, Function.update_self] at hp
      exact absurd hp (Option.some_ne_none d).symm
    · rw [Function.update_of_ne hpc] at hp
      exact hp

/-- One that gets the next ID is apart from all the others. -/
theorem Apart.setUp (h : s.Apart) {q : Nat} {e : EventQueue} (woken : Bool) (he : e.connection_id = some s.issued) :
    Apart { s.put q e woken with issued := s.issued + 1 } := by
  have hc (p : Nat) : ({ s.put q e woken with issued := s.issued + 1 } : SseServer).connectionOf p =
      if p = q then some s.issued else s.connectionOf p := by
    rw [← he]
    exact connectionOf_put q e woken p
  refine ⟨fun p p' d hp hp' => ?_, fun p d hp => ?_⟩
  · rw [hc] at hp hp'
    split at hp <;> split at hp'
    · rename_i h1 h2
      rw [h1, h2]
    · exact absurd (h.issued p' d hp') (by rw [← Option.some.inj hp]; exact Nat.lt_irrefl _)
    · exact absurd (h.issued p d hp) (by rw [← Option.some.inj hp']; exact Nat.lt_irrefl _)
    · exact h.unique p p' d hp hp'
  · rw [hc] at hp
    split at hp
    · exact Option.some.inj hp ▸ Nat.lt_succ_self _
    · exact Nat.lt_succ_of_lt (h.issued p d hp)

theorem toggleService_connection (value_url : String) (e : EventQueue) : (toggleService value_url e).connection_id = e.connection_id := by
  unfold toggleService subscribe_or_unsubscribe
  split <;> rfl

/-- The step lemma: a call keeps the IDs apart. -/
theorem Apart.call (h : s.Apart) (c : SessionCall) : (s.call c).Apart := by
  cases c with
  | subscribe_to_service cookie value_url => exact (h.queueFor cookie).putSame false (toggleService_connection ..)
  | subscribe_to_log_events cookie => exact (h.queueFor cookie).putSame false rfl
  | set_up_server_sent_event_connection cookie =>
    rw [SseServer.call]
    cases s.get_queue (some cookie) with
    | none => exact h
    | some q => exact h.setUp _ rfl
  | timeout q => exact h.sub (fun _ _ hp => hp) (Nat.le_refl _)

theorem apart_calls (l : List SessionCall) : (calls l).Apart := by
  have hrun : ∀ {s : SseServer}, s.Apart → (l.foldl SseServer.call s).Apart := by
    induction l with
    | nil => exact fun h => h
    | cons c l ih => exact fun h => ih (h.call c)
  exact hrun ⟨fun _ _ d hp _ => absurd hp (Option.some_ne_none d).symm, fun _ d hq => absurd hq (Option.some_ne_none d).symm⟩

end calls

end SseServer

open SseServer in
/-- In every list of queues that calls make, the lookup of a connection compares IDs only, and finds the queue of the connection, or none
if it has none, exactly if every queue without a connection stands behind that queue. -/
theorem connection_looksUp_iff (l : List SessionCall) (connection_id : Nat) :
    (calls l).LooksUp connection_id ↔ (calls l).Behind connection_id :=
  looksUp_iff (apart_calls l)

/-- Two clients subscribe, and the second one connects. -/
def secondConnects : List SessionCall :=
  [.subscribe_to_service none "/lamp", .subscribe_to_service none "/lamp", .set_up_server_sent_event_connection 1]

/-- The queue of the first one stands in the way of the second one's connection. -/
theorem not_connection_looksUp : ¬∀ (l : List SessionCall) (connection_id : Nat), (SseServer.calls l).LooksUp connection_id := by
  intro h
  obtain ⟨r, hr, _⟩ := h secondConnects 0
  exact absurd (hr.symm.trans (SseServer.lookup_null rfl)) (Option.some_ne_none r)

end HomeBridge.Hpd
