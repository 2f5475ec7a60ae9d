import Mathlib.Algebra.Ring.Parity
import HomeBridge.Hpd.Sessions

/-!
# Subscribing again ends the subscription

A request for the events of a service (`subscribe_to_service`) looks for the service in the session's list, and then adds it or takes it
out. Search and change are two sections under the queue's mutex, and anything of the session may come between them but a request for the
same service, which waits for the service's mutex. Services are known by their URLs here.
-/

namespace HomeBridge.Hpd

open Runs

@[simp] def SUBSCRIBE : String := "yes"
@[simp] def UNSUBSCRIBE : String := "no"

/-- A session, what the search of each request that is under way has returned, and how many requests for each service are done. -/
structure Subscriptions where
  session : Session
  found : String → Option Int
  requested : String → Nat

/-- A request for a service searches, or makes its change; or something else happens at the queue. -/
inductive SubscriptionAct where
  | search (value_url : String)
  | change (value_url : String)
  | other (a : SessionAct)

/-- The sections that belong to a request. -/
def SessionAct.IsChange : SessionAct → Bool
  | .subscribe _ | .unsubscribe _ => true
  | _ => false

/-- What `subscribe_to_service` does once it knows whether the queue is subscribed: the answer and the queue. -/
def subscribe_or_unsubscribe (found : Int) (value_url : String) (event_queue : EventQueue) : String × EventQueue :=
  if found = HPD_NO then (SUBSCRIBE, add_service_id_to_queue value_url event_queue)
  else (UNSUBSCRIBE, remove_service_id_from_queue value_url event_queue)

namespace Subscriptions

/-- A new session. -/
def start : Subscriptions := ⟨Session.start, fun _ => none, fun _ => 0⟩

/-- One section, and the answer if it is the last one of a request. -/
def act (s : Subscriptions) : SubscriptionAct → Option (Subscriptions × Option String)
  | .search value_url =>
    if s.found value_url = none then
      let found := is_queue_subscribed_to_service s.session.queue value_url
      some ({ s with found := Function.update s.found value_url (some found) }, none)
    else none
  | .change value_url => (s.found value_url).map fun found =>
    let r := subscribe_or_unsubscribe found value_url s.session.queue
    ({ session := { s.session with queue := r.2 }
       found := Function.update s.found value_url none
       requested := Function.update s.requested value_url (s.requested value_url + 1) }, some r.1)
  | .other a => if a.IsChange then none else (s.session.step a).map fun session => ({ s with session := session }, none)

/-- One section. -/
def step (s : Subscriptions) (a : SubscriptionAct) : Option Subscriptions := (s.act a).map Prod.fst

/-- The URLs in the list. -/
def urls (s : Subscriptions) : List String := s.session.queue.service_id_head.map ServiceId.id

/-- No URL is in the list twice, and those in it are the ones that were requested an odd number of times. -/
structure Parity (s : Subscriptions) : Prop where
  once : s.urls.Nodup
  odd : ∀ value_url, value_url ∈ s.urls ↔ Odd (s.requested value_url)

/-- What a request for a service changes: the answer is `yes` if it has subscribed to the service, `no` if it has ended the subscription,
and no other service is concerned. Nothing else changes a subscription. -/
def Toggles (s : Subscriptions) (a : SubscriptionAct) : Prop :=
  ∀ s' answer, s.act a = some (s', answer) →
    (∀ value_url, a ≠ .change value_url → (value_url ∈ s'.urls ↔ value_url ∈ s.urls)) ∧
    ∀ value_url, a = .change value_url →
      (answer = some SUBSCRIBE ↔ value_url ∉ s.urls ∧ value_url ∈ s'.urls) ∧
      (answer = some UNSUBSCRIBE ↔ value_url ∈ s.urls ∧ value_url ∉ s'.urls)

/-! ## The list of URLs -/

section urls

variable {q : EventQueue} {value_url : String}

/-- The URLs in the list of a queue. -/
def urlsOf (q : EventQueue) : List String := q.service_id_head.map ServiceId.id

theorem subscribed_iff : is_queue_subscribed_to_service q value_url = HPD_NO ↔ value_url ∉ urlsOf q := by
  have hany : (q.service_id_head.any fun iterator => value_url == iterator.id) = true ↔ value_url ∈ urlsOf q := by
    simp only [List.any_eq_true, beq_iff_eq, urlsOf, List.mem_map]
    exact exists_congr fun _ => and_congr_right fun _ => eq_comm
  rw [← hany, is_queue_subscribed_to_service]
  exact Ne.ite_eq_right_iff (by decide)

theorem urlsOf_add : urlsOf (add_service_id_to_queue value_url q) = urlsOf q ++ [value_url] := List.map_append

theorem urlsOf_remove : urlsOf (remove_service_id_from_queue value_url q) = (urlsOf q).erase value_url := by
  rw [List.erase_eq_eraseP']
  exact (List.eraseP_map (f := ServiceId.id) (p := (· == value_url)) (l := q.service_id_head)).symm

/-- A notification marks a service, and leaves the URLs. -/
theorem urlsOf_set_availability (availability : Int) : urlsOf (set_availability_of_service value_url q availability).2 = urlsOf q := by
  unfold set_availability_of_service
  split
  · rfl
  · split
    · rename_i i _
      refine List.ext_getElem? fun j => ?_
      rw [urlsOf, urlsOf, List.getElem?_map, List.getElem?_map, List.getElem?_modify]
      cases q.service_id_head[j]? with
      | none => rfl
      | some iterator =>
        change some _ = some _
        split <;> rfl
    · rfl

theorem urlsOf_dequeue_rest {q' : EventQueue} {c : Option Nat} {g : Int} {e : Option Event}
    (h : dequeue_rest q c g = some (q', e)) : urlsOf q' = urlsOf q := by
  rcases dequeue_rest_cases h with ⟨rfl, -⟩ | ⟨_, _, -, rfl, -⟩
  · rfl
  · rfl

/-- Whatever else happens at the queue leaves the URLs. -/
theorem urlsOf_other {s s' : Session} {a : SessionAct} (ha : ¬a.IsChange = true) (h : s.step a = some s') :
    urlsOf s'.queue = urlsOf s.queue := by
  cases a with
  | subscribe | unsubscribe => exact absurd rfl ha
  | queue event =>
    cases h
    change urlsOf (queue_event s.queue event HPD_NO).1 = _
    rcases queue_event_cases s.queue event HPD_NO with he | he <;> rw [he]
    rfl
  | setAvailability URL availability =>
    cases h
    exact urlsOf_set_availability availability
  | toggleLog | setUp | exit =>
    cases h
    rfl
  | dequeue c =>
    simp only [Session.step, Session.act] at h
    split at h
    · obtain ⟨⟨t, _⟩, ht, rfl⟩ := Option.map_eq_some_iff.mp h
      obtain ⟨⟨q, r⟩, hr, he⟩ := Option.map_eq_some_iff.mp ht
      cases he
      unfold dequeue_event at hr
      split at hr
      · cases hr
        rfl
      · obtain ⟨⟨q', e⟩, hrest, he⟩ := Option.map_eq_some_iff.mp hr
        cases he
        exact urlsOf_dequeue_rest hrest
    · cases h
  | timeout c =>
    simp only [Session.step, Session.act] at h
    split at h
    · cases h
      rfl
    · cases h
  | wake c =>
    simp only [Session.step, Session.act] at h
    split at h
    · cases h
    · obtain ⟨⟨t, _⟩, ht, rfl⟩ := Option.map_eq_some_iff.mp h
      obtain ⟨⟨q, r⟩, hr, he⟩ := Option.map_eq_some_iff.mp ht
      cases he
      exact urlsOf_dequeue_rest (q := { s.queue with is_waiting := HPD_NO }) hr
    · cases h
      rfl

end urls

/-! ## The invariant -/

/-- Besides, what a search has found is still so: only the request itself may change it. -/
structure Inv (s : Subscriptions) : Prop where
  parity : s.Parity
  found : ∀ value_url found, s.found value_url = some found → (found = HPD_NO ↔ value_url ∉ s.urls)

theorem inv_start : start.Inv where
  parity := ⟨List.nodup_nil, fun _ => iff_of_false List.not_mem_nil Nat.not_odd_zero⟩
  found _ _ h := absurd h.symm (Option.some_ne_none _)

section step

variable {s s' : Subscriptions}

/-- What a search does. -/
theorem act_search {value_url : String} {answer : Option String} (hs : s.act (.search value_url) = some (s', answer)) :
    s' = { s with found := Function.update s.found value_url (some (is_queue_subscribed_to_service s.session.queue value_url)) } := by
  rw [act] at hs
  split at hs
  · cases hs
    rfl
  · cases hs

/-- What happens at the queue besides leaves all the rest, and the URLs. -/
theorem act_other {a : SessionAct} {answer : Option String} (hs : s.act (.other a) = some (s', answer)) :
    ∃ session, urlsOf session.queue = s.urls ∧ s' = { s with session } := by
  rw [act] at hs
  split at hs
  · cases hs
  · rename_i ha
    obtain ⟨session, hsession, he⟩ := Option.map_eq_some_iff.mp hs
    cases he
    exact ⟨session, urlsOf_other ha hsession, rfl⟩

/-- The change of a request: one service comes to the list or goes, and its number of requests grows. -/
theorem urls_change (h : s.Inv) {value_url : String} {found : Int} (hfound : s.found value_url = some found) :
    let q := (subscribe_or_unsubscribe found value_url s.session.queue).2
    (urlsOf q).Nodup ∧ (value_url ∈ urlsOf q ↔ value_url ∉ s.urls) ∧ ∀ u, u ≠ value_url → (u ∈ urlsOf q ↔ u ∈ s.urls) := by
  have hiff := h.found value_url found hfound
  by_cases hno : found = HPD_NO
  · have hq : (subscribe_or_unsubscribe found value_url s.session.queue).2 = add_service_id_to_queue value_url s.session.queue :=
      congrArg Prod.snd (if_pos hno)
    have hmem := hiff.mp hno
    rw [hq]
    dsimp only
    rw [urlsOf_add]
    refine ⟨List.nodup_append.mpr ⟨h.parity.once, List.pairwise_singleton _ _, ?_⟩, iff_of_true (by simp) hmem, fun u hu => ?_⟩
    · intro u hu v hv he
      exact hmem (List.mem_singleton.mp hv ▸ he ▸ hu)
    · rw [List.mem_append, List.mem_singleton]
      exact or_iff_left hu
  · have hq : (subscribe_or_unsubscribe found value_url s.session.queue).2 = remove_service_id_from_queue value_url s.session.queue :=
      congrArg Prod.snd (if_neg hno)
    have hmem : value_url ∈ s.urls := not_not.mp (mt hiff.mpr hno)
    rw [hq]
    dsimp only
    rw [urlsOf_remove]
    refine ⟨h.parity.once.erase _, iff_of_false ?_ (not_not.mpr hmem), fun u hu => ?_⟩
    · exact fun hin => (List.Nodup.mem_erase_iff h.parity.once).mp hin |>.1 rfl
    · exact List.mem_erase_of_ne hu

/-- The step lemma. -/
theorem Inv.step (h : s.Inv) {a : SubscriptionAct} (hstep : s.step a = some s') : s'.Inv := by
  obtain ⟨⟨t, answer⟩, hs, rfl⟩ := Option.map_eq_some_iff.mp hstep
  cases a with
  | search value_url =>
    obtain rfl := act_search hs
    refine ⟨⟨h.parity.once, h.parity.odd⟩, fun u found hu => ?_⟩
    change Function.update s.found value_url _ u = some found at hu
    by_cases he : u = value_url
    · subst he
      rw [Function.update_self] at hu
      cases hu
      exact subscribed_iff
    · rw [Function.update_of_ne he] at hu
      exact h.found u found hu
  | change value_url =>
    obtain ⟨found, hfound, he⟩ := Option.map_eq_some_iff.mp hs
    cases he
    obtain ⟨hnodup, hself, hothers⟩ := urls_change h hfound
    refine ⟨⟨hnodup, fun u => ?_⟩, fun u found' hu => ?_⟩
    · change u ∈ urlsOf _ ↔ Odd (Function.update s.requested value_url _ u)
      by_cases he : u = value_url
      · subst he
        rw [Function.update_self, hself, h.parity.odd, Nat.odd_add_one]
      · rw [Function.update_of_ne he, hothers u he]
        exact h.parity.odd u
    · change Function.update s.found value_url none u = some found' at hu
      by_cases he : u = value_url
      · subst he
        rw [Function.update_self] at hu
        exact absurd hu.symm (Option.some_ne_none _)
      · rw [Function.update_of_ne he] at hu
        exact (h.found u found' hu).trans (not_congr (hothers u he).symm)
  | other a =>
    obtain ⟨session, hurls, rfl⟩ := act_other hs
    refine ⟨⟨?_, fun u => ?_⟩, fun u found hu => ?_⟩
    · change (urlsOf session.queue).Nodup
      rw [hurls]
      exact h.parity.once
    · change u ∈ urlsOf session.queue ↔ _
      rw [hurls]
      exact h.parity.odd u
    · change _ ↔ u ∉ urlsOf session.queue
      rw [hurls]
      exact h.found u found hu

/-- What a section does, where the invariant holds. -/
theorem Inv.toggles (h : s.Inv) (a : SubscriptionAct) : s.Toggles a := by
  intro s' answer hs
  cases a with
  | search value_url =>
    obtain rfl := act_search hs
    exact ⟨fun _ _ => Iff.rfl, fun _ he => SubscriptionAct.noConfusion he⟩
  | change value_url =>
    obtain ⟨found, hfound, he⟩ := Option.map_eq_some_iff.mp hs
    obtain ⟨hnodup, hself, hothers⟩ := urls_change h hfound
    have hiff := h.found value_url found hfound
    cases he
    refine ⟨fun u hu => hothers u fun he => hu (he ▸ rfl), fun u hu => ?_⟩
    cases hu
    have hanswer : (subscribe_or_unsubscribe found value_url s.session.queue).1 = if found = HPD_NO then SUBSCRIBE else UNSUBSCRIBE := by
      unfold subscribe_or_unsubscribe
      split <;> rfl
    rw [hanswer]
    change _ ∧ (_ ↔ _ ∧ value_url ∉ urlsOf _)
    rw [hself]
    by_cases hno : found = HPD_NO
    · have hmem := hiff.mp hno
      rw [if_pos hno]
      exact ⟨iff_of_true rfl ⟨hmem, hself.mpr hmem⟩, iff_of_false (by decide) fun hm => hmem hm.1⟩
    · have hmem : value_url ∈ s.urls := not_not.mp (mt hiff.mpr hno)
      rw [if_neg hno]
      exact ⟨iff_of_false (by decide) fun hm => hm.1 hmem, iff_of_true rfl ⟨hmem, not_not.mpr hmem⟩⟩
  | other a =>
    obtain ⟨session, hurls, rfl⟩ := act_other hs
    refine ⟨fun u _ => ?_, fun _ he => SubscriptionAct.noConfusion he⟩
    change u ∈ urlsOf session.queue ↔ u ∈ s.urls
    rw [hurls]

end step

end Subscriptions

open Subscriptions in
/-- In every run of requests, interleaved with anything else at the session's queue, the list has no URL twice, a service is subscribed to
exactly if it was requested an odd number of times, and every request says what it has done and leaves the other services alone. -/
theorem subscriptions_toggle (acts : List SubscriptionAct) :
    Always Subscriptions.step Parity start acts ∧ AtEach Subscriptions.step Toggles start acts := by
  refine ⟨always_of_invariant (fun _ h => h.parity) (fun _ _ _ h hs => h.step hs) inv_start, fun pre a post t _ hr => ?_⟩
  have hinv : Inv t := run_invariant (fun _ _ _ h hs => h.step hs) inv_start hr
  exact hinv.toggles a

end HomeBridge.Hpd
