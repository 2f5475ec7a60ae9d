import HomeBridge.Hpd.Destruction

/-!
# When the server stops

`stop_unsecure_server` frees the services the server still has, each with its element in the server's list
(`free_unsecure_server_services` in `hpd_http_web_server.c`); a service is out of that list when it is destroyed, so that it counts as
registered no more, and it leaves its device, which goes with the last one. A service that was never registered stays, and its device
with it.
-/

namespace HomeBridge.Hpd

open Utlist

namespace Memory

/-- The loop of `free_unsecure_server_services`: the head of the server's list, and where `iterator` is. The fuel is for the loops and
the calls. -/
def freeEach : Nat → Memory → Option Nat → Option Nat → Option (Option Nat × Memory)
  | 0, _, _, _ => none
  | _ + 1, m, service_head, none => some (service_head, m)
  | fuel + 1, m, service_head, some iterator => do
    let n ← m.elements iterator
    let tmp := n.next
    let (elements, service_head) ← DL_DELETE m.elements service_head iterator
    let m := { m with elements }
    let l ← DL_FOREACH m.elements fuel service_head
    let (_, m) ← destroy_service_struct (some (l.map Prod.snd)) fuel m n.data
    let m ← m.destroy_service_element_struct iterator
    freeEach fuel m service_head tmp

/-- `free_unsecure_server_services`. -/
def free_unsecure_server_services (fuel : Nat) (m : Memory) (service_head : Option Nat) : Option (Int × Option Nat × Memory) :=
  if service_head = none then some (HPD_E_NULL_POINTER, none, m)
  else (freeEach fuel m service_head service_head).map fun r => (HPD_E_SUCCESS, r)

/-- The devices by their addresses, with the services in their lists. -/
abbrev Devices : Type := Nat → Option (Device × List (Nat × Nat))

/-- The server's list is `L`, the devices with services are `G`, every service of the server is in the list of a device, and no two of them
have the same key. The elements of the server's list are its own. -/
structure Serves (m : Memory) (head : Option Nat) (L : List (Nat × Nat)) (G : Devices) : Prop where
  list : Linked m.elements head L
  devices : ∀ {a d l}, G a = some (d, l) → Listed m a d l
  filled : ∀ {a d l}, G a = some (d, l) → l ≠ []
  own : ∀ {a d l}, G a = some (d, l) → ∀ p ∈ l, p.1 ∉ L.map Prod.fst
  found : ∀ q ∈ L, ∃ a d l, G a = some (d, l) ∧ q.2 ∈ l.map Prod.snd
  apart : (L.map fun q => (m.read q.2).map keyOf).Nodup

/-- The devices that have other services than these, with the others. -/
def Devices.left (G : Devices) (served : List Nat) : Devices := fun a => (G a).bind fun x =>
  if x.2.filter (fun p => decide (p.2 ∉ served)) = [] then none else some (x.1, x.2.filter fun p => decide (p.2 ∉ served))

/-- What is to be freed: the services of the server, their elements in both lists, and the devices that have no others. -/
def ToFree (L : List (Nat × Nat)) (G : Devices) : Block → Prop
  | .service q => q ∈ L.map Prod.snd
  | .element e => e ∈ L.map Prod.fst ∨ ∃ a d l, G a = some (d, l) ∧ ∃ p ∈ l, p.1 = e ∧ p.2 ∈ L.map Prod.snd
  | .device a => ∃ d l, G a = some (d, l) ∧ ∀ p ∈ l, p.2 ∈ L.map Prod.snd

/-- That is freed, each once, and the devices that are left have their other services as before. -/
structure TornDown (m m' : Memory) (L : List (Nat × Nat)) (G : Devices) : Prop where
  freed : ∃ t, m'.freed = m.freed ++ t ∧ t.Nodup ∧ ∀ b, b ∈ t ↔ ToFree L G b
  services : ∀ q, m'.services q = if q ∈ L.map Prod.snd then none else m.services q
  elements : ∀ e, ToFree L G (.element e) → m'.elements e = none
  emptied : ∀ a, ToFree L G (.device a) → m'.devices a = none
  left : ∀ {a d l}, G.left (L.map Prod.snd) a = some (d, l) → Listed m' a d l
  others : ∀ a, G a = none → m'.devices a = m.devices a

/-- The elements of other lists are as they were. -/
def Apart (m m' : Memory) (L : List (Nat × Nat)) (G : Devices) : Prop :=
  ∀ e, e ∉ L.map Prod.fst → (∀ a d l, G a = some (d, l) → e ∉ l.map Prod.fst) → m'.elements e = m.elements e

section

variable {m m' : Memory} {head : Option Nat} {L l : List (Nat × Nat)} {G : Devices} {d : Device} {a : Nat}

/-- What lies in the nodes of a walk. -/
theorem path_data {α : Type} {m : Heap α} : ∀ {l : List (Nat × α)} {h : Option Nat}, Path m h l → ∀ p ∈ l, m.data p.1 = some p.2 := by
  intro l
  induction l with
  | nil => exact fun _ _ hp => absurd hp List.not_mem_nil
  | cons b l ih =>
    rintro h ⟨-, n, hn, hx, hl⟩ p hp
    rcases List.mem_cons.mp hp with rfl | hp
    · rw [Heap.data, hn, Option.map_some, hx]
    · exact ih hl p hp

/-- A service is in the list of one device. -/
theorem Listed.device_eq {a' : Nat} {d' : Device} {l' : List (Nat × Nat)} (h : Listed m a d l) (h' : Listed m a' d' l')
    {p p' : Nat × Nat} (hp : p ∈ l) (hp' : p' ∈ l') (he : p.2 = p'.2) : a = a' := by
  obtain ⟨s, hs, hback⟩ := h.back p hp
  obtain ⟨s', hs', hback'⟩ := h'.back p' hp'
  rw [he, hs'] at hs
  cases hs
  exact Option.some.inj (hback.symm.trans hback')

/-- And so is an element. -/
theorem Listed.device_eq_of_element {a' : Nat} {d' : Device} {l' : List (Nat × Nat)} (h : Listed m a d l) (h' : Listed m a' d' l')
    {p p' : Nat × Nat} (hp : p ∈ l) (hp' : p' ∈ l') (he : p.1 = p'.1) : a = a' := by
  obtain ⟨_, -, hl⟩ := h.list
  obtain ⟨_, -, hl'⟩ := h'.list
  have hdata := path_data hl.path p hp
  rw [he, path_data hl'.path p' hp'] at hdata
  exact h.device_eq h' hp hp' (Option.some.inj hdata).symm

/-- A list stays as it is where its elements, its services and its device do. -/
theorem Listed.congr (h : Listed m a d l) (hdevice : m'.devices a = m.devices a) (helements : ∀ p ∈ l, m'.elements p.1 = m.elements p.1)
    (hservices : ∀ p ∈ l, m'.services p.2 = m.services p.2) : Listed m' a d l := by
  obtain ⟨head, hd, hl⟩ := h.list
  refine ⟨⟨head, hdevice.trans hd, hl.congr fun b hb => ?_⟩, fun p hp => ?_, ?_⟩
  · obtain ⟨p, hp, rfl⟩ := List.mem_map.mp hb
    exact helements p hp
  · obtain ⟨s, hs, hback⟩ := h.back p hp
    exact ⟨s, (hservices p hp).trans hs, hback⟩
  · rw [List.map_congr_left fun p hp => congrArg (Option.map ServiceBlock.label) (hservices p hp)]
    exact h.apart

/-- A service with a key that no service of the list has is not registered. -/
theorem unregistered_of_keys {service : Nat} {s : ServiceBlock × Device} (hs : m.read service = some s) : ∀ {l : List Nat},
    (∀ i ∈ l, ∃ x, m.read i = some x ∧ keyOf x ≠ keyOf s) → is_service_registered (some l) m service = some 0 := by
  intro l hl
  have hloop : m.is_unsecure_service_registered service l = some 0 := by
    induction l with
    | nil => rfl
    | cons i l ih =>
      obtain ⟨x, hx, hne⟩ := hl i (List.mem_cons_self ..)
      simp only [is_unsecure_service_registered, hx, hs, Option.bind_eq_bind, Option.bind_some, if_neg hne]
      exact ih fun j hj => hl j (List.mem_cons_of_mem _ hj)
  rw [is_service_registered, hs, Option.bind_eq_bind, Option.bind_some]
  by_cases hsec : s.2.secure_device = HPD_NON_SECURE_DEVICE
  · rw [if_pos hsec]
    exact hloop
  · rw [if_neg hsec]

/-! ## What is to be freed -/

theorem left_eq_some {served : List Nat} : G.left served a = some (d, l) ↔
    ∃ l₀, G a = some (d, l₀) ∧ l = l₀.filter (fun p => decide (p.2 ∉ served)) ∧ l ≠ [] := by
  rw [Devices.left, Option.bind_eq_some_iff]
  constructor
  · rintro ⟨⟨d₀, l₀⟩, hG, h⟩
    rw [Option.ite_none_left_eq_some] at h
    obtain ⟨hne, h⟩ := h
    cases h
    exact ⟨l₀, hG, rfl, hne⟩
  · rintro ⟨l₀, hG, rfl, hne⟩
    exact ⟨(d, l₀), hG, if_neg hne⟩

theorem left_eq_none {served : List Nat} (hG : G a = none) : G.left served a = none := by
  rw [Devices.left, hG, Option.bind_none]

/-- First some services and then others. -/
theorem left_left (s₁ s₂ : List Nat) : (G.left s₁).left s₂ = G.left (s₁ ++ s₂) := by
  have hfilter (l : List (Nat × Nat)) : (l.filter fun p => decide (p.2 ∉ s₁)).filter (fun p => decide (p.2 ∉ s₂)) =
      l.filter fun p => decide (p.2 ∉ s₁ ++ s₂) := by
    rw [List.filter_filter]
    refine List.filter_congr fun p _ => ?_
    rw [← Bool.decide_and, decide_eq_decide, List.mem_append, not_or, and_comm]
  funext a
  apply Option.ext
  rintro ⟨d, l⟩
  rw [left_eq_some, left_eq_some]
  constructor
  · rintro ⟨_, hG, rfl, hne⟩
    obtain ⟨l₀, hG₀, rfl, -⟩ := left_eq_some.mp hG
    exact ⟨l₀, hG₀, hfilter l₀, hne⟩
  · rintro ⟨l₀, hG, rfl, hne⟩
    refine ⟨l₀.filter fun p => decide (p.2 ∉ s₁), left_eq_some.mpr ⟨l₀, hG, rfl, fun hnil => hne ?_⟩, (hfilter l₀).symm, hne⟩
    rw [← hfilter, hnil, List.filter_nil]

/-- What is freed for one service, and then for the others. -/
theorem toFree_cons {x : Nat × Nat} {b : Block} : ToFree (x :: L) G b ↔ ToFree [x] G b ∨ ToFree L (G.left [x.2]) b := by
  cases b with
  | service q => exact List.mem_cons.trans (or_congr_left List.mem_singleton.symm)
  | element e =>
    constructor
    · rintro (he | ⟨a, d, l, hG, p, hp, rfl, hq⟩)
      · exact (List.mem_cons.mp he).imp (fun he => .inl (List.mem_singleton.mpr he)) .inl
      · by_cases hx : p.2 = x.2
        · exact .inl (.inr ⟨a, d, l, hG, p, hp, rfl, List.mem_singleton.mpr hx⟩)
        · have hmem : p ∈ l.filter fun p => decide (p.2 ∉ [x.2]) := List.mem_filter.mpr ⟨hp, by simpa using hx⟩
          exact .inr (.inr ⟨a, d, _, left_eq_some.mpr ⟨l, hG, rfl, List.ne_nil_of_mem hmem⟩, p, hmem, rfl,
            (List.mem_cons.mp hq).resolve_left hx⟩)
    · rintro ((he | ⟨a, d, l, hG, p, hp, rfl, hq⟩) | he | ⟨a, d, l, hG, p, hp, rfl, hq⟩)
      · exact .inl (List.mem_cons.mpr (.inl (List.mem_singleton.mp he)))
      · exact .inr ⟨a, d, l, hG, p, hp, rfl, List.mem_cons.mpr (.inl (List.mem_singleton.mp hq))⟩
      · exact .inl (List.mem_cons_of_mem _ he)
      · obtain ⟨l₀, hG₀, rfl, -⟩ := left_eq_some.mp hG
        exact .inr ⟨a, d, l₀, hG₀, p, (List.mem_filter.mp hp).1, rfl, List.mem_cons_of_mem _ hq⟩
  | device a =>
    constructor
    · rintro ⟨d, l, hG, hall⟩
      by_cases hnil : (l.filter fun p => decide (p.2 ∉ [x.2])) = []
      · exact .inl ⟨d, l, hG, fun p hp => by simpa using List.filter_eq_nil_iff.mp hnil p hp⟩
      · refine .inr ⟨d, _, left_eq_some.mpr ⟨l, hG, rfl, hnil⟩, fun p hp => ?_⟩
        obtain ⟨hp, hne⟩ := List.mem_filter.mp hp
        exact (List.mem_cons.mp (hall p hp)).resolve_left (by simpa using hne)
    · rintro (⟨d, l, hG, hall⟩ | ⟨d, l, hG, hall⟩)
      · exact ⟨d, l, hG, fun p hp => List.mem_cons.mpr (.inl (List.mem_singleton.mp (hall p hp)))⟩
      · obtain ⟨l₀, hG₀, rfl, -⟩ := left_eq_some.mp hG
        refine ⟨d, l₀, hG₀, fun p hp => ?_⟩
        by_cases hx : p.2 = x.2
        · exact List.mem_cons.mpr (.inl hx)
        · exact List.mem_cons_of_mem _ (hall p (List.mem_filter.mpr ⟨hp, by simpa using hx⟩))

/-! ## The services of the server -/

/-- A service and an element are at one place of one list. -/
theorem Serves.same (h : Serves m head L G) {a' : Nat} {d' : Device} {l' : List (Nat × Nat)} (hG : G a = some (d, l))
    (hG' : G a' = some (d', l')) {p p' : Nat × Nat} (hp : p ∈ l) (hp' : p' ∈ l') (he : p.1 = p'.1 ∨ p.2 = p'.2) : a = a' ∧ p = p' := by
  have hl := h.devices hG
  have hl' := h.devices hG'
  obtain rfl : a = a' := he.elim (hl.device_eq_of_element hl' hp hp') (hl.device_eq hl' hp hp')
  obtain ⟨rfl, rfl⟩ := Prod.mk.inj (Option.some.inj (hG.symm.trans hG'))
  refine ⟨rfl, he.elim (fun he => ?_) fun he => ?_⟩
  · exact List.inj_on_of_nodup_map hl.elements_nodup hp hp' he
  · exact List.inj_on_of_nodup_map hl.services_nodup hp hp' he

theorem Serves.services_nodup (h : Serves m head L G) : (L.map Prod.snd).Nodup := by
  refine List.Nodup.of_map (fun q => (m.read q).map keyOf) ?_
  rw [List.map_map]
  exact h.apart

/-- Nothing is to be freed for one service and for another. -/
theorem Serves.toFree_apart {x : Nat × Nat} (h : Serves m head (x :: L) G) {b : Block} (h₁ : ToFree [x] G b) :
    ¬ToFree L (G.left [x.2]) b := by
  intro h₂
  cases b with
  | service q =>
    obtain rfl : q = x.2 := List.mem_singleton.mp h₁
    exact (List.nodup_cons.mp h.services_nodup).1 h₂
  | element e =>
    rcases h₁ with he | ⟨a, d, l, hG, p, hp, rfl, hq⟩
    · obtain rfl : e = x.1 := List.mem_singleton.mp he
      rcases h₂ with he | ⟨a, d, l, hG, p, hp, he, -⟩
      · exact (List.nodup_cons.mp h.list.nodup).1 he
      · obtain ⟨l₀, hG₀, rfl, -⟩ := left_eq_some.mp hG
        exact h.own hG₀ p (List.mem_filter.mp hp).1 (he ▸ List.mem_cons_self ..)
    · rcases h₂ with he | ⟨a', d', l', hG', p', hp', he, -⟩
      · exact h.own hG p hp (List.mem_cons_of_mem _ he)
      · obtain ⟨l₀, hG₀, rfl, -⟩ := left_eq_some.mp hG'
        obtain ⟨hp₀, hne⟩ := List.mem_filter.mp hp'
        obtain ⟨-, rfl⟩ := h.same hG₀ hG hp₀ hp (.inl he)
        exact absurd hq (of_decide_eq_true hne)
  | device a =>
    obtain ⟨d, l, hG, hall⟩ := h₁
    obtain ⟨d', l', hG', -⟩ := h₂
    obtain ⟨l₀, hG₀, rfl, hne⟩ := left_eq_some.mp hG'
    obtain ⟨rfl, rfl⟩ := Prod.mk.inj (Option.some.inj (hG.symm.trans hG₀))
    exact hne (List.filter_eq_nil_iff.mpr fun p hp => by simpa using hall p hp)

/-- One service first, and then the others. -/
theorem TornDown.cons {x : Nat × Nat} {m₁ : Memory} (h : Serves m head (x :: L) G) (h₁ : TornDown m m₁ [x] G)
    (h₂ : TornDown m₁ m' L (G.left [x.2])) (hapart : Apart m₁ m' L (G.left [x.2])) : TornDown m m' (x :: L) G := by
  obtain ⟨t₁, hfreed₁, hnodup₁, ht₁⟩ := h₁.freed
  obtain ⟨t₂, hfreed₂, hnodup₂, ht₂⟩ := h₂.freed
  refine ⟨⟨t₁ ++ t₂, by rw [hfreed₂, hfreed₁, List.append_assoc], ?_, fun b => ?_⟩, fun q => ?_, fun e he => ?_, fun a ha => ?_,
    fun {a d l} hG => ?_, fun a hG => ?_⟩
  · refine List.nodup_append.mpr ⟨hnodup₁, hnodup₂, ?_⟩
    rintro b hb _ hb' rfl
    exact h.toFree_apart ((ht₁ b).mp hb) ((ht₂ b).mp hb')
  · rw [List.mem_append, ht₁, ht₂]
    exact toFree_cons.symm
  · rw [h₂.services, h₁.services]
    by_cases hq : q ∈ L.map Prod.snd
    · rw [if_pos hq, if_pos (show q ∈ (x :: L).map Prod.snd from List.mem_cons_of_mem _ hq)]
    · have hmem : q ∈ (x :: L).map Prod.snd ↔ q ∈ [x].map Prod.snd :=
        ⟨fun h => List.mem_singleton.mpr ((List.mem_cons.mp h).resolve_right hq), fun h => List.mem_cons.mpr (.inl (List.mem_singleton.mp h))⟩
      rw [if_neg hq]
      exact if_congr hmem.symm rfl rfl
  · rcases toFree_cons.mp he with he₁ | he
    · by_cases he₂ : ToFree L (G.left [x.2]) (.element e)
      · exact h₂.elements e he₂
      · -- it is in no list any more, and stays what it is
        rw [← h₁.elements e he₁]
        have hnot : e ∉ L.map Prod.fst := fun he => he₂ (.inl he)
        refine hapart e hnot fun a d l hG hmem => ?_
        obtain ⟨l₀, hG₀, rfl, -⟩ := left_eq_some.mp hG
        obtain ⟨p, hp, rfl⟩ := List.mem_map.mp hmem
        obtain ⟨hp, hne⟩ := List.mem_filter.mp hp
        rcases he₁ with he₁ | ⟨a', d', l', hG', p', hp', hpp, hq⟩
        · exact h.own hG₀ p hp (List.mem_cons.mpr (.inl (List.mem_singleton.mp he₁)))
        · obtain ⟨-, rfl⟩ := h.same hG' hG₀ hp' hp (.inl hpp)
          exact absurd hq (of_decide_eq_true hne)
    · exact h₂.elements e he
  · rcases toFree_cons.mp ha with ha₁ | ha
    · obtain ⟨d, l, hG, hall⟩ := ha₁
      have hleft : G.left [x.2] a = none := by
        rw [Devices.left, hG, Option.bind_some]
        exact if_pos (List.filter_eq_nil_iff.mpr fun p hp => by simpa using hall p hp)
      exact (h₂.others a hleft).trans (h₁.emptied a ⟨d, l, hG, hall⟩)
    · exact h₂.emptied a ha
  · exact h₂.left (by rwa [left_left])
  · exact (h₂.others a (left_eq_none hG)).trans (h₁.others a hG)

/-! ## One service -/

/-- The first element is out of the server's list. -/
theorem Serves.unlinked {x : Nat × Nat} (h : Serves m head (x :: L) G) : ∃ elements head' n, head = some x.1 ∧ m.elements x.1 = some n ∧
    n.data = x.2 ∧ n.next = head' ∧ DL_DELETE m.elements head x.1 = some (elements, head') ∧ Linked elements head' L ∧
    ∀ e ∉ L.map Prod.fst, elements e = m.elements e := by
  obtain ⟨elements, head', hdel, hl, hframe⟩ := (show Linked m.elements head ([] ++ x :: L) from h.list).delete
  obtain ⟨hhead, n, hn, hdata, hnext⟩ := h.list.path
  exact ⟨elements, head', n, hhead, hn, hdata, hnext.head_eq.trans hl.path.head_eq.symm, hdel, hl, hframe⟩

/-- A service that is out of the server's list is not registered, by what is left of the list. -/
theorem Serves.unregistered {x : Nat × Nat} (h : Serves m head (x :: L) G) :
    is_service_registered (some (L.map Prod.snd)) m x.2 = some 0 := by
  have hread {q : Nat × Nat} (hq : q ∈ x :: L) : ∃ s, m.read q.2 = some s := by
    obtain ⟨a, d, l, hG, hmem⟩ := h.found q hq
    obtain ⟨p, hp, he⟩ := List.mem_map.mp hmem
    obtain ⟨s, -, -, hs⟩ := (h.devices hG).read hp
    exact ⟨(s, d), he ▸ hs⟩
  obtain ⟨s, hs⟩ := hread (List.mem_cons_self ..)
  refine unregistered_of_keys hs fun i hi => ?_
  obtain ⟨q, hq, rfl⟩ := List.mem_map.mp hi
  obtain ⟨y, hy⟩ := hread (List.mem_cons_of_mem _ hq)
  have hsame (hkey : keyOf y = keyOf s) : (m.read q.2).map keyOf = (m.read x.2).map keyOf := by
    rw [hs, hy, Option.map_some, Option.map_some, hkey]
  exact ⟨y, hy, fun hkey => (List.nodup_cons.mp h.apart).1 (List.mem_map.mpr ⟨q, hq, hsame hkey⟩)⟩

theorem freeElement_eq {e : Nat} {n : Node Nat} (hn : m.elements e = some n) : m.destroy_service_element_struct e =
    some { m with elements := Function.update m.elements e none, freed := m.freed ++ [.element e] } := by
  rw [destroy_service_element_struct, hn, Option.map_some]

/-- A service with its elements is gone, and its device has `b`. -/
structure Gone (m m' : Memory) (x p : Nat × Nat) (a : Nat) (b : Option DeviceBlock) (elements : Heap Nat) (t : List Block) : Prop where
  devices : m'.devices = Function.update m.devices a b
  services : m'.services = Function.update m.services p.2 none
  elements : ∀ e, m'.elements e = if e = x.1 ∨ e = p.1 then none else elements e
  freed : m'.freed = m.freed ++ t

/-- A turn of the loop: the service leaves the server's list and that of its device, which goes with the last one. -/
theorem Serves.gone {x p : Nat × Nat} {l₁ l₂ : List (Nat × Nat)} (h : Serves m head (x :: L) G) (hG : G a = some (d, l₁ ++ p :: l₂))
    (hx : p.2 = x.2) : ∃ elements head' head₂ m',
      Linked elements head' L ∧ Linked elements head₂ (l₁ ++ l₂) ∧
      (∀ e ∉ L.map Prod.fst, e ∉ (l₁ ++ l₂).map Prod.fst → elements e = m.elements e) ∧
      Gone m m' x p a (if l₁ ++ l₂ = [] then none else some ⟨d, head₂⟩) elements
        (if l₁ ++ l₂ = [] then [.element p.1, .device a, .service x.2, .element x.1] else [.element p.1, .service x.2, .element x.1]) ∧
      ∀ fuel, L.length + (l₁ ++ p :: l₂).length + 4 ≤ fuel → freeEach (fuel + 1) m head head = freeEach fuel m' head' head' := by
  have hp : p ∈ l₁ ++ p :: l₂ := List.mem_append_right _ (List.mem_cons_self ..)
  obtain ⟨elements₁, head', n, rfl, hn, hdata, hnext, hdel, hl, hframe₁⟩ := h.unlinked
  -- the lists of the devices are as they were
  have hlisted : Listed { m with elements := elements₁ } a d (l₁ ++ p :: l₂) :=
    (h.devices hG).congr rfl (fun r hr => hframe₁ r.1 fun hmem => h.own hG r hr (List.mem_cons_of_mem _ hmem)) fun _ _ => rfl
  have hu : is_service_registered (some (L.map Prod.snd)) { m with elements := elements₁ } p.2 = some 0 := by
    have hsame : is_service_registered (some (L.map Prod.snd)) { m with elements := elements₁ } p.2 =
        is_service_registered (some (L.map Prod.snd)) m p.2 := registered_congr rfl fun _ _ _ _ _ _ _ => rfl
    rw [hsame, hx]
    exact h.unregistered
  obtain ⟨elements, head₂, hl₂, hframe₂, hturn⟩ := hlisted.turn hu
  have hempty : head₂ = none ↔ l₁ ++ l₂ = [] := by
    rw [hl₂.path.head_eq, Option.map_eq_none_iff, List.head?_eq_none_iff]
  have hown {e : Nat} (he : e ∈ (x :: L).map Prod.fst) : e ∉ (l₁ ++ l₂).map Prod.fst ∧ e ≠ p.1 := by
    have hnot : e ∉ (l₁ ++ p :: l₂).map Prod.fst := fun hmem => by
      obtain ⟨r, hr, rfl⟩ := List.mem_map.mp hmem
      exact h.own hG r hr he
    rw [mem_map_middle, not_or] at hnot
    exact hnot.symm
  have hserver : ∀ e ∈ L.map Prod.fst, elements e = elements₁ e := fun e he => hframe₂ e (hown (List.mem_cons_of_mem _ he)).1
  have hxn : elements x.1 = some n :=
    (hframe₂ x.1 (hown (List.mem_cons_self ..)).1).trans ((hframe₁ x.1 (List.nodup_cons.mp h.list.nodup).1).trans hn)
  -- what the service and its device come to
  obtain ⟨b, hb⟩ : ∃ b, (if l₁ ++ l₂ = [] then none else some (DeviceBlock.mk d head₂)) = b := ⟨_, rfl⟩
  obtain ⟨t, ht⟩ : ∃ t, (if l₁ ++ l₂ = [] then [Block.element p.1, .device a, .service p.2] else [.element p.1, .service p.2]) = t :=
    ⟨_, rfl⟩
  have hgone : ∀ fuel, (l₁ ++ p :: l₂).length + 4 ≤ fuel →
      destroy_service_struct (some (L.map Prod.snd)) fuel { m with elements := elements₁ } p.2 =
        some (HPD_E_SUCCESS, ({ m with elements := elements₁ } : Memory).without a b elements p t) := by
    intro fuel hfuel
    rw [hturn fuel hfuel, ← hb, ← ht]
    by_cases hnil : l₁ ++ l₂ = []
    · rw [if_pos (hempty.mpr hnil), if_pos hnil, if_pos hnil]
    · rw [if_neg (hnil ∘ hempty.mp), if_neg hnil, if_neg hnil]
  obtain ⟨m', hfree, hfreed⟩ : ∃ m',
      (({ m with elements := elements₁ } : Memory).without a b elements p t).destroy_service_element_struct x.1 = some m' ∧
        Gone m m' x p a b elements (t ++ [.element x.1]) := by
    have hthere : (({ m with elements := elements₁ } : Memory).without a b elements p t).elements x.1 = some n :=
      (Function.update_of_ne (hown (List.mem_cons_self ..)).2 ..).trans hxn
    refine ⟨_, freeElement_eq hthere, rfl, rfl, fun e => ?_, List.append_assoc ..⟩
    change Function.update (Function.update elements p.1 none) x.1 none e = _
    simp only [Function.update_apply]
    grind
  refine ⟨elements, head', head₂, m', hl.congr hserver, hl₂, fun e he he₂ => (hframe₂ e he₂).trans (hframe₁ e he), ?_, fun fuel hfuel => ?_⟩
  · have happend : t ++ [.element x.1] = if l₁ ++ l₂ = [] then [.element p.1, .device a, .service x.2, .element x.1]
        else [.element p.1, .service x.2, .element x.1] := by
      rw [← ht, hx]
      split <;> rfl
    rw [hb, ← happend]
    exact hfreed
  · have hfind : DL_FOREACH elements₁ fuel head' = some L := hl.path.foreach (by omega)
    simp only [freeEach, hn, hdel, hfind, hdata, ← hx, hgone fuel (by omega), hfree, hnext, Option.bind_eq_bind, Option.bind_some]

theorem left_sub {served : List Nat} (hG : G.left served a = some (d, l)) : ∃ l₀, G a = some (d, l₀) ∧ ∀ p ∈ l, p ∈ l₀ ∧ p.2 ∉ served := by
  obtain ⟨l₀, hG₀, rfl, -⟩ := left_eq_some.mp hG
  exact ⟨l₀, hG₀, fun p hp => ⟨(List.mem_filter.mp hp).1, of_decide_eq_true (List.mem_filter.mp hp).2⟩⟩

section

variable {x p : Nat × Nat} {l₁ l₂ : List (Nat × Nat)} {b : Option DeviceBlock} {elements : Heap Nat} {head' head₂ : Option Nat}
  {t : List Block}

/-- The device of the service has the others, and the other devices are as they were. -/
theorem Serves.left_cases (h : Serves m head (x :: L) G) (hG : G a = some (d, l₁ ++ p :: l₂)) (hx : p.2 = x.2) {a' : Nat} {d' : Device}
    {l' : List (Nat × Nat)} (hG' : G.left [x.2] a' = some (d', l')) :
    (a' = a ∧ d' = d ∧ l' = l₁ ++ l₂ ∧ l₁ ++ l₂ ≠ []) ∨ (a' ≠ a ∧ G a' = some (d', l')) := by
  obtain ⟨l₀, hG₀, rfl, hne⟩ := left_eq_some.mp hG'
  have hp : p ∈ l₁ ++ p :: l₂ := List.mem_append_right _ (List.mem_cons_self ..)
  by_cases ha : a' = a
  · subst ha
    obtain ⟨rfl, rfl⟩ := Prod.mk.inj (Option.some.inj (hG.symm.trans hG₀))
    have hnot := (nodup_map_middle.mp (h.devices hG).services_nodup).1
    have hfilter : (l₁ ++ p :: l₂).filter (fun r => decide (r.2 ∉ [x.2])) = l₁ ++ l₂ := by
      rw [List.filter_append, List.filter_cons_of_neg (by simp [hx]), ← List.filter_append, List.filter_eq_self]
      intro r hr
      rw [decide_eq_true_eq, List.mem_singleton, ← hx]
      exact fun he => hnot (he ▸ List.mem_map_of_mem hr)
    exact .inl ⟨rfl, rfl, hfilter, hfilter ▸ hne⟩
  · refine .inr ⟨ha, ?_⟩
    rw [List.filter_eq_self.mpr]
    · exact hG₀
    · intro r hr
      rw [decide_eq_true_eq, List.mem_singleton, ← hx]
      exact fun he => ha (h.same hG₀ hG hr hp (.inr he)).1

theorem Gone.listed (h : Serves m head (x :: L) G) (hG : G a = some (d, l₁ ++ p :: l₂)) (hx : p.2 = x.2)
    (hl₂ : Linked elements head₂ (l₁ ++ l₂))
    (hframe : ∀ e ∉ L.map Prod.fst, e ∉ (l₁ ++ l₂).map Prod.fst → elements e = m.elements e)
    (hgone : Gone m m' x p a (if l₁ ++ l₂ = [] then none else some ⟨d, head₂⟩) elements t) {a' : Nat} {d' : Device}
    {l' : List (Nat × Nat)} (hG' : G.left [x.2] a' = some (d', l')) : Listed m' a' d' l' := by
  have hp : p ∈ l₁ ++ p :: l₂ := List.mem_append_right _ (List.mem_cons_self ..)
  have hrest {r : Nat × Nat} (hr : r ∈ l₁ ++ l₂) : r ∈ l₁ ++ p :: l₂ := by
    rw [List.mem_append] at hr ⊢
    exact hr.imp_right (List.mem_cons_of_mem _)
  obtain ⟨hp₁, -⟩ := nodup_map_middle.mp (h.devices hG).elements_nodup
  obtain ⟨hp₂, -⟩ := nodup_map_middle.mp (h.devices hG).services_nodup
  rcases h.left_cases hG hx hG' with ⟨rfl, rfl, rfl, hne⟩ | ⟨ha, hG₀⟩
  · have hholds : Holds (some []) m a' d' (l₁ ++ p :: l₂) := by
      refine ⟨h.devices hG, fun r hr => ?_⟩
      obtain ⟨s, -, -, hs⟩ := (h.devices hG).read hr
      exact unregistered_of_keys hs fun i hi => absurd hi List.not_mem_nil
    refine (hholds.without (t := []) hl₂).toListed.congr ?_ (fun r hr => ?_) fun r _ => ?_
    · rw [hgone.devices, if_neg hne]
      rfl
    · have hrx : r.1 ≠ x.1 := fun he => h.own hG r (hrest hr) (he ▸ List.mem_cons_self ..)
      have hrp : r.1 ≠ p.1 := fun he => hp₁ (he ▸ List.mem_map_of_mem hr)
      rw [hgone.elements, if_neg (not_or.mpr ⟨hrx, hrp⟩)]
      exact (Function.update_of_ne hrp ..).symm
    · rw [hgone.services]
      rfl
  · have hother {r r' : Nat × Nat} (hr : r ∈ l') (hr' : r' ∈ l₁ ++ p :: l₂) : r.1 ≠ r'.1 ∧ r.2 ≠ r'.2 :=
      ⟨fun he => ha (h.same hG₀ hG hr hr' (.inl he)).1, fun he => ha (h.same hG₀ hG hr hr' (.inr he)).1⟩
    refine (h.devices hG₀).congr ?_ (fun r hr => ?_) fun r hr => ?_
    · rw [hgone.devices, Function.update_of_ne ha]
    · have hrx : r.1 ≠ x.1 := fun he => h.own hG₀ r hr (he ▸ List.mem_cons_self ..)
      rw [hgone.elements, if_neg (not_or.mpr ⟨hrx, (hother hr hp).1⟩)]
      refine hframe r.1 (fun hmem => h.own hG₀ r hr (List.mem_cons_of_mem _ hmem)) fun hmem => ?_
      obtain ⟨r', hr', he⟩ := List.mem_map.mp hmem
      exact (hother hr (hrest hr')).1 he.symm
    · rw [hgone.services, Function.update_of_ne (hother hr hp).2]

/-- The server has the other services. -/
theorem Gone.serves (h : Serves m head (x :: L) G) (hG : G a = some (d, l₁ ++ p :: l₂)) (hx : p.2 = x.2)
    (hl : Linked elements head' L) (hl₂ : Linked elements head₂ (l₁ ++ l₂))
    (hframe : ∀ e ∉ L.map Prod.fst, e ∉ (l₁ ++ l₂).map Prod.fst → elements e = m.elements e)
    (hgone : Gone m m' x p a (if l₁ ++ l₂ = [] then none else some ⟨d, head₂⟩) elements t) : Serves m' head' L (G.left [x.2]) := by
  have hp : p ∈ l₁ ++ p :: l₂ := List.mem_append_right _ (List.mem_cons_self ..)
  have hx₁ := (List.nodup_cons.mp h.list.nodup).1
  have hx₂ := (List.nodup_cons.mp h.services_nodup).1
  have hfound : ∀ q ∈ L, ∃ a d l l₀, G.left [x.2] a = some (d, l) ∧ G a = some (d, l₀) ∧ ∃ r ∈ l, r ∈ l₀ ∧ r.2 = q.2 := by
    intro q hq
    obtain ⟨a', d', l₀, hG', hmem⟩ := h.found q (List.mem_cons_of_mem _ hq)
    obtain ⟨r, hr, he⟩ := List.mem_map.mp hmem
    have hne : r.2 ≠ x.2 := fun hrx => hx₂ (hrx ▸ he ▸ List.mem_map_of_mem hq)
    have hin : r ∈ l₀.filter fun p => decide (p.2 ∉ [x.2]) := List.mem_filter.mpr ⟨hr, by simpa using hne⟩
    exact ⟨a', d', _, l₀, left_eq_some.mpr ⟨l₀, hG', rfl, List.ne_nil_of_mem hin⟩, hG', r, hin, hr, he⟩
  have hread : ∀ q ∈ L, m'.read q.2 = m.read q.2 := by
    intro q hq
    obtain ⟨a', d', l', l₀, hG', hG₀, r, hr, hr₀, he⟩ := hfound q hq
    obtain ⟨s, hs, -, hold⟩ := (h.devices hG₀).read hr₀
    obtain ⟨s', hs', -, hnew⟩ := (hgone.listed h hG hx hl₂ hframe hG').read hr
    have hne : r.2 ≠ p.2 := fun hrp => hx₂ (hx ▸ hrp ▸ he ▸ List.mem_map_of_mem hq)
    rw [hgone.services, Function.update_of_ne hne, hs] at hs'
    cases hs'
    rw [← he, hold, hnew]
  refine ⟨hl.congr fun e he => ?_, fun hG' => hgone.listed h hG hx hl₂ hframe hG', fun hG' => ?_, fun hG' r hr hmem => ?_,
    fun q hq => ?_, ?_⟩
  · have hex : e ≠ x.1 := fun hex => hx₁ (hex ▸ he)
    have hep : e ≠ p.1 := fun hep => h.own hG p hp (hep ▸ List.mem_cons_of_mem _ he)
    rw [hgone.elements, if_neg (not_or.mpr ⟨hex, hep⟩)]
  · obtain ⟨-, -, -, hne⟩ := left_eq_some.mp hG'
    exact hne
  · obtain ⟨l₀, hG₀, hsub⟩ := left_sub hG'
    exact h.own hG₀ r (hsub r hr).1 (List.mem_cons_of_mem _ hmem)
  · obtain ⟨a', d', l', -, hG', -, r, hr, -, he⟩ := hfound q hq
    exact ⟨a', d', l', hG', he ▸ List.mem_map_of_mem hr⟩
  · rw [List.map_congr_left fun q hq => congrArg (Option.map keyOf) (hread q hq)]
    exact (List.nodup_cons.mp h.apart).2

/-- What was to be freed for the service is freed. -/
theorem Gone.tornDown (h : Serves m head (x :: L) G) (hG : G a = some (d, l₁ ++ p :: l₂)) (hx : p.2 = x.2)
    (hl₂ : Linked elements head₂ (l₁ ++ l₂))
    (hframe : ∀ e ∉ L.map Prod.fst, e ∉ (l₁ ++ l₂).map Prod.fst → elements e = m.elements e)
    (hgone : Gone m m' x p a (if l₁ ++ l₂ = [] then none else some ⟨d, head₂⟩) elements
      (if l₁ ++ l₂ = [] then [.element p.1, .device a, .service x.2, .element x.1] else [.element p.1, .service x.2, .element x.1])) :
    TornDown m m' [x] G := by
  have hp : p ∈ l₁ ++ p :: l₂ := List.mem_append_right _ (List.mem_cons_self ..)
  have hpx : p.1 ≠ x.1 := fun he => h.own hG p hp (he ▸ List.mem_cons_self ..)
  obtain ⟨hp₂, -⟩ := nodup_map_middle.mp (h.devices hG).services_nodup
  -- the one place of the service, and the one device that may go
  have hplace {a' : Nat} {d' : Device} {l' : List (Nat × Nat)} {r : Nat × Nat} (hG' : G a' = some (d', l')) (hr : r ∈ l')
      (hq : r.2 ∈ [x].map Prod.snd) : a' = a ∧ r = p :=
    h.same hG' hG hr hp (.inr ((List.mem_singleton.mp hq).trans hx.symm))
  have helement {e : Nat} : ToFree [x] G (.element e) ↔ e = x.1 ∨ e = p.1 := by
    constructor
    · rintro (he | ⟨a', d', l', hG', r, hr, rfl, hq⟩)
      · exact .inl (List.mem_singleton.mp he)
      · exact .inr (congrArg Prod.fst (hplace hG' hr hq).2)
    · rintro (rfl | rfl)
      · exact .inl (List.mem_cons_self ..)
      · exact .inr ⟨a, d, _, hG, p, hp, rfl, List.mem_singleton.mpr hx⟩
  have hdevice {a' : Nat} : ToFree [x] G (.device a') ↔ l₁ ++ l₂ = [] ∧ a' = a := by
    constructor
    · rintro ⟨d', l', hG', hall⟩
      obtain ⟨r, hr⟩ := List.exists_mem_of_ne_nil l' (h.filled hG')
      obtain ⟨rfl, -⟩ := hplace hG' hr (hall r hr)
      obtain ⟨rfl, rfl⟩ := Prod.mk.inj (Option.some.inj (hG.symm.trans hG'))
      refine ⟨List.eq_nil_iff_forall_not_mem.mpr fun r hr => ?_, rfl⟩
      have hin : r ∈ l₁ ++ p :: l₂ := by
        rw [List.mem_append] at hr ⊢
        exact hr.imp_right (List.mem_cons_of_mem _)
      exact hp₂ ((hplace hG hin (hall r hin)).2 ▸ List.mem_map_of_mem hr)
    · rintro ⟨hnil, rfl⟩
      obtain ⟨rfl, rfl⟩ := List.append_eq_nil_iff.mp hnil
      refine ⟨d, _, hG, fun r hr => ?_⟩
      obtain rfl : r = p := List.mem_singleton.mp hr
      exact List.mem_singleton.mpr hx
  refine ⟨⟨_, hgone.freed, ?_, fun b => ?_⟩, fun q => ?_, fun e he => ?_, fun a' ha => ?_,
    fun hG' => hgone.listed h hG hx hl₂ hframe hG', fun a' hG' => ?_⟩
  · split <;> simp [hpx]
  · cases b with
    | service q =>
      have hiff : ToFree [x] G (.service q) ↔ q = x.2 := List.mem_singleton
      rw [hiff]
      split <;> simp
    | element e =>
      rw [helement]
      split <;> simp [or_comm]
    | device a' =>
      rw [hdevice]
      split <;> simp [*]
  · rw [hgone.services, hx]
    simp only [Function.update_apply, List.map_cons, List.map_nil, List.mem_singleton]
  · rw [hgone.elements, if_pos (helement.mp he)]
  · obtain ⟨hnil, rfl⟩ := hdevice.mp ha
    rw [hgone.devices, if_pos hnil, Function.update_self]
  · rw [hgone.devices, Function.update_of_ne fun (he : a' = a) => Option.some_ne_none _ (hG.symm.trans (he ▸ hG'))]

theorem Gone.apart (hG : G a = some (d, l₁ ++ p :: l₂))
    (hframe : ∀ e ∉ L.map Prod.fst, e ∉ (l₁ ++ l₂).map Prod.fst → elements e = m.elements e)
    (hgone : Gone m m' x p a b elements t) : Apart m m' (x :: L) G := by
  intro e he hG'
  rw [List.map_cons, List.mem_cons, not_or] at he
  have hnot := hG' a d _ hG
  rw [mem_map_middle, not_or] at hnot
  rw [hgone.elements, if_neg (not_or.mpr ⟨he.1, hnot.1⟩), hframe e he.2 hnot.2]

end

/-- A turn of the loop. -/
theorem Serves.turn {x : Nat × Nat} (h : Serves m head (x :: L) G) : ∃ head' m' n, Serves m' head' L (G.left [x.2]) ∧
    TornDown m m' [x] G ∧ Apart m m' (x :: L) G ∧ ∀ fuel, n ≤ fuel → freeEach (fuel + 1) m head head = freeEach fuel m' head' head' := by
  obtain ⟨a, d, l, hG, hmem⟩ := h.found x (List.mem_cons_self ..)
  obtain ⟨p, hp, hx⟩ := List.mem_map.mp hmem
  obtain ⟨l₁, l₂, rfl⟩ := List.append_of_mem hp
  obtain ⟨elements, head', head₂, m', hl, hl₂, hframe, hgone, hturn⟩ := h.gone hG hx
  exact ⟨head', m', _, hgone.serves h hG hx hl hl₂ hframe, hgone.tornDown h hG hx hl₂ hframe, hgone.apart hG hframe, hturn⟩

/-- The loop. -/
theorem each_tornDown : ∀ {L : List (Nat × Nat)} {m : Memory} {head : Option Nat} {G : Devices}, Serves m head L G →
    ∃ n m', TornDown m m' L G ∧ Apart m m' L G ∧ ∀ fuel, n ≤ fuel → freeEach fuel m head head = some (none, m') := by
  intro L
  induction L with
  | nil =>
    intro m head G h
    obtain rfl : head = none := h.list.path
    have hno {b : Block} : ¬ToFree [] G b := by
      cases b with
      | service q => exact List.not_mem_nil
      | element e => exact fun he => he.elim List.not_mem_nil fun ⟨_, _, _, _, _, _, _, hq⟩ => List.not_mem_nil hq
      | device a =>
        rintro ⟨d, l, hG, hall⟩
        obtain ⟨p, hp⟩ := List.exists_mem_of_ne_nil l (h.filled hG)
        exact List.not_mem_nil (hall p hp)
    have hfilter (l : List (Nat × Nat)) : l.filter (fun p => decide (p.2 ∉ ([] : List Nat))) = l :=
      List.filter_eq_self.mpr fun p _ => decide_eq_true List.not_mem_nil
    refine ⟨1, m, ⟨⟨[], (List.append_nil _).symm, List.nodup_nil, fun b => iff_of_false List.not_mem_nil hno⟩, fun q => rfl,
      fun e he => absurd he hno, fun a ha => absurd ha hno, fun hG => ?_, fun a _ => rfl⟩, fun e _ _ => rfl, fun fuel hfuel => ?_⟩
    · obtain ⟨l₀, hG₀, rfl, -⟩ := left_eq_some.mp hG
      exact (hfilter l₀).symm ▸ h.devices hG₀
    · obtain ⟨k, rfl⟩ : ∃ k, fuel = k + 1 := ⟨fuel - 1, by omega⟩
      rfl
  | cons x L ih =>
    intro m head G h
    obtain ⟨head₁, m₁, n₁, hserves, hfirst, hapart₁, hturn⟩ := h.turn
    obtain ⟨n₂, m', hrest, hapart₂, hrun⟩ := ih hserves
    refine ⟨n₁ + n₂ + 1, m', hfirst.cons h hrest hapart₂, fun e he hG => ?_, fun fuel hfuel => ?_⟩
    · refine (hapart₂ e (fun hmem => he (List.mem_cons_of_mem _ hmem)) fun a d l hG' hmem => ?_).trans (hapart₁ e he hG)
      obtain ⟨l₀, hG₀, hsub⟩ := left_sub hG'
      obtain ⟨p, hp, rfl⟩ := List.mem_map.mp hmem
      exact hG a d l₀ hG₀ (List.mem_map_of_mem (hsub p hp).1)
    · obtain ⟨k, rfl⟩ : ∃ k, fuel = k + 1 := ⟨fuel - 1, by omega⟩
      rw [hturn k (by omega), hrun k (by omega)]

/-- When the server stops, its services are freed with their elements in both lists, each once, and so are the devices that have no
other services; those that have others keep them, and everything else is as it was. -/
theorem teardown_exact (h : Serves m head L G) : ∃ n m', TornDown m m' L G ∧ Apart m m' L G ∧ ∀ fuel, n ≤ fuel →
    free_unsecure_server_services fuel m head = some (if L = [] then HPD_E_NULL_POINTER else HPD_E_SUCCESS, none, m') := by
  obtain ⟨n, m', hdown, hapart, hrun⟩ := each_tornDown h
  refine ⟨n, m', hdown, hapart, fun fuel hfuel => ?_⟩
  cases L with
  | nil =>
    obtain rfl : head = none := h.list.path
    have hsame := hrun (n + 1) (Nat.le_succ n)
    rw [freeEach, Option.some_inj, Prod.mk.injEq] at hsame
    rw [free_unsecure_server_services, if_pos rfl, if_pos rfl, hsame.2]
  | cons x L =>
    have hhead : head ≠ none := by
      rw [h.list.path.head_eq]
      exact Option.some_ne_none _
    rw [free_unsecure_server_services, if_neg hhead, hrun fuel hfuel, if_neg (List.cons_ne_nil _ _)]
    rfl

end

/-- The house with the valve and the lamp in the server's list. -/
def servedHouse : Memory where
  devices := house.devices
  services := house.services
  elements
    | 20 => some ⟨5, some 21, some 21⟩
    | 21 => some ⟨6, none, some 20⟩
    | e => house.elements e
  freed := []

/-- Its two devices. -/
def houseDevices : Devices
  | 0 => (house.devices 0).map fun b => (b.device, [(10, 4), (11, 5)])
  | 1 => (house.devices 1).map fun b => (b.device, [(12, 6)])
  | _ => none

/-- The lamp goes with its device, and the heater keeps the thermometer. -/
theorem teardown_exact_house : ∃ n m', TornDown servedHouse m' [(20, 5), (21, 6)] houseDevices ∧
    Apart servedHouse m' [(20, 5), (21, 6)] houseDevices ∧ ∀ fuel, n ≤ fuel →
      free_unsecure_server_services fuel servedHouse (some 20) = some (HPD_E_SUCCESS, none, m') := by
  refine teardown_exact ⟨⟨some 21, rfl, _, rfl, rfl, rfl, rfl, _, rfl, rfl, rfl, rfl, rfl⟩, fun {a d l} hG => ?_, fun {a d l} hG => ?_,
    fun {a d l} hG => ?_, ?_, by decide⟩
  · match a, hG with
    | 0, hG =>
      cases hG
      exact ⟨⟨_, rfl, some 11, rfl, _, rfl, rfl, rfl, rfl, _, rfl, rfl, rfl, rfl, rfl⟩, by decide, by decide⟩
    | 1, hG =>
      cases hG
      exact ⟨⟨_, rfl, some 12, rfl, _, rfl, rfl, rfl, rfl, rfl⟩, by decide, by decide⟩
  · match a, hG with
    | 0, hG =>
      cases hG
      exact List.cons_ne_nil _ _
    | 1, hG =>
      cases hG
      exact List.cons_ne_nil _ _
  · match a, hG with
    | 0, hG =>
      cases hG
      decide
    | 1, hG =>
      cases hG
      decide
  · intro q hq
    rcases List.mem_cons.mp hq with rfl | hq
    · exact ⟨0, _, _, rfl, by decide⟩
    · obtain rfl : q = (21, 6) := List.mem_singleton.mp hq
      exact ⟨1, _, _, rfl, by decide⟩

end Memory

end HomeBridge.Hpd
