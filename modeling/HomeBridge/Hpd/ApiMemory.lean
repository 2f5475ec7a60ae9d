import HomeBridge.Hpd.DeviceGraph
import HomeBridge.Hpd.Teardown

/-!
# The memory of a program that uses the API

The calls that create devices and services, register and unregister them and destroy them, and `stop_unsecure_server`, in any order. Of a
device and a service there is one struct each in memory, of a list the elements; where an allocation puts one, nothing is in use, but
something freed may have been. The program hands in what it got and what is still there, and creates no service whose URL its device has.
-/

namespace HomeBridge.Hpd

open Utlist

namespace Memory

/-- The URL of a service, made of its strings and its device's. -/
def value_url (m : Memory) (service : Nat) : Option String := (m.read service).map fun s => serviceUrl s.2 s.1.type s.1.ID

/-- `cmp_ServiceElement`, against the URL that is looked for. -/
def cmp_ServiceElement (m : Memory) (value_url : String) (service : Nat) : Option Bool :=
  (m.value_url service).map fun url => decide (url = value_url)

/-- Whether something is there. -/
def has (m : Memory) : Block → Bool
  | .device a => (m.devices a).isSome
  | .service a => (m.services a).isSome
  | .element a => (m.elements a).isSome

end Memory

/-- The memory, the server's list, and all that was ever allocated. -/
structure Api where
  memory : Memory
  service_head : Option Nat
  allocated : List Block

/-- The calls. The addresses are those of the allocations, `none` for a list element where it fails. -/
inductive ApiCall where
  | create_device_struct (a : Nat) (device : Device)
  | create_service_struct (service : Nat) (type ID : String) (device : Nat) (element : Option Nat)
  | HPD_register_service (service : Nat) (element : Option Nat)
  | HPD_unregister_service (service : Nat)
  | destroy_service_struct (service : Nat)
  | destroy_device_struct (device : Nat)
  | stop_unsecure_server

namespace Api

def start : Api := ⟨⟨fun _ => none, fun _ => none, fun _ => none, []⟩, none, []⟩

/-- `create_device_struct`: what is neither secure nor not is taken for not. -/
def create_device_struct (s : Api) (a : Nat) (device : Device) : Api :=
  let secure_device := if device.secure_device = HPD_SECURE_DEVICE ∨ device.secure_device = HPD_NON_SECURE_DEVICE then device.secure_device
    else HPD_NON_SECURE_DEVICE
  { s with memory := { s.memory with devices := Function.update s.memory.devices a (some ⟨{ device with secure_device }, none⟩) }
           allocated := s.allocated ++ [.device a] }

/-- `create_service_element_struct`. -/
def create_service_element_struct (s : Api) (element service : Nat) : Api :=
  { s with memory := { s.memory with elements := Function.update s.memory.elements element (some ⟨service, none, none⟩) }
           allocated := s.allocated ++ [.element element] }

/-- `add_service_to_device`: the element is there before the list is searched. -/
def add_service_to_device (fuel : Nat) (s : Api) (service device : Nat) : Option Nat → Option (Int × Api)
  | none => some (HPD_E_NULL_POINTER, s)
  | some new_se => do
    let s := s.create_service_element_struct new_se service
    let d ← s.memory.devices device
    let value_url ← s.memory.value_url service
    let elt ← DL_SEARCH s.memory.elements (s.memory.cmp_ServiceElement value_url) fuel d.service_head
    match elt with
    | some _ =>
      let memory ← s.memory.destroy_service_element_struct new_se
      some (HPD_E_SERVICE_ALREADY_IN_LIST, { s with memory })
    | none =>
      let (elements, service_head) ← DL_APPEND s.memory.elements d.service_head new_se
      let devices := Function.update s.memory.devices device (some { d with service_head })
      some (HPD_E_SUCCESS, { s with memory := { s.memory with elements, devices } })

/-- `create_service_struct`, with all that it asks for. -/
def create_service_struct (fuel : Nat) (s : Api) (service : Nat) (type ID : String) (device : Nat) (element : Option Nat) : Option Api := do
  let s := { s with memory := { s.memory with services := Function.update s.memory.services service (some ⟨type, ID, some device⟩) }
                    allocated := s.allocated ++ [.service service] }
  let (rc, s) ← add_service_to_device fuel s service device element
  if rc = -1 then
    let memory ← s.memory.freeService service
    some { s with memory }
  else some s

/-- `register_service_in_server`, as far as the list. -/
def register_service_in_server (fuel : Nat) (s : Api) (service : Nat) (element : Option Nat) : Option Api := do
  let v ← s.memory.read service
  if v.2.secure_device = HPD_NON_SECURE_DEVICE then
    let l ← DL_FOREACH s.memory.elements fuel s.service_head
    let registered ← s.memory.is_unsecure_service_registered service (l.map Prod.snd)
    if registered = 1 then some s
    else match element with
      | none => some s
      | some new_se =>
        let s := s.create_service_element_struct new_se service
        let (elements, service_head) ← DL_APPEND s.memory.elements s.service_head new_se
        some { s with memory := { s.memory with elements }, service_head }
  else some s

/-- `unregister_service_in_server`, as far as the list: the first element with the URL. -/
def unregister_service_in_server (fuel : Nat) (s : Api) (service : Nat) : Option Api := do
  let l ← DL_FOREACH s.memory.elements fuel s.service_head
  let registered ← Memory.is_service_registered (some (l.map Prod.snd)) s.memory service
  if registered = 0 then some s
  else
    let value_url ← s.memory.value_url service
    let iterator ← DL_SEARCH s.memory.elements (s.memory.cmp_ServiceElement value_url) fuel s.service_head
    match iterator with
    | none => some s
    | some iterator =>
      let (elements, service_head) ← DL_DELETE s.memory.elements s.service_head iterator
      let memory ← Memory.destroy_service_element_struct { s.memory with elements } iterator
      some { s with memory, service_head }

/-- A call. The fuel is for its loops and the calls it makes. -/
def call (fuel : Nat) (s : Api) : ApiCall → Option Api
  | .create_device_struct a device => some (s.create_device_struct a device)
  | .create_service_struct service type ID device element => s.create_service_struct fuel service type ID device element
  | .HPD_register_service service element => s.register_service_in_server fuel service element
  | .HPD_unregister_service service => s.unregister_service_in_server fuel service
  | .destroy_service_struct service => do
    let l ← DL_FOREACH s.memory.elements fuel s.service_head
    let (_, memory) ← Memory.destroy_service_struct (some (l.map Prod.snd)) fuel s.memory service
    some { s with memory }
  | .destroy_device_struct device => do
    let l ← DL_FOREACH s.memory.elements fuel s.service_head
    let (_, memory) ← Memory.destroy_device_struct (some (l.map Prod.snd)) fuel s.memory device
    some { s with memory }
  | .stop_unsecure_server => do
    let (_, service_head, memory) ← Memory.free_unsecure_server_services fuel s.memory s.service_head
    some { s with memory, service_head }

/-- A call comes to a state: it does with all the fuel it may need. -/
def Calls (s : Api) (c : ApiCall) (s' : Api) : Prop := ∃ n, ∀ fuel, n ≤ fuel → s.call fuel c = some s'

/-- What the program owes: what it hands in is there, an allocation gives what is not in use, and a service that is created has a URL
that no other one of its device has. -/
def Proper (s : Api) : ApiCall → Prop
  | .create_device_struct a _ => s.memory.devices a = none
  | .create_service_struct service type ID device element => s.memory.services service = none ∧
    (∀ e ∈ element, s.memory.elements e = none) ∧ ∃ d, s.memory.devices device = some d ∧ ∀ q v, s.memory.services q = some v →
      v.device = some device → serviceUrl d.device v.type v.ID ≠ serviceUrl d.device type ID
  | .HPD_register_service service element => s.memory.services service ≠ none ∧ ∀ e ∈ element, s.memory.elements e = none
  | .HPD_unregister_service service => s.memory.services service ≠ none
  | .destroy_service_struct service => s.memory.services service ≠ none
  | .destroy_device_struct device => s.memory.devices device ≠ none
  | .stop_unsecure_server => True

/-- The states such a program comes to. -/
inductive Reached : Api → Prop where
  | start : Reached start
  | call {s s' : Api} {c : ApiCall} : Reached s → s.Proper c → s.Calls c s' → Reached s'

end Api

/-! ## What is in memory -/

namespace Memory

/-- The server's list is `L`, and `lists` are those of the devices. Every service is in the list of the device it points to, with an
element of its own there; of the services in the server's list, which are there, no two have the same key, and no device is secure.
Every element is in a list. -/
structure Laid (m : Memory) (head : Option Nat) (L : List (Nat × Nat)) (lists : Nat → List (Nat × Nat)) : Prop where
  server : Linked m.elements head L
  listed : ∀ {a b}, m.devices a = some b → Listed m a b.device (lists a)
  nowhere : ∀ {a}, m.devices a = none → lists a = []
  placed : ∀ {q v}, m.services q = some v → ∃ a, v.device = some a ∧ q ∈ (lists a).map Prod.snd
  own : ∀ a, ∀ p ∈ lists a, p.1 ∉ L.map Prod.fst
  there : ∀ x ∈ L, m.services x.2 ≠ none
  keys : (L.map fun x => (m.read x.2).map keyOf).Nodup
  plain : ∀ x ∈ L, ∀ s ∈ m.read x.2, s.2.secure_device = HPD_NON_SECURE_DEVICE
  used : ∀ e, m.elements e ≠ none → e ∈ L.map Prod.fst ∨ ∃ a, e ∈ (lists a).map Prod.fst

/-- What is not there any more was freed, once. -/
def Frees (m m' : Memory) : Prop :=
  ∃ t, m'.freed = m.freed ++ t ∧ ∀ b, t.count b + (m'.has b).toNat = (m.has b).toNat

/-- These were put where nothing was. -/
def Adds (m m' : Memory) (t : List Block) : Prop := m'.freed = m.freed ∧ ∀ b, (m'.has b).toNat = (m.has b).toNat + t.count b

section

variable {m m' m₁ : Memory} {head : Option Nat} {L : List (Nat × Nat)} {lists : Nat → List (Nat × Nat)} {a : Nat} {b : DeviceBlock}
  {t : List Block}

theorem Frees.of (hfreed : m'.freed = m.freed ++ t) (hnodup : t.Nodup) (hgone : ∀ c ∈ t, m.has c = true ∧ m'.has c = false)
    (hkept : ∀ c ∉ t, m'.has c = m.has c) : Frees m m' := by
  refine ⟨t, hfreed, fun c => ?_⟩
  by_cases hc : c ∈ t
  · rw [List.count_eq_one_of_mem hnodup hc, (hgone c hc).1, (hgone c hc).2]
    rfl
  · rw [List.count_eq_zero.mpr hc, hkept c hc, Nat.zero_add]

theorem Adds.of (hfreed : m'.freed = m.freed) (hnodup : t.Nodup) (hput : ∀ c ∈ t, m.has c = false ∧ m'.has c = true)
    (hkept : ∀ c ∉ t, m'.has c = m.has c) : Adds m m' t := by
  refine ⟨hfreed, fun c => ?_⟩
  by_cases hc : c ∈ t
  · rw [List.count_eq_one_of_mem hnodup hc, (hput c hc).1, (hput c hc).2]
    rfl
  · rw [List.count_eq_zero.mpr hc, hkept c hc, Nat.add_zero]

theorem has_element {elements : Heap Nat} {l : List (Nat × Nat)} (hl : Linked elements head l) {e : Nat} (he : e ∈ l.map Prod.fst) :
    (elements e).isSome = true := Option.isSome_iff_ne_none.mpr (hl.path.isNode he)

/-- Of the elements of a list only the nodes' links are changed. -/
theorem has_element_congr {elements elements' : Heap Nat} {head' : Option Nat} {l l' : List (Nat × Nat)} (hl : Linked elements head l)
    (hl' : Linked elements' head' l') {e : Nat} (hsub : e ∈ l'.map Prod.fst → e ∈ l.map Prod.fst)
    (hframe : e ∉ l'.map Prod.fst → elements' e = elements e) : (elements' e).isSome = (elements e).isSome := by
  by_cases he : e ∈ l'.map Prod.fst
  · rw [has_element hl' he, has_element hl (hsub he)]
  · rw [hframe he]

theorem Frees.refl (m : Memory) : Frees m m := ⟨[], (List.append_nil _).symm, fun _ => Nat.zero_add _⟩

theorem Frees.trans (h₁ : Frees m m₁) (h₂ : Frees m₁ m') : Frees m m' := by
  obtain ⟨t₁, hf₁, hc₁⟩ := h₁
  obtain ⟨t₂, hf₂, hc₂⟩ := h₂
  refine ⟨t₁ ++ t₂, by rw [hf₂, hf₁, List.append_assoc], fun b => ?_⟩
  have h₁ := hc₁ b
  have h₂ := hc₂ b
  rw [List.count_append]
  omega

theorem read_eq {service : Nat} {v : ServiceBlock} (hs : m.services service = some v) (hv : v.device = some a)
    (hd : m.devices a = some b) : m.read service = some (v, b.device) := by
  simp only [Memory.read, hs, hv, hd, Option.bind_eq_bind, Option.bind_some]

/-- A service is in its device's list. -/
theorem Laid.place (h : Laid m head L lists) {service : Nat} {v : ServiceBlock} (hs : m.services service = some v) :
    ∃ a b, v.device = some a ∧ m.devices a = some b ∧ ∃ l₁ p l₂, lists a = l₁ ++ p :: l₂ ∧ p.2 = service := by
  obtain ⟨a, hv, hmem⟩ := h.placed hs
  obtain ⟨p, hp, he⟩ := List.mem_map.mp hmem
  obtain ⟨l₁, l₂, hl⟩ := List.append_of_mem hp
  cases hb : m.devices a with
  | none =>
    rw [h.nowhere hb] at hp
    exact absurd hp List.not_mem_nil
  | some b => exact ⟨a, b, hv, hb, l₁, p, l₂, hl, he⟩

/-- The devices there are services in. -/
theorem Laid.device (h : Laid m head L lists) {p : Nat × Nat} (hp : p ∈ lists a) : ∃ b, m.devices a = some b := by
  cases hb : m.devices a with
  | none =>
    rw [h.nowhere hb] at hp
    exact absurd hp List.not_mem_nil
  | some b => exact ⟨b, rfl⟩

/-- A service and an element are at one place of one list. -/
theorem Laid.same (h : Laid m head L lists) {a' : Nat} {p p' : Nat × Nat} (hp : p ∈ lists a) (hp' : p' ∈ lists a')
    (he : p.1 = p'.1 ∨ p.2 = p'.2) : a = a' ∧ p = p' := by
  obtain ⟨b, hb⟩ := h.device hp
  obtain ⟨b', hb'⟩ := h.device hp'
  have hl := h.listed hb
  have hl' := h.listed hb'
  obtain rfl : a = a' := he.elim (hl.device_eq_of_element hl' hp hp') (hl.device_eq hl' hp hp')
  refine ⟨rfl, he.elim (fun he => ?_) fun he => ?_⟩
  · exact List.inj_on_of_nodup_map hl.elements_nodup hp hp' he
  · exact List.inj_on_of_nodup_map hl.services_nodup hp hp' he

theorem Laid.served_read (h : Laid m head L lists) {x : Nat × Nat} (hx : x ∈ L) :
    ∃ v a b, m.services x.2 = some v ∧ v.device = some a ∧ m.devices a = some b ∧ m.read x.2 = some (v, b.device) := by
  obtain ⟨v, hv⟩ := Option.ne_none_iff_exists'.mp (h.there x hx)
  obtain ⟨a, b, hva, hb, -⟩ := h.place hv
  exact ⟨v, a, b, hv, hva, hb, read_eq hv hva hb⟩

/-- Where the services of the server's list and their devices' strings are the same, so is what is asked of them. -/
theorem Laid.keys_congr (h : Laid m head L lists) (hread : ∀ x ∈ L, m'.read x.2 = m.read x.2) :
    (L.map fun x => (m'.read x.2).map keyOf).Nodup ∧ ∀ x ∈ L, ∀ s ∈ m'.read x.2, s.2.secure_device = HPD_NON_SECURE_DEVICE := by
  rw [List.map_congr_left fun x hx => congrArg (Option.map keyOf) (hread x hx)]
  exact ⟨h.keys, fun x hx s hs => h.plain x hx s (hread x hx ▸ hs)⟩

end

/-! ### One service gone -/

section

variable {m : Memory} {head : Option Nat} {L l₁ l₂ : List (Nat × Nat)} {lists : Nat → List (Nat × Nat)} {a : Nat} {b : DeviceBlock}
  {p : Nat × Nat} {elements : Heap Nat} {head₂ : Option Nat} {b' : Option DeviceBlock} {t : List Block}

theorem mem_update_lists (hl : lists a = l₁ ++ p :: l₂) {a' : Nat} {r : Nat × Nat} (hr : r ∈ Function.update lists a (l₁ ++ l₂) a') :
    r ∈ lists a' := by
  by_cases ha : a' = a
  · subst ha
    rw [Function.update_self, List.mem_append] at hr
    rw [hl, List.mem_append]
    exact hr.imp_right (List.mem_cons_of_mem _)
  · rwa [Function.update_of_ne ha] at hr

/-- The other lists are as before. -/
theorem Laid.without (h : Laid m head L lists) (hb : m.devices a = some b) (hl : lists a = l₁ ++ p :: l₂) (hx : p.2 ∉ L.map Prod.snd)
    (hlinked : Linked elements head₂ (l₁ ++ l₂)) (hframe : ∀ e ∉ (l₁ ++ l₂).map Prod.fst, elements e = m.elements e)
    (hb' : b' = some ⟨b.device, head₂⟩ ∨ b' = none ∧ l₁ ++ l₂ = []) :
    Laid (m.without a b' elements p t) head L (Function.update lists a (l₁ ++ l₂)) := by
  have hp : p ∈ lists a := hl ▸ List.mem_append_right _ (List.mem_cons_self ..)
  have hlisted : Listed m a b.device (l₁ ++ p :: l₂) := hl ▸ h.listed hb
  obtain ⟨hp₁, -⟩ := nodup_map_middle.mp hlisted.elements_nodup
  have helements {e : Nat} (hne : e ≠ p.1) (hnot : e ∉ (l₁ ++ l₂).map Prod.fst) : (m.without a b' elements p t).elements e = m.elements e :=
    (Function.update_of_ne hne ..).trans (hframe e hnot)
  have hservices {q : Nat} (hne : q ≠ p.2) : (m.without a b' elements p t).services q = m.services q := Function.update_of_ne hne ..
  have hdevices {a' : Nat} (hne : a' ≠ a) : (m.without a b' elements p t).devices a' = m.devices a' := Function.update_of_ne hne ..
  have hself : (m.without a b' elements p t).devices a = b' := Function.update_self ..
  have hrest {r : Nat × Nat} (hr : r ∈ l₁ ++ l₂) : r ∈ lists a := by
    refine mem_update_lists hl ?_
    rwa [Function.update_self]
  -- an element that is not of this list
  have hother {e : Nat} (hnot : e ∉ (lists a).map Prod.fst) : (m.without a b' elements p t).elements e = m.elements e :=
    helements (fun he => hnot (he ▸ List.mem_map_of_mem hp)) fun hmem => hnot <| by
      obtain ⟨r, hr, rfl⟩ := List.mem_map.mp hmem
      exact List.mem_map_of_mem (hrest hr)
  have hserved {x : Nat × Nat} (hmem : x ∈ L) : x.2 ≠ p.2 := fun he => hx (he ▸ List.mem_map_of_mem hmem)
  have hserver {e : Nat} (he : e ∈ L.map Prod.fst) : e ∉ (lists a).map Prod.fst := fun hmem => by
    obtain ⟨r, hr, rfl⟩ := List.mem_map.mp hmem
    exact h.own a r hr he
  have hread : ∀ x ∈ L, (m.without a b' elements p t).read x.2 = m.read x.2 := by
    intro x hmem
    obtain ⟨v, a', c, hv, hva, hc, hread⟩ := h.served_read hmem
    rw [hread]
    by_cases ha : a' = a
    · subst ha
      rcases hb' with rfl | ⟨rfl, hnil⟩
      · obtain rfl := Option.some.inj (hb.symm.trans hc)
        exact read_eq (b := ⟨b.device, head₂⟩) ((hservices (hserved hmem)).trans hv) hva hself
      · -- the service would be another one of the device
        obtain ⟨a'', hva', hplace⟩ := h.placed hv
        obtain rfl := Option.some.inj (hva.symm.trans hva')
        rw [hl, mem_map_middle, hnil] at hplace
        exact absurd (hplace.resolve_left (hserved hmem)) List.not_mem_nil
    · exact read_eq ((hservices (hserved hmem)).trans hv) hva ((hdevices ha).trans hc)
  refine ⟨h.server.congr fun e he => hother (hserver he), fun {a' c} hc => ?_, fun {a'} hc => ?_, fun {q v} hq => ?_,
    fun a' r hr => h.own a' r (mem_update_lists hl hr), fun x hmem => ?_, (h.keys_congr hread).1, (h.keys_congr hread).2, fun e he => ?_⟩
  · by_cases ha : a' = a
    · subst ha
      rw [hself] at hc
      rcases hb' with rfl | ⟨rfl, -⟩
      · cases hc
        have hholds : Holds (some []) m a' b.device (l₁ ++ p :: l₂) := by
          refine ⟨hlisted, fun r hr => ?_⟩
          obtain ⟨s, -, -, hs⟩ := hlisted.read hr
          exact unregistered_of_keys hs fun i hi => absurd hi List.not_mem_nil
        rw [Function.update_self]
        exact (hholds.without hlinked).toListed
      · cases hc
    · rw [hdevices ha] at hc
      rw [Function.update_of_ne ha]
      have hfar {r : Nat × Nat} (hr : r ∈ lists a') : r.1 ∉ (lists a).map Prod.fst ∧ r.2 ≠ p.2 := by
        refine ⟨fun hmem => ?_, fun he => ha (h.same hr hp (.inr he)).1⟩
        obtain ⟨r', hr', he⟩ := List.mem_map.mp hmem
        exact ha (h.same hr hr' (.inl he.symm)).1
      exact (h.listed hc).congr (hdevices ha) (fun r hr => hother (hfar hr).1) fun r hr => hservices (hfar hr).2
  · by_cases ha : a' = a
    · subst ha
      rw [hself] at hc
      rcases hb' with rfl | ⟨-, hnil⟩
      · cases hc
      · rw [Function.update_self, hnil]
    · rw [Function.update_of_ne ha]
      exact h.nowhere ((hdevices ha).symm.trans hc)
  · rcases Graph.update_cases hq with ⟨-, he⟩ | ⟨hne, hq⟩
    · cases he
    · obtain ⟨a', hv, hmem⟩ := h.placed hq
      refine ⟨a', hv, ?_⟩
      by_cases ha : a' = a
      · subst ha
        rw [hl, mem_map_middle] at hmem
        rw [Function.update_self]
        exact hmem.resolve_left hne
      · rwa [Function.update_of_ne ha]
  · rw [hservices (hserved hmem)]
    exact h.there x hmem
  · by_cases hrest' : e ∈ (l₁ ++ l₂).map Prod.fst
    · exact .inr ⟨a, by rwa [Function.update_self]⟩
    · have hne : e ≠ p.1 := fun hep => he (hep ▸ Function.update_self ..)
      rw [helements hne hrest'] at he
      refine (h.used e he).imp_right fun ⟨a', hmem⟩ => ⟨a', ?_⟩
      by_cases ha : a' = a
      · subst ha
        rw [hl, mem_map_middle] at hmem
        exact absurd (hmem.resolve_left hne) hrest'
      · rwa [Function.update_of_ne ha]

theorem Laid.isSome (h : Laid m head L lists) {e : Nat} (he : e ∈ (lists a).map Prod.fst) : (m.elements e).isSome = true := by
  obtain ⟨r, hr, rfl⟩ := List.mem_map.mp he
  obtain ⟨c, hc⟩ := h.device hr
  obtain ⟨_, -, hl⟩ := (h.listed hc).list
  exact has_element hl (List.mem_map_of_mem hr)

/-- The service, its element and maybe its device were freed. -/
theorem Laid.frees_without (h : Laid m head L lists) (hb : m.devices a = some b) (hl : lists a = l₁ ++ p :: l₂)
    (hlinked : Linked elements head₂ (l₁ ++ l₂)) (hframe : ∀ e ∉ (l₁ ++ l₂).map Prod.fst, elements e = m.elements e) (hnodup : t.Nodup)
    (ht : ∀ c, c ∈ t ↔ c = .element p.1 ∨ c = .service p.2 ∨ b' = none ∧ c = .device a) : Frees m (m.without a b' elements p t) := by
  have hlisted : Listed m a b.device (l₁ ++ p :: l₂) := hl ▸ h.listed hb
  obtain ⟨s, hs, -⟩ := hlisted.back p (List.mem_append_right _ (List.mem_cons_self ..))
  obtain ⟨_, -, hlinked₀⟩ := hlisted.list
  refine .of rfl hnodup (fun c hc => ?_) fun c hc => ?_
  · rcases (ht c).mp hc with rfl | rfl | ⟨rfl, rfl⟩
    · refine ⟨has_element hlinked₀ (mem_map_middle.mpr (.inl rfl)), ?_⟩
      simp only [Memory.has, Memory.without, Function.update_self, Option.isSome_none]
    · simp only [Memory.has, Memory.without, hs, Function.update_self, Option.isSome_some, Option.isSome_none, and_self]
    · simp only [Memory.has, Memory.without, hb, Function.update_self, Option.isSome_some, Option.isSome_none, and_self]
  · rw [ht, not_or, not_or] at hc
    obtain ⟨hne, hns, hnd⟩ := hc
    cases c with
    | device x =>
      by_cases hx : x = a
      · subst hx
        obtain ⟨c, rfl⟩ := Option.ne_none_iff_exists'.mp fun hnone => hnd ⟨hnone, rfl⟩
        simp only [Memory.has, Memory.without, hb, Function.update_self, Option.isSome_some]
      · exact congrArg Option.isSome (Function.update_of_ne hx ..)
    | service x => exact congrArg Option.isSome (Function.update_of_ne (fun hx => hns (congrArg Block.service hx)) ..)
    | element x =>
      have hx : x ≠ p.1 := fun hx => hne (congrArg Block.element hx)
      refine (congrArg Option.isSome (Function.update_of_ne hx ..)).trans (has_element_congr hlinked₀ hlinked (fun hmem => ?_) (hframe x))
      exact mem_map_middle.mpr (.inr hmem)

end

/-! ### The calls that destroy -/

section

variable {m : Memory} {head : Option Nat} {L : List (Nat × Nat)} {lists : Nat → List (Nat × Nat)} {a : Nat} {b : DeviceBlock}

/-- Whether a service is registered is known. -/
theorem Laid.registered (h : Laid m head L lists) {q : Nat} (hq : m.services q ≠ none) :
    ∃ r, is_service_registered (some (L.map Prod.snd)) m q = some r := by
  obtain ⟨v, hv⟩ := Option.ne_none_iff_exists'.mp hq
  obtain ⟨a, b, hva, hb, -⟩ := h.place hv
  have hread := read_eq hv hva hb
  have hloop : ∀ l : List Nat, (∀ i ∈ l, ∃ x, m.read i = some x) → ∃ r, m.is_unsecure_service_registered q l = some r := by
    intro l
    induction l with
    | nil => exact fun _ => ⟨0, rfl⟩
    | cons i l ih =>
      intro hl
      obtain ⟨x, hx⟩ := hl i (List.mem_cons_self ..)
      simp only [is_unsecure_service_registered, hx, hread, Option.bind_eq_bind, Option.bind_some]
      split
      · exact ⟨1, rfl⟩
      · exact ih fun j hj => hl j (List.mem_cons_of_mem _ hj)
  rw [is_service_registered, hread, Option.bind_eq_bind, Option.bind_some]
  split
  · refine hloop _ fun i hi => ?_
    obtain ⟨x, hx, rfl⟩ := List.mem_map.mp hi
    obtain ⟨_, _, _, -, -, -, hx⟩ := h.served_read hx
    exact ⟨_, hx⟩
  · exact ⟨0, rfl⟩

/-- What is in the server's list is registered. -/
theorem Laid.not_served (h : Laid m head L lists) {q : Nat} (hu : is_service_registered (some (L.map Prod.snd)) m q = some 0) :
    q ∉ L.map Prod.snd := by
  intro hmem
  obtain ⟨x, hx, rfl⟩ := List.mem_map.mp hmem
  obtain ⟨v, a, b, -, -, -, hread⟩ := h.served_read hx
  exact not_listed hread (h.plain x hx _ hread) hu hmem

/-- `destroy_service_struct`. -/
theorem Laid.destroy_service_struct (h : Laid m head L lists) {q : Nat} (hq : m.services q ≠ none) :
    ∃ n rc m' lists', Laid m' head L lists' ∧ Frees m m' ∧
      ∀ fuel, n ≤ fuel → Memory.destroy_service_struct (some (L.map Prod.snd)) fuel m q = some (rc, m') := by
  obtain ⟨r, hr⟩ := h.registered hq
  by_cases hr₀ : r = 0
  · subst hr₀
    obtain ⟨v, hv⟩ := Option.ne_none_iff_exists'.mp hq
    obtain ⟨a, b, -, hb, l₁, p, l₂, hl, rfl⟩ := h.place hv
    obtain ⟨elements, head₂, hl₂, hframe, hturn⟩ := (show Listed m a b.device (l₁ ++ p :: l₂) from hl ▸ h.listed hb).turn hr
    have hx := h.not_served hr
    by_cases hempty : head₂ = none
    · have hnil : l₁ ++ l₂ = [] := (hempty ▸ hl₂.path).unique rfl
      simp only [if_pos hempty] at hturn
      exact ⟨_, _, _, _, h.without hb hl hx hl₂ hframe (.inr ⟨rfl, hnil⟩), h.frees_without hb hl hl₂ hframe (by simp) (by simp [or_comm]),
        hturn⟩
    · simp only [if_neg hempty] at hturn
      exact ⟨_, _, _, _, h.without hb hl hx hl₂ hframe (.inl rfl), h.frees_without hb hl hl₂ hframe (by simp) (by simp), hturn⟩
  · refine ⟨1, HPD_E_SERVICE_IN_USE, m, lists, h, Frees.refl m, fun fuel hfuel => ?_⟩
    obtain ⟨k, rfl⟩ : ∃ k, fuel = k + 1 := ⟨fuel - 1, by omega⟩
    simp only [Memory.destroy_service_struct, hr, Option.bind_eq_bind, Option.bind_some, if_pos (show r ≠ 0 from hr₀)]

theorem Laid.refreed (h : Laid m head L lists) (freed : List Block) : Laid { m with freed } head L lists :=
  ⟨h.server, fun hc => (h.listed hc).congr rfl (fun _ _ => rfl) fun _ _ => rfl, h.nowhere, h.placed, h.own, h.there, h.keys, h.plain,
    h.used⟩

/-- A device without services comes or goes. -/
theorem Laid.setDevice (h : Laid m head L lists) (ha : lists a = []) {b' : Option DeviceBlock} (hb' : ∀ c ∈ b', c.service_head = none)
    (freed : List Block) : Laid { m with devices := Function.update m.devices a b', freed } head L lists := by
  have hread : ∀ x ∈ L, ({ m with devices := Function.update m.devices a b', freed } : Memory).read x.2 = m.read x.2 := by
    intro x hx
    obtain ⟨v, hv⟩ := Option.ne_none_iff_exists'.mp (h.there x hx)
    obtain ⟨a', c, hva, hc, l₁, p, l₂, hl, -⟩ := h.place hv
    have hne : a' ≠ a := by
      rintro rfl
      rw [ha] at hl
      exact List.append_ne_nil_of_right_ne_nil _ (List.cons_ne_nil _ _) hl.symm
    rw [read_eq hv hva hc]
    exact read_eq (m := { m with devices := Function.update m.devices a b', freed }) hv hva ((Function.update_of_ne hne ..).trans hc)
  refine ⟨h.server, fun {a' c} hc => ?_, fun {a'} hc => ?_, h.placed, h.own, h.there, (h.keys_congr hread).1, (h.keys_congr hread).2,
    h.used⟩
  · rcases Graph.update_cases hc with ⟨rfl, he⟩ | ⟨hne, hc⟩
    · rw [ha]
      refine ⟨⟨none, ?_, none, rfl, rfl⟩, fun p hp => absurd hp List.not_mem_nil, List.nodup_nil⟩
      rw [← hb' c he]
      exact (Function.update_self ..).trans he
    · exact (h.listed hc).congr (Function.update_of_ne hne ..) (fun _ _ => rfl) fun _ _ => rfl
  · by_cases hne : a' = a
    · rw [hne, ha]
    · exact h.nowhere ((Function.update_of_ne hne ..).symm.trans hc)

/-- The loop of `destroy_device_struct`: it comes to a registered service, or to the end of the list. -/
theorem Laid.destroyEach : ∀ {l : List (Nat × Nat)} {m : Memory} {lists : Nat → List (Nat × Nat)} {b : DeviceBlock}, Laid m head L lists →
    m.devices a = some b → lists a = l → ∃ n rc m' lists' b', Laid m' head L lists' ∧ Frees m m' ∧ m'.devices a = some b' ∧
      (rc ≠ HPD_E_SERVICE_IN_USE → lists' a = []) ∧
      ∀ fuel, n ≤ fuel → Memory.destroyEach (some (L.map Prod.snd)) fuel m a (l.head?.map Prod.fst) = some (rc, m') := by
  intro l
  induction l with
  | nil =>
    intro m lists b h hb hl
    refine ⟨1, HPD_E_SUCCESS, m, lists, b, h, Frees.refl m, hb, fun _ => hl, fun fuel hfuel => ?_⟩
    obtain ⟨k, rfl⟩ : ∃ k, fuel = k + 1 := ⟨fuel - 1, by omega⟩
    rfl
  | cons p l ih =>
    intro m lists b h hb hl
    have hlisted : Listed m a b.device (p :: l) := hl ▸ h.listed hb
    obtain ⟨s, hs, -⟩ := hlisted.back p (List.mem_cons_self ..)
    obtain ⟨r, hr⟩ := h.registered (hs ▸ Option.some_ne_none s)
    by_cases hr₀ : r = 0
    · subst hr₀
      obtain ⟨elements, head₂, hl₂, hframe, hturn⟩ := hlisted.each hr
      have hl₁ : lists a = [] ++ p :: l := hl
      have hlaid := h.without (t := [.service p.2, .element p.1]) hb hl₁ (h.not_served hr) hl₂ hframe (.inl rfl)
      have hfrees : Frees m (m.without a (some ⟨b.device, head₂⟩) elements p [.service p.2, .element p.1]) :=
        h.frees_without hb hl₁ hl₂ hframe (by simp) (by simp [or_comm])
      obtain ⟨n, rc, m', lists', b', hlaid', hfrees', hb', hend, hrun⟩ := ih hlaid (Function.update_self ..) (Function.update_self ..)
      refine ⟨n + l.length + 4, rc, m', lists', b', hlaid', hfrees.trans hfrees', hb', hend, fun fuel hfuel => ?_⟩
      obtain ⟨k, rfl⟩ : ∃ k, fuel = k + 1 := ⟨fuel - 1, by omega⟩
      rw [← hrun k (by omega), ← hl₂.path.head_eq]
      exact hturn k (by omega)
    · obtain ⟨_, -, hlinked⟩ := hlisted.list
      obtain ⟨-, n, hn, hdata, -⟩ := hlinked.path
      refine ⟨1, HPD_E_SERVICE_IN_USE, m, lists, b, h, Frees.refl m, hb, fun hne => absurd rfl hne, fun fuel hfuel => ?_⟩
      obtain ⟨k, rfl⟩ : ∃ k, fuel = k + 1 := ⟨fuel - 1, by omega⟩
      simp only [List.head?_cons, Option.map_some, Memory.destroyEach, hn, hdata, hr, Option.bind_eq_bind, Option.bind_some,
        if_pos (show r ≠ 0 from hr₀)]

/-- `destroy_device_struct`. -/
theorem Laid.destroy_device_struct (h : Laid m head L lists) (hb : m.devices a = some b) :
    ∃ n rc m' lists', Laid m' head L lists' ∧ Frees m m' ∧
      ∀ fuel, n ≤ fuel → Memory.destroy_device_struct (some (L.map Prod.snd)) fuel m a = some (rc, m') := by
  obtain ⟨n, rc, m₁, lists₁, b₁, hlaid, hfrees, hb₁, hend, hrun⟩ := h.destroyEach hb rfl
  obtain ⟨service_head, hd, hl⟩ := (h.listed hb).list
  have hhead : b.service_head = service_head := congrArg DeviceBlock.service_head (Option.some.inj (hb.symm.trans hd))
  simp only [← hl.path.head_eq, ← hhead] at hrun
  by_cases hrc : rc = HPD_E_SERVICE_IN_USE
  · refine ⟨n + 1, rc, m₁, lists₁, hlaid, hfrees, fun fuel hfuel => ?_⟩
    obtain ⟨k, rfl⟩ : ∃ k, fuel = k + 1 := ⟨fuel - 1, by omega⟩
    simp only [Memory.destroy_device_struct, hb, hrun k (by omega), Option.bind_eq_bind, Option.bind_some, if_pos hrc]
  · have hfree : m₁.freeDevice a =
        some { m₁ with devices := Function.update m₁.devices a none, freed := m₁.freed ++ [.device a] } := by
      rw [freeDevice, hb₁, Option.map_some]
    have hlaid' : Laid { m₁ with devices := Function.update m₁.devices a none, freed := m₁.freed ++ [.device a] } head L lists₁ :=
      hlaid.setDevice (hend hrc) (fun c hc => absurd hc.symm (Option.some_ne_none c)) _
    refine ⟨n + 1, HPD_E_SUCCESS, _, lists₁, hlaid',
      hfrees.trans (.of rfl (List.nodup_singleton (Block.device a)) (fun c hc => ?_) fun c hc => ?_), fun fuel hfuel => ?_⟩
    · obtain rfl := List.mem_singleton.mp hc
      simp only [Memory.has, hb₁, Function.update_self, Option.isSome_some, Option.isSome_none, and_self]
    · cases c with
      | device x =>
        have hx : x ≠ a := fun hx => hc (List.mem_singleton.mpr (congrArg Block.device hx))
        exact congrArg Option.isSome (Function.update_of_ne hx ..)
      | service x => rfl
      | element x => rfl
    · obtain ⟨k, rfl⟩ : ∃ k, fuel = k + 1 := ⟨fuel - 1, by omega⟩
      simp only [Memory.destroy_device_struct, hb, hrun k (by omega), hfree, Option.bind_eq_bind, Option.bind_some, if_neg hrc]

end

/-! ### The server stops -/

/-- The devices with services, with their lists. -/
def devicesOf (m : Memory) (lists : Nat → List (Nat × Nat)) : Devices := fun a =>
  (m.devices a).bind fun b => if lists a = [] then none else some (b.device, lists a)

/-- What is left of the lists without these services. -/
def leftOf (lists : Nat → List (Nat × Nat)) (served : List Nat) (a : Nat) : List (Nat × Nat) :=
  (lists a).filter fun p => decide (p.2 ∉ served)

section

variable {m m' : Memory} {head : Option Nat} {L : List (Nat × Nat)} {lists : Nat → List (Nat × Nat)} {a : Nat} {b : DeviceBlock}

theorem devicesOf_eq_some {d : Device} {l : List (Nat × Nat)} :
    devicesOf m lists a = some (d, l) ↔ ∃ b, m.devices a = some b ∧ b.device = d ∧ lists a = l ∧ l ≠ [] := by
  rw [devicesOf, Option.bind_eq_some_iff]
  constructor
  · rintro ⟨b, hb, h⟩
    obtain ⟨hne, h⟩ := Option.ite_none_left_eq_some.mp h
    cases h
    exact ⟨b, hb, rfl, rfl, hne⟩
  · rintro ⟨b, hb, rfl, rfl, hne⟩
    exact ⟨b, hb, if_neg hne⟩

theorem devicesOf_here (hb : m.devices a = some b) (hne : lists a ≠ []) : devicesOf m lists a = some (b.device, lists a) :=
  devicesOf_eq_some.mpr ⟨b, hb, rfl, rfl, hne⟩

theorem devicesOf_none (hnil : lists a = []) : devicesOf m lists a = none := by
  rw [devicesOf]
  cases m.devices a with
  | none => rfl
  | some b => exact if_pos hnil

theorem Laid.serves (h : Laid m head L lists) : Serves m head L (devicesOf m lists) := by
  refine ⟨h.server, fun hG => ?_, fun hG => ?_, fun {a _ _} hG => ?_, fun x hx => ?_, h.keys⟩
  · obtain ⟨b, hb, rfl, rfl, -⟩ := devicesOf_eq_some.mp hG
    exact h.listed hb
  · obtain ⟨-, -, -, -, hne⟩ := devicesOf_eq_some.mp hG
    exact hne
  · obtain ⟨b, -, -, rfl, -⟩ := devicesOf_eq_some.mp hG
    exact h.own a
  · obtain ⟨v, hv⟩ := Option.ne_none_iff_exists'.mp (h.there x hx)
    obtain ⟨a, b, -, hb, l₁, p, l₂, hl, he⟩ := h.place hv
    have hp : p ∈ lists a := hl ▸ List.mem_append_right _ (List.mem_cons_self ..)
    exact ⟨a, b.device, lists a, devicesOf_here hb (List.ne_nil_of_mem hp), he ▸ List.mem_map_of_mem hp⟩

/-- A device keeps what is left of its list, or goes. -/
theorem Laid.left_cases (h : Laid m head L lists) (hdown : TornDown m m' L (devicesOf m lists)) (a : Nat) :
    (lists a = [] ∧ m'.devices a = m.devices a) ∨ ∃ b, m.devices a = some b ∧ lists a ≠ [] ∧
      ((∀ p ∈ lists a, p.2 ∈ L.map Prod.snd) ∧ m'.devices a = none ∨ Listed m' a b.device (leftOf lists (L.map Prod.snd) a) ∧
        ¬∀ p ∈ lists a, p.2 ∈ L.map Prod.snd) := by
  by_cases hnil : lists a = []
  · exact .inl ⟨hnil, hdown.others a (devicesOf_none hnil)⟩
  · obtain ⟨p, hp⟩ := List.exists_mem_of_ne_nil _ hnil
    obtain ⟨b, hb⟩ := h.device hp
    refine .inr ⟨b, hb, hnil, ?_⟩
    by_cases hall : ∀ p ∈ lists a, p.2 ∈ L.map Prod.snd
    · exact .inl ⟨hall, hdown.emptied a ⟨b.device, lists a, devicesOf_here hb hnil, hall⟩⟩
    · refine .inr ⟨hdown.left (left_eq_some.mpr ⟨lists a, devicesOf_here hb hnil, rfl, fun hleft => hall ?_⟩), hall⟩
      exact fun p hp => by simpa using List.filter_eq_nil_iff.mp hleft p hp

/-- Only the devices' lists are left. -/
theorem Laid.tornDown (h : Laid m head L lists) (hdown : TornDown m m' L (devicesOf m lists))
    (hapart : Apart m m' L (devicesOf m lists)) : Laid m' none [] (leftOf lists (L.map Prod.snd)) := by
  have hnil {a : Nat} (hl : lists a = []) : leftOf lists (L.map Prod.snd) a = [] := by
    rw [leftOf, hl, List.filter_nil]
  refine ⟨⟨none, rfl, rfl⟩, fun {a c} hc => ?_, fun {a} hc => ?_, fun {q v} hq => ?_, fun _ _ _ => List.not_mem_nil, fun x hx => ?_,
    List.nodup_nil, fun x hx => ?_, fun e he => .inr ?_⟩
  · rcases h.left_cases hdown a with ⟨hl, hsame⟩ | ⟨b, hb, -, ⟨-, hgone⟩ | ⟨hleft, -⟩⟩
    · have hlisted := (h.listed (hsame.symm.trans hc)).congr hsame (fun p hp => absurd (hl ▸ hp) List.not_mem_nil)
        fun p hp => absurd (hl ▸ hp) List.not_mem_nil
      rwa [hnil hl, ← hl]
    · exact absurd (hc.symm.trans hgone) (Option.some_ne_none c)
    · obtain ⟨_, hd, -⟩ := hleft.list
      rw [hc, Option.some_inj] at hd
      rw [hd]
      exact hleft
  · rcases h.left_cases hdown a with ⟨hl, -⟩ | ⟨b, hb, -, ⟨hall, -⟩ | ⟨hleft, -⟩⟩
    · exact hnil hl
    · exact List.filter_eq_nil_iff.mpr fun p hp => by simpa using hall p hp
    · obtain ⟨_, hd, -⟩ := hleft.list
      exact absurd (hd.symm.trans hc) (Option.some_ne_none _)
  · rw [hdown.services] at hq
    obtain ⟨hnot, hq⟩ := Option.ite_none_left_eq_some.mp hq
    obtain ⟨a, hv, hmem⟩ := h.placed hq
    obtain ⟨p, hp, rfl⟩ := List.mem_map.mp hmem
    exact ⟨a, hv, List.mem_map_of_mem (List.mem_filter.mpr ⟨hp, decide_eq_true hnot⟩)⟩
  · exact absurd hx List.not_mem_nil
  · exact absurd hx List.not_mem_nil
  · by_contra hno
    have hkept : ¬ToFree L (devicesOf m lists) (.element e) := fun hfree => he (hdown.elements e hfree)
    have hlist {a : Nat} : e ∉ (lists a).map Prod.fst := by
      intro hmem
      obtain ⟨p, hp, rfl⟩ := List.mem_map.mp hmem
      obtain ⟨b, hb⟩ := h.device hp
      by_cases hq : p.2 ∈ L.map Prod.snd
      · exact hkept (.inr ⟨a, b.device, lists a, devicesOf_here hb (List.ne_nil_of_mem hp), p, hp, rfl, hq⟩)
      · exact hno ⟨a, List.mem_map_of_mem (List.mem_filter.mpr ⟨hp, decide_eq_true hq⟩)⟩
    have hsame := hapart e (fun hmem => hkept (.inl hmem)) fun a d l hG => by
      obtain ⟨b, -, -, rfl, -⟩ := devicesOf_eq_some.mp hG
      exact hlist
    rcases h.used e (hsame ▸ he) with hmem | ⟨a, hmem⟩
    · exact hkept (.inl hmem)
    · exact hlist hmem

/-- What was to be freed was there, and is not any more; the rest is there as before. -/
theorem Laid.frees_tornDown (h : Laid m head L lists) (hdown : TornDown m m' L (devicesOf m lists))
    (hapart : Apart m m' L (devicesOf m lists)) : Frees m m' := by
  have hlaid := h.tornDown hdown hapart
  obtain ⟨t, hfreed, hnodup, ht⟩ := hdown.freed
  refine .of hfreed hnodup (fun c hc => ?_) fun c hc => ?_
  · have hfree := (ht c).mp hc
    cases c with
    | service q =>
      obtain ⟨x, hx, rfl⟩ := List.mem_map.mp hfree
      refine ⟨Option.isSome_iff_ne_none.mpr (h.there x hx), ?_⟩
      rw [Memory.has, hdown.services, if_pos (List.mem_map_of_mem hx)]
      rfl
    | element e =>
      refine ⟨?_, by rw [Memory.has, hdown.elements e hfree]; rfl⟩
      rcases hfree with hmem | ⟨a, d, l, hG, p, hp, rfl, -⟩
      · exact has_element h.server hmem
      · obtain ⟨b, -, -, rfl, -⟩ := devicesOf_eq_some.mp hG
        exact h.isSome (List.mem_map_of_mem hp)
    | device a =>
      refine ⟨?_, by rw [Memory.has, hdown.emptied a hfree]; rfl⟩
      obtain ⟨d, l, hG, -⟩ := hfree
      obtain ⟨b, hb, -⟩ := devicesOf_eq_some.mp hG
      rw [Memory.has, hb]
      rfl
  · have hfree : ¬ToFree L (devicesOf m lists) c := fun hfree => hc ((ht c).mpr hfree)
    cases c with
    | service q =>
      have hq : q ∉ L.map Prod.snd := hfree
      rw [Memory.has, Memory.has, hdown.services, if_neg hq]
    | element e =>
      by_cases hlist : ∃ a, e ∈ (lists a).map Prod.fst
      · obtain ⟨a, hmem⟩ := hlist
        obtain ⟨p, hp, rfl⟩ := List.mem_map.mp hmem
        obtain ⟨b, hb⟩ := h.device hp
        have hleft : p ∈ leftOf lists (L.map Prod.snd) a := List.mem_filter.mpr ⟨hp, decide_eq_true fun hq =>
          hfree (.inr ⟨a, b.device, lists a, devicesOf_here hb (List.ne_nil_of_mem hp), p, hp, rfl, hq⟩)⟩
        exact (hlaid.isSome (List.mem_map_of_mem hleft)).trans (h.isSome hmem).symm
      · refine congrArg Option.isSome (hapart e (fun hmem => hfree (.inl hmem)) fun a d l hG => ?_)
        obtain ⟨b, -, -, rfl, -⟩ := devicesOf_eq_some.mp hG
        exact fun hmem => hlist ⟨a, hmem⟩
    | device a =>
      rcases h.left_cases hdown a with ⟨-, hsame⟩ | ⟨b, hb, hne, ⟨hall, -⟩ | ⟨hleft, -⟩⟩
      · exact congrArg Option.isSome hsame
      · exact absurd ⟨b.device, lists a, devicesOf_here hb hne, hall⟩ hfree
      · obtain ⟨_, hd, -⟩ := hleft.list
        rw [Memory.has, Memory.has, hb, hd]
        rfl

end

/-! ### The server's list -/

section

variable {m : Memory} {head head' : Option Nat} {L L' : List (Nat × Nat)} {lists : Nat → List (Nat × Nat)} {a : Nat} {b : DeviceBlock}
  {elements : Heap Nat} {q e : Nat}

/-- The server's list is another one, and those of the devices are as they were. -/
theorem Laid.relist (h : Laid m head L lists) (hl : Linked elements head' L')
    (hsame : ∀ a, ∀ p ∈ lists a, elements p.1 = m.elements p.1) (hown : ∀ a, ∀ p ∈ lists a, p.1 ∉ L'.map Prod.fst)
    (hthere : ∀ x ∈ L', m.services x.2 ≠ none) (hkeys : (L'.map fun x => (m.read x.2).map keyOf).Nodup)
    (hplain : ∀ x ∈ L', ∀ s ∈ m.read x.2, s.2.secure_device = HPD_NON_SECURE_DEVICE)
    (hused : ∀ e, elements e ≠ none → e ∈ L'.map Prod.fst ∨ m.elements e ≠ none ∧ e ∉ L.map Prod.fst) (freed : List Block) :
    Laid { m with elements, freed } head' L' lists := by
  refine ⟨hl, fun hc => (h.listed hc).congr rfl (hsame _) fun _ _ => rfl, h.nowhere, h.placed, hown, hthere, hkeys, hplain, fun e he => ?_⟩
  exact (hused e he).imp_right fun ⟨he, hnot⟩ => (h.used e he).resolve_left hnot

theorem Laid.value_url (h : Laid m head L lists) (hq : m.services q ≠ none) : ∃ url, m.value_url q = some url := by
  obtain ⟨v, hv⟩ := Option.ne_none_iff_exists'.mp hq
  obtain ⟨a, b, hva, hb, -⟩ := h.place hv
  exact ⟨_, by rw [Memory.value_url, read_eq hv hva hb, Option.map_some]⟩

/-- The comparison of two URLs. -/
theorem Laid.compare (h : Laid m head L lists) (hq : m.services q ≠ none) (url : String) :
    m.cmp_ServiceElement url q = some (decide (m.value_url q = some url)) := by
  obtain ⟨u, hu⟩ := h.value_url hq
  simp only [cmp_ServiceElement, hu, Option.map_some, Option.some_inj]

/-- A service that is not registered has a key that none in the list has. -/
theorem keys_apart {s : ServiceBlock × Device} {r : Int} (hs : m.read q = some s) (hr : r ≠ 1) : ∀ {l : List Nat},
    m.is_unsecure_service_registered q l = some r → ∀ i ∈ l, (m.read i).map keyOf ≠ some (keyOf s) := by
  intro l
  induction l with
  | nil => exact fun _ i hi => absurd hi List.not_mem_nil
  | cons i l ih =>
    intro hreg j hj
    obtain ⟨x, hx, hreg⟩ := Option.bind_eq_some_iff.mp hreg
    rw [hs] at hreg
    by_cases hkey : keyOf x = keyOf s
    · exact absurd (Option.some.inj ((if_pos hkey).symm.trans hreg)).symm hr
    · rcases List.mem_cons.mp hj with rfl | hj
      · rw [hx, Option.map_some, ne_eq, Option.some_inj]
        exact hkey
      · exact ih ((if_neg hkey).symm.trans hreg) j hj

/-- An element where nothing was is in no list. -/
theorem Laid.fresh (h : Laid m head L lists) (he : m.elements e = none) : e ∉ L.map Prod.fst ∧ ∀ a, e ∉ (lists a).map Prod.fst := by
  refine ⟨fun hmem => h.server.path.isNode hmem he, fun a hmem => ?_⟩
  have hsome := h.isSome hmem
  rw [he] at hsome
  cases hsome

/-- An element with a service is put at the end of the server's list. -/
theorem Laid.append (h : Laid m head L lists) (he : m.elements e = none) (hq : m.services q ≠ none)
    (hkey : ∀ x ∈ L, (m.read x.2).map keyOf ≠ (m.read q).map keyOf)
    (hplain : ∀ s ∈ m.read q, s.2.secure_device = HPD_NON_SECURE_DEVICE) : ∃ elements head',
      DL_APPEND (Function.update m.elements e (some ⟨q, none, none⟩)) head e = some (elements, head') ∧
      Laid { m with elements } head' (L ++ [(e, q)]) lists ∧ Adds m { m with elements } [.element e] := by
  obtain ⟨hserver, hlists⟩ := h.fresh he
  have hl : Linked (Function.update m.elements e (some ⟨q, none, none⟩)) head L :=
    h.server.congr fun c hc => Function.update_of_ne (fun (hce : c = e) => hserver (hce ▸ hc)) ..
  obtain ⟨elements, head', happ, hl', hframe⟩ := hl.append (Function.update_self ..) hserver
  have hsame : ∀ c, c ≠ e → c ∉ L.map Prod.fst → elements c = m.elements c :=
    fun c hc hnot => (hframe c hc hnot).trans (Function.update_of_ne hc ..)
  have hmap : (L ++ [(e, q)]).map Prod.fst = L.map Prod.fst ++ [e] := List.map_append
  refine ⟨elements, head', happ, h.relist hl' (fun a p hp => ?_) (fun a p hp => ?_) (fun x hx => ?_) ?_ (fun x hx => ?_)
    (fun c hc => ?_) m.freed, .of rfl (List.nodup_singleton _) (fun c hc => ?_) fun c hc => ?_⟩
  · exact hsame p.1 (fun hpe => hlists a (hpe ▸ List.mem_map_of_mem hp)) (h.own a p hp)
  · rw [hmap, List.mem_append, List.mem_singleton, not_or]
    exact ⟨h.own a p hp, fun hpe => hlists a (hpe ▸ List.mem_map_of_mem hp)⟩
  · rcases List.mem_append.mp hx with hx | hx
    · exact h.there x hx
    · obtain rfl := List.mem_singleton.mp hx
      exact hq
  · rw [List.map_append, List.map_singleton, List.nodup_append]
    refine ⟨h.keys, List.nodup_singleton _, ?_⟩
    rintro k hk _ hk' rfl
    obtain ⟨x, hx, rfl⟩ := List.mem_map.mp hk
    exact hkey x hx (List.mem_singleton.mp hk')
  · rcases List.mem_append.mp hx with hx | hx
    · exact h.plain x hx
    · obtain rfl := List.mem_singleton.mp hx
      exact hplain
  · rw [hmap, List.mem_append, List.mem_singleton]
    by_cases hce : c = e
    · exact .inl (.inr hce)
    · by_cases hmem : c ∈ L.map Prod.fst
      · exact .inl (.inl hmem)
      · exact .inr ⟨hsame c hce hmem ▸ hc, hmem⟩
  · obtain rfl := List.mem_singleton.mp hc
    refine ⟨by rw [Memory.has, he]; rfl, has_element hl' ?_⟩
    exact hmap ▸ List.mem_append_right _ (List.mem_singleton_self _)
  · cases c with
    | device x => rfl
    | service x => rfl
    | element x =>
      have hx : x ≠ e := fun hx => hc (List.mem_singleton.mpr (congrArg Block.element hx))
      refine has_element_congr h.server hl' (fun hmem => ?_) fun hnot => hsame x hx fun hmem => ?_
      · rw [hmap, List.mem_append, List.mem_singleton] at hmem
        exact hmem.resolve_right hx
      · exact hnot (hmap ▸ List.mem_append_left _ hmem)

/-- An element is taken out of the server's list and freed. -/
theorem Laid.takeOut {x : Nat × Nat} {L₁ L₂ : List (Nat × Nat)} (h : Laid m head (L₁ ++ x :: L₂) lists) : ∃ elements head' m',
      DL_DELETE m.elements head x.1 = some (elements, head') ∧
      destroy_service_element_struct { m with elements } x.1 = some m' ∧ Laid m' head' (L₁ ++ L₂) lists ∧ Frees m m' := by
  obtain ⟨elements, head', hdel, hl, hframe⟩ := h.server.delete
  obtain ⟨hx, -⟩ := nodup_map_middle.mp h.server.nodup
  have hsub {y : Nat × Nat} (hy : y ∈ L₁ ++ L₂) : y ∈ L₁ ++ x :: L₂ := by
    rw [List.mem_append] at hy ⊢
    exact hy.imp_right (List.mem_cons_of_mem _)
  obtain ⟨n, hn⟩ := Option.ne_none_iff_exists'.mp (h.server.path.isNode (mem_map_middle.mpr (.inl rfl)))
  have hfree := freeElement_eq (m := { m with elements }) (e := x.1) (n := n) ((hframe x.1 hx).trans hn)
  refine ⟨elements, head', _, hdel, hfree, h.relist (hl.congr fun c hc => ?_) (fun a p hp => ?_) (fun a p hp hmem => ?_)
    (fun y hy => h.there y (hsub hy)) ?_ (fun y hy => h.plain y (hsub hy)) (fun c hc => ?_) _,
    .of rfl (List.nodup_singleton (Block.element x.1)) (fun c hc => ?_) fun c hc => ?_⟩
  · exact Function.update_of_ne (fun (he : c = x.1) => hx (he ▸ hc)) ..
  · have hnot := h.own a p hp
    rw [mem_map_middle, not_or] at hnot
    exact (Function.update_of_ne hnot.1 ..).trans (hframe p.1 hnot.2)
  · exact h.own a p hp (mem_map_middle.mpr (.inr hmem))
  · exact (nodup_map_middle.mp h.keys).2
  · have hne : c ≠ x.1 := fun he => hc (he ▸ Function.update_self ..)
    by_cases hmem : c ∈ (L₁ ++ L₂).map Prod.fst
    · exact .inl hmem
    · refine .inr ⟨fun hnone => hc ((Function.update_of_ne hne ..).trans ((hframe c hmem).trans hnone)), ?_⟩
      rw [mem_map_middle, not_or]
      exact ⟨hne, hmem⟩
  · obtain rfl := List.mem_singleton.mp hc
    simp only [Memory.has, hn, Function.update_self, Option.isSome_some, Option.isSome_none, and_self]
  · cases c with
    | device y => rfl
    | service y => rfl
    | element y =>
      have hy : y ≠ x.1 := fun hy => hc (List.mem_singleton.mpr (congrArg Block.element hy))
      refine (congrArg Option.isSome (Function.update_of_ne hy ..)).trans (has_element_congr h.server hl (fun hmem => ?_) (hframe y))
      exact mem_map_middle.mpr (.inr hmem)

end

/-! ### A new service -/

section

variable {m : Memory} {head : Option Nat} {L : List (Nat × Nat)} {lists : Nat → List (Nat × Nat)} {a q e : Nat} {b : DeviceBlock}
  {type ID : String}

/-- The memory with a service that is in no list yet, and its element. -/
def withService (m : Memory) (q : Nat) (type ID : String) (a e : Nat) : Memory :=
  { m with services := Function.update m.services q (some ⟨type, ID, some a⟩)
           elements := Function.update m.elements e (some ⟨q, none, none⟩) }

/-- What was in memory is as it was. -/
theorem withService_read (hq : m.services q = none) {r : Nat} (hr : m.services r ≠ none) :
    (m.withService q type ID a e).read r = m.read r := by
  have hrq : r ≠ q := fun he => hr (he ▸ hq)
  exact read_congr (Function.update_of_ne hrq ..) fun _ => rfl

/-- No service of the device has the URL of the new one. -/
theorem Laid.search_new (h : Laid m head L lists) (hb : m.devices a = some b) (hq : m.services q = none) (he : m.elements e = none)
    (hnew : ∀ r v, m.services r = some v → v.device = some a → serviceUrl b.device v.type v.ID ≠ serviceUrl b.device type ID) {fuel : Nat}
    (hfuel : (lists a).length ≤ fuel) : (m.withService q type ID a e).value_url q = some (serviceUrl b.device type ID) ∧
      DL_SEARCH (m.withService q type ID a e).elements ((m.withService q type ID a e).cmp_ServiceElement (serviceUrl b.device type ID)) fuel
        b.service_head = some none := by
  have hlisted := h.listed hb
  obtain ⟨service_head, hd, hl⟩ := hlisted.list
  have hhead : b.service_head = service_head := congrArg DeviceBlock.service_head (Option.some.inj (hb.symm.trans hd))
  obtain ⟨-, hfresh⟩ := h.fresh he
  refine ⟨?_, ?_⟩
  · have hread : (m.withService q type ID a e).read q = some (⟨type, ID, some a⟩, b.device) := read_eq (Function.update_self ..) rfl hb
    rw [Memory.value_url, hread, Option.map_some]
  · have hurl : ∀ r ∈ lists a, ∃ v, m.services r.2 = some v ∧ v.device = some a ∧
        (m.withService q type ID a e).value_url r.2 = some (serviceUrl b.device v.type v.ID) := by
      intro r hr
      obtain ⟨v, hv, hva, hread⟩ := hlisted.read hr
      refine ⟨v, hv, hva, ?_⟩
      rw [Memory.value_url, withService_read hq (hv ▸ Option.some_ne_none v), hread, Option.map_some]
    have hpath : Path (m.withService q type ID a e).elements service_head (lists a) := by
      refine (hl.congr fun c hc => ?_).path
      exact Function.update_of_ne (fun (hce : c = e) => hfresh a (hce ▸ hc)) ..
    let found (r : Nat) : Bool := decide ((m.withService q type ID a e).value_url r = some (serviceUrl b.device type ID))
    have htest : ∀ r ∈ lists a, (m.withService q type ID a e).cmp_ServiceElement (serviceUrl b.device type ID) r.2 = some (found r.2) := by
      intro r hr
      obtain ⟨v, -, -, hu⟩ := hurl r hr
      simp only [cmp_ServiceElement, found, hu, Option.map_some, Option.some_inj]
    rw [hhead, hpath.search (p := found) htest hfuel, List.find?_eq_none.mpr fun r hr hfound => ?_, Option.map_none]
    obtain ⟨v, hv, hva, hu⟩ := hurl r hr
    simp only [found, decide_eq_true_eq, hu, Option.some_inj] at hfound
    exact hnew r.2 v hv hva hfound

/-- A service was put in memory, and its element at the end of its device's list. -/
structure Enlists (m m' : Memory) (a : Nat) (d : Device) (l : List (Nat × Nat)) (q e : Nat) (v : ServiceBlock) : Prop where
  device : ∃ head, m'.devices a = some ⟨d, head⟩ ∧ Linked m'.elements head (l ++ [(e, q)])
  devices : ∀ a' ≠ a, m'.devices a' = m.devices a'
  service : m'.services q = some v
  services : ∀ r ≠ q, m'.services r = m.services r
  elements : ∀ c ≠ e, c ∉ l.map Prod.fst → m'.elements c = m.elements c
  freed : m'.freed = m.freed

section

variable {m' : Memory} {v : ServiceBlock} {d : Device} {l : List (Nat × Nat)}

theorem Enlists.services_eq (hen : Enlists m m' a d l q e v) (hq : m.services q = none) {r : Nat} (hr : m.services r ≠ none) :
    m'.services r = m.services r := hen.services r fun hrq => hr (hrq ▸ hq)

/-- The device's list, with a service that is not like one that is there. -/
theorem Enlists.listed (hen : Enlists m m' a d l q e v) (h : Listed m a d l) (hq : m.services q = none) (hv : v.device = some a)
    (hnew : ∀ p ∈ l, ∀ s, m.services p.2 = some s → s.label ≠ v.label) : Listed m' a d (l ++ [(e, q)]) := by
  have hold : ∀ p ∈ l, ∃ s, m'.services p.2 = some s ∧ s.device = some a ∧ s.label ≠ v.label ∧ m.services p.2 = some s := by
    intro p hp
    obtain ⟨s, hs, hback⟩ := h.back p hp
    exact ⟨s, (hen.services_eq hq (hs ▸ Option.some_ne_none s)).trans hs, hback, hnew p hp s hs, hs⟩
  refine ⟨hen.device, fun p hp => ?_, ?_⟩
  · rcases List.mem_append.mp hp with hp | hp
    · obtain ⟨s, hs, hback, -⟩ := hold p hp
      exact ⟨s, hs, hback⟩
    · obtain rfl := List.mem_singleton.mp hp
      exact ⟨v, hen.service, hv⟩
  · have hsame : ∀ p ∈ l, (m'.services p.2).map ServiceBlock.label = (m.services p.2).map ServiceBlock.label := by
      intro p hp
      obtain ⟨s, hs, -, -, hs₀⟩ := hold p hp
      rw [hs, hs₀]
    rw [List.map_append, List.map_congr_left hsame, List.map_singleton, List.nodup_append]
    refine ⟨h.apart, List.nodup_singleton _, ?_⟩
    rintro k hk _ hk' rfl
    obtain ⟨p, hp, hkp⟩ := List.mem_map.mp hk
    obtain ⟨s, -, -, hne, hs⟩ := hold p hp
    have hkq := List.mem_singleton.mp hk'
    rw [← hkp, hs, hen.service, Option.map_some, Option.map_some, Option.some_inj] at hkq
    exact hne hkq

/-- All else is as it was. -/
theorem Enlists.laid (hen : Enlists m m' a b.device (lists a) q e v) (h : Laid m head L lists) (hb : m.devices a = some b)
    (hq : m.services q = none) (he : m.elements e = none) (hv : v.device = some a)
    (hnew : ∀ p ∈ lists a, ∀ s, m.services p.2 = some s → s.label ≠ v.label) :
    Laid m' head L (Function.update lists a (lists a ++ [(e, q)])) := by
  obtain ⟨head₂, hdevice, hl₂⟩ := hen.device
  obtain ⟨hserver, hlists⟩ := h.fresh he
  have hmap : (lists a ++ [(e, q)]).map Prod.fst = (lists a).map Prod.fst ++ [e] := List.map_append
  have hread : ∀ x ∈ L, m'.read x.2 = m.read x.2 := by
    intro x hx
    obtain ⟨s, a', c, hs, hsa, hc, hread⟩ := h.served_read hx
    have hs' : m'.services x.2 = some s := (hen.services_eq hq (h.there x hx)).trans hs
    rw [hread]
    by_cases ha : a' = a
    · subst ha
      obtain rfl := Option.some.inj (hb.symm.trans hc)
      exact read_eq (b := ⟨b.device, head₂⟩) hs' hsa hdevice
    · exact read_eq hs' hsa ((hen.devices a' ha).trans hc)
  refine ⟨h.server.congr fun c hc => ?_, fun {a' c} hc => ?_, fun {a'} hc => ?_, fun {r s} hr => ?_, fun a' r hr => ?_, fun x hx => ?_,
    (h.keys_congr hread).1, (h.keys_congr hread).2, fun c hc => ?_⟩
  · refine hen.elements c (fun hce => hserver (hce ▸ hc)) fun hmem => ?_
    obtain ⟨p, hp, rfl⟩ := List.mem_map.mp hmem
    exact h.own a p hp hc
  · by_cases ha : a' = a
    · subst ha
      obtain rfl := Option.some.inj (hdevice.symm.trans hc)
      rw [Function.update_self]
      exact hen.listed (h.listed hb) hq hv hnew
    · rw [hen.devices a' ha] at hc
      rw [Function.update_of_ne ha]
      refine (h.listed hc).congr (hen.devices a' ha) (fun r hr => ?_) fun r hr => ?_
      · refine hen.elements r.1 (fun hre => hlists a' (hre ▸ List.mem_map_of_mem hr)) fun hmem => ?_
        obtain ⟨r', hr', hsame⟩ := List.mem_map.mp hmem
        exact ha (h.same hr hr' (.inl hsame.symm)).1
      · obtain ⟨s, hs, -⟩ := (h.listed hc).back r hr
        exact hen.services_eq hq (hs ▸ Option.some_ne_none s)
  · have ha : a' ≠ a := by
      rintro rfl
      exact Option.some_ne_none _ (hdevice.symm.trans hc)
    rw [Function.update_of_ne ha]
    exact h.nowhere ((hen.devices a' ha).symm.trans hc)
  · by_cases hrq : r = q
    · subst hrq
      obtain rfl := Option.some.inj (hen.service.symm.trans hr)
      refine ⟨a, hv, ?_⟩
      rw [Function.update_self, List.map_append]
      exact List.mem_append_right _ (List.mem_singleton_self _)
    · obtain ⟨a', hsa, hmem⟩ := h.placed ((hen.services r hrq).symm.trans hr)
      refine ⟨a', hsa, ?_⟩
      by_cases ha : a' = a
      · subst ha
        rw [Function.update_self, List.map_append]
        exact List.mem_append_left _ hmem
      · rwa [Function.update_of_ne ha]
  · by_cases ha : a' = a
    · subst ha
      rw [Function.update_self] at hr
      rcases List.mem_append.mp hr with hr | hr
      · exact h.own a' r hr
      · obtain rfl := List.mem_singleton.mp hr
        exact hserver
    · rw [Function.update_of_ne ha] at hr
      exact h.own a' r hr
  · rw [hen.services_eq hq (h.there x hx)]
    exact h.there x hx
  · by_cases hin : c ∈ (lists a).map Prod.fst ++ [e]
    · refine .inr ⟨a, ?_⟩
      rw [Function.update_self, hmap]
      exact hin
    · rw [List.mem_append, List.mem_singleton, not_or] at hin
      rw [hen.elements c hin.2 hin.1] at hc
      refine (h.used c hc).imp_right fun ⟨a', hmem⟩ => ⟨a', ?_⟩
      rwa [Function.update_of_ne fun (ha : a' = a) => hin.1 (ha ▸ hmem)]

theorem Enlists.adds (hen : Enlists m m' a d l q e v) (h : Listed m a d l) (hq : m.services q = none) (he : m.elements e = none) :
    Adds m m' [.service q, .element e] := by
  obtain ⟨head₂, hdevice, hl₂⟩ := hen.device
  obtain ⟨head₁, hdevice₀, hl₁⟩ := h.list
  have hmap : (l ++ [(e, q)]).map Prod.fst = l.map Prod.fst ++ [e] := List.map_append
  refine .of hen.freed (by simp) (fun c hc => ?_) fun c hc => ?_
  · rcases List.mem_cons.mp hc with rfl | hc
    · simp only [Memory.has, hq, hen.service, Option.isSome_some, Option.isSome_none, and_self]
    · obtain rfl := List.mem_singleton.mp hc
      refine ⟨by rw [Memory.has, he]; rfl, has_element hl₂ ?_⟩
      exact hmap ▸ List.mem_append_right _ (List.mem_singleton_self _)
  · rw [List.mem_cons, List.mem_singleton, not_or] at hc
    cases c with
    | device x =>
      by_cases hx : x = a
      · subst hx
        simp only [Memory.has, hdevice, hdevice₀, Option.isSome_some]
      · exact congrArg Option.isSome (hen.devices x hx)
    | service x => exact congrArg Option.isSome (hen.services x fun hx => hc.1 (congrArg Block.service hx))
    | element x =>
      have hx : x ≠ e := fun hx => hc.2 (congrArg Block.element hx)
      refine has_element_congr hl₁ hl₂ (fun hmem => ?_) fun hnot => hen.elements x hx fun hmem => ?_
      · rw [hmap, List.mem_append, List.mem_singleton] at hmem
        exact hmem.resolve_right hx
      · exact hnot (hmap ▸ List.mem_append_left _ hmem)

end

/-- The element is put at the end of the device's list. -/
theorem Laid.enlist (h : Laid m head L lists) (hb : m.devices a = some b) (hq : m.services q = none) (he : m.elements e = none)
    (hnew : ∀ r v, m.services r = some v → v.device = some a → serviceUrl b.device v.type v.ID ≠ serviceUrl b.device type ID) :
    ∃ elements head₂ m', DL_APPEND (m.withService q type ID a e).elements b.service_head e = some (elements, head₂) ∧
      m' = { m.withService q type ID a e with
        elements, devices := Function.update m.devices a (some { b with service_head := head₂ }) } ∧
      Laid m' head L (Function.update lists a (lists a ++ [(e, q)])) ∧ Adds m m' [.service q, .element e] := by
  have hlisted := h.listed hb
  obtain ⟨service_head, hd, hl⟩ := hlisted.list
  have hhead : b.service_head = service_head := congrArg DeviceBlock.service_head (Option.some.inj (hb.symm.trans hd))
  have hlists := (h.fresh he).2 a
  have hl₁ : Linked (m.withService q type ID a e).elements service_head (lists a) :=
    hl.congr fun c hc => Function.update_of_ne (fun (hce : c = e) => hlists (hce ▸ hc)) ..
  obtain ⟨elements, head₂, happ, hl₂, hframe⟩ := hl₁.append (Function.update_self ..) hlists
  have hen : Enlists m { m.withService q type ID a e with
      elements, devices := Function.update m.devices a (some { b with service_head := head₂ }) } a b.device (lists a) q e
      ⟨type, ID, some a⟩ := by
    refine ⟨⟨head₂, Function.update_self .., hl₂⟩, fun a' ha => Function.update_of_ne ha .., Function.update_self ..,
      fun r hr => Function.update_of_ne hr .., fun c hc hnot => ?_, rfl⟩
    exact (hframe c hc hnot).trans (Function.update_of_ne hc ..)
  refine ⟨elements, head₂, _, hhead ▸ happ, rfl, hen.laid h hb hq he rfl fun p hp s hs hlabel => ?_, hen.adds hlisted hq he⟩
  -- the same type and ID would give the same URL
  obtain ⟨s', hs', hback⟩ := hlisted.back p hp
  obtain rfl := Option.some.inj (hs.symm.trans hs')
  rw [ServiceBlock.label, ServiceBlock.label, Prod.mk.injEq] at hlabel
  exact hnew p.2 s hs hback (by rw [hlabel.1, hlabel.2])

end

end Memory

namespace Api

open Memory

/-! ## The calls -/

/-- The memory is as it should be, and all that was allocated is there or was freed, once. -/
structure Sound (s : Api) (L : List (Nat × Nat)) (lists : Nat → List (Nat × Nat)) : Prop where
  laid : Laid s.memory s.service_head L lists
  account : ∀ b, s.allocated.count b = s.memory.freed.count b + (s.memory.has b).toNat

section

variable {s : Api} {L L' : List (Nat × Nat)} {lists lists' : Nat → List (Nat × Nat)} {m' : Memory} {head' : Option Nat}

theorem Sound.frees (h : s.Sound L lists) (hlaid : Laid m' head' L' lists') (hf : Frees s.memory m') :
    Sound { s with memory := m', service_head := head' } L' lists' := by
  obtain ⟨t, hfreed, hcount⟩ := hf
  refine ⟨hlaid, fun b => ?_⟩
  have h₁ := h.account b
  have h₂ := hcount b
  change s.allocated.count b = m'.freed.count b + (m'.has b).toNat
  rw [hfreed, List.count_append]
  omega

theorem Sound.adds (h : s.Sound L lists) (hlaid : Laid m' head' L' lists') {t : List Block} (hf : Adds s.memory m' t) :
    Sound ⟨m', head', s.allocated ++ t⟩ L' lists' := by
  obtain ⟨hfreed, hcount⟩ := hf
  refine ⟨hlaid, fun b => ?_⟩
  have h₁ := h.account b
  have h₂ := hcount b
  change (s.allocated ++ t).count b = m'.freed.count b + (m'.has b).toNat
  rw [hfreed, List.count_append]
  omega

theorem Sound.foreach (h : s.Sound L lists) {fuel : Nat} (hfuel : L.length ≤ fuel) :
    DL_FOREACH s.memory.elements fuel s.service_head = some L := h.laid.server.path.foreach hfuel

/-- `create_device_struct`. -/
theorem Sound.create_device_struct (h : s.Sound L lists) {a : Nat} (ha : s.memory.devices a = none) (device : Device) :
    Sound (s.create_device_struct a device) L lists := by
  refine h.adds (h.laid.setDevice (h.laid.nowhere ha) (fun c hc => ?_) s.memory.freed)
    (.of rfl (List.nodup_singleton _) (fun c hc => ?_) fun c hc => ?_)
  · cases hc
    rfl
  · obtain rfl := List.mem_singleton.mp hc
    simp only [Memory.has, ha, Function.update_self, Option.isSome_some, Option.isSome_none, and_self]
  · cases c with
    | device x =>
      have hx : x ≠ a := fun hx => hc (List.mem_singleton.mpr (congrArg Block.device hx))
      exact congrArg Option.isSome (Function.update_of_ne hx ..)
    | service x => rfl
    | element x => rfl

/-- `create_service_struct`. -/
theorem Sound.create_service_struct (h : s.Sound L lists) {q a : Nat} {type ID : String} {element : Option Nat}
    (hc : s.Proper (.create_service_struct q type ID a element)) : ∃ n s' lists', Sound s' L lists' ∧
      ∀ fuel, n ≤ fuel → s.create_service_struct fuel q type ID a element = some s' := by
  obtain ⟨hq, helement, b, hb, hnew⟩ := hc
  cases element with
  | none =>
    -- the service is freed again
    have hsame : Function.update s.memory.services q none = s.memory.services := hq ▸ Function.update_eq_self ..
    refine ⟨0, ⟨{ s.memory with freed := s.memory.freed ++ [.service q] }, s.service_head, s.allocated ++ [.service q]⟩, lists,
      ⟨h.laid.refreed _, fun c => ?_⟩, fun fuel _ => ?_⟩
    · have hcount := h.account c
      change (s.allocated ++ [Block.service q]).count c = (s.memory.freed ++ [Block.service q]).count c + (s.memory.has c).toNat
      rw [List.count_append, List.count_append]
      omega
    · simp only [Api.create_service_struct, Api.add_service_to_device, HPD_E_NULL_POINTER, if_true, freeService, Function.update_self,
        Function.update_idem, hsame, Option.bind_eq_bind, Option.bind_some, Option.map_some]
  | some e =>
    obtain ⟨elements, head₂, m', happ, hm', hlaid, hadds⟩ := h.laid.enlist hb hq (helement e rfl) hnew
    refine ⟨(lists a).length, _, _, h.adds hlaid hadds, fun fuel hfuel => ?_⟩
    obtain ⟨hurl, hsearch⟩ := h.laid.search_new hb hq (helement e rfl) hnew hfuel
    have hadd : add_service_to_device fuel
        { s with memory := { s.memory with services := Function.update s.memory.services q (some ⟨type, ID, some a⟩) }
                 allocated := s.allocated ++ [.service q] } q a (some e) =
        some (HPD_E_SUCCESS, ⟨m', s.service_head, s.allocated ++ [.service q, .element e]⟩) := by
      have hd : (s.memory.withService q type ID a e).devices a = some b := hb
      unfold Api.add_service_to_device Api.create_service_element_struct
      change ((s.memory.withService q type ID a e).devices a).bind _ = _
      rw [hd, Option.bind_some]
      change ((s.memory.withService q type ID a e).value_url q).bind _ = _
      rw [hurl, Option.bind_some]
      change (DL_SEARCH (s.memory.withService q type ID a e).elements
        ((s.memory.withService q type ID a e).cmp_ServiceElement (serviceUrl b.device type ID)) fuel b.service_head).bind _ = _
      rw [hsearch, Option.bind_some]
      change (DL_APPEND (s.memory.withService q type ID a e).elements b.service_head e).bind _ = _
      rw [happ, Option.bind_some, hm', List.append_assoc]
      rfl
    simp only [Api.create_service_struct, hadd, HPD_E_SUCCESS, Option.bind_eq_bind, Option.bind_some]
    rfl

/-- `HPD_register_service`. -/
theorem Sound.register (h : s.Sound L lists) {q : Nat} {element : Option Nat} (hc : s.Proper (.HPD_register_service q element)) :
    ∃ n s' L', Sound s' L' lists ∧ ∀ fuel, n ≤ fuel → s.register_service_in_server fuel q element = some s' := by
  obtain ⟨hq, helement⟩ := hc
  obtain ⟨v, hv⟩ := Option.ne_none_iff_exists'.mp hq
  obtain ⟨a, b, hva, hb, -⟩ := h.laid.place hv
  have hread := read_eq hv hva hb
  by_cases hsec : b.device.secure_device = HPD_NON_SECURE_DEVICE
  · obtain ⟨r, hr⟩ := h.laid.registered hq
    rw [Memory.is_service_registered, hread, Option.bind_eq_bind, Option.bind_some, if_pos hsec, Option.bind_eq_bind,
      Option.bind_some] at hr
    by_cases hr₁ : r = 1
    · refine ⟨L.length, s, L, h, fun fuel hfuel => ?_⟩
      simp only [register_service_in_server, hread, h.foreach hfuel, hr, Option.bind_eq_bind, Option.bind_some, if_pos hsec, if_pos hr₁]
    · cases element with
      | none =>
        refine ⟨L.length, s, L, h, fun fuel hfuel => ?_⟩
        simp only [register_service_in_server, hread, h.foreach hfuel, hr, Option.bind_eq_bind, Option.bind_some, if_pos hsec, if_neg hr₁]
      | some e =>
        have hkey : ∀ x ∈ L, (s.memory.read x.2).map keyOf ≠ (s.memory.read q).map keyOf := by
          intro x hx
          rw [hread]
          exact keys_apart hread hr₁ hr x.2 (List.mem_map_of_mem hx)
        have hplain : ∀ s' ∈ s.memory.read q, s'.2.secure_device = HPD_NON_SECURE_DEVICE := by
          intro s' hs'
          obtain rfl := Option.some.inj (hread.symm.trans hs')
          exact hsec
        obtain ⟨elements, head', happ, hlaid, hadds⟩ := h.laid.append (helement e rfl) hq hkey hplain
        refine ⟨L.length, _, _, h.adds hlaid hadds, fun fuel hfuel => ?_⟩
        simp only [register_service_in_server, hread, h.foreach hfuel, hr, Option.bind_eq_bind, Option.bind_some, if_pos hsec, if_neg hr₁]
        change (DL_APPEND (Function.update s.memory.elements e (some ⟨q, none, none⟩)) s.service_head e).bind _ = _
        rw [happ, Option.bind_some]
        rfl
  · refine ⟨0, s, L, h, fun fuel _ => ?_⟩
    simp only [register_service_in_server, hread, Option.bind_eq_bind, Option.bind_some, if_neg hsec]

/-- `HPD_unregister_service`. -/
theorem Sound.unregister (h : s.Sound L lists) {q : Nat} (hq : s.memory.services q ≠ none) :
    ∃ n s' L', Sound s' L' lists ∧ ∀ fuel, n ≤ fuel → s.unregister_service_in_server fuel q = some s' := by
  obtain ⟨r, hr⟩ := h.laid.registered hq
  by_cases hr₀ : r = 0
  · refine ⟨L.length, s, L, h, fun fuel hfuel => ?_⟩
    simp only [unregister_service_in_server, h.foreach hfuel, hr, Option.bind_eq_bind, Option.bind_some, if_pos hr₀]
  · obtain ⟨url, hurl⟩ := h.laid.value_url hq
    let found (q : Nat) : Bool := decide (s.memory.value_url q = some url)
    have htest : ∀ x ∈ L, s.memory.cmp_ServiceElement url x.2 = some (found x.2) := fun x hx => h.laid.compare (h.laid.there x hx) url
    have hsearch (fuel : Nat) (hfuel : L.length ≤ fuel) := h.laid.server.path.search (p := found) htest hfuel
    cases hfind : L.find? fun x => found x.2 with
    | none =>
      refine ⟨L.length, s, L, h, fun fuel hfuel => ?_⟩
      simp only [unregister_service_in_server, h.foreach hfuel, hr, hurl, hsearch fuel hfuel, hfind, Option.map_none, Option.bind_eq_bind,
        Option.bind_some, if_neg hr₀]
    | some x =>
      obtain ⟨L₁, L₂, rfl⟩ := List.append_of_mem (List.mem_of_find?_eq_some hfind)
      obtain ⟨elements, head', m', hdel, hfree, hlaid, hfrees⟩ := h.laid.takeOut
      refine ⟨(L₁ ++ x :: L₂).length, _, _, h.frees hlaid hfrees, fun fuel hfuel => ?_⟩
      simp only [unregister_service_in_server, h.foreach hfuel, hr, hurl, hsearch fuel hfuel, hfind, Option.map_some, Option.bind_eq_bind,
        Option.bind_some, if_neg hr₀, hdel, hfree]

/-- `stop_unsecure_server`. -/
theorem Sound.stop (h : s.Sound L lists) : ∃ n s' lists', Sound s' [] lists' ∧
    ∀ fuel, n ≤ fuel → s.call fuel .stop_unsecure_server = some s' := by
  obtain ⟨n, m', hdown, hapart, hrun⟩ := each_tornDown h.laid.serves
  refine ⟨n + 1, { s with memory := m', service_head := none }, _,
    h.frees (h.laid.tornDown hdown hapart) (h.laid.frees_tornDown hdown hapart), fun fuel hfuel => ?_⟩
  by_cases hhead : s.service_head = none
  · have hsame := hrun fuel (by omega)
    rw [hhead] at hsame
    obtain ⟨k, rfl⟩ : ∃ k, fuel = k + 1 := ⟨fuel - 1, by omega⟩
    rw [freeEach, Option.some_inj, Prod.mk.injEq] at hsame
    simp only [Api.call, Memory.free_unsecure_server_services, if_pos hhead, ← hsame.2, Option.bind_eq_bind, Option.bind_some]
  · simp only [Api.call, Memory.free_unsecure_server_services, if_neg hhead, hrun fuel (by omega), Option.map_some, Option.bind_eq_bind,
      Option.bind_some]

/-- Every call the program may make comes to a state, and the memory is as it should be there. -/
theorem Sound.call (h : s.Sound L lists) {c : ApiCall} (hc : s.Proper c) : ∃ s' L' lists', s.Calls c s' ∧ s'.Sound L' lists' := by
  cases c with
  | create_device_struct a device => exact ⟨_, L, lists, ⟨0, fun _ _ => rfl⟩, h.create_device_struct hc device⟩
  | create_service_struct service type ID device element =>
    obtain ⟨n, s', lists', hs', hrun⟩ := h.create_service_struct hc
    exact ⟨s', L, lists', ⟨n, hrun⟩, hs'⟩
  | HPD_register_service service element =>
    obtain ⟨n, s', L', hs', hrun⟩ := h.register hc
    exact ⟨s', L', lists, ⟨n, hrun⟩, hs'⟩
  | HPD_unregister_service service =>
    obtain ⟨n, s', L', hs', hrun⟩ := h.unregister hc
    exact ⟨s', L', lists, ⟨n, hrun⟩, hs'⟩
  | destroy_service_struct service =>
    obtain ⟨n, rc, m', lists', hlaid, hfrees, hrun⟩ := h.laid.destroy_service_struct hc
    refine ⟨_, L, lists', ⟨n + L.length, fun fuel hfuel => ?_⟩, h.frees hlaid hfrees⟩
    have hforeach : DL_FOREACH s.memory.elements fuel s.service_head = some L := h.foreach (by omega)
    simp only [Api.call, hforeach, hrun fuel (by omega), Option.bind_eq_bind, Option.bind_some]
  | destroy_device_struct device =>
    obtain ⟨b, hb⟩ := Option.ne_none_iff_exists'.mp hc
    obtain ⟨n, rc, m', lists', hlaid, hfrees, hrun⟩ := h.laid.destroy_device_struct hb
    refine ⟨_, L, lists', ⟨n + L.length, fun fuel hfuel => ?_⟩, h.frees hlaid hfrees⟩
    have hforeach : DL_FOREACH s.memory.elements fuel s.service_head = some L := h.foreach (by omega)
    simp only [Api.call, hforeach, hrun fuel (by omega), Option.bind_eq_bind, Option.bind_some]
  | stop_unsecure_server =>
    obtain ⟨n, s', lists', hs', hrun⟩ := h.stop
    exact ⟨s', [], lists', ⟨n, hrun⟩, hs'⟩

/-- A call comes to one state. -/
theorem Calls.unique {s₁ s₂ : Api} {c : ApiCall} (h₁ : s.Calls c s₁) (h₂ : s.Calls c s₂) : s₁ = s₂ := by
  obtain ⟨n₁, h₁⟩ := h₁
  obtain ⟨n₂, h₂⟩ := h₂
  exact Option.some.inj ((h₁ (n₁ + n₂) (by omega)).symm.trans (h₂ (n₁ + n₂) (by omega)))

theorem Reached.sound {s : Api} (h : Reached s) : ∃ L lists, s.Sound L lists := by
  induction h with
  | start =>
    exact ⟨[], fun _ => [], ⟨⟨none, rfl, rfl⟩, fun hc => absurd hc.symm (Option.some_ne_none _), fun _ => rfl,
      fun hq => absurd hq.symm (Option.some_ne_none _), fun _ _ hp => absurd hp List.not_mem_nil, fun _ hx => absurd hx List.not_mem_nil,
      List.nodup_nil, fun _ hx => absurd hx List.not_mem_nil, fun _ he => absurd rfl he⟩, fun b => by cases b <;> rfl⟩
  | call _ hc hs ih =>
    obtain ⟨L, lists, hsound⟩ := ih
    obtain ⟨s', L', lists', hs', hsound'⟩ := hsound.call hc
    exact ⟨L', lists', hs.unique hs' ▸ hsound'⟩

/-- Without a device nothing is in memory. -/
theorem Sound.nothing (h : s.Sound L lists) (hd : ∀ a, s.memory.devices a = none) (b : Block) : s.memory.has b = false := by
  have hlists (a : Nat) : lists a = [] := h.laid.nowhere (hd a)
  have hservices (q : Nat) : s.memory.services q = none := by
    by_contra hq
    obtain ⟨v, hv⟩ := Option.ne_none_iff_exists'.mp hq
    obtain ⟨a, -, hmem⟩ := h.laid.placed hv
    rw [hlists] at hmem
    exact absurd hmem List.not_mem_nil
  have helements (e : Nat) : s.memory.elements e = none := by
    by_contra he
    rcases h.laid.used e he with hmem | ⟨a, hmem⟩
    · obtain ⟨x, hx, -⟩ := List.mem_map.mp hmem
      exact h.laid.there x hx (hservices x.2)
    · rw [hlists] at hmem
      exact absurd hmem List.not_mem_nil
  cases b with
  | device a => rw [Memory.has, hd, Option.isSome_none]
  | service q => rw [Memory.has, hservices, Option.isSome_none]
  | element e => rw [Memory.has, helements, Option.isSome_none]

end

/-- Whatever calls a program has made, the next one reads nothing that is not there and frees nothing twice; all that was allocated is
there or was freed, once; and when the devices are destroyed nothing is left. -/
theorem memory_safe {s : Api} (h : Reached s) : (∀ c, s.Proper c → ∃ s', s.Calls c s') ∧
    (∀ b, s.allocated.count b = s.memory.freed.count b + (s.memory.has b).toNat) ∧
    ((∀ a, s.memory.devices a = none) → ∀ b, s.memory.freed.count b = s.allocated.count b) := by
  obtain ⟨L, lists, hsound⟩ := h.sound
  refine ⟨fun c hc => ?_, hsound.account, fun hd b => ?_⟩
  · obtain ⟨s', L', lists', hs', -⟩ := hsound.call hc
    exact ⟨s', hs'⟩
  · rw [hsound.account b, hsound.nothing hd b]
    rfl

/-- A lamp, the lamp with its service, and with the service in the server's list. -/
def lamp : Api := start.create_device_struct 0 ⟨none, "l1", none, none, none, none, none, none, "lamp", HPD_NON_SECURE_DEVICE⟩

def lampService : Api := (lamp.call 1 (.create_service_struct 1 "light" "1" 0 (some 2))).get rfl

def lampServed : Api := (lampService.call 1 (.HPD_register_service 1 (some 3))).get rfl

theorem memory_safe_lamp : (∀ c, lampServed.Proper c → ∃ s', lampServed.Calls c s') ∧
    (∀ b, lampServed.allocated.count b = lampServed.memory.freed.count b + (lampServed.memory.has b).toNat) ∧
    ((∀ a, lampServed.memory.devices a = none) → ∀ b, lampServed.memory.freed.count b = lampServed.allocated.count b) := by
  have hlamp : Reached lamp := .call (c := .create_device_struct 0 _) .start rfl ⟨0, fun _ _ => rfl⟩
  have hservice : Reached lampService := by
    refine .call (c := .create_service_struct 1 "light" "1" 0 (some 2)) hlamp
      ⟨rfl, fun _ _ => rfl, _, rfl, fun q v hq => absurd hq.symm (Option.some_ne_none v)⟩ ⟨1, fun fuel hfuel => ?_⟩
    obtain ⟨k, rfl⟩ : ∃ k, fuel = k + 1 := ⟨fuel - 1, by omega⟩
    rfl
  have hserved : Reached lampServed := by
    refine .call (c := .HPD_register_service 1 (some 3)) hservice ⟨Option.some_ne_none _, fun e he => ?_⟩ ⟨1, fun fuel hfuel => ?_⟩
    · cases he
      rfl
    · obtain ⟨k, rfl⟩ : ∃ k, fuel = k + 1 := ⟨fuel - 1, by omega⟩
      rfl
  exact memory_safe hserved

end Api

end HomeBridge.Hpd
