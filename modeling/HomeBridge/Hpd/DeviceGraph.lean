import HomeBridge.Lib.Run
import HomeBridge.Hpd.Services

/-!
# Devices and the services they list

A service points to its device, and the device lists its services. Who creates a service puts it into the list, unless a
service with its URL is there; that is reported by a code that is not looked at, and the service is handed out all the
same. Who destroys a service takes the first one with its type and ID out of the list, and with the last one the device
goes. So a service that did not get into the list takes another's place when it goes.
-/

namespace HomeBridge.Hpd

open Runs

@[simp] def HPD_E_SERVICE_ALREADY_IN_LIST : Int := -14

/-- A `Device` in memory: its strings, and the services its list points to. -/
structure DeviceStruct where
  device : Device
  service_head : List Nat

/-- A `Service` in memory: its strings, and the device it points to. -/
structure ServiceStruct where
  service : Service
  device : Nat

/-- The structures in memory by their addresses, `none` for those that were freed, and the addresses used so far. -/
structure Graph where
  devices : Nat → Option DeviceStruct
  services : Nat → Option ServiceStruct
  nextDevice : Nat
  nextService : Nat

/-- The calls. `element` says whether the list element was allocated; a device is created with an ID and a type. -/
inductive GraphCall where
  | create_device_struct (device : Device)
  | create_service_struct (description ID type unit : Option String) (device : Option Nat)
      (parameter : Option Parameter) (element : Bool)
  | destroy_service_struct (service : Nat)

namespace Graph

def start : Graph := ⟨fun _ => none, fun _ => none, 0, 0⟩

/-- `DL_SEARCH` with `cmp_ServiceElement`: whether some element has the URL. A freed service in the list cannot be
read. -/
def searchUrl (g : Graph) (value_url : String) : List Nat → Option Bool
  | [] => some false
  | elt :: rest =>
    (g.services elt).bind fun s => if s.service.value_url = value_url then some true else g.searchUrl value_url rest

/-- `add_service_to_device`: the returned code and the list. -/
def add_service_to_device (g : Graph) (element : Bool) (service : Nat) (value_url : String) (service_head : List Nat) :
    Option (Int × List Nat) :=
  if element then
    (g.searchUrl value_url service_head).map fun elt =>
      if elt then (HPD_E_SERVICE_ALREADY_IN_LIST, service_head) else (HPD_E_SUCCESS, service_head ++ [service])
  else some (HPD_E_NULL_POINTER, service_head)

/-- `remove_service_from_device`: the first element with the type and the ID is taken out. -/
def remove_service_from_device (g : Graph) (label : String × String) : List Nat → Option (List Nat)
  | [] => some []
  | iterator :: rest =>
    (g.services iterator).bind fun s =>
      if s.service.label = label then some rest else (g.remove_service_from_device label rest).map (iterator :: ·)

/-- `create_service_struct` on a device in memory. The service is handed out unless the code is -1. -/
def createService (g : Graph) (s : Service) (device : Nat) (d : DeviceStruct) (element : Bool) : Option Graph :=
  (g.add_service_to_device element g.nextService s.value_url d.service_head).map fun (code, service_head) =>
    if code = -1 then g
    else
      { g with
        devices := Function.update g.devices device (some { d with service_head := service_head })
        services := Function.update g.services g.nextService (some ⟨s, device⟩)
        nextService := g.nextService + 1 }

/-- `destroy_service_struct` of a service that is not registered. With the last service of its list the device goes. -/
def destroyService (g : Graph) (service : Nat) (s : ServiceStruct) (d : DeviceStruct) : Option Graph :=
  (if d.service_head = [] then some (some d)
    else (g.remove_service_from_device s.service.label d.service_head).map fun service_head =>
      if service_head = [] then none else some { d with service_head := service_head }).map fun device =>
  { g with
    devices := Function.update g.devices s.device device
    services := Function.update g.services service none }

/-- A call. One with a pointer to something that was freed has no defined result. -/
def step (g : Graph) : GraphCall → Option Graph
  | .create_device_struct device =>
    some { g with devices := Function.update g.devices g.nextDevice (some ⟨device, []⟩), nextDevice := g.nextDevice + 1 }
  | .create_service_struct description ID type unit device parameter element =>
    match device with
    | none => some g
    | some p =>
      (g.devices p).bind fun d =>
        match Hpd.create_service_struct description ID type unit (some d.device) parameter with
        | none => some g
        | some s => g.createService s p d element
  | .destroy_service_struct service =>
    (g.services service).bind fun s => (g.devices s.device).bind fun d => g.destroyService service s d

/-- Every service is listed once by its own device, which is there, and no device lists two services with the same type
and ID. -/
structure Coherent (g : Graph) : Prop where
  listed : ∀ p s, g.services p = some s → ∃ d, g.devices s.device = some d ∧ d.service_head.count p = 1
  apart : ∀ i d, g.devices i = some d → d.service_head.Pairwise fun p q =>
    ∀ s s', g.services p = some s → g.services q = some s' → s.service.label ≠ s'.service.label

/-- The destruction of a service leaves every other one as it is, with its device, and listed as before. -/
def Exact (g : Graph) : GraphCall → Prop
  | .destroy_service_struct p => ∀ g', g.step (.destroy_service_struct p) = some g' →
    ∀ q s, q ≠ p → g.services q = some s → g'.services q = some s ∧ ∀ d, g.devices s.device = some d →
      ∃ d', g'.devices s.device = some d' ∧ d'.service_head.count q = d.service_head.count q
  | _ => True

/-- A service that is created has a URL that is new to its device's list. -/
def NewUrl (g : Graph) : GraphCall → Prop
  | .create_service_struct _ (some ID) (some type) _ (some device) _ true => ∀ d, g.devices device = some d →
    ∀ p ∈ d.service_head, ∀ s, g.services p = some s → s.service.value_url ≠ serviceUrl d.device type ID
  | _ => True

/-! ## The list functions, on a list whose services are there -/

section list

variable {g : Graph}

theorem searchUrl_eq (value_url : String) : ∀ {l : List Nat}, (∀ p ∈ l, ∃ s, g.services p = some s) →
    ∃ elt, g.searchUrl value_url l = some elt ∧
      (elt = true ↔ ∃ p ∈ l, ∃ s, g.services p = some s ∧ s.service.value_url = value_url) := by
  intro l
  induction l with
  | nil => exact fun _ => ⟨false, rfl, by simp⟩
  | cons p l ih =>
    intro hlive
    obtain ⟨s, hs⟩ := hlive p (List.mem_cons_self ..)
    by_cases hurl : s.service.value_url = value_url
    · exact ⟨true, by rw [searchUrl, hs, Option.bind_some, if_pos hurl],
        iff_of_true rfl ⟨p, List.mem_cons_self .., s, hs, hurl⟩⟩
    · obtain ⟨elt, he, hiff⟩ := ih fun q hq => hlive q (List.mem_cons_of_mem _ hq)
      refine ⟨elt, by rw [searchUrl, hs, Option.bind_some, if_neg hurl, he], hiff.trans ?_⟩
      rw [List.exists_mem_cons_iff]
      refine (or_iff_right ?_).symm
      rintro ⟨s', hs', hurl'⟩
      exact hurl (Option.some.inj (hs.symm.trans hs') ▸ hurl')

/-- Where the services of the list have different types or IDs, the one that is asked for is taken out. -/
theorem remove_service_from_device_eq {label : String × String} {p : Nat} {s : ServiceStruct} (hp : g.services p = some s)
    (hlabel : s.service.label = label) : ∀ {l : List Nat}, (∀ q ∈ l, ∃ s, g.services q = some s) → p ∈ l →
    (l.Pairwise fun q r => ∀ s s', g.services q = some s → g.services r = some s' → s.service.label ≠ s'.service.label) →
    g.remove_service_from_device label l = some (l.erase p) := by
  intro l
  induction l with
  | nil => exact fun _ hmem => absurd hmem List.not_mem_nil
  | cons q l ih =>
    intro hlive hmem hapart
    obtain ⟨s', hs'⟩ := hlive q (List.mem_cons_self ..)
    rw [List.pairwise_cons] at hapart
    by_cases hq : q = p
    · subst hq
      have hl : s'.service.label = label := by rw [← hlabel, Option.some.inj (hs'.symm.trans hp)]
      rw [remove_service_from_device, hs', Option.bind_some, if_pos hl, List.erase_cons_head]
    · have hmem' : p ∈ l := (List.mem_cons.mp hmem).resolve_left fun he => hq he.symm
      have hl : ¬s'.service.label = label := fun hl => hapart.1 p hmem' s' s hs' hp (hl.trans hlabel.symm)
      rw [remove_service_from_device, hs', Option.bind_some, if_neg hl,
        ih (fun r hr => hlive r (List.mem_cons_of_mem _ hr)) hmem' hapart.2,
        Option.map_some, List.erase_cons_tail (by simpa using hq)]

end list

/-! ## The invariant -/

/-- Besides, what a list points to is there and points back, the URLs are made of the device's strings, and nothing lies
behind the addresses used. -/
structure Inv (g : Graph) : Prop where
  coherent : g.Coherent
  members : ∀ i d, g.devices i = some d → ∀ p ∈ d.service_head, ∃ s, g.services p = some s ∧ s.device = i
  strings : ∀ p s d, g.services p = some s → g.devices s.device = some d → s.service.device = d.device
  noDevice : ∀ i, g.nextDevice ≤ i → g.devices i = none
  noService : ∀ p, g.nextService ≤ p → g.services p = none

theorem inv_start : start.Inv where
  coherent := ⟨fun _ _ hs => (nomatch hs), fun _ _ hd => (nomatch hd)⟩
  members := fun _ _ hd => nomatch hd
  strings := fun _ _ _ hs => nomatch hs
  noDevice := fun _ _ => rfl
  noService := fun _ _ => rfl

section inv

variable {g g' : Graph}

theorem Inv.ne_nextDevice (h : g.Inv) {i : Nat} {d : DeviceStruct} (hd : g.devices i = some d) : i ≠ g.nextDevice := by
  intro he
  rw [he, h.noDevice _ (Nat.le_refl _)] at hd
  cases hd

theorem Inv.ne_nextService (h : g.Inv) {p : Nat} {s : ServiceStruct} (hs : g.services p = some s) : p ≠ g.nextService := by
  intro he
  rw [he, h.noService _ (Nat.le_refl _)] at hs
  cases hs

/-- What is found behind an update of one place is what was put there, or was found in another place before. -/
theorem update_cases {α : Type} {f : Nat → Option α} {i j : Nat} {v : Option α} {a : α}
    (h : Function.update f i v j = some a) : j = i ∧ v = some a ∨ j ≠ i ∧ f j = some a := by
  by_cases hj : j = i
  · subst hj
    rw [Function.update_self] at h
    exact .inl ⟨rfl, h⟩
  · rw [Function.update_of_ne hj] at h
    exact .inr ⟨hj, h⟩

theorem Inv.createDevice (h : g.Inv) (device : Device) :
    Inv { g with devices := Function.update g.devices g.nextDevice (some ⟨device, []⟩), nextDevice := g.nextDevice + 1 } := by
  have hold : ∀ i d, Function.update g.devices g.nextDevice (some ⟨device, []⟩) i = some d →
      g.devices i = some d ∨ d.service_head = [] := by
    intro i d hd
    rcases update_cases hd with ⟨_, he⟩ | ⟨_, hd⟩
    · cases he
      exact .inr rfl
    · exact .inl hd
  refine ⟨⟨fun p s hs => ?_, fun i d hd => ?_⟩, fun i d hd p hp => ?_, fun p s d hs hd => ?_, fun i hi => ?_, h.noService⟩
  · obtain ⟨d, hd, hc⟩ := h.coherent.listed p s hs
    exact ⟨d, (Function.update_of_ne (h.ne_nextDevice hd) ..).trans hd, hc⟩
  · rcases hold i d hd with hd | hnil
    · exact h.coherent.apart i d hd
    · rw [hnil]
      exact List.Pairwise.nil
  · rcases hold i d hd with hd | hnil
    · exact h.members i d hd p hp
    · rw [hnil] at hp
      cases hp
  · obtain ⟨d₀, hd₀, _⟩ := h.coherent.listed p s hs
    exact h.strings p s d hs ((Function.update_of_ne (h.ne_nextDevice hd₀) ..).symm.trans hd)
  · exact (Function.update_of_ne (Nat.ne_of_gt hi) ..).trans (h.noDevice i (Nat.le_of_succ_le hi))

/-- The services of a list are as far apart as they were, as long as those that are still there are the same. -/
theorem apart_of_same {l : List Nat} (hsame : ∀ q ∈ l, ∀ s, g'.services q = some s → g.services q = some s)
    (h : l.Pairwise fun q r => ∀ s s', g.services q = some s → g.services r = some s' → s.service.label ≠ s'.service.label) :
    l.Pairwise fun q r => ∀ s s', g'.services q = some s → g'.services r = some s' → s.service.label ≠ s'.service.label :=
  h.imp_of_mem fun ha hb hab s s' hs hs' => hab s s' (hsame _ ha s hs) (hsame _ hb s' hs')

section create

variable {s : Service} {p : Nat} {d : DeviceStruct}

/-- The graph with a new service, and another list in its device. -/
def added (g : Graph) (s : Service) (device : Nat) (d : DeviceStruct) (service_head : List Nat) : Graph :=
  { g with
    devices := Function.update g.devices device (some { d with service_head := service_head })
    services := Function.update g.services g.nextService (some ⟨s, device⟩)
    nextService := g.nextService + 1 }

/-- What comes of a creation: nothing where the list element was not allocated, a service that is not listed where its
URL is not new, and one that is where it is. -/
theorem createService_cases (h : g.Inv) (hd : g.devices p = some d) (element : Bool) :
    element = false ∧ g.createService s p d element = some g ∨
      element = true ∧ ((∃ q ∈ d.service_head, ∃ s', g.services q = some s' ∧ s'.service.value_url = s.value_url) ∧
          g.createService s p d element = some (g.added s p d d.service_head) ∨
        (∀ q ∈ d.service_head, ∀ s', g.services q = some s' → s'.service.value_url ≠ s.value_url) ∧
          g.createService s p d element = some (g.added s p d (d.service_head ++ [g.nextService]))) := by
  cases element with
  | false => exact .inl ⟨rfl, rfl⟩
  | true =>
    refine .inr ⟨rfl, ?_⟩
    have hlive : ∀ q ∈ d.service_head, ∃ s', g.services q = some s' := fun q hq =>
      (h.members p d hd q hq).imp fun _ h => h.1
    obtain ⟨elt, he, hiff⟩ := searchUrl_eq s.value_url hlive
    cases elt with
    | true => exact .inl ⟨hiff.mp rfl, by simp [createService, add_service_to_device, he, added]⟩
    | false =>
      refine .inr ⟨fun q hq s' hs' hurl => ?_, by simp [createService, add_service_to_device, he, added]⟩
      exact absurd (hiff.mpr ⟨q, hq, s', hs', hurl⟩) (by decide)

/-- A service whose URL is not new has no place in its device's list. -/
theorem not_coherent_added (h : g.Inv) (hd : g.devices p = some d) : ¬(g.added s p d d.service_head).Coherent := by
  intro hc
  obtain ⟨d', hd', hcount⟩ := hc.listed g.nextService ⟨s, p⟩ (Function.update_self ..)
  have he : d'.service_head = d.service_head := by
    rcases update_cases hd' with ⟨_, he⟩ | ⟨hne, _⟩
    · exact congrArg DeviceStruct.service_head (Option.some.inj he).symm
    · exact absurd rfl hne
  have hmem : g.nextService ∈ d.service_head := by
    rw [← he]
    exact List.count_pos_iff.mp (by omega)
  obtain ⟨s', hs', _⟩ := h.members p d hd _ hmem
  exact h.ne_nextService hs' rfl

/-- The services that are there stay as they are. -/
theorem Inv.old_added (h : g.Inv) {service_head : List Nat} {q : Nat} {s' : ServiceStruct} (hq : g.services q = some s') :
    (g.added s p d service_head).services q = some s' := (Function.update_of_ne (h.ne_nextService hq) ..).trans hq

/-- A service of the list with the same type and ID would have the same URL. -/
theorem Inv.new_label (h : g.Inv) (hd : g.devices p = some d) (hs : s.device = d.device)
    (hnew : ∀ q ∈ d.service_head, ∀ s', g.services q = some s' → s'.service.value_url ≠ s.value_url) :
    ∀ q ∈ d.service_head, ∀ s', g.services q = some s' → s'.service.label ≠ s.label := by
  intro q hq s' hs' he
  refine hnew q hq s' hs' (value_url_of_key ?_)
  obtain ⟨s'', hs'', hdev⟩ := h.members p d hd q hq
  cases hs'.symm.trans hs''
  have hstr : s'.service.device = d.device := h.strings q s' d hs' (by rw [hdev, hd])
  rw [Service.key, Service.key, he, hstr, hs]

/-- A service with a new URL has a place in its device's list. -/
theorem Inv.coherent_added (h : g.Inv) (hd : g.devices p = some d)
    (hlabel : ∀ q ∈ d.service_head, ∀ s', g.services q = some s' → s'.service.label ≠ s.label) :
    (g.added s p d (d.service_head ++ [g.nextService])).Coherent := by
  have hfresh : g.nextService ∉ d.service_head := fun hmem => by
    obtain ⟨s', hs', _⟩ := h.members p d hd _ hmem
    exact h.ne_nextService hs' rfl
  have hsame : ∀ i d', g.devices i = some d' → ∀ q ∈ d'.service_head, ∀ s',
      (g.added s p d (d.service_head ++ [g.nextService])).services q = some s' → g.services q = some s' := by
    intro i d' hd' q hq s' hs'
    obtain ⟨s'', hs'', _⟩ := h.members i d' hd' q hq
    exact hs''.trans ((h.old_added hs'').symm.trans hs')
  refine ⟨fun q s' hq => ?_, fun i d' hd' => ?_⟩
  · rcases update_cases hq with ⟨rfl, he⟩ | ⟨hne, hq⟩
    · cases he
      refine ⟨_, Function.update_self .., ?_⟩
      rw [List.count_append, List.count_eq_zero_of_not_mem hfresh, List.count_singleton_self]
    · obtain ⟨d₀, hd₀, hcount⟩ := h.coherent.listed q s' hq
      by_cases hp : s'.device = p
      · subst hp
        cases hd₀.symm.trans hd
        refine ⟨_, Function.update_self .., ?_⟩
        rw [List.count_append, hcount, List.count_eq_zero_of_not_mem (by simpa using hne)]
      · exact ⟨d₀, (Function.update_of_ne hp ..).trans hd₀, hcount⟩
  · rcases update_cases hd' with ⟨rfl, he⟩ | ⟨hne, hd'⟩
    · cases he
      refine List.pairwise_append.mpr ⟨?_, List.pairwise_singleton .., fun q hq r hr => ?_⟩
      · exact apart_of_same (hsame i d hd) (h.coherent.apart i d hd)
      · intro s₁ s₂ h₁ h₂
        rw [List.mem_singleton.mp hr] at h₂
        obtain ⟨s₁', h₁', _⟩ := h.members i d hd q hq
        cases (h.old_added h₁').symm.trans h₁
        cases (Function.update_self ..).symm.trans h₂
        exact hlabel q hq _ h₁'
    · exact apart_of_same (hsame i d' hd') (h.coherent.apart i d' hd')

/-- The step lemma of an addition. -/
theorem Inv.added (h : g.Inv) (hd : g.devices p = some d) (hs : s.device = d.device)
    (hnew : ∀ q ∈ d.service_head, ∀ s', g.services q = some s' → s'.service.value_url ≠ s.value_url) :
    (g.added s p d (d.service_head ++ [g.nextService])).Inv := by
  refine ⟨h.coherent_added hd (h.new_label hd hs hnew), fun i d' hd' q hq => ?_, fun q s' d' hq hd' => ?_, fun i hi => ?_,
    fun q hq => ?_⟩
  · rcases update_cases hd' with ⟨rfl, he⟩ | ⟨hne, hd'⟩
    · cases he
      rcases List.mem_append.mp hq with hq | hq
      · obtain ⟨s', hs', hdev⟩ := h.members i d hd q hq
        exact ⟨s', h.old_added hs', hdev⟩
      · rw [List.mem_singleton.mp hq]
        exact ⟨⟨s, i⟩, Function.update_self .., rfl⟩
    · obtain ⟨s', hs', hdev⟩ := h.members i d' hd' q hq
      exact ⟨s', h.old_added hs', hdev⟩
  · have hstr : ∃ d₁, g.devices s'.device = some d₁ ∧ d'.device = d₁.device := by
      rcases update_cases hd' with ⟨he', he⟩ | ⟨_, hd'⟩
      · cases he
        exact ⟨d, he' ▸ hd, rfl⟩
      · exact ⟨d', hd', rfl⟩
    obtain ⟨d₁, hd₁, he₁⟩ := hstr
    rw [he₁]
    rcases update_cases hq with ⟨rfl, he⟩ | ⟨_, hq⟩
    · cases he
      cases hd₁.symm.trans hd
      exact hs
    · exact h.strings q s' d₁ hq hd₁
  · have hip : i ≠ p := fun he => absurd (he ▸ h.noDevice i hi : g.devices p = none) (hd ▸ Option.some_ne_none d)
    exact (Function.update_of_ne hip ..).trans (h.noDevice i hi)
  · exact (Function.update_of_ne (Nat.ne_of_gt hq) ..).trans (h.noService q (Nat.le_of_succ_le hq))

end create

section destroy

variable {p : Nat} {s : ServiceStruct} {d : DeviceStruct}

/-- The graph without a service, and its device with what is left of its list, or without the device if that is
nothing. -/
def removed (g : Graph) (p : Nat) (s : ServiceStruct) (d : DeviceStruct) : Graph :=
  { g with
    devices := Function.update g.devices s.device
      (if d.service_head.erase p = [] then none else some { d with service_head := d.service_head.erase p })
    services := Function.update g.services p none }

/-- What comes of a destruction. -/
theorem destroyService_eq (h : g.Inv) (hs : g.services p = some s) (hd : g.devices s.device = some d) :
    g.destroyService p s d = some (g.removed p s d) := by
  obtain ⟨d', hd', hcount⟩ := h.coherent.listed p s hs
  cases hd.symm.trans hd'
  have hmem : p ∈ d.service_head := List.count_pos_iff.mp (by omega)
  have hlive : ∀ q ∈ d.service_head, ∃ s', g.services q = some s' := fun q hq => (h.members _ d hd q hq).imp fun _ h => h.1
  have hremove := remove_service_from_device_eq hs rfl hlive hmem (h.coherent.apart _ d hd)
  rw [destroyService, if_neg (List.ne_nil_of_mem hmem), hremove]
  rfl

/-- Another service keeps its device and its place. -/
theorem removed_keeps (h : g.Inv) (hd : g.devices s.device = some d) {q : Nat} {s' : ServiceStruct} (hq : q ≠ p)
    (hs' : g.services q = some s') {d' : DeviceStruct} (hd' : g.devices s'.device = some d') :
    ∃ d'', (g.removed p s d).devices s'.device = some d'' ∧ d''.service_head.count q = d'.service_head.count q := by
  by_cases hdev : s'.device = s.device
  · rw [hdev] at hd'
    cases hd.symm.trans hd'
    obtain ⟨d₀, hd₀, hcount⟩ := h.coherent.listed q s' hs'
    rw [hdev] at hd₀
    cases hd.symm.trans hd₀
    have hsame : (d.service_head.erase p).count q = d.service_head.count q := List.count_erase_of_ne hq
    have hne : d.service_head.erase p ≠ [] :=
      List.ne_nil_of_mem (List.count_pos_iff.mp (by omega : 0 < (d.service_head.erase p).count q))
    refine ⟨{ d with service_head := d.service_head.erase p }, ?_, hsame⟩
    rw [hdev]
    exact (Function.update_self ..).trans (if_neg hne)
  · exact ⟨d', (Function.update_of_ne hdev ..).trans hd', rfl⟩

theorem Inv.removed (h : g.Inv) (hs : g.services p = some s) (hd : g.devices s.device = some d) :
    (g.removed p s d).Inv := by
  have hcount : d.service_head.count p = 1 := by
    obtain ⟨d', hd', hcount⟩ := h.coherent.listed p s hs
    cases hd.symm.trans hd'
    exact hcount
  have hold : ∀ {q s'}, (g.removed p s d).services q = some s' → q ≠ p ∧ g.services q = some s' := by
    intro q s' hq
    rcases update_cases hq with ⟨_, he⟩ | hq
    · cases he
    · exact hq
  -- the device of a list, with what the list was
  have hdevice : ∀ {i d'}, (g.removed p s d).devices i = some d' → ∃ d₀, g.devices i = some d₀ ∧ d'.device = d₀.device ∧
      d'.service_head.Sublist d₀.service_head ∧ p ∉ d'.service_head := by
    intro i d' hd'
    rcases update_cases hd' with ⟨rfl, he⟩ | ⟨hne, hd'⟩
    · split at he
      · cases he
      · cases he
        refine ⟨d, hd, rfl, List.erase_sublist, ?_⟩
        rw [← List.count_eq_zero, List.count_erase_self, hcount]
    · refine ⟨d', hd', rfl, List.Sublist.refl _, fun hmem => ?_⟩
      obtain ⟨s', hs', hdev⟩ := h.members i d' hd' p hmem
      cases hs.symm.trans hs'
      exact hne hdev.symm
  refine ⟨⟨fun q s' hq => ?_, fun i d' hd' => ?_⟩, fun i d' hd' q hq => ?_, fun q s' d' hq hd' => ?_, fun i hi => ?_,
    fun q hq => ?_⟩
  · obtain ⟨hne, hq⟩ := hold hq
    obtain ⟨d₀, hd₀, hc⟩ := h.coherent.listed q s' hq
    obtain ⟨d'', hd'', he⟩ := removed_keeps h hd hne hq hd₀
    exact ⟨d'', hd'', he.trans hc⟩
  · obtain ⟨d₀, hd₀, _, hsub, _⟩ := hdevice hd'
    exact apart_of_same (fun q _ s' hs' => (hold hs').2) ((h.coherent.apart i d₀ hd₀).sublist hsub)
  · obtain ⟨d₀, hd₀, _, hsub, hno⟩ := hdevice hd'
    obtain ⟨s', hs', hdev⟩ := h.members i d₀ hd₀ q (hsub.subset hq)
    have hne : q ≠ p := fun he => hno (he ▸ hq)
    exact ⟨s', (Function.update_of_ne hne ..).trans hs', hdev⟩
  · obtain ⟨d₀, hd₀, he, _⟩ := hdevice hd'
    rw [he]
    exact h.strings q s' d₀ (hold hq).2 hd₀
  · have hne : i ≠ s.device := fun he =>
      absurd (he ▸ h.noDevice i hi : g.devices s.device = none) (hd ▸ Option.some_ne_none d)
    exact (Function.update_of_ne hne ..).trans (h.noDevice i hi)
  · have hne : q ≠ p := fun he => absurd (he ▸ h.noService q hq : g.services p = none) (by rw [hs]; exact nofun)
    exact (Function.update_of_ne hne ..).trans (h.noService q hq)

end destroy

/-! ## A call -/

/-- What a call does, by its arguments. -/
theorem step_cases (h : g.Inv) {a : GraphCall} (hs : g.step a = some g') :
    (∃ device, g' = { g with
      devices := Function.update g.devices g.nextDevice (some ⟨device, []⟩), nextDevice := g.nextDevice + 1 }) ∧
        g.NewUrl a ∨
      g' = g ∧ g.NewUrl a ∨
      (∃ s p d, g.devices p = some d ∧ s.device = d.device ∧
        ((∃ q ∈ d.service_head, ∃ s', g.services q = some s' ∧ s'.service.value_url = s.value_url) ∧
            ¬g.NewUrl a ∧ g' = g.added s p d d.service_head ∨
          (∀ q ∈ d.service_head, ∀ s', g.services q = some s' → s'.service.value_url ≠ s.value_url) ∧
            g.NewUrl a ∧ g' = g.added s p d (d.service_head ++ [g.nextService]))) ∨
      ∃ p s d, a = .destroy_service_struct p ∧ g.services p = some s ∧ g.devices s.device = some d ∧
        g' = g.removed p s d := by
  cases a with
  | create_device_struct device =>
    cases hs
    exact .inl ⟨⟨device, rfl⟩, trivial⟩
  | create_service_struct description ID type unit device parameter element =>
    cases device with
    | none =>
      cases hs
      refine .inr (.inl ⟨rfl, ?_⟩)
      cases ID <;> cases type <;> trivial
    | some p =>
      obtain ⟨d, hd, hs⟩ := Option.bind_eq_some_iff.mp hs
      cases ID with
      | none =>
        cases hs
        exact .inr (.inl ⟨rfl, trivial⟩)
      | some ID =>
        cases type with
        | none =>
          cases hs
          exact .inr (.inl ⟨rfl, trivial⟩)
        | some type =>
          simp only [Hpd.create_service_struct] at hs
          rcases createService_cases h hd element with ⟨rfl, he⟩ | ⟨rfl, ⟨hurl, he⟩ | ⟨hurl, he⟩⟩
          · cases he.symm.trans hs
            exact .inr (.inl ⟨rfl, trivial⟩)
          · cases he.symm.trans hs
            refine .inr (.inr (.inl ⟨_, p, d, hd, rfl, .inl ⟨hurl, fun hnew => ?_, rfl⟩⟩))
            obtain ⟨q, hq, s', hs', hu⟩ := hurl
            exact hnew d hd q hq s' hs' hu
          · cases he.symm.trans hs
            refine .inr (.inr (.inl ⟨_, p, d, hd, rfl, .inr ⟨hurl, fun d' hd' => ?_, rfl⟩⟩))
            cases hd.symm.trans hd'
            exact hurl
  | destroy_service_struct p =>
    obtain ⟨s, hp, hs⟩ := Option.bind_eq_some_iff.mp hs
    obtain ⟨d, hd, hs⟩ := Option.bind_eq_some_iff.mp hs
    rw [destroyService_eq h hp hd, Option.some.injEq] at hs
    exact .inr (.inr (.inr ⟨p, s, d, rfl, hp, hd, hs.symm⟩))

/-- A call keeps the invariant if it creates no service whose URL is not new. -/
theorem Inv.step (h : g.Inv) {a : GraphCall} (hc : g.NewUrl a) (hs : g.step a = some g') : g'.Inv := by
  rcases step_cases h hs with ⟨⟨device, rfl⟩, _⟩ | ⟨rfl, _⟩ | ⟨s, p, d, hd, hstr, ⟨_, hno, _⟩ | ⟨hurl, _, rfl⟩⟩ |
    ⟨p, s, d, rfl, hp, hd, rfl⟩
  · exact h.createDevice device
  · exact h
  · exact absurd hc hno
  · exact h.added hd hstr hurl
  · exact h.removed hp hd

/-- And only then are the services listed as they should be. -/
theorem newUrl_of_coherent (h : g.Inv) {a : GraphCall} (hs : g.step a = some g') (hc : g'.Coherent) : g.NewUrl a := by
  rcases step_cases h hs with ⟨_, hnew⟩ | ⟨_, hnew⟩ | ⟨s, p, d, hd, _, ⟨_, _, rfl⟩ | ⟨_, hnew, _⟩⟩ | ⟨p, s, d, rfl, _⟩
  · exact hnew
  · exact hnew
  · exact absurd hc (not_coherent_added h hd)
  · exact hnew
  · trivial

/-- A destruction is exact. -/
theorem Inv.exact (h : g.Inv) (a : GraphCall) : g.Exact a := by
  cases a with
  | create_device_struct => trivial
  | create_service_struct => trivial
  | destroy_service_struct p =>
    intro g' hs q s' hq hs'
    obtain ⟨s, hp, hs⟩ := Option.bind_eq_some_iff.mp hs
    obtain ⟨d, hd, hs⟩ := Option.bind_eq_some_iff.mp hs
    rw [destroyService_eq h hp hd, Option.some.injEq] at hs
    rw [← hs]
    exact ⟨(Function.update_of_ne hq ..).trans hs', fun d' hd' => removed_keeps h hd hq hs' hd'⟩

end inv

end Graph

open HomeBridge.Hpd.Graph in
/-- In every run of calls, every service is listed once by its own device, whose services have different types or IDs,
and every destruction is exact, exactly if every service that is created has a URL that is new to its device's list. -/
theorem graph_coherent_iff (calls : List GraphCall) :
    Always Graph.step Coherent start calls ∧ Along Graph.step Exact start calls ↔ Along Graph.step NewUrl start calls := by
  have hiff : Always Graph.step Coherent start calls ↔ Along Graph.step NewUrl start calls :=
    always_iff_along (I := Graph.Inv) (fun _ h => h.coherent) (fun _ _ _ h hc hs => h.step hc hs)
      (fun _ _ _ h hs hp => newUrl_of_coherent h hs hp) inv_start
  refine ⟨fun h => hiff.mp h.1, fun h => ⟨hiff.mpr h, ?_⟩⟩
  exact along_of_invariant (fun _ a h => h.exact a) (fun _ _ _ h hc hs => h.step hc hs) inv_start h

/-- The same service is created twice. -/
def createTwice : List GraphCall :=
  let lamp : GraphCall := .create_service_struct none (some "1") (some "lamp") none (some 0) none true
  [.create_device_struct ⟨none, "1", none, none, none, none, none, none, "hub", HPD_NON_SECURE_DEVICE⟩, lamp, lamp]

/-- The second has no place in the list of its device. -/
theorem not_graph_coherent : ¬∀ calls, Always Graph.step Graph.Coherent Graph.start calls := by
  intro h
  have hrun : (run Graph.step Graph.start createTwice).map (fun g => ((g.services 1).map ServiceStruct.device,
      (g.devices 0).map fun d => d.service_head.count 1)) = some (some 0, some 0) := by
    decide
  obtain ⟨g, hg, he⟩ := Option.map_eq_some_iff.mp hrun
  obtain ⟨hs, hd⟩ := Prod.mk.inj he
  obtain ⟨s, hs, hdev⟩ := Option.map_eq_some_iff.mp hs
  obtain ⟨d, hd, hcount⟩ := Option.map_eq_some_iff.mp hd
  have hcoherent := always_iff_beginning.mp (h createTwice) createTwice [] g (List.append_nil _).symm hg
  obtain ⟨d', hd', hone⟩ := hcoherent.listed 1 s hs
  rw [hdev] at hd'
  cases hd.symm.trans hd'
  exact absurd (hcount.symm.trans hone) (by decide)

end HomeBridge.Hpd
