import HomeBridge.Lib.Utlist
import HomeBridge.Hpd.Registry

/-!
# The two descriptions of a service

`hpd_xml.c`, `hpd_services.c` and `hpd_parameters.c`. Who asks a service for its description gets one made from the structs as they are
then. The list of devices has what was copied into the tree when the service was registered, below the node of the first device with
that type and ID. Nothing carries a later change over, and a parameter that is put into one list is taken out of no other.
-/

namespace HomeBridge.Hpd

open Runs Utlist

@[simp] def HPD_E_PARAMETER_ALREADY_IN_LIST : Int := -16
@[simp] def HPD_E_PARAMETER_NOT_IN_LIST : Int := -17

/-! ## Parameters -/

/-- Whether `strcmp` finds two fields equal. The first one may be missing, and is not compared then; the second one may not. -/
def cmpField : Option String × Option String → Option Bool
  | (none, _) => some true
  | (some a, some b) => some (a == b)
  | (some _, none) => none

/-- Whether `cmp_Parameter` gives 0. -/
def cmp_Parameter (a b : Parameter) : Option Bool :=
  [(a.ID, b.ID), (a.max, b.max), (a.min, b.min), (a.scale, b.scale), (a.step, b.step), (a.type, b.type), (a.unit, b.unit),
    (a.values, b.values)].foldlM (fun same field => if same then cmpField field else some false) true

/-! ## The structs and the tree -/

/-- A `Service` in memory: its strings, and where its list of parameters begins. The list in `service` is not used. -/
structure DescribedService where
  service : Service
  parameter_head : Option Nat

/-- The devices with the services they list, the services and the parameters, by their addresses; the services the server lists, and
the tree. -/
structure Daemon where
  devices : List (Device × List Nat)
  services : List DescribedService
  parameters : Heap Parameter
  nextParameter : Nat
  service_head : List Nat
  xml_tree : XmlTree

/-- The calls. A device is created with an ID and a type, and a registration comes with what it meets. -/
inductive DaemonCall where
  | create_device_struct (device : Device)
  | create_parameter_struct (parameter : Parameter)
  | create_service_struct (description ID type unit : Option String) (device : Nat) (parameter : Option Nat)
  | HPD_register_service (o : Outcome) (service : Nat)
  | HPD_register_device_services (o : Nat → Outcome) (device : Nat)
  | add_parameter_to_service (parameter service : Option Nat)
  | remove_parameter_from_service (parameter service : Option Nat)

namespace Daemon

def start : Daemon := ⟨[], [], fun _ => none, 0, [], []⟩

/-- The strings of the services that the server lists. -/
def heads (w : Daemon) : List Service := w.service_head.filterMap fun a => (w.services[a]?).map DescribedService.service

/-- What of it is the registry. -/
def registry (w : Daemon) : Registry := ⟨w.heads, w.xml_tree⟩

/-- A service with its parameters, as the XML functions come to them. -/
def described (w : Daemon) (s : DescribedService) : Option Service :=
  (DL_FOREACH w.parameters w.nextParameter s.parameter_head).map fun l => { s.service with parameter_head := l.map Prod.snd }

/-- `create_parameter_struct`. -/
def create_parameter_struct (w : Daemon) (parameter : Parameter) : Daemon :=
  if parameter.ID = none then w
  else
    { w with
      parameters := Function.update w.parameters w.nextParameter (some ⟨parameter, none, none⟩)
      nextParameter := w.nextParameter + 1 }

/-- `create_service_struct`, of a device that is there. The device lists the service unless it lists one with its URL. -/
def create_service_struct (w : Daemon) (description ID type unit : Option String) (device : Nat) (parameter : Option Nat) :
    Option Daemon := do
  let (d, service_head) ← w.devices[device]?
  match Hpd.create_service_struct description ID type unit (some d) none with
  | none => some w
  | some service =>
    let (parameters, parameter_head) ← parameter.elim (some (w.parameters, none)) (DL_APPEND w.parameters none)
    let elt := service_head.any fun q => (w.services[q]?).any fun s => s.service.value_url == service.value_url
    some { w with
      devices := if elt then w.devices else w.devices.set device (d, service_head ++ [w.services.length])
      services := w.services ++ [⟨service, parameter_head⟩]
      parameters }

/-- `register_service_in_server`. -/
def register_service_in_server (o : Outcome) (w : Daemon) (service : Nat) : Option (Int × Daemon) := do
  let s ← w.services[service]?
  if s.service.device.secure_device = HPD_NON_SECURE_DEVICE then
    if is_unsecure_service_registered w.heads s.service = 1 then some (HPD_E_SERVICE_ALREADY_REGISTER, w)
    else if o.element then
      let described ← w.described s
      let (rc, r) := publishRegistered o w.registry described
      some (rc, { w with service_head := w.service_head ++ [service], xml_tree := r.xml_tree })
    else some (HPD_E_NULL_POINTER, w)
  else if s.service.device.secure_device = HPD_SECURE_DEVICE then some (HPD_E_NO_HTTPS, w)
  else some (HPD_E_BAD_PARAMETER, w)

/-- The loop of `register_device_services`. -/
def registerEach (o : Nat → Outcome) : Daemon → List Nat → Option (Int × Daemon)
  | w, [] => some (HPD_E_SUCCESS, w)
  | w, service :: rest =>
    (w.register_service_in_server (o service) service).bind fun (return_value, w) =>
      if return_value < HPD_E_SUCCESS then some (return_value, w) else registerEach o w rest

/-- `register_device_services`. -/
def register_device_services (o : Nat → Outcome) (w : Daemon) (device : Nat) : Option (Int × Daemon) := do
  let (d, service_head) ← w.devices[device]?
  if d.secure_device = HPD_NON_SECURE_DEVICE then registerEach o w service_head
  else if d.secure_device = HPD_SECURE_DEVICE then some (HPD_E_NO_HTTPS, w)
  else some (HPD_E_BAD_PARAMETER, w)

/-- The element of a service's list that a parameter is taken for. -/
def searchParameter (w : Daemon) (s : DescribedService) (parameter : Parameter) : Option (Option Nat) :=
  DL_SEARCH w.parameters (cmp_Parameter · parameter) w.nextParameter s.parameter_head

/-- `add_parameter_to_service`. -/
def add_parameter_to_service (w : Daemon) : Option Nat → Option Nat → Option (Int × Daemon)
  | some parameter, some service => do
    let s ← w.services[service]?
    let n ← w.parameters parameter
    let elt ← w.searchParameter s n.data
    if elt.isSome then some (HPD_E_PARAMETER_ALREADY_IN_LIST, w)
    else
      let (parameters, parameter_head) ← DL_APPEND w.parameters s.parameter_head parameter
      some (HPD_E_SUCCESS, { w with parameters, services := w.services.set service { s with parameter_head } })
  | _, _ => some (HPD_E_NULL_POINTER, w)

/-- `remove_parameter_from_service`. What is deleted is the parameter handed over, not the element that was found. -/
def remove_parameter_from_service (w : Daemon) : Option Nat → Option Nat → Option (Int × Daemon)
  | some parameter, some service => do
    let s ← w.services[service]?
    let n ← w.parameters parameter
    let elt ← w.searchParameter s n.data
    if elt.isNone then some (HPD_E_PARAMETER_NOT_IN_LIST, w)
    else
      let (parameters, parameter_head) ← DL_DELETE w.parameters s.parameter_head parameter
      some (HPD_E_SUCCESS, { w with parameters, services := w.services.set service { s with parameter_head } })
  | _, _ => some (HPD_E_NULL_POINTER, w)

/-- A call. One with an address that was never given out has no defined result. -/
def step (w : Daemon) : DaemonCall → Option Daemon
  | .create_device_struct device => some { w with devices := w.devices ++ [(device, [])] }
  | .create_parameter_struct parameter => some (w.create_parameter_struct parameter)
  | .create_service_struct description ID type unit device parameter => w.create_service_struct description ID type unit device parameter
  | .HPD_register_service o service => (w.register_service_in_server o service).map Prod.snd
  | .HPD_register_device_services o device => (w.register_device_services o device).map Prod.snd
  | .add_parameter_to_service parameter service => (w.add_parameter_to_service parameter service).map Prod.snd
  | .remove_parameter_from_service parameter service => (w.remove_parameter_from_service parameter service).map Prod.snd

end Daemon

/-! ## What is published -/

/-- A device's node without its services. -/
def XmlDevice.attributes (d : XmlDevice) : XmlDevice := { d with services := [] }

/-- The service nodes of a tree, each with its device's. -/
def xmlNodes (xml_tree : XmlTree) : List (XmlDevice × XmlService) := xml_tree.flatMap fun d => d.services.map (d.attributes, ·)

/-- The nodes of a service in a tree. -/
def nodesOf (xml_tree : XmlTree) (s : Service) : Option (XmlDevice × XmlService) :=
  (xmlNodes xml_tree).find? fun x => x.1.isOf s.device && x.2.isOf s

/-- `extract_service_xml`, up to the text: the device's node and the service's, made by the same lines as those in the tree. -/
def extract_service_xml (xml_tree : XmlTree) (s : Service) : Option (XmlDevice × XmlService) :=
  if service_is_in_xml_file xml_tree s = HPD_NO then none else some (deviceNode s.device, serviceNode s)

namespace Daemon

/-- The server lists a service that has the parameter at `b` in its list. -/
def Lists (w : Daemon) (b : Nat) : Prop :=
  ∃ a ∈ w.service_head, ∃ s l, w.services[a]? = some s ∧ Path w.parameters s.parameter_head l ∧ b ∈ l.map Prod.fst

/-- The service at `a` has a description of its own, and it is the one in the list of devices. -/
def AgreesOn (w : Daemon) (a : Nat) : Prop :=
  ∃ s l x, w.services[a]? = some s ∧ Path w.parameters s.parameter_head l ∧
    extract_service_xml w.xml_tree { s.service with parameter_head := l.map Prod.snd } = some x ∧ nodesOf w.xml_tree s.service = some x

/-- So it is for all services that the server lists. -/
def Agrees (w : Daemon) : Prop := ∀ a ∈ w.service_head, w.AgreesOn a

/-- If the service gets into the server's list, its nodes are allocated, and a device node with its device's type and ID has the
attributes of its device. -/
def CarefulRegistration (o : Outcome) (w : Daemon) (service : Nat) : Prop :=
  ∀ s, w.services[service]? = some s → Admitted o w.registry s.service →
    NodesSuffice o.nodes w.xml_tree s.service ∧
      ∀ d ∈ w.xml_tree, d.isOf s.service.device = true → d.attributes = deviceNode s.service.device

/-- So it is for each registration the loop comes to. -/
def CarefulEach (o : Nat → Outcome) : Daemon → List Nat → Prop
  | _, [] => True
  | w, service :: rest => CarefulRegistration (o service) w service ∧
    ∀ rc w', w.register_service_in_server (o service) service = some (rc, w') → ¬rc < HPD_E_SUCCESS → CarefulEach o w' rest

/-- No call but a registration touches what a service in the server's list is described by: its own list of parameters, and the links of
the parameters in it. An addition links the parameter and the one that was the last, a removal the one in front of the parameter. -/
def Careful (w : Daemon) : DaemonCall → Prop
  | .create_device_struct _ | .create_parameter_struct _ => True
  | .create_service_struct _ ID type _ _ parameter => ID ≠ none → type ≠ none → ∀ p, parameter = some p → ¬w.Lists p
  | .HPD_register_service o service => CarefulRegistration o w service
  | .HPD_register_device_services o device => ∀ d service_head, w.devices[device]? = some (d, service_head) → CarefulEach o w service_head
  | .add_parameter_to_service (some parameter) (some service) => ∀ s n, w.services[service]? = some s →
    w.parameters parameter = some n → w.searchParameter s n.data = some none → service ∉ w.service_head ∧ ¬w.Lists parameter ∧
      ∀ h first last, s.parameter_head = some h → w.parameters h = some first → first.prev = some last → ¬w.Lists last
  | .remove_parameter_from_service (some parameter) (some service) => ∀ s n elt, w.services[service]? = some s →
    w.parameters parameter = some n → w.searchParameter s n.data = some (some elt) → service ∉ w.service_head ∧
      ∀ before, n.prev = some before → ¬w.Lists before
  | .add_parameter_to_service _ _ | .remove_parameter_from_service _ _ => True

end Daemon

/-! ## What a registration does to the tree -/

section

variable {xml_tree : XmlTree} {s : Service}

theorem xmlNodes_keys (xml_tree : XmlTree) : (xmlNodes xml_tree).map (fun x => (x.1.label, x.2.label)) = xmlKeys xml_tree := by
  rw [xmlNodes, xmlKeys, List.map_flatMap]
  refine congrArg (List.flatMap · xml_tree) (funext fun d => ?_)
  rw [List.map_map]
  rfl

theorem isOf_iff_key {x : XmlDevice × XmlService} : (x.1.isOf s.device && x.2.isOf s) = true ↔ (x.1.label, x.2.label) = s.key := by
  rw [Bool.and_eq_true, XmlDevice.isOf_iff, XmlService.isOf_iff]
  exact ⟨fun h => Prod.ext h.1 h.2, Prod.mk.inj⟩

/-- The nodes found are the service's. -/
theorem mem_xmlKeys_of_nodesOf {x : XmlDevice × XmlService} (h : nodesOf xml_tree s = some x) : s.key ∈ xmlKeys xml_tree := by
  rw [nodesOf] at h
  have hof := List.find?_some h
  rw [← xmlNodes_keys, ← isOf_iff_key.mp hof]
  exact List.mem_map_of_mem (List.mem_of_find?_eq_some h)

/-- The description is there for the services in the tree. -/
theorem extract_eq_some (hk : s.key ∈ xmlKeys xml_tree) : extract_service_xml xml_tree s = some (deviceNode s.device, serviceNode s) :=
  if_neg fun hno => service_not_in_xml_iff.mp hno hk

/-- Adding a device adds no service; where it was not in the tree, its node is made of its own attributes. -/
theorem deviceAdded_nodes {nodes : XmlNodes} {device : Device} (hn : nodes.device = true ∨ device_is_in_xml_file xml_tree device = HPD_YES)
    (hd : ∀ d ∈ xml_tree, d.isOf device = true → d.attributes = deviceNode device) :
    xmlNodes (deviceAdded nodes xml_tree device) = xmlNodes xml_tree ∧ ∃ before d after,
      deviceAdded nodes xml_tree device = before ++ d :: after ∧ d.attributes = deviceNode device ∧
      get_xml_node_of_device (deviceAdded nodes xml_tree device) device = some before.length := by
  have hsplit {T : XmlTree} (hT : device.label ∈ T.map XmlDevice.label)
      (hdT : ∀ d ∈ T, d.isOf device = true → d.attributes = deviceNode device) :
      ∃ before d after, T = before ++ d :: after ∧ d.attributes = deviceNode device ∧
        get_xml_node_of_device T device = some before.length := by
    obtain ⟨i, hi⟩ := Option.ne_none_iff_exists'.mp fun hno => get_xml_node_of_device_eq_none.mp hno hT
    obtain ⟨before, d, after, rfl, rfl, hdev⟩ := split_of_findIdx? hi
    exact ⟨before, d, after, rfl, hdT d (List.mem_append_right _ (List.mem_cons_self ..)) hdev, hi⟩
  by_cases hdev : device.label ∈ xml_tree.map XmlDevice.label
  · have he : deviceAdded nodes xml_tree device = xml_tree := if_neg fun hno => device_not_in_xml_iff.mp hno hdev
    rw [he]
    exact ⟨rfl, hsplit hdev hd⟩
  · have hno : ¬device_is_in_xml_file xml_tree device = HPD_YES := fun hy => hdev (device_in_xml_iff.mp hy)
    have he : deviceAdded nodes xml_tree device = xml_tree ++ [deviceNode device] := by
      rw [deviceAdded, if_pos (device_not_in_xml_iff.mpr hdev), add_device_to_xml, if_neg hno]
      exact if_pos (hn.resolve_right hno)
    rw [he]
    refine ⟨?_, hsplit ?_ fun d hmem hdev => ?_⟩
    · rw [xmlNodes, List.flatMap_append]
      exact List.append_nil _
    · rw [List.map_append]
      exact List.mem_append_right _ (List.mem_singleton_self _)
    · rcases List.mem_append.mp hmem with hmem | hmem
      · exact hd d hmem hdev
      · rw [List.mem_singleton.mp hmem]
        rfl

/-- A new node of the service takes its place among the others, below the attributes of its own device, if those of the device of its
type and ID are the same. -/
theorem add_service_to_xml_nodes {nodes : XmlNodes} (hk : s.key ∉ xmlKeys xml_tree) (hn : NodesSuffice nodes xml_tree s)
    (hd : ∀ d ∈ xml_tree, d.isOf s.device = true → d.attributes = deviceNode s.device) : ∃ before after,
      xmlNodes xml_tree = before ++ after ∧
      xmlNodes (add_service_to_xml nodes xml_tree s).2 = before ++ (deviceNode s.device, serviceNode s) :: after := by
  obtain ⟨hnodes, before, d, after, hsplit, hattr, hnode⟩ := deviceAdded_nodes hn.1 hd
  have he : (add_service_to_xml nodes xml_tree s).2 = before ++ d.append (serviceNode s) :: after := by
    have hadd : add_service_to_xml nodes xml_tree s = _ := if_neg fun hy => hk (service_in_xml_iff.mp hy)
    rw [hadd]
    dsimp only
    rw [hnode]
    dsimp only
    rw [if_pos hn.2, hsplit, modify_split]
  refine ⟨xmlNodes before ++ d.services.map (d.attributes, ·), xmlNodes after, ?_, ?_⟩
  · rw [← hnodes, hsplit, xmlNodes, List.flatMap_append, List.flatMap_cons, List.append_assoc]
    rfl
  · have hnew : (d.append (serviceNode s)).services.map ((d.append (serviceNode s)).attributes, ·) =
        d.services.map (d.attributes, ·) ++ [(deviceNode s.device, serviceNode s)] := by
      rw [← hattr, XmlDevice.append, List.map_append]
      rfl
    rw [he, xmlNodes, List.flatMap_append, List.flatMap_cons, hnew]
    simp only [List.append_assoc, List.singleton_append]
    rfl

/-- A description that is added adds the service's key, and no other. -/
theorem xmlKeys_added {nodes : XmlNodes} (hk : s.key ∉ xmlKeys xml_tree) (hn : NodesSuffice nodes xml_tree s)
    (hd : ∀ d ∈ xml_tree, d.isOf s.device = true → d.attributes = deviceNode s.device) (k : ServiceKey) :
    k ∈ xmlKeys (add_service_to_xml nodes xml_tree s).2 ↔ k ∈ xmlKeys xml_tree ∨ k = s.key := by
  obtain ⟨before, after, hold, hnew⟩ := add_service_to_xml_nodes hk hn hd
  rw [← xmlNodes_keys, ← xmlNodes_keys, hold, hnew, List.map_append, List.map_append, List.map_cons, List.mem_append, List.mem_append,
    List.mem_cons]
  exact or_left_comm.trans or_comm

/-- The new nodes are found for the service, and the others find theirs as before. -/
theorem nodesOf_added {nodes : XmlNodes} (hk : s.key ∉ xmlKeys xml_tree) (hn : NodesSuffice nodes xml_tree s)
    (hd : ∀ d ∈ xml_tree, d.isOf s.device = true → d.attributes = deviceNode s.device) :
    nodesOf (add_service_to_xml nodes xml_tree s).2 s = some (deviceNode s.device, serviceNode s) ∧
      ∀ s', s'.key ≠ s.key → nodesOf (add_service_to_xml nodes xml_tree s).2 s' = nodesOf xml_tree s' := by
  obtain ⟨before, after, hold, hnew⟩ := add_service_to_xml_nodes hk hn hd
  have hkey : ((deviceNode s.device).label, (serviceNode s).label) = s.key := rfl
  constructor
  · have hnone : before.find? (fun x => x.1.isOf s.device && x.2.isOf s) = none := by
      refine List.find?_eq_none.mpr fun x hx hof => hk ?_
      rw [← xmlNodes_keys, ← isOf_iff_key.mp hof, hold]
      exact List.mem_map_of_mem (List.mem_append_left _ hx)
    rw [nodesOf, hnew, List.find?_append, hnone, Option.none_or]
    exact List.find?_cons_of_pos (isOf_iff_key.mpr hkey)
  · intro s' hne
    have hother : ¬((deviceNode s.device).isOf s'.device && (serviceNode s).isOf s') = true := fun hof => by
      exact hne (((@isOf_iff_key s' (deviceNode s.device, serviceNode s)).mp hof).symm.trans hkey)
    rw [nodesOf, nodesOf, hold, hnew, List.find?_append, List.find?_append]
    exact congrArg _ (List.find?_cons_of_neg hother)

end

namespace Daemon

variable {w w' : Daemon}

/-! ## What the calls leave alone -/

/-- Besides, only services that the server lists are in the tree, and there are no parameters but those created. -/
structure Inv (w : Daemon) : Prop where
  agrees : w.Agrees
  keys : ∀ k ∈ xmlKeys w.xml_tree, k ∈ w.heads.map Service.key
  bounded : ∀ b, w.nextParameter ≤ b → w.parameters b = none

/-- Nothing is listed at the start. -/
theorem inv_start : start.Inv :=
  ⟨fun _ ha => absurd ha List.not_mem_nil, fun _ hk => absurd hk List.not_mem_nil, fun _ _ => rfl⟩

/-- The descriptions stay as they are where the services that the server lists do, and what a walk along their lists sees. -/
theorem Inv.kept (h : w.Inv) (hhead : w'.service_head = w.service_head) (htree : w'.xml_tree = w.xml_tree)
    (hservices : ∀ a ∈ w.service_head, w'.services[a]? = w.services[a]?)
    (hseen : ∀ b, w.Lists b → w'.parameters.seen b = w.parameters.seen b)
    (hbounded : ∀ b, w'.nextParameter ≤ b → w'.parameters b = none) : w'.Inv := by
  have hheads : w'.heads = w.heads := by
    rw [heads, heads, hhead]
    exact List.filterMap_congr fun a ha => by rw [hservices a ha]
  refine ⟨fun a ha => ?_, by rw [htree, hheads]; exact h.keys, hbounded⟩
  rw [hhead] at ha
  obtain ⟨s, l, x, hs, hl, hx, hnodes⟩ := h.agrees a ha
  refine ⟨s, l, x, (hservices a ha).trans hs, hl.congr fun b hb => hseen b ⟨a, ha, s, l, hs, hl, hb⟩, ?_, ?_⟩ <;> rw [htree]
  · exact hx
  · exact hnodes

/-- A walk along a list comes to parameters that are there. -/
theorem Lists.isNode {b : Nat} (h : w.Lists b) : w.parameters b ≠ none := by
  obtain ⟨a, _, s, l, _, hl, hb⟩ := h
  exact hl.isNode hb

/-- A service is described by its list of parameters, however long that is; it has no description only if the list has no end. -/
theorem Inv.described_iff (h : w.Inv) {s : DescribedService} {described : Service} : w.described s = some described ↔
    ∃ l, Path w.parameters s.parameter_head l ∧ described = { s.service with parameter_head := l.map Prod.snd } := by
  constructor
  · intro hd
    obtain ⟨l, hl, rfl⟩ := Option.map_eq_some_iff.mp hd
    exact ⟨l, path_of_foreach hl, rfl⟩
  · rintro ⟨l, hl, rfl⟩
    exact congrArg (Option.map _) (hl.foreach (hl.length_le h.bounded))

/-- What the macros keep of the parameters. -/
theorem bounded_of_data {parameters : Heap Parameter} (h : ∀ b, w.nextParameter ≤ b → w.parameters b = none)
    (hdata : ∀ b, parameters.data b = w.parameters.data b) : ∀ b, w.nextParameter ≤ b → parameters b = none := by
  intro b hb
  have hnone := hdata b
  rwa [Heap.data, Heap.data, h b hb, Option.map_none, Option.map_eq_none_iff] at hnone

/-- A new parameter is in no list. -/
theorem Inv.create_parameter_struct (h : w.Inv) (parameter : Parameter) : (w.create_parameter_struct parameter).Inv := by
  unfold Daemon.create_parameter_struct
  split
  · exact h
  · refine h.kept rfl rfl (fun _ _ => rfl) (fun b hb => seen_of_eq (Function.update_of_ne ?_ ..)) fun b hb => ?_
    · rintro rfl
      exact hb.isNode (h.bounded _ (Nat.le_refl _))
    · exact (Function.update_of_ne (Nat.ne_of_gt hb) ..).trans (h.bounded b (Nat.le_of_succ_le hb))

/-- A new service may link its first parameter, which is in the list of none that is listed. -/
theorem Inv.create_service_struct (h : w.Inv) {description ID type unit : Option String} {device : Nat} {parameter : Option Nat}
    (hc : w.Careful (.create_service_struct description ID type unit device parameter))
    (hw : w.create_service_struct description ID type unit device parameter = some w') : w'.Inv := by
  obtain ⟨⟨d, service_head⟩, _, hw⟩ := Option.bind_eq_some_iff.mp hw
  dsimp only at hw
  cases hcreate : Hpd.create_service_struct description ID type unit (some d) none with
  | none =>
    rw [hcreate] at hw
    cases hw
    exact h
  | some service =>
    rw [hcreate] at hw
    obtain ⟨⟨parameters, parameter_head⟩, happ, hw⟩ := Option.bind_eq_some_iff.mp hw
    cases hw
    have hgiven : ID ≠ none ∧ type ≠ none := by
      cases ID with
      | none => exact absurd hcreate.symm (Option.some_ne_none _)
      | some ID =>
        cases type with
        | none => exact absurd hcreate.symm (Option.some_ne_none _)
        | some type => exact ⟨Option.some_ne_none _, Option.some_ne_none _⟩
    have hold (a : Nat) (ha : a ∈ w.service_head) : (w.services ++ [⟨service, parameter_head⟩])[a]? = w.services[a]? := by
      obtain ⟨s, _, _, hs, _⟩ := h.agrees a ha
      exact List.getElem?_append_left (List.getElem?_eq_some_iff.mp hs).1
    cases parameter with
    | none =>
      cases happ
      exact h.kept rfl rfl hold (fun _ _ => rfl) h.bounded
    | some p =>
      have happ : DL_APPEND w.parameters none p = some (parameters, parameter_head) := happ
      obtain ⟨hdata, hseen⟩ := append_leaves happ
      refine h.kept rfl rfl hold (fun b hb => hseen b ?_ fun _ _ ha => absurd ha.symm (Option.some_ne_none _))
        (bounded_of_data (w := w) h.bounded hdata)
      rintro rfl
      exact hc hgiven.1 hgiven.2 b rfl hb

/-- A change to the parameters, and to the list of a service that the server does not list. -/
theorem Inv.listChanged (h : w.Inv) {parameters : Heap Parameter} {service : Nat} {s : DescribedService}
    (hnot : service ∉ w.service_head) (hdata : ∀ b, parameters.data b = w.parameters.data b)
    (hseen : ∀ b, w.Lists b → parameters.seen b = w.parameters.seen b) :
    Inv { w with parameters, services := w.services.set service s } := by
  refine h.kept rfl rfl (fun a ha => List.getElem?_set_ne ?_) hseen (bounded_of_data (w := w) h.bounded hdata)
  rintro rfl
  exact hnot ha

/-- An addition or a removal is refused, or it has found what it was to find and changes the list of one service. -/
theorem edit_cases {p a : Nat} {rc code : Int} {r : Option Nat → Bool}
    {f : Heap Parameter → Option Nat → Option (Heap Parameter × Option Nat)}
    (hw : (do
      let s ← w.services[a]?
      let n ← w.parameters p
      let elt ← w.searchParameter s n.data
      if r elt then some (code, w)
      else
        let (parameters, parameter_head) ← f w.parameters s.parameter_head
        some (HPD_E_SUCCESS, { w with parameters, services := w.services.set a { s with parameter_head } })) = some (rc, w')) :
    w' = w ∨ ∃ s n elt parameters parameter_head, w.services[a]? = some s ∧ w.parameters p = some n ∧
      w.searchParameter s n.data = some elt ∧ r elt = false ∧ f w.parameters s.parameter_head = some (parameters, parameter_head) ∧
      w' = { w with parameters, services := w.services.set a { s with parameter_head } } := by
  obtain ⟨s, hs, hw⟩ := Option.bind_eq_some_iff.mp hw
  obtain ⟨n, hn, hw⟩ := Option.bind_eq_some_iff.mp hw
  obtain ⟨elt, helt, hw⟩ := Option.bind_eq_some_iff.mp hw
  cases hr : r elt with
  | true =>
    rw [hr] at hw
    cases hw
    exact .inl rfl
  | false =>
    rw [hr] at hw
    obtain ⟨⟨parameters, parameter_head⟩, hf, hw⟩ := Option.bind_eq_some_iff.mp hw
    cases hw
    exact .inr ⟨s, n, elt, parameters, parameter_head, hs, hn, helt, hr, hf, rfl⟩

/-- An addition changes the links of parameters that no listed service has. -/
theorem Inv.add_parameter (h : w.Inv) {parameter service : Option Nat} {rc : Int}
    (hc : w.Careful (.add_parameter_to_service parameter service))
    (hw : w.add_parameter_to_service parameter service = some (rc, w')) : w'.Inv := by
  rcases parameter with _ | p
  · cases hw
    exact h
  rcases service with _ | a
  · cases hw
    exact h
  rcases edit_cases (p := p) (a := a) (r := Option.isSome) (f := (DL_APPEND · · p)) hw with
    rfl | ⟨s, n, elt, parameters, parameter_head, hs, hn, helt, hr, happ, rfl⟩
  · exact h
  · rw [Option.not_isSome_iff_eq_none.mp (Bool.eq_false_iff.mp hr)] at helt
    obtain ⟨hnot, hp, hlast⟩ := hc s n hs hn helt
    obtain ⟨hdata, hseen⟩ := append_leaves happ
    refine h.listChanged hnot hdata fun b hb => hseen b ?_ fun first node hfirst hnode hprev => ?_
    · rintro rfl
      exact hp hb
    · exact hlast first node b hfirst hnode hprev hb

/-- So does a removal. -/
theorem Inv.remove_parameter (h : w.Inv) {parameter service : Option Nat} {rc : Int}
    (hc : w.Careful (.remove_parameter_from_service parameter service))
    (hw : w.remove_parameter_from_service parameter service = some (rc, w')) : w'.Inv := by
  rcases parameter with _ | p
  · cases hw
    exact h
  rcases service with _ | a
  · cases hw
    exact h
  rcases edit_cases (p := p) (a := a) (r := Option.isNone) (f := (DL_DELETE · · p)) hw with
    rfl | ⟨s, n, elt, parameters, parameter_head, hs, hn, helt, hr, hdel, rfl⟩
  · exact h
  · obtain ⟨e, rfl⟩ := Option.isSome_iff_exists.mp (Option.isNone_eq_false_iff.mp hr)
    obtain ⟨hnot, hbefore⟩ := hc s n e hs hn helt
    obtain ⟨hdata, hseen⟩ := delete_leaves hdel
    refine h.listChanged hnot hdata fun b hb => hseen b fun node hnode hprev => ?_
    rw [Option.some.inj (hnode.symm.trans hn)] at hprev
    exact hbefore b hprev hb

/-! ## Registrations -/

/-- Whatever Avahi says, the tree is the one with the service offered to it. -/
theorem publishRegistered_tree (o : Outcome) (r : Registry) (s : Service) :
    (publishRegistered o r s).2.xml_tree = (add_service_to_xml o.nodes r.xml_tree s).2 := by
  rw [publishRegistered]
  dsimp only
  split
  · rfl
  · split
    · rfl
    · rfl

/-- Where a service gets into the server's list, its nodes are offered to the tree. -/
theorem register_cases {o : Outcome} {service : Nat} {rc : Int}
    (hw : w.register_service_in_server o service = some (rc, w')) : ∃ s, w.services[service]? = some s ∧
      (w' = w ∨ Admitted o w.registry s.service ∧ ∃ l, Path w.parameters s.parameter_head l ∧ w' = { w with
        service_head := w.service_head ++ [service]
        xml_tree := (add_service_to_xml o.nodes w.xml_tree { s.service with parameter_head := l.map Prod.snd }).2 }) := by
  obtain ⟨s, hs, hw⟩ := Option.bind_eq_some_iff.mp hw
  refine ⟨s, hs, ?_⟩
  by_cases hsec : s.service.device.secure_device = HPD_NON_SECURE_DEVICE
  · rw [if_pos hsec] at hw
    rcases registered_cases w.heads s.service with h0 | h1
    · rw [if_neg (by rw [h0]; decide)] at hw
      cases helement : o.element with
      | false =>
        rw [helement] at hw
        cases hw
        exact .inl rfl
      | true =>
        rw [helement, if_pos rfl] at hw
        obtain ⟨described, hd, hw⟩ := Option.bind_eq_some_iff.mp hw
        obtain ⟨l, hl, rfl⟩ := Option.map_eq_some_iff.mp hd
        have htree := publishRegistered_tree o w.registry { s.service with parameter_head := l.map Prod.snd }
        rcases hpublish : publishRegistered o w.registry { s.service with parameter_head := l.map Prod.snd } with ⟨code, r⟩
        rw [hpublish] at hw htree
        cases hw
        exact .inr ⟨⟨hsec, h0, helement⟩, l, path_of_foreach hl, congrArg _ htree⟩
    · rw [if_pos h1] at hw
      cases hw
      exact .inl rfl
  · rw [if_neg hsec] at hw
    split at hw <;> cases hw <;> exact .inl rfl

/-- A service that gets into the list is described by copies of what its live structs hold then. -/
theorem Inv.register (h : w.Inv) {o : Outcome} {service : Nat} {rc : Int} (hc : CarefulRegistration o w service)
    (hw : w.register_service_in_server o service = some (rc, w')) : w'.Inv := by
  obtain ⟨s, hs, rfl | ⟨hadmitted, l, hl, rfl⟩⟩ := register_cases hw
  · exact h
  obtain ⟨hn, hd⟩ := hc s hs hadmitted
  have hnew : s.service.key ∉ w.heads.map Service.key := not_registered_iff.mp hadmitted.2.1
  have hk : s.service.key ∉ xmlKeys w.xml_tree := fun hmem => hnew (h.keys _ hmem)
  have hkeys := @xmlKeys_added w.xml_tree { s.service with parameter_head := l.map Prod.snd } o.nodes hk hn hd
  obtain ⟨hself, hothers⟩ := @nodesOf_added w.xml_tree { s.service with parameter_head := l.map Prod.snd } o.nodes hk hn hd
  have hheads : heads { w with
      service_head := w.service_head ++ [service]
      xml_tree := (add_service_to_xml o.nodes w.xml_tree { s.service with parameter_head := l.map Prod.snd }).2 } =
      w.heads ++ [s.service] := by
    rw [heads, List.filterMap_append, heads, List.filterMap_cons, hs]
    rfl
  refine ⟨fun a ha => ?_, fun k hk => ?_, h.bounded⟩
  · rcases List.mem_append.mp ha with ha | ha
    · obtain ⟨s', l', x, hs', hl', hx, hnodes⟩ := h.agrees a ha
      have hmem : s'.service.key ∈ xmlKeys w.xml_tree := mem_xmlKeys_of_nodesOf hnodes
      have hne : s'.service.key ≠ s.service.key := fun he => hk (he ▸ hmem)
      refine ⟨s', l', x, hs', hl', ?_, (hothers s'.service hne).trans hnodes⟩
      rw [← hx, @extract_eq_some w.xml_tree { s'.service with parameter_head := l'.map Prod.snd } hmem]
      exact extract_eq_some ((hkeys _).mpr (.inl hmem))
    · rw [List.mem_singleton.mp ha]
      exact ⟨s, l, _, hs, hl, extract_eq_some ((hkeys _).mpr (.inr rfl)), hself⟩
  · rw [hheads, List.map_append, List.mem_append]
    exact ((hkeys k).mp hk).imp (h.keys k) fun he => List.mem_singleton.mpr he

/-- So is each service of a device, up to the first that fails. -/
theorem Inv.registerEach {o : Nat → Outcome} {rc : Int} : ∀ {services : List Nat} {w : Daemon}, w.Inv → CarefulEach o w services →
    registerEach o w services = some (rc, w') → w'.Inv := by
  intro services
  induction services with
  | nil =>
    intro w h _ hw
    cases hw
    exact h
  | cons service rest ih =>
    rintro w h ⟨hc, hrest⟩ hw
    obtain ⟨⟨return_value, w₁⟩, hregister, hw⟩ := Option.bind_eq_some_iff.mp hw
    dsimp only at hw
    have h₁ := h.register hc hregister
    by_cases hfail : return_value < HPD_E_SUCCESS
    · rw [if_pos hfail] at hw
      cases hw
      exact h₁
    · rw [if_neg hfail] at hw
      exact ih h₁ (hrest _ _ hregister hfail) hw

/-- The step lemma. -/
theorem Inv.step (h : w.Inv) {c : DaemonCall} (hc : w.Careful c) (hw : w.step c = some w') : w'.Inv := by
  cases c with
  | create_device_struct device =>
    cases hw
    exact h.kept rfl rfl (fun _ _ => rfl) (fun _ _ => rfl) h.bounded
  | create_parameter_struct parameter =>
    cases hw
    exact h.create_parameter_struct parameter
  | create_service_struct description ID type unit device parameter => exact h.create_service_struct hc hw
  | HPD_register_service o service =>
    obtain ⟨⟨rc, _⟩, hregister, rfl⟩ := Option.map_eq_some_iff.mp hw
    exact h.register hc hregister
  | HPD_register_device_services o device =>
    obtain ⟨⟨rc, _⟩, hregister, rfl⟩ := Option.map_eq_some_iff.mp hw
    obtain ⟨⟨d, service_head⟩, hd, hregister⟩ := Option.bind_eq_some_iff.mp hregister
    dsimp only at hregister
    by_cases hsec : d.secure_device = HPD_NON_SECURE_DEVICE
    · rw [if_pos hsec] at hregister
      exact h.registerEach (hc d service_head hd) hregister
    · rw [if_neg hsec] at hregister
      split at hregister <;> cases hregister <;> exact h
  | add_parameter_to_service parameter service =>
    obtain ⟨⟨rc, _⟩, hadd, rfl⟩ := Option.map_eq_some_iff.mp hw
    exact h.add_parameter hc hadd
  | remove_parameter_from_service parameter service =>
    obtain ⟨⟨rc, _⟩, hremove, rfl⟩ := Option.map_eq_some_iff.mp hw
    exact h.remove_parameter hc hremove

end Daemon

open Daemon in
/-- In every run whose calls are careful, each service that the server lists is described to those who ask it as it is in the list of
devices. -/
theorem descriptions_agree {calls : List DaemonCall} (h : Along Daemon.step Careful Daemon.start calls) :
    Always Daemon.step Agrees Daemon.start calls :=
  h.always (fun _ hw => hw.agrees) (fun _ _ _ hw hc hs => hw.step hc hs) inv_start

def roomThermometer : Device := ⟨none, "t1", none, none, none, none, none, none, "thermometer", HPD_NON_SECURE_DEVICE⟩

def limits : Parameter := ⟨some "0", some "80", some "-20", none, none, none, none, none⟩

/-- A service that is registered with its parameter, and then another one that gets its parameter, and loses it. -/
def earlyParameter : List DaemonCall :=
  [.create_device_struct roomThermometer, .create_parameter_struct limits,
    .create_service_struct none (some "1") (some "temp") none 0 (some 0), .HPD_register_service ⟨true, ⟨true, true⟩, 0⟩ 0,
    .create_parameter_struct limits, .create_service_struct none (some "2") (some "temp") none 0 none,
    .add_parameter_to_service (some 1) (some 1), .remove_parameter_from_service (some 1) (some 1)]

/-- The one service that is listed has the first parameter only. -/
theorem Daemon.lists_first {w : Daemon} {b : Nat} (hhead : w.service_head = [0])
    (hservice : (w.services[0]?).map DescribedService.parameter_head = some (some 0))
    (hparameter : (w.parameters 0).map Node.next = some none) (h : w.Lists b) : b = 0 := by
  obtain ⟨a, ha, s, l, hs, hl, hb⟩ := h
  rw [hhead, List.mem_singleton] at ha
  cases ha
  rw [hs, Option.map_some, Option.some.injEq] at hservice
  rw [hservice] at hl
  rcases l with _ | ⟨⟨c, x⟩, l⟩
  · exact absurd hb List.not_mem_nil
  · obtain ⟨hc, n, hn, -, hl⟩ := hl
    cases hc
    rw [hn, Option.map_some, Option.some.injEq] at hparameter
    rw [hparameter] at hl
    rcases l with _ | ⟨y, l⟩
    · exact List.mem_singleton.mp hb
    · exact absurd hl.1.symm (Option.some_ne_none _)

/-- The second service is not listed, and the first one has its parameter already. -/
theorem earlyParameter_careful : Along Daemon.step Daemon.Careful Daemon.start earlyParameter := by
  refine (along_cons_some rfl).mpr ⟨trivial, (along_cons_some rfl).mpr ⟨trivial, (along_cons_some rfl).mpr ⟨?_, ?_⟩⟩⟩
  · rintro - - p - ⟨a, ha, -⟩
    exact absurd ha List.not_mem_nil
  refine (along_cons_some rfl).mpr ⟨fun s _ _ => ⟨⟨.inl rfl, rfl⟩, fun d hd => absurd hd List.not_mem_nil⟩, ?_⟩
  refine (along_cons_some rfl).mpr ⟨trivial, (along_cons_some rfl).mpr ⟨fun _ _ p hp => absurd hp.symm (Option.some_ne_none p), ?_⟩⟩
  refine (along_cons_some rfl).mpr ⟨?_, (along_cons_some rfl).mpr ⟨?_, trivial⟩⟩
  · rintro s n hs - -
    cases hs
    exact ⟨by decide, fun h => absurd (Daemon.lists_first rfl rfl rfl h) Nat.one_ne_zero,
      fun h _ _ hh => absurd hh.symm (Option.some_ne_none h)⟩
  · rintro s n elt - hn -
    cases hn
    refine ⟨by decide, fun before hbefore h => ?_⟩
    cases hbefore
    exact absurd (Daemon.lists_first rfl rfl rfl h) Nat.one_ne_zero

/-- The first service is described to the end as it was when it was registered. -/
theorem descriptions_agree_early : Along Daemon.step Daemon.Careful Daemon.start earlyParameter ∧
    Always Daemon.step Daemon.Agrees Daemon.start earlyParameter ∧
      (run Daemon.step Daemon.start earlyParameter).map Daemon.service_head = some [0] :=
  ⟨earlyParameter_careful, descriptions_agree earlyParameter_careful, rfl⟩

/-- A service that is registered before it gets its parameter. -/
def lateParameter : List DaemonCall :=
  [.create_device_struct roomThermometer, .create_parameter_struct limits,
    .create_service_struct none (some "1") (some "temp") none 0 none, .HPD_register_service ⟨true, ⟨true, true⟩, 0⟩ 0,
    .add_parameter_to_service (some 0) (some 0)]

/-- The list of devices does not have the parameter. -/
theorem not_descriptions_agree : ¬∀ calls, Always Daemon.step Daemon.Agrees Daemon.start calls := by
  intro h
  have hview : (run Daemon.step Daemon.start lateParameter).map (fun w => (w.service_head,
      (w.services[0]?).map DescribedService.parameter_head, (xmlNodes w.xml_tree).map fun x => x.2.parameters.length)) =
      some ([0], some (some 0), [0]) := by rfl
  obtain ⟨w, hrun, hw⟩ := Option.map_eq_some_iff.mp hview
  obtain ⟨hhead, hparameter, hnodes⟩ : w.service_head = [0] ∧ (w.services[0]?).map DescribedService.parameter_head = some (some 0) ∧
      (xmlNodes w.xml_tree).map (fun x => x.2.parameters.length) = [0] := by
    simpa only [Prod.mk.injEq] using hw
  have hagrees := always_iff_beginning.mp (h lateParameter) lateParameter [] w (List.append_nil _).symm hrun
  obtain ⟨s, l, x, hs, hl, hx, hx'⟩ := hagrees 0 (hhead ▸ List.mem_singleton_self 0)
  -- the description has the parameters of the list, and the nodes are those in the tree
  have hmem : x.2.parameters.length ∈ (xmlNodes w.xml_tree).map fun x => x.2.parameters.length :=
    List.mem_map_of_mem (List.mem_of_find?_eq_some hx')
  rw [hnodes, List.mem_singleton] at hmem
  rw [extract_service_xml] at hx
  split at hx
  · exact Option.some_ne_none x hx.symm
  · cases hx
    have hnil : l = [] := List.map_eq_nil_iff.mp (List.length_eq_zero_iff.mp hmem)
    rw [hs, Option.map_some, Option.some.injEq] at hparameter
    rw [hnil, hparameter] at hl
    exact Option.some_ne_none 0 hl

end HomeBridge.Hpd
