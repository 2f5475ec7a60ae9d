import Mathlib.Data.List.Nodup
import HomeBridge.Hpd.Services

/-!
# The XML tree

The part of `hpd_xml.c` that keeps the device list. The tree below `devicelist` has one node for a device and below it one for each
of its services; both are found again by their `type` and `id` attributes. A node of the tree is known by its position.

`mxmlNewElement` gives no node where it runs out of memory, and the attributes of no node are nowhere; the nodes of parameters are
taken to be there with the service's.
-/

namespace HomeBridge.Hpd

/-- A `service` node. -/
structure XmlService where
  desc : Option String
  id : String
  value_url : String
  type : String
  unit : Option String
  parameters : List Parameter

/-- A `device` node. -/
structure XmlDevice where
  desc : Option String
  id : String
  vendorID : Option String
  productID : Option String
  version : Option String
  ip : Option String
  port : Option String
  location : Option String
  type : String
  services : List XmlService

/-- The nodes below `devicelist`. -/
abbrev XmlTree : Type := List XmlDevice

/-- Which of the nodes that a registration makes are allocated. -/
structure XmlNodes where
  device : Bool
  service : Bool

/-- The comparison by which a device's node is found. -/
def XmlDevice.isOf (xml_device : XmlDevice) (device : Device) : Bool := xml_device.type == device.type && xml_device.id == device.ID

/-- The comparison by which a service's node is found, inside a device's. -/
def XmlService.isOf (xml_service : XmlService) (service : Service) : Bool :=
  xml_service.type == service.type && xml_service.id == service.ID

/-- `device_is_in_xml_file`. -/
def device_is_in_xml_file (xml_tree : XmlTree) (device : Device) : Int :=
  if xml_tree.any (·.isOf device) then HPD_YES else HPD_NO

/-- `get_xml_node_of_device`. -/
def get_xml_node_of_device (xml_tree : XmlTree) (device : Device) : Option Nat := xml_tree.findIdx? (·.isOf device)

/-- `service_is_in_xml_file`. -/
def service_is_in_xml_file (xml_tree : XmlTree) (service : Service) : Int :=
  if device_is_in_xml_file xml_tree service.device = HPD_NO then HPD_NO
  else if get_xml_node_of_device xml_tree service.device = none then HPD_E_IMPOSSIBLE_TO_RETRIEVE_DEVICE_XML_NODE
  else if xml_tree.any (fun device => device.isOf service.device && device.services.any (·.isOf service)) then HPD_YES
  else HPD_NO

/-- The node of a device, with no service in it. -/
def deviceNode (device : Device) : XmlDevice where
  desc := device.description
  id := device.ID
  vendorID := device.vendorID
  productID := device.productID
  version := device.version
  ip := device.IP
  port := device.port
  location := device.location
  type := device.type
  services := []

/-- `add_device_to_xml`. -/
def add_device_to_xml (node : Bool) (xml_tree : XmlTree) (device_to_add : Device) : Int × XmlTree :=
  if device_is_in_xml_file xml_tree device_to_add = HPD_YES then (HPD_E_DEVICE_ALREADY_IN_XML, xml_tree)
  else (HPD_E_SUCCESS, if node then xml_tree ++ [deviceNode device_to_add] else xml_tree)

/-- The node of a service. -/
def serviceNode (service : Service) : XmlService where
  desc := service.description
  id := service.ID
  value_url := service.value_url
  type := service.type
  unit := service.unit
  parameters := service.parameter_head

/-- A node comes to the services of a device's. -/
def XmlDevice.append (device : XmlDevice) (node : XmlService) : XmlDevice := { device with services := device.services ++ [node] }

/-- The `j`-th service node of a device's is removed. -/
def XmlDevice.remove (device : XmlDevice) (j : Nat) : XmlDevice := { device with services := device.services.eraseIdx j }

/-- The tree once the device of a service has been added where it was missing. -/
def deviceAdded (nodes : XmlNodes) (xml_tree : XmlTree) (device : Device) : XmlTree :=
  if device_is_in_xml_file xml_tree device = HPD_NO then (add_device_to_xml nodes.device xml_tree device).2 else xml_tree

/-- `add_service_to_xml`. -/
def add_service_to_xml (nodes : XmlNodes) (xml_tree : XmlTree) (service_to_add : Service) : Int × XmlTree :=
  if service_is_in_xml_file xml_tree service_to_add = HPD_YES then (HPD_E_SERVICE_ALREADY_IN_XML, xml_tree)
  else
    let xml_tree := deviceAdded nodes xml_tree service_to_add.device
    match get_xml_node_of_device xml_tree service_to_add.device with
    | none => (HPD_E_IMPOSSIBLE_TO_RETRIEVE_DEVICE_XML_NODE, xml_tree)
    | some i => (HPD_E_SUCCESS, if nodes.service then xml_tree.modify i (·.append (serviceNode service_to_add)) else xml_tree)

/-- `get_xml_node_of_service`: the position of the device's node and of the service's inside it. -/
def get_xml_node_of_service (xml_tree : XmlTree) (service : Service) : Option (Nat × Nat) :=
  if device_is_in_xml_file xml_tree service.device = HPD_NO then none
  else if get_xml_node_of_device xml_tree service.device = none then none
  else xml_tree.zipIdx.findSome? fun (device, i) =>
    if device.isOf service.device then (device.services.findIdx? (·.isOf service)).map (i, ·) else none

/-- `remove_service_from_XML`. The node of the device stays. -/
def remove_service_from_XML (xml_tree : XmlTree) (service : Service) : Int × XmlTree :=
  if service_is_in_xml_file xml_tree service = HPD_NO then (HPD_E_SERVICE_NOT_IN_LIST, xml_tree)
  else
    match get_xml_node_of_service xml_tree service with
    | none => (HPD_E_IMPOSSIBLE_TO_RETRIEVE_SERVICE_XML_NODE, xml_tree)
    | some (i, j) => (HPD_YES, xml_tree.modify i (·.remove j))

/-! ## The services a tree lists -/

def XmlDevice.label (d : XmlDevice) : String × String := (d.type, d.id)

def XmlService.label (n : XmlService) : String × String := (n.type, n.id)

/-- The four strings of every service node. -/
def xmlKeys (xml_tree : XmlTree) : List ServiceKey := xml_tree.flatMap fun d => d.services.map fun n => (d.label, n.label)

/-- Each type and ID labels at most one device node, and inside it at most one service node. -/
structure Labelled (xml_tree : XmlTree) : Prop where
  devices : (xml_tree.map XmlDevice.label).Nodup
  services : ∀ d ∈ xml_tree, (d.services.map XmlService.label).Nodup

section

variable {xml_tree : XmlTree} {device : Device} {s : Service}

theorem XmlDevice.isOf_iff {d : XmlDevice} : d.isOf device = true ↔ d.label = device.label := by
  simp [XmlDevice.isOf, XmlDevice.label, Device.label]

theorem XmlService.isOf_iff {n : XmlService} : n.isOf s = true ↔ n.label = s.label := by
  simp [XmlService.isOf, XmlService.label, Service.label]

/-- A key is in the tree where a service node is in a device node, by their labels. -/
theorem mem_xmlKeys {k : ServiceKey} : k ∈ xmlKeys xml_tree ↔ ∃ d ∈ xml_tree, ∃ n ∈ d.services, (d.label, n.label) = k := by
  simp [xmlKeys]

theorem xmlKeys_split (before after : XmlTree) (d : XmlDevice) : xmlKeys (before ++ d :: after) =
    xmlKeys before ++ (d.services.map (fun n => (d.label, n.label)) ++ xmlKeys after) := by
  simp [xmlKeys]

/-- A device is found in the tree by its label. -/
theorem device_in_xml_iff : device_is_in_xml_file xml_tree device = HPD_YES ↔ device.label ∈ xml_tree.map XmlDevice.label := by
  have hany : xml_tree.any (·.isOf device) = true ↔ device.label ∈ xml_tree.map XmlDevice.label := by
    simp only [List.any_eq_true, XmlDevice.isOf_iff, List.mem_map]
  rw [← hany, device_is_in_xml_file]
  exact Ne.ite_eq_left_iff (by decide)

/-- Or it is not in it. -/
theorem device_not_in_xml_iff : device_is_in_xml_file xml_tree device = HPD_NO ↔ device.label ∉ xml_tree.map XmlDevice.label := by
  rw [← device_in_xml_iff, device_is_in_xml_file]
  split <;> simp

/-- A device that is in the tree has a node. -/
theorem get_xml_node_of_device_eq_none :
    get_xml_node_of_device xml_tree device = none ↔ device.label ∉ xml_tree.map XmlDevice.label := by
  rw [get_xml_node_of_device, List.findIdx?_eq_none_iff]
  simp only [Bool.eq_false_iff, ne_eq, XmlDevice.isOf_iff, List.mem_map, not_exists, not_and]

/-- A list, split at a position. -/
theorem split_at {α : Type} {l : List α} {i : Nat} {x : α} (h : l[i]? = some x) :
    ∃ before after, l = before ++ x :: after ∧ before.length = i := by
  obtain ⟨hi, rfl⟩ := List.getElem?_eq_some_iff.mp h
  refine ⟨l.take i, l.drop (i + 1), ?_, List.length_take_of_le (Nat.le_of_lt hi)⟩
  rw [List.getElem_cons_drop, List.take_append_drop]

/-- What a search by position finds, in its place. -/
theorem split_of_findIdx? {α : Type} {p : α → Bool} {l : List α} {i : Nat} (h : l.findIdx? p = some i) :
    ∃ before x after, l = before ++ x :: after ∧ before.length = i ∧ p x = true := by
  obtain ⟨hi, hp, _⟩ := List.findIdx?_eq_some_iff_getElem.mp h
  obtain ⟨before, after, hl, hlen⟩ := split_at (List.getElem?_eq_getElem hi)
  exact ⟨before, _, after, hl, hlen, hp⟩

/-- A device with a node is found twice: by the test, and by the search for its node. -/
theorem device_found (h : s.device.label ∈ xml_tree.map XmlDevice.label) :
    ¬device_is_in_xml_file xml_tree s.device = HPD_NO ∧ ¬get_xml_node_of_device xml_tree s.device = none :=
  ⟨fun hno => device_not_in_xml_iff.mp hno h, fun hno => get_xml_node_of_device_eq_none.mp hno h⟩

/-- A service is found by its key, where each device has one node. -/
theorem service_in_xml_iff : service_is_in_xml_file xml_tree s = HPD_YES ↔ s.key ∈ xmlKeys xml_tree := by
  have hany : (xml_tree.any fun device => device.isOf s.device && device.services.any (·.isOf s)) = true ↔
      s.key ∈ xmlKeys xml_tree := by
    simp only [List.any_eq_true, Bool.and_eq_true, XmlDevice.isOf_iff, XmlService.isOf_iff, mem_xmlKeys, Service.key, Prod.mk.injEq]
    constructor
    · rintro ⟨d, hd, he, n, hn, hl⟩
      exact ⟨d, hd, n, hn, he, hl⟩
    · rintro ⟨d, hd, n, hn, he, hl⟩
      exact ⟨d, hd, he, n, hn, hl⟩
  by_cases hdev : s.device.label ∈ xml_tree.map XmlDevice.label
  · obtain ⟨h1, h2⟩ := device_found hdev
    rw [service_is_in_xml_file, if_neg h1, if_neg h2, ← hany]
    exact Ne.ite_eq_left_iff (by decide)
  · rw [service_is_in_xml_file, if_pos (device_not_in_xml_iff.mpr hdev)]
    refine iff_of_false (by decide) fun hk => hdev ?_
    obtain ⟨d, hd, _, _, he⟩ := mem_xmlKeys.mp hk
    exact (Prod.mk.inj he).1 ▸ List.mem_map_of_mem hd

/-- The answer is yes or no: the error for a device without a node is never given. -/
theorem service_not_in_xml_iff : service_is_in_xml_file xml_tree s = HPD_NO ↔ s.key ∉ xmlKeys xml_tree := by
  rw [← service_in_xml_iff]
  by_cases hdev : s.device.label ∈ xml_tree.map XmlDevice.label
  · obtain ⟨h1, h2⟩ := device_found hdev
    rw [service_is_in_xml_file, if_neg h1, if_neg h2]
    split <;> simp
  · rw [service_is_in_xml_file, if_pos (device_not_in_xml_iff.mpr hdev)]
    simp

/-- Unique labels make the four strings of the service nodes unique. -/
theorem Labelled.nodup_xmlKeys (h : Labelled xml_tree) : (xmlKeys xml_tree).Nodup := by
  refine List.nodup_flatMap.mpr ⟨fun d hd => ?_, ?_⟩
  · have hmap : (d.services.map XmlService.label).map (Prod.mk d.label) = d.services.map fun n => (d.label, n.label) :=
      List.map_map ..
    rw [← hmap]
    exact (h.services d hd).map fun _ _ he => (Prod.mk.inj he).2
  · refine (List.pairwise_map.mp h.devices).imp fun hne => ?_
    intro k hk hk'
    obtain ⟨_, _, he⟩ := List.mem_map.mp hk
    obtain ⟨_, _, he'⟩ := List.mem_map.mp hk'
    exact hne (Prod.mk.inj (he.trans he'.symm)).1

/-- A node is replaced by one with the same label. -/
theorem modify_split (before after : XmlTree) (d : XmlDevice) (f : XmlDevice → XmlDevice) :
    (before ++ d :: after).modify before.length f = before ++ f d :: after := by
  rw [List.modify_eq_take_cons_drop (by simp)]
  simp

/-- A device node may be exchanged for one with the same label, whose services have different labels. -/
theorem Labelled.replace {before after : XmlTree} {d d' : XmlDevice} (h : Labelled (before ++ d :: after))
    (hl : d'.label = d.label) (hs : (d'.services.map XmlService.label).Nodup) : Labelled (before ++ d' :: after) := by
  refine ⟨?_, fun e he => ?_⟩
  · have hd := h.devices
    rwa [List.map_append, List.map_cons, ← hl, ← List.map_cons, ← List.map_append] at hd
  · rcases List.mem_append.mp he with he | he
    · exact h.services e (List.mem_append_left _ he)
    · rcases List.mem_cons.mp he with rfl | he
      · exact hs
      · exact h.services e (List.mem_append_right _ (List.mem_cons_of_mem _ he))

/-! ## What adding and removing a service does to them -/

/-- A registration whose nodes are all there: the service's, and the device's unless the tree has one. -/
def NodesSuffice (nodes : XmlNodes) (xml_tree : XmlTree) (s : Service) : Prop :=
  (nodes.device = true ∨ device_is_in_xml_file xml_tree s.device = HPD_YES) ∧ nodes.service = true

/-- Adding the device adds no service, and a device node only where there was none. -/
theorem deviceAdded_spec (nodes : XmlNodes) (device : Device) (h : Labelled xml_tree) : Labelled (deviceAdded nodes xml_tree device) ∧
    xmlKeys (deviceAdded nodes xml_tree device) = xmlKeys xml_tree ∧
    (device.label ∈ (deviceAdded nodes xml_tree device).map XmlDevice.label ↔
      nodes.device = true ∨ device_is_in_xml_file xml_tree device = HPD_YES) := by
  by_cases hdev : device.label ∈ xml_tree.map XmlDevice.label
  · have he : deviceAdded nodes xml_tree device = xml_tree := if_neg fun hno => device_not_in_xml_iff.mp hno hdev
    rw [he]
    exact ⟨h, rfl, iff_of_true hdev (.inr (device_in_xml_iff.mpr hdev))⟩
  have hno : ¬device_is_in_xml_file xml_tree device = HPD_YES := fun hy => hdev (device_in_xml_iff.mp hy)
  have he : deviceAdded nodes xml_tree device = if nodes.device then xml_tree ++ [deviceNode device] else xml_tree := by
    rw [deviceAdded, if_pos (device_not_in_xml_iff.mpr hdev), add_device_to_xml, if_neg hno]
  rw [he]
  cases nodes.device with
  | false => exact ⟨h, rfl, iff_of_false hdev (by simpa using hno)⟩
  | true =>
    refine ⟨⟨?_, fun d hd => ?_⟩, ?_, iff_of_true ?_ (.inl rfl)⟩
    · rw [if_pos rfl, List.map_append, List.nodup_append]
      refine ⟨h.devices, List.nodup_singleton _, fun a ha b hb heq => hdev ?_⟩
      rw [List.map_singleton, List.mem_singleton] at hb
      rwa [heq, hb] at ha
    · rcases List.mem_append.mp hd with hd | hd
      · exact h.services d hd
      · rw [List.mem_singleton.mp hd]
        exact List.nodup_nil
    · simp [xmlKeys, deviceNode]
    · exact List.mem_map.mpr ⟨deviceNode device, List.mem_append_right _ (List.mem_singleton_self _), rfl⟩

/-- A service that is not in the tree is added exactly when its nodes are there; nothing else comes or goes. -/
theorem add_service_to_xml_spec (nodes : XmlNodes) (h : Labelled xml_tree) (hk : s.key ∉ xmlKeys xml_tree) :
    Labelled (add_service_to_xml nodes xml_tree s).2 ∧
      ∀ k, k ∈ xmlKeys (add_service_to_xml nodes xml_tree s).2 ↔ k ∈ xmlKeys xml_tree ∨ NodesSuffice nodes xml_tree s ∧ k = s.key := by
  obtain ⟨h₁, hkeys, hdev⟩ := deviceAdded_spec nodes s.device h
  have hadd : add_service_to_xml nodes xml_tree s = _ := if_neg fun hy => hk (service_in_xml_iff.mp hy)
  cases hn : get_xml_node_of_device (deviceAdded nodes xml_tree s.device) s.device with
  | none =>
    have he : (add_service_to_xml nodes xml_tree s).2 = deviceAdded nodes xml_tree s.device := by
      rw [hadd]
      dsimp only
      rw [hn]
    have hno : ¬NodesSuffice nodes xml_tree s := fun hs => get_xml_node_of_device_eq_none.mp hn (hdev.mpr hs.1)
    rw [he, hkeys]
    exact ⟨h₁, fun k => ⟨.inl, fun hor => hor.resolve_right fun hs => hno hs.1⟩⟩
  | some i =>
    have he : (add_service_to_xml nodes xml_tree s).2 =
        if nodes.service then (deviceAdded nodes xml_tree s.device).modify i (·.append (serviceNode s))
        else deviceAdded nodes xml_tree s.device := by
      rw [hadd]
      dsimp only
      rw [hn]
    obtain ⟨before, d, after, hsplit, rfl, hd⟩ := split_of_findIdx? hn
    have hlabel : d.label = s.device.label := XmlDevice.isOf_iff.mp hd
    rw [hsplit] at h₁ hkeys he hdev
    have hthere : nodes.device = true ∨ device_is_in_xml_file xml_tree s.device = HPD_YES := by
      refine hdev.mp ?_
      rw [List.map_append, List.map_cons, hlabel]
      exact List.mem_append_right _ (List.mem_cons_self ..)
    cases hs : nodes.service with
    | false =>
      have hno : ¬NodesSuffice nodes xml_tree s := fun hc => absurd (hs.symm.trans hc.2) (by decide)
      rw [he, hs, if_neg (by decide), hkeys]
      exact ⟨h₁, fun k => ⟨.inl, fun hor => hor.resolve_right fun hc => hno hc.1⟩⟩
    | true =>
      have hsuf : NodesSuffice nodes xml_tree s := ⟨hthere, hs⟩
      -- the label of the new node is new in its device
      have hfresh : s.label ∉ d.services.map XmlService.label := by
        intro hm
        obtain ⟨n, hn, hl⟩ := List.mem_map.mp hm
        refine hk (hkeys ▸ mem_xmlKeys.mpr ⟨d, List.mem_append_right _ (List.mem_cons_self ..), n, hn, ?_⟩)
        rw [hl, hlabel]
        rfl
      rw [he, hs, if_pos rfl, modify_split]
      refine ⟨h₁.replace rfl ?_, fun k => ?_⟩
      · simp only [XmlDevice.append, List.map_append, List.map_singleton]
        rw [List.nodup_append]
        refine ⟨h₁.services d (List.mem_append_right _ (List.mem_cons_self ..)), List.nodup_singleton _, fun a ha b hb heq => ?_⟩
        have hlab : a = s.label := heq.trans (List.mem_singleton.mp hb)
        exact hfresh (hlab ▸ ha)
      · have hnew : ((d.append (serviceNode s)).services.map fun n => ((d.append (serviceNode s)).label, n.label)) =
            (d.services.map fun n => (d.label, n.label)) ++ [s.key] := by
          simp only [XmlDevice.append, List.map_append, List.map_singleton]
          exact congrArg (fun l => _ ++ [(l, s.label)]) hlabel
        rw [xmlKeys_split, hnew, ← hkeys, xmlKeys_split]
        simp only [List.mem_append, List.mem_singleton, hsuf, true_and, or_assoc]
        exact or_congr_right (or_congr_right or_comm)

/-- The node of a service that is in the tree, in its place. -/
theorem get_xml_node_of_service_split (hk : s.key ∈ xmlKeys xml_tree) :
    ∃ (before : XmlTree) (d : XmlDevice) (after : XmlTree) (bs : List XmlService) (n : XmlService) (as : List XmlService),
    xml_tree = before ++ d :: after ∧ d.services = bs ++ n :: as ∧ (d.label, n.label) = s.key ∧
      get_xml_node_of_service xml_tree s = some (before.length, bs.length) := by
  let nodeAt : XmlDevice × Nat → Option (Nat × Nat) := fun (device, i) =>
    if device.isOf s.device then (device.services.findIdx? (·.isOf s)).map (i, ·) else none
  obtain ⟨d₀, hd₀, n₀, hn₀, hkey⟩ := mem_xmlKeys.mp hk
  obtain ⟨hdlab, hnlab⟩ := Prod.mk.inj hkey
  have hdev : s.device.label ∈ xml_tree.map XmlDevice.label := hdlab ▸ List.mem_map_of_mem hd₀
  have hnode : get_xml_node_of_service xml_tree s = xml_tree.zipIdx.findSome? nodeAt :=
    (if_neg fun h => device_not_in_xml_iff.mp h hdev).trans (if_neg fun h => get_xml_node_of_device_eq_none.mp h hdev)
  -- the search comes to the device's node at the latest
  have hsome : (xml_tree.zipIdx.findSome? nodeAt).isSome := by
    obtain ⟨i, hi⟩ := List.mem_iff_getElem?.mp hd₀
    refine List.findSome?_isSome_iff.mpr ⟨(d₀, i), List.mem_zipIdx_iff_getElem?.mpr hi, ?_⟩
    have hat : nodeAt (d₀, i) = _ := if_pos (XmlDevice.isOf_iff.mpr hdlab)
    rw [hat, Option.isSome_map, List.findIdx?_isSome, List.any_eq_true]
    exact ⟨n₀, hn₀, XmlService.isOf_iff.mpr hnlab⟩
  obtain ⟨ij, hij⟩ := Option.isSome_iff_exists.mp hsome
  obtain ⟨⟨d, i⟩, hmem, hat⟩ := List.exists_of_findSome?_eq_some hij
  simp only [nodeAt, Option.ite_none_right_eq_some, Option.map_eq_some_iff] at hat
  obtain ⟨hd, j, hj, rfl⟩ := hat
  obtain ⟨before, after, hsplit, rfl⟩ := split_at (List.mem_zipIdx_iff_getElem?.mp hmem)
  obtain ⟨bs, n, as, hservices, rfl, hn⟩ := split_of_findIdx? hj
  refine ⟨before, d, after, bs, n, as, hsplit, hservices, ?_, hnode.trans hij⟩
  rw [XmlDevice.isOf_iff.mp hd, XmlService.isOf_iff.mp hn]
  rfl

/-- The node of a service that is in the tree is taken from where it stands. -/
theorem remove_service_from_XML_eq (hk : s.key ∈ xmlKeys xml_tree) : ∃ before d after bs n as,
    xml_tree = before ++ d :: after ∧ d.services = bs ++ n :: as ∧ (d.label, n.label) = s.key ∧
      remove_service_from_XML xml_tree s = (HPD_YES, before ++ d.remove bs.length :: after) := by
  obtain ⟨before, d, after, bs, n, as, rfl, hservices, hkey, hnode⟩ := get_xml_node_of_service_split hk
  have he : remove_service_from_XML (before ++ d :: after) s = _ := if_neg fun hno => service_not_in_xml_iff.mp hno hk
  refine ⟨before, d, after, bs, n, as, rfl, hservices, hkey, ?_⟩
  rw [he, hnode]
  dsimp only
  rw [modify_split]

/-- A service that is there is removed. -/
theorem remove_service_from_XML_code (hk : s.key ∈ xmlKeys xml_tree) : (remove_service_from_XML xml_tree s).1 = HPD_YES := by
  obtain ⟨_, _, _, _, _, _, _, _, _, he⟩ := remove_service_from_XML_eq hk
  rw [he]

/-- A service that is in the tree is taken out, and no other. -/
theorem remove_service_from_XML_spec (h : Labelled xml_tree) (hk : s.key ∈ xmlKeys xml_tree) :
    Labelled (remove_service_from_XML xml_tree s).2 ∧
      ∃ before after, xmlKeys xml_tree = before ++ s.key :: after ∧
        xmlKeys (remove_service_from_XML xml_tree s).2 = before ++ after := by
  obtain ⟨before, d, after, bs, n, as, rfl, hservices, hkey, hremove⟩ := remove_service_from_XML_eq hk
  have hleft : (d.remove bs.length).services = bs ++ as := by
    rw [XmlDevice.remove, hservices, List.eraseIdx_append_of_length_le (Nat.le_refl _), Nat.sub_self]
    rfl
  rw [hremove]
  refine ⟨h.replace rfl ?_, xmlKeys before ++ bs.map (fun n => (d.label, n.label)),
    as.map (fun n => (d.label, n.label)) ++ xmlKeys after, ?_, ?_⟩
  · have hnodup := h.services d (List.mem_append_right _ (List.mem_cons_self ..))
    rw [hservices] at hnodup
    rw [hleft]
    exact hnodup.sublist ((List.sublist_cons_self ..).append_left bs |>.map _)
  · rw [xmlKeys_split, hservices, List.map_append, List.map_cons, hkey]
    simp only [List.append_assoc, List.cons_append]
  · rw [xmlKeys_split, hleft, List.map_append]
    simp only [List.append_assoc]
    rfl

end

end HomeBridge.Hpd
