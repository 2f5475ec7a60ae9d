import HomeBridge.Lib.Run
import HomeBridge.Hpd.Xml

/-!
# The registry

`hpd_web_server.c` and the calls of `homeport.c` on top of it, as built with HTTP and without HTTPS. A service that is registered
goes into the server's list, then into the XML tree, then to Avahi, then its availability is told to the subscribers; each step
may fail, and the call returns there.
-/

namespace HomeBridge.Hpd

open Runs

/-- What the registry keeps. -/
structure Registry where
  service_head : List Service
  xml_tree : XmlTree

/-- The registry of a server that has just started. -/
def Registry.empty : Registry := ⟨[], []⟩

/-- What a call meets outside the registry: whether the list element and the XML nodes are allocated, and the code Avahi gives. -/
structure Outcome where
  element : Bool
  nodes : XmlNodes
  avahi : Int

/-- The code `notify_service_availability` gives. It fails for no service at all only; the events it queues are not part of the
registry. -/
def notify_service_availability (_service_to_notify : Service) (_availability : Int) : Int := HPD_E_SUCCESS

/-- `is_service_registered`. -/
def is_service_registered (r : Registry) (service : Service) : Int :=
  if service.device.secure_device = HPD_NON_SECURE_DEVICE then is_unsecure_service_registered r.service_head service else 0

/-- The part of `register_service_in_server` that follows the server's list. The codes `add_service_to_xml` is compared with are
not those it gives. -/
def publishRegistered (o : Outcome) (r : Registry) (s : Service) : Int × Registry :=
  let (rc, xml_tree) := add_service_to_xml o.nodes r.xml_tree s
  let r := { r with xml_tree }
  if rc = -1 then (HPD_E_XML_ERROR, r)
  else if o.avahi < HPD_E_SUCCESS then (o.avahi, r)
  else if notify_service_availability s HPD_YES < HPD_E_SUCCESS then (notify_service_availability s HPD_YES, r)
  else (HPD_E_SUCCESS, r)

/-- `register_service_in_server`. -/
def register_service_in_server (o : Outcome) (r : Registry) (s : Service) : Int × Registry :=
  if s.device.secure_device = HPD_NON_SECURE_DEVICE then
    if is_unsecure_service_registered r.service_head s = 1 then (HPD_E_SERVICE_ALREADY_REGISTER, r)
    else
      let (rc, service_head) := register_service_in_unsecure_server o.element r.service_head s
      let r := { r with service_head }
      if rc < HPD_E_SUCCESS then (rc, r) else publishRegistered o r s
  else if s.device.secure_device = HPD_SECURE_DEVICE then (HPD_E_NO_HTTPS, r)
  else (HPD_E_BAD_PARAMETER, r)

/-- The part of `unregister_service_in_server` that follows the server's list. -/
def publishUnregistered (o : Outcome) (r : Registry) (s : Service) : Int × Registry :=
  let (rc, xml_tree) := remove_service_from_XML r.xml_tree s
  let r := { r with xml_tree }
  if rc < HPD_E_SUCCESS then (HPD_E_XML_ERROR, r)
  else if o.avahi < HPD_E_SUCCESS then (o.avahi, r)
  else if notify_service_availability s HPD_NO < HPD_E_SUCCESS then (notify_service_availability s HPD_NO, r)
  else (HPD_E_SUCCESS, r)

/-- `unregister_service_in_server`. -/
def unregister_service_in_server (o : Outcome) (r : Registry) (s : Service) : Int × Registry :=
  if is_service_registered r s = 0 then (HPD_E_SERVICE_NOT_REGISTER, r)
  else if s.device.secure_device = HPD_NON_SECURE_DEVICE then
    let (rc, service_head) := unregister_service_in_unsecure_server r.service_head s
    let r := { r with service_head }
    if rc < HPD_E_SUCCESS then (rc, r) else publishUnregistered o r s
  else if s.device.secure_device = HPD_SECURE_DEVICE then (HPD_E_NO_HTTPS, r)
  else (HPD_E_BAD_PARAMETER, r)

/-- The loop of `register_device_services`, over the services of the device and what each registration meets. -/
def registerEach : Registry → List (Service × Outcome) → Int × Registry
  | r, [] => (HPD_E_SUCCESS, r)
  | r, (s, o) :: services =>
    let (return_value, r) := register_service_in_server o r s
    if return_value < HPD_E_SUCCESS then (return_value, r) else registerEach r services

/-- `register_device_services`. -/
def register_device_services (r : Registry) (device : Device) (services : List (Service × Outcome)) : Int × Registry :=
  if device.secure_device = HPD_NON_SECURE_DEVICE then registerEach r services
  else if device.secure_device = HPD_SECURE_DEVICE then (HPD_E_NO_HTTPS, r)
  else (HPD_E_BAD_PARAMETER, r)

/-! ## The calls -/

/-- `HPD_register_service`. -/
def HPD_register_service (o : Outcome) (r : Registry) : Option Service → Int × Registry
  | none => (HPD_E_NULL_POINTER, r)
  | some s => register_service_in_server o r s

/-- `HPD_unregister_service`. -/
def HPD_unregister_service (o : Outcome) (r : Registry) : Option Service → Int × Registry
  | none => (HPD_E_NULL_POINTER, r)
  | some s => unregister_service_in_server o r s

/-- `HPD_register_device_services`, of a device with its services. -/
def HPD_register_device_services (r : Registry) : Option (Device × List (Service × Outcome)) → Int × Registry
  | none => (HPD_E_NULL_POINTER, r)
  | some (device, services) => register_device_services r device services

/-- A call about one service. -/
inductive ServiceCall where
  | register (o : Outcome) (s : Option Service)
  | unregister (o : Outcome) (s : Option Service)

/-- A call that changes the registry. -/
inductive RegistryCall where
  | service (c : ServiceCall)
  | registerDevice (device : Option (Device × List (Service × Outcome)))

def Registry.callService (r : Registry) : ServiceCall → Int × Registry
  | .register o s => HPD_register_service o r s
  | .unregister o s => HPD_unregister_service o r s

def Registry.call (r : Registry) : RegistryCall → Int × Registry
  | .service c => r.callService c
  | .registerDevice device => HPD_register_device_services r device

/-- A call about one service that returns success, as a step of the registry. -/
def Registry.step (r : Registry) (c : ServiceCall) : Option Registry :=
  if (r.callService c).1 < HPD_E_SUCCESS then none else some (r.callService c).2

/-- Any call, whatever it returns, as a step of the registry. -/
def Registry.next (r : Registry) (c : RegistryCall) : Option Registry := some (r.call c).2

/-! ## What a call does -/

/-- The service gets into the server's list: its device is not a secure one, it is not registered, the list element is allocated. -/
def Admitted (o : Outcome) (r : Registry) (s : Service) : Prop :=
  s.device.secure_device = HPD_NON_SECURE_DEVICE ∧ is_unsecure_service_registered r.service_head s = 0 ∧ o.element = true

/-- The registry once the service is in the list and has been offered to the tree. -/
def Registry.added (r : Registry) (o : Outcome) (s : Service) : Registry :=
  ⟨r.service_head ++ [s], (add_service_to_xml o.nodes r.xml_tree s).2⟩

section

variable {o : Outcome} {r : Registry} {s : Service}

/-- What `add_service_to_xml` returns is never taken for an error. -/
theorem add_service_to_xml_code (nodes : XmlNodes) (xml_tree : XmlTree) (s : Service) :
    (add_service_to_xml nodes xml_tree s).1 ≠ -1 := by
  rw [add_service_to_xml]
  split
  · exact show HPD_E_SERVICE_ALREADY_IN_XML ≠ -1 by decide
  · dsimp only
    split
    · exact show HPD_E_IMPOSSIBLE_TO_RETRIEVE_DEVICE_XML_NODE ≠ -1 by decide
    · exact show HPD_E_SUCCESS ≠ -1 by decide

theorem registered_cases (service_head : List Service) (s : Service) :
    is_unsecure_service_registered service_head s = 0 ∨ is_unsecure_service_registered service_head s = 1 := by
  rw [is_unsecure_service_registered]
  split
  · exact .inr rfl
  · exact .inl rfl

/-- A service that does not get into the list is refused, and the registry stays as it is. -/
theorem register_refused (h : ¬Admitted o r s) :
    (register_service_in_server o r s).1 < HPD_E_SUCCESS ∧ (register_service_in_server o r s).2 = r := by
  rw [register_service_in_server]
  by_cases hsec : s.device.secure_device = HPD_NON_SECURE_DEVICE
  · rw [if_pos hsec]
    rcases registered_cases r.service_head s with h0 | h1
    · have helem : o.element = false := Bool.eq_false_iff.mpr fun he => h ⟨hsec, h0, he⟩
      rw [if_neg (by rw [h0]; decide), register_service_in_unsecure_server, helem]
      exact ⟨show HPD_E_NULL_POINTER < HPD_E_SUCCESS by decide, rfl⟩
    · rw [if_pos h1]
      exact ⟨show HPD_E_SERVICE_ALREADY_REGISTER < HPD_E_SUCCESS by decide, rfl⟩
  · rw [if_neg hsec]
    split
    · exact ⟨show HPD_E_NO_HTTPS < HPD_E_SUCCESS by decide, rfl⟩
    · exact ⟨show HPD_E_BAD_PARAMETER < HPD_E_SUCCESS by decide, rfl⟩

/-- A service that gets into the list stays there, whatever Avahi says. -/
theorem register_admitted (h : Admitted o r s) : register_service_in_server o r s =
    (if o.avahi < HPD_E_SUCCESS then o.avahi else HPD_E_SUCCESS, r.added o s) := by
  obtain ⟨hsec, h0, helem⟩ := h
  have hpub : register_service_in_server o r s = publishRegistered o { r with service_head := r.service_head ++ [s] } s := by
    rw [register_service_in_server, if_pos hsec, if_neg (by rw [h0]; decide), register_service_in_unsecure_server, helem]
    rfl
  rw [hpub, publishRegistered]
  dsimp only
  have hcode := add_service_to_xml_code o.nodes r.xml_tree s
  rw [if_neg hcode]
  by_cases ha : o.avahi < HPD_E_SUCCESS
  · rw [if_pos ha, if_pos ha]
    rfl
  · rw [if_neg ha, if_neg ha]
    rfl

/-- A registration fails exactly when the service does not get into the list or Avahi fails. -/
theorem register_fails_iff :
    (register_service_in_server o r s).1 < HPD_E_SUCCESS ↔ ¬Admitted o r s ∨ o.avahi < HPD_E_SUCCESS := by
  by_cases h : Admitted o r s
  · rw [register_admitted h]
    by_cases ha : o.avahi < HPD_E_SUCCESS
    · exact iff_of_true (by rwa [if_pos ha]) (.inr ha)
    · exact iff_of_false (by rw [if_neg ha]; exact Int.lt_irrefl _) fun hor => hor.elim (absurd h) ha
  · exact iff_of_true (register_refused h).1 (.inl h)

/-- A service that is not registered is not unregistered. -/
theorem unregister_refused (h : is_service_registered r s = 0) :
    unregister_service_in_server o r s = (HPD_E_SERVICE_NOT_REGISTER, r) := if_pos h

/-- A registered service is taken out of the list first. -/
theorem unregister_registered (h : is_service_registered r s ≠ 0) : is_unsecure_service_registered r.service_head s = 1 ∧
    unregister_service_in_server o r s = publishUnregistered o
      { r with service_head := (unregister_service_in_unsecure_server r.service_head s).2 } s := by
  have hsec : s.device.secure_device = HPD_NON_SECURE_DEVICE := by
    by_contra hsec
    exact h (if_neg hsec)
  have he : is_service_registered r s = is_unsecure_service_registered r.service_head s := if_pos hsec
  refine ⟨(registered_cases r.service_head s).resolve_left (he ▸ h), ?_⟩
  rw [unregister_service_in_server, if_neg h, if_pos hsec]
  rfl

/-- A service that is in the list only is gone from it, and the call fails. -/
theorem publishUnregistered_missing (h : s.key ∉ xmlKeys r.xml_tree) : publishUnregistered o r s = (HPD_E_XML_ERROR, r) := by
  have hx : remove_service_from_XML r.xml_tree s = (HPD_E_SERVICE_NOT_IN_LIST, r.xml_tree) :=
    if_pos (service_not_in_xml_iff.mpr h)
  rw [publishUnregistered, hx]
  rfl

/-- A service that is in the tree is taken out, whatever Avahi says. -/
theorem publishUnregistered_there (h : s.key ∈ xmlKeys r.xml_tree) : publishUnregistered o r s =
    (if o.avahi < HPD_E_SUCCESS then o.avahi else HPD_E_SUCCESS,
      { r with xml_tree := (remove_service_from_XML r.xml_tree s).2 }) := by
  rw [publishUnregistered]
  dsimp only
  have hcode : ¬(remove_service_from_XML r.xml_tree s).1 < HPD_E_SUCCESS := by
    rw [remove_service_from_XML_code h]
    decide
  rw [if_neg hcode]
  by_cases ha : o.avahi < HPD_E_SUCCESS
  · rw [if_pos ha, if_pos ha]
  · rw [if_neg ha, if_neg ha]
    rfl

end

end HomeBridge.Hpd
