import Mathlib.Data.List.Basic

/-!
# Devices, services and the server's list

`hpd_services.c`, and the list functions of `hpd_http_web_server.c`. A service is known by four strings, its device's type and ID
and its own, and by the URL that `create_service_struct` joins them to. The server asks for the four strings when it registers a
service, and for the URL when it looks one up or takes one out.
-/

namespace HomeBridge.Hpd

/-! ## Codes -/

@[simp] def HPD_NO : Int := 2
@[simp] def HPD_YES : Int := 1
@[simp] def HPD_E_SUCCESS : Int := 0
@[simp] def HPD_E_NULL_POINTER : Int := -1
@[simp] def HPD_E_BAD_PARAMETER : Int := -6
@[simp] def HPD_E_NO_HTTPS : Int := -10
@[simp] def HPD_E_SERVICE_ALREADY_REGISTER : Int := -11
@[simp] def HPD_E_SERVICE_NOT_REGISTER : Int := -12
@[simp] def HPD_E_SERVICE_NOT_IN_LIST : Int := -15
@[simp] def HPD_E_XML_ERROR : Int := -18
@[simp] def HPD_E_DEVICE_ALREADY_IN_XML : Int := -35
@[simp] def HPD_E_SERVICE_ALREADY_IN_XML : Int := -36
@[simp] def HPD_E_IMPOSSIBLE_TO_RETRIEVE_DEVICE_XML_NODE : Int := -37
@[simp] def HPD_E_IMPOSSIBLE_TO_RETRIEVE_SERVICE_XML_NODE : Int := -38

@[simp] def HPD_SECURE_DEVICE : Int := 1
@[simp] def HPD_NON_SECURE_DEVICE : Int := 0

/-! ## Devices and services -/

/-- A parameter of a service. -/
structure Parameter where
  ID : Option String
  max : Option String
  min : Option String
  scale : Option String
  step : Option String
  type : Option String
  unit : Option String
  values : Option String

/-- A device. `create_device_struct` refuses one without an ID or a type. -/
structure Device where
  description : Option String
  ID : String
  vendorID : Option String
  productID : Option String
  version : Option String
  IP : Option String
  port : Option String
  location : Option String
  type : String
  secure_device : Int

/-- The URL that `create_service_struct` gives a service. -/
def serviceUrl (device : Device) (type ID : String) : String :=
  "/" ++ device.type ++ "/" ++ device.ID ++ "/" ++ type ++ "/" ++ ID

/-- A service, with the URL it was created with. -/
structure Service where
  description : Option String
  ID : String
  type : String
  unit : Option String
  device : Device
  parameter_head : List Parameter
  value_url : String
  value_url_eq : value_url = serviceUrl device type ID

/-- `create_service_struct`, as far as it fills in the fields above. -/
def create_service_struct (description ID type unit : Option String) (device : Option Device) (parameter : Option Parameter) :
    Option Service :=
  match ID, type, device with
  | some ID, some type, some device =>
    some { description, ID, type, unit, device, parameter_head := parameter.toList, value_url := serviceUrl device type ID,
           value_url_eq := rfl }
  | _, _, _ => none

/-- What tells devices apart. -/
def Device.label (d : Device) : String × String := (d.type, d.ID)

/-- What tells the services of one device apart. -/
def Service.label (s : Service) : String × String := (s.type, s.ID)

/-- Device type, device ID, service type and service ID. -/
abbrev ServiceKey : Type := (String × String) × String × String

/-- What tells services apart. -/
def Service.key (s : Service) : ServiceKey := (s.device.label, s.label)

/-- Services with the same four strings have the same URL. -/
theorem value_url_of_key {s s' : Service} (h : s.key = s'.key) : s.value_url = s'.value_url := by
  simp only [Service.key, Service.label, Device.label, Prod.mk.injEq] at h
  obtain ⟨⟨h1, h2⟩, h3, h4⟩ := h
  rw [s.value_url_eq, s'.value_url_eq, serviceUrl, serviceUrl, h1, h2, h3, h4]

/-! ## The server's list -/

/-- `is_unsecure_service_registered`. -/
def is_unsecure_service_registered (service_head : List Service) (service : Service) : Int :=
  if service_head.any fun iterator => iterator.device.type == service.device.type && iterator.device.ID == service.device.ID &&
    iterator.type == service.type && iterator.ID == service.ID then 1 else 0

/-- `register_service_in_unsecure_server`; `element` says whether the list element was allocated. -/
def register_service_in_unsecure_server (element : Bool) (service_head : List Service) (service_to_register : Service) :
    Int × List Service :=
  if element then (HPD_E_SUCCESS, service_head ++ [service_to_register]) else (HPD_E_NULL_POINTER, service_head)

/-- `unregister_service_in_unsecure_server`: the first element with the URL is taken out. -/
def unregister_service_in_unsecure_server (service_head : List Service) (service_to_unregister : Service) : Int × List Service :=
  (HPD_E_SUCCESS, service_head.eraseP fun iterator => iterator.value_url == service_to_unregister.value_url)

/-- `matching_service`. -/
def matching_service (service_head : List Service) (url : String) : Option Service :=
  service_head.find? fun iterator => iterator.value_url == url

section list

variable {service_head : List Service} {s : Service}

/-- Registered means that the four strings are in the list. -/
theorem registered_iff : is_unsecure_service_registered service_head s = 1 ↔ s.key ∈ service_head.map Service.key := by
  have hany : (service_head.any fun iterator => iterator.device.type == s.device.type && iterator.device.ID == s.device.ID &&
      iterator.type == s.type && iterator.ID == s.ID) = true ↔ s.key ∈ service_head.map Service.key := by
    simp [Service.key, Service.label, Device.label, and_assoc]
  rw [← hany, is_unsecure_service_registered]
  exact Ne.ite_eq_left_iff (by decide)

theorem not_registered_iff : is_unsecure_service_registered service_head s = 0 ↔ s.key ∉ service_head.map Service.key := by
  rw [← registered_iff, is_unsecure_service_registered]
  split <;> simp

/-- No two entries with different strings share a URL. -/
def UrlsTellApart (service_head : List Service) : Prop :=
  ∀ s ∈ service_head, ∀ s' ∈ service_head, s.value_url = s'.value_url → s.key = s'.key

/-- What is found under the URL of a service is its entry exactly when the service is registered: for all services, exactly when
no two entries share a URL. -/
theorem matching_service_iff : (∀ s : Service, (matching_service service_head s.value_url).map Service.key = some s.key ↔
    is_unsecure_service_registered service_head s = 1) ↔ UrlsTellApart service_head := by
  constructor
  · intro h s hs s' hs' hurl
    have h1 := (h s).mpr (registered_iff.mpr (List.mem_map_of_mem hs))
    have h2 := (h s').mpr (registered_iff.mpr (List.mem_map_of_mem hs'))
    rw [hurl, h2] at h1
    exact (Option.some.inj h1).symm
  · intro h s
    rw [registered_iff]
    constructor
    · intro hm
      obtain ⟨s', hs', he⟩ := Option.map_eq_some_iff.mp hm
      exact he ▸ List.mem_map_of_mem (List.mem_of_find?_eq_some hs')
    · intro hr
      obtain ⟨s', hs', he⟩ := List.mem_map.mp hr
      have hsome : (matching_service service_head s.value_url).isSome := by
        rw [matching_service, List.find?_isSome]
        exact ⟨s', hs', beq_iff_eq.mpr (value_url_of_key he)⟩
      obtain ⟨s'', hs''⟩ := Option.isSome_iff_exists.mp hsome
      have hurl : s''.value_url = s.value_url := by simpa using List.find?_some hs''
      have hkey : s''.key = s'.key :=
        h s'' (List.mem_of_find?_eq_some hs'') s' hs' (hurl.trans (value_url_of_key he).symm)
      rw [hs'', Option.map_some, hkey, he]

/-- A service comes to a list whose URLs tell apart without spoiling that, exactly when its URL is new. -/
theorem urlsTellApart_append (h : UrlsTellApart service_head) (hnew : s.key ∉ service_head.map Service.key) :
    UrlsTellApart (service_head ++ [s]) ↔ ∀ s' ∈ service_head, s'.value_url ≠ s.value_url := by
  constructor
  · intro ha s' hs' hurl
    have hkey := ha s' (List.mem_append_left _ hs') s (List.mem_append_right _ (List.mem_singleton_self s)) hurl
    exact hnew (hkey ▸ List.mem_map_of_mem hs')
  · intro hno a ha b hb hurl
    rcases List.mem_append.mp ha with ha | ha <;> rcases List.mem_append.mp hb with hb | hb
    · exact h a ha b hb hurl
    · rw [List.mem_singleton.mp hb] at hurl
      exact absurd hurl (hno a ha)
    · rw [List.mem_singleton.mp ha] at hurl
      exact absurd hurl.symm (hno b hb)
    · rw [List.mem_singleton.mp ha, List.mem_singleton.mp hb]

/-- Where the URLs tell apart, taking out a registered service takes out its four strings and no others. -/
theorem unregister_keys (h : UrlsTellApart service_head) (hr : s.key ∈ service_head.map Service.key) :
    ∃ before after, service_head.map Service.key = before ++ s.key :: after ∧
      (unregister_service_in_unsecure_server service_head s).2.map Service.key = before ++ after := by
  obtain ⟨s', hs', he⟩ := List.mem_map.mp hr
  have hurl' : s'.value_url = s.value_url := value_url_of_key he
  let hasUrl : Service → Bool := fun iterator => iterator.value_url == s.value_url
  have hp : hasUrl s' = true := beq_iff_eq.mpr hurl'
  obtain ⟨a, before, after, _, hurl, hsplit, herase⟩ := List.exists_of_eraseP hs' hp
  have hakey : a.key = s.key := by
    have ha : a ∈ service_head := hsplit ▸ List.mem_append_right _ (List.mem_cons_self ..)
    rw [← he]
    exact h a ha s' hs' ((beq_iff_eq.mp hurl).trans hurl'.symm)
  refine ⟨before.map Service.key, after.map Service.key, ?_, ?_⟩
  · rw [hsplit, List.map_append, List.map_cons, hakey]
  · rw [unregister_service_in_unsecure_server, herase, List.map_append]

end list

end HomeBridge.Hpd
