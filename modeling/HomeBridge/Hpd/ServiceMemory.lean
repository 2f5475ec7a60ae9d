import HomeBridge.Hpd.Services

/-!
# The memory of a service

`create_service_struct` and `destroy_service_struct` of `hpd_services.c`, as far as it is allocated and freed. Of the strings it is
given the API copies the ID, the description and the unit; the type is used as it is, and is freed like the others all the same. The
mutex is freed nowhere, and the last error exit frees nothing but the struct.
-/

namespace HomeBridge.Hpd.ServiceMemory

/-- What is allocated for a service, each block once at most. -/
inductive Owned where
  | service
  | ID
  | description
  | unit
  | value_url
  | zeroConfName
  | get_function_buffer
  | mutex
  | element
deriving DecidableEq

/-- What the caller hands over. A parameter has an address, since more of them may be added to the service. -/
inductive Given where
  | description
  | ID
  | type
  | unit
  | device
  | parameter (a : Nat)
deriving DecidableEq

inductive Block where
  | owned (b : Owned)
  | given (b : Given)
deriving DecidableEq

/-- The arguments of `create_service_struct`, a missing one being `NULL`. -/
structure Args where
  description : Option String
  ID : Option String
  type : Option String
  unit : Option String
  device : Option Device
  get_function : Bool
  parameter : Option Nat

/-- What the call meets: whether the struct and the list element are allocated, the two allocations that are tested, and whether the
device lists a service with the URL. -/
structure Outcome where
  service : Bool
  element : Bool
  listed : Bool

/-- What was allocated and what was freed so far, in this order. -/
structure Allocations where
  allocated : List Owned
  freed : List Block

/-- The pointers of a `Service` that lead to memory, and what it has for parameters. -/
structure ServiceStruct where
  description : Option Block
  ID : Option Block
  type : Option Block
  unit : Option Block
  value_url : Option Block
  zeroConfName : Option Block
  get_function_buffer : Option Block
  mutex : Option Block
  parameter_head : List Nat

namespace Allocations

def malloc (m : Allocations) (b : Owned) : Allocations := { m with allocated := m.allocated ++ [b] }

def free (m : Allocations) (p : Option Block) : Allocations := { m with freed := m.freed ++ p.toList }

/-- A copy of a string, if it is given. -/
def copy (m : Allocations) (b : Owned) : Option String → Option Block × Allocations
  | none => (none, m)
  | some _ => (some (.owned b), m.malloc b)

end Allocations

/-- `add_service_to_device`. The element is allocated before the list is searched, and freed again where the service is found. -/
def add_service_to_device (o : Outcome) (m : Allocations) : Int × Allocations :=
  if o.element then
    let m := m.malloc .element
    if o.listed then (-14, m.free (some (.owned .element))) else (HPD_E_SUCCESS, m)
  else (HPD_E_NULL_POINTER, m)

/-- `create_service_struct` behind the tests of what must be given: the fields. -/
def fillService (args : Args) (m : Allocations) : ServiceStruct × Allocations :=
  let (description, m) := m.copy .description args.description
  let (unit, m) := m.copy .unit args.unit
  ({
    description, unit
    ID := some (.owned .ID)
    type := some (.given .type)
    value_url := some (.owned .value_url)
    zeroConfName := some (.owned .zeroConfName)
    get_function_buffer := some (.owned .get_function_buffer)
    mutex := some (.owned .mutex)
    parameter_head := args.parameter.toList },
    (((m.malloc .value_url).malloc .zeroConfName).malloc .get_function_buffer).malloc .mutex)

/-- Its end: the device gets the service. -/
def listService (o : Outcome) (s : ServiceStruct) (m : Allocations) : Option ServiceStruct × Allocations :=
  let (rc, m) := add_service_to_device o m
  if rc = -1 then (none, m.free (some (.owned .service))) else (some s, m)

/-- `create_service_struct`: the struct, if one is returned. -/
def create_service_struct (o : Outcome) (args : Args) : Option ServiceStruct × Allocations :=
  let m : Allocations := ⟨[], []⟩
  if o.service then
    let m := m.malloc .service
    if args.ID.isNone then (none, m.free (some (.owned .service)))
    else
      let m := m.malloc .ID
      if args.type.isNone then (none, (m.free (some (.owned .ID))).free (some (.owned .service)))
      else if args.device.isNone then
        (none, ((m.free (some (.owned .ID))).free (some (.given .type))).free (some (.owned .service)))
      else if args.get_function then
        let (s, m) := fillService args m
        listService o s m
      else (none, ((m.free (some (.owned .ID))).free (some (.given .type))).free (some (.owned .service)))
  else (none, m)

/-- What `destroy_service_struct` frees when it takes the service out of the list of its device: nothing if the list is empty or the
service is not found, the element found otherwise, and the device with the last one. -/
inductive Leaving where
  | alone
  | element (b : Owned) (last : Bool)

def Leaving.freed : Leaving → List Block
  | .alone => []
  | .element b last => .owned b :: if last then [.given .device] else []

/-- What `destroy_service_struct` frees of a service that is not registered. -/
def destroy_service_struct (leaving : Leaving) (s : ServiceStruct) : List Block :=
  leaving.freed ++ s.description.toList ++ s.ID.toList ++ s.type.toList ++ s.unit.toList ++ s.value_url.toList ++
    s.zeroConfName.toList ++ s.get_function_buffer.toList ++ s.parameter_head.map (fun a => .given (.parameter a)) ++ [.owned .service]

/-- Each block that was allocated was freed once, and nothing that the caller handed over, but for what is excepted. -/
structure FreedExactly (allocated : List Owned) (freed : List Block) (excepted : Given → Prop) : Prop where
  once : ∀ b ∈ allocated, freed.count (.owned b) = 1
  own : ∀ b, .given b ∈ freed → excepted b

/-- A parameter. -/
def IsParameter (b : Given) : Prop := ∃ a, b = .parameter a

/-- A call that fails has freed exactly what it has allocated; and of a service that is returned, with whatever parameters it has by
then, exactly that and the parameters will have been freed when it is destroyed. -/
def Balanced : Option ServiceStruct × Allocations → Prop
  | (none, m) => FreedExactly m.allocated m.freed fun _ => False
  | (some s, m) => ∀ leaving parameter_head,
    FreedExactly m.allocated (m.freed ++ destroy_service_struct leaving { s with parameter_head }) IsParameter

/-! ## The exits -/

section

variable {o : Outcome} {args : Args} {m : Allocations} {s : ServiceStruct}

theorem copy_keeps (b : Owned) (text : Option String) : (m.copy b text).2.freed = m.freed ∧
    ∀ c ∈ m.allocated, c ∈ (m.copy b text).2.allocated := by
  cases text with
  | none => exact ⟨rfl, fun _ hc => hc⟩
  | some text => exact ⟨rfl, fun _ hc => List.mem_append_left _ hc⟩

/-- The type is the caller's, nothing is freed, and what was allocated stays. -/
theorem fillService_keeps : (fillService args m).1.type = some (.given .type) ∧ (fillService args m).2.freed = m.freed ∧
    ∀ c ∈ m.allocated, c ∈ (fillService args m).2.allocated := by
  obtain ⟨hfreed₁, hkept₁⟩ := @copy_keeps m .description args.description
  obtain ⟨hfreed₂, hkept₂⟩ := @copy_keeps (m.copy .description args.description).2 .unit args.unit
  refine ⟨rfl, hfreed₂.trans hfreed₁, fun c hc => ?_⟩
  have hc := hkept₂ c (hkept₁ c hc)
  simp only [fillService, Allocations.malloc, List.mem_append, hc, true_or]

/-- The end fails with the list element, and then only the struct is freed. -/
theorem listService_cases : o.element = false ∧ listService o s m = (none, m.free (some (.owned .service))) ∨
    ∃ m', listService o s m = (some s, m') := by
  unfold listService add_service_to_device
  cases o.element with
  | false => exact .inl ⟨rfl, rfl⟩
  | true =>
    cases o.listed with
    | false => exact .inr ⟨_, rfl⟩
    | true => exact .inr ⟨_, rfl⟩

/-- What is freed of a struct with the caller's type is never right. -/
theorem not_freedExactly (hs : s.type = some (.given .type)) (allocated : List Owned) (before : List Block) (leaving : Leaving) :
    ¬FreedExactly allocated (before ++ destroy_service_struct leaving s) IsParameter := by
  intro h
  have hmem : .given .type ∈ before ++ destroy_service_struct leaving s := by
    simp [destroy_service_struct, hs]
  obtain ⟨a, ha⟩ := h.own _ hmem
  cases ha

/-- Where the ID was copied and nothing freed, the end is not balanced: if it fails the copy is lost. -/
theorem not_balanced_listService (hs : s.type = some (.given .type)) (hfreed : m.freed = []) (hID : .ID ∈ m.allocated) :
    ¬Balanced (listService o s m) := by
  intro h
  rcases @listService_cases o m s with ⟨-, he⟩ | ⟨m', he⟩
  · rw [he] at h
    have hone := h.once .ID hID
    rw [Allocations.free, hfreed] at hone
    exact absurd (show [Block.owned .service].count (.owned .ID) = 1 from hone) (by decide)
  · rw [he] at h
    exact not_freedExactly hs _ _ .alone (h .alone s.parameter_head)

/-- The exits behind the test of the type. -/
theorem create_eq (hservice : o.service = true) (hID : args.ID.isNone = false) (htype : args.type.isNone = false) :
    create_service_struct o args = if args.device.isNone ∨ args.get_function = false then
        (none, ⟨[.service, .ID], [.owned .ID, .given .type, .owned .service]⟩)
      else listService o (fillService args ⟨[.service, .ID], []⟩).1 (fillService args ⟨[.service, .ID], []⟩).2 := by
  simp only [create_service_struct, hservice, hID, htype, if_true, Bool.false_eq_true, if_false]
  cases args.device.isNone with
  | true => rfl
  | false =>
    cases args.get_function with
    | true => rfl
    | false => rfl

/-- A call that returns a service has come there. -/
theorem returned_given (h : create_service_struct o args = (some s, m)) :
    o.service = true ∧ args.ID.isNone = false ∧ args.type.isNone = false := by
  rw [create_service_struct] at h
  cases hservice : o.service with
  | false =>
    rw [hservice] at h
    cases h
  | true =>
    cases hID : args.ID.isNone with
    | true =>
      simp only [hservice, hID, if_true] at h
      cases h
    | false =>
      cases htype : args.type.isNone with
      | true =>
        simp only [hservice, hID, htype, if_true, Bool.false_eq_true, if_false] at h
        cases h
      | false => exact ⟨rfl, rfl, rfl⟩

/-- It has the caller's type. -/
theorem returned_type (h : create_service_struct o args = (some s, m)) : s.type = some (.given .type) := by
  obtain ⟨hservice, hID, htype⟩ := returned_given h
  rw [create_eq hservice hID htype] at h
  split at h
  · cases h
  · rcases @listService_cases o (fillService args ⟨[.service, .ID], []⟩).2 (fillService args ⟨[.service, .ID], []⟩).1 with
      ⟨-, he⟩ | ⟨m', he⟩
    · cases he.symm.trans h
    · cases he.symm.trans h
      exact fillService_keeps.1

/-- With the struct, an ID and a type the call is not balanced, neither if it fails nor if it returns a service. -/
theorem not_balanced_of_given (hservice : o.service = true) (hID : args.ID.isNone = false) (htype : args.type.isNone = false) :
    ¬Balanced (create_service_struct o args) := by
  rw [create_eq hservice hID htype]
  split
  · exact fun h => h.own .type (by decide)
  · obtain ⟨hs, hfreed, hkept⟩ := @fillService_keeps args ⟨[.service, .ID], []⟩
    exact not_balanced_listService hs hfreed (hkept .ID (by decide))

end

/-- What was allocated is freed exactly, by a call that fails or when the service is destroyed, if and only if the call fails because the
struct is not allocated or there is no ID or no type. For a service that is returned it never is, in whatever way it leaves its device and
with whatever parameters. -/
theorem balanced_iff (o : Outcome) (args : Args) :
    (Balanced (create_service_struct o args) ↔ o.service = false ∨ args.ID = none ∨ args.type = none) ∧
      ∀ s m, create_service_struct o args = (some s, m) → ∀ leaving parameter_head,
        ¬FreedExactly m.allocated (m.freed ++ destroy_service_struct leaving { s with parameter_head }) IsParameter := by
  have hnever (s : ServiceStruct) (m : Allocations) (h : create_service_struct o args = (some s, m)) (leaving : Leaving)
      (parameter_head : List Nat) :
      ¬FreedExactly m.allocated (m.freed ++ destroy_service_struct leaving { s with parameter_head }) IsParameter := by
    have htype := returned_type h
    exact not_freedExactly (s := { s with parameter_head }) htype _ _ leaving
  refine ⟨?_, hnever⟩
  constructor
  · intro h
    by_contra hno
    obtain ⟨hservice, hID, htype⟩ : o.service = true ∧ args.ID.isNone = false ∧ args.type.isNone = false := by
      simpa [Option.isNone_eq_false_iff, Option.isSome_iff_ne_none] using hno
    exact not_balanced_of_given hservice hID htype h
  · intro h
    rw [create_service_struct]
    cases hservice : o.service with
    | false => exact ⟨fun b hb => absurd hb List.not_mem_nil, fun b hb => absurd hb List.not_mem_nil⟩
    | true =>
      cases hID : args.ID with
      | none => exact ⟨by decide, fun b hb => by cases List.mem_singleton.mp hb⟩
      | some ID =>
        have htype : args.type = none := by
          rcases h with h | h | h
          · exact absurd (hservice.symm.trans h) (by decide)
          · exact absurd (hID.symm.trans h) (Option.some_ne_none _)
          · exact h
        have howned (b : Given) : .given b ∉ [Block.owned .ID, .owned .service] := by simp
        rw [htype]
        exact ⟨by decide, fun b hb => howned b hb⟩

/-- A service without a device: its type is freed. -/
theorem not_balanced : ¬∀ o args, Balanced (create_service_struct o args) :=
  fun h => not_balanced_of_given rfl rfl rfl (h ⟨true, true, false⟩ ⟨none, some "0", some "switch", none, none, true, none⟩)

end HomeBridge.Hpd.ServiceMemory
