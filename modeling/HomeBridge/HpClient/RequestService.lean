import HomeBridge.Hpd.XmlValue

/-!
# The search among the requests

`hpclientSD/xmlAPI.c` and `request_service.c`. A client has a list of requests, and when a service is announced it asks its description
for the first one that is matched. An attribute that the description lacks ends the search, whatever requests there are behind; and of
the request that is matched not all fields are copied.
-/

namespace HomeBridge.HpClient

open Hpd

/-- `RequestService`, without its place in a list. What is to be done when values change stays behind pointers. -/
structure RequestService where
  ID : Option (List Char)
  name : Option (List Char)
  value_url : Option (List Char)
  complete_url : Option (List Char)
  type : Option (List Char)
  RSID : Option (List Char)
  device_type : Option (List Char)
  device_ID : Option (List Char)
  location : Option (List Char)
  on_value_change_head : Option Nat
  default_value_change : Option Nat

/-- A field is compared with an attribute if it is given and nothing was found to differ. There is no result where the attribute is
missing: the search is given up then. -/
def compareAttr (found : Bool) (field attr : Option (List Char)) : Option Bool :=
  match found, field with
  | true, some value => attr.map fun a => decide (value = a)
  | _, _ => some found

/-- One turn of the search: whether the request is matched. -/
def matchRequest (x : Mxml) (service_node : XmlNode) (iterator : RequestService) : Option Bool := do
  let found ← compareAttr true iterator.ID (x.mxmlElementGetAttr service_node "id")
  let found ← compareAttr found iterator.type (x.mxmlElementGetAttr service_node "type")
  if found && (iterator.device_ID.isSome || iterator.device_type.isSome || iterator.location.isSome) then
    let device_node ← x.mxmlFindElement service_node "device".toList
    let found ← compareAttr found iterator.device_ID (x.mxmlElementGetAttr device_node "id")
    let found ← compareAttr found iterator.device_type (x.mxmlElementGetAttr device_node "type")
    compareAttr found iterator.location (x.mxmlElementGetAttr device_node "location")
  else some found

/-- `copy_request_service`: what `to_create` is then. -/
def copy_request_service (to_copy to_create : RequestService) : RequestService :=
  { to_create with
    ID := to_copy.ID
    type := to_copy.type
    device_ID := to_copy.device_ID
    device_type := to_copy.device_type
    RSID := to_copy.RSID }

/-- The loop over the requests. `fresh` is what the memory for the copy holds when it is allocated. -/
def findMatching (x : Mxml) (service_node : XmlNode) (fresh : RequestService) : List RequestService → Int × Option RequestService
  | [] => (-1, none)
  | iterator :: rest =>
    match matchRequest x service_node iterator with
    | none => (-1, none)
    | some true => (0, some (copy_request_service iterator fresh))
    | some false => findMatching x service_node fresh rest

/-- `get_matching_request_service`. -/
def get_matching_request_service (x : Mxml) (fresh : RequestService) (_service_xml : Option (List Char))
    (_request_service_head : List RequestService) : Int × Option RequestService :=
  match _service_xml with
  | none => (-1, none)
  | some _service_xml =>
    match x.mxmlLoadString _service_xml with
    | none => (-1, none)
    | some tree =>
      match x.mxmlFindElement tree "service".toList with
      | none => (-1, none)
      | some service_node => findMatching x service_node fresh _request_service_head

/-! ## What is searched for -/

/-- The fields of a request that ask for something, each with the attribute it asks for. -/
def criteria (x : Mxml) (service_node : XmlNode) (r : RequestService) : List (Option (List Char) × Option (List Char)) :=
  let device_node := x.mxmlFindElement service_node "device".toList
  [(r.ID, x.mxmlElementGetAttr service_node "id"), (r.type, x.mxmlElementGetAttr service_node "type"),
    (r.device_ID, device_node.bind (x.mxmlElementGetAttr · "id")), (r.device_type, device_node.bind (x.mxmlElementGetAttr · "type")),
    (r.location, device_node.bind (x.mxmlElementGetAttr · "location"))]

/-- The field is not given, or equal to the attribute. -/
abbrev Agrees (c : Option (List Char) × Option (List Char)) : Prop := c.1 = none ∨ c.1 = c.2

/-- All fields given equal the attributes. -/
abbrev Matches (x : Mxml) (service_node : XmlNode) (r : RequestService) : Prop := ∀ c ∈ criteria x service_node r, Agrees c

/-- The first attribute that a field given does not equal is missing. -/
def MeetsMissing (cs : List (Option (List Char) × Option (List Char))) : Prop :=
  ∃ before c after, cs = before ++ c :: after ∧ (∀ b ∈ before, Agrees b) ∧ c.1 ≠ none ∧ c.2 = none

/-- What a request is made of is the same. -/
structure IsCopyOf (copy r : RequestService) : Prop where
  ID : copy.ID = r.ID
  type : copy.type = r.type
  device_ID : copy.device_ID = r.device_ID
  device_type : copy.device_type = r.device_type
  location : copy.location = r.location
  RSID : copy.RSID = r.RSID
  on_value_change_head : copy.on_value_change_head = r.on_value_change_head
  default_value_change : copy.default_value_change = r.default_value_change

/-- The first request that is matched. -/
def firstMatch (x : Mxml) (service_node : XmlNode) (requests : List RequestService) : Option RequestService :=
  requests.find? fun r => decide (Matches x service_node r)

/-- The requests in front of it. -/
def beforeMatch (x : Mxml) (service_node : XmlNode) (requests : List RequestService) : List RequestService :=
  requests.takeWhile fun r => decide ¬Matches x service_node r

/-- The result is 0, and a copy of the first request that is matched, or -1 if there is none. -/
def FindsFirst (x : Mxml) (service_node : XmlNode) (requests : List RequestService) (result : Int × Option RequestService) : Prop :=
  match firstMatch x service_node requests with
  | some r => result.1 = 0 ∧ ∃ copy, result.2 = some copy ∧ IsCopyOf copy r
  | none => result.1 = -1

/-- No request in front of the first one that is matched meets an attribute that is missing, and the memory for the copy happens to hold
what of that one is not copied. -/
def Unhindered (x : Mxml) (service_node : XmlNode) (fresh : RequestService) (requests : List RequestService) : Prop :=
  ∀ r, firstMatch x service_node requests = some r →
    (∀ q ∈ beforeMatch x service_node requests, ¬MeetsMissing (criteria x service_node q)) ∧
      fresh.location = r.location ∧ fresh.on_value_change_head = r.on_value_change_head ∧
      fresh.default_value_change = r.default_value_change

section

variable {x : Mxml} {service_node : XmlNode} {fresh : RequestService}

/-- The comparisons of one turn, one after the other. -/
def compareAll (cs : List (Option (List Char) × Option (List Char))) (found : Bool) : Option Bool :=
  cs.foldlM (fun found c => compareAttr found c.1 c.2) found

/-- Where something was found to differ nothing is compared any more. -/
theorem compareAll_false : ∀ cs : List (Option (List Char) × Option (List Char)), compareAll cs false = some false
  | [] => rfl
  | _ :: cs => compareAll_false cs

theorem compareAll_cons_some {c : Option (List Char) × Option (List Char)} {cs : List (Option (List Char) × Option (List Char))} {b : Bool}
    (h : compareAttr true c.1 c.2 = some b) : compareAll (c :: cs) true = compareAll cs b := by
  rw [compareAll, List.foldlM_cons, h]
  rfl

theorem compareAll_cons_none {c : Option (List Char) × Option (List Char)} {cs : List (Option (List Char) × Option (List Char))}
    (h : compareAttr true c.1 c.2 = none) : compareAll (c :: cs) true = none := by
  rw [compareAll, List.foldlM_cons, h]
  rfl

/-- A comparison: the field agrees with the attribute, or the attribute is missing, or they differ. -/
theorem compareAttr_cases (c : Option (List Char) × Option (List Char)) :
    (Agrees c ∧ compareAttr true c.1 c.2 = some true) ∨ (c.1 ≠ none ∧ c.2 = none ∧ compareAttr true c.1 c.2 = none) ∨
      (¬Agrees c ∧ c.2 ≠ none ∧ compareAttr true c.1 c.2 = some false) := by
  obtain ⟨field, attr⟩ := c
  cases field with
  | none => exact .inl ⟨.inl rfl, rfl⟩
  | some value =>
    cases attr with
    | none => exact .inr (.inl ⟨Option.some_ne_none _, rfl, rfl⟩)
    | some a =>
      by_cases h : value = a
      · exact .inl ⟨.inr (congrArg some h), congrArg some (decide_eq_true h)⟩
      · refine .inr (.inr ⟨fun hag => ?_, Option.some_ne_none _, congrArg some (decide_eq_false h)⟩)
        exact hag.elim (Option.some_ne_none _) fun he => h (Option.some.inj he)

theorem meetsMissing_cons {c : Option (List Char) × Option (List Char)} {cs : List (Option (List Char) × Option (List Char))} :
    MeetsMissing (c :: cs) ↔ (c.1 ≠ none ∧ c.2 = none) ∨ (Agrees c ∧ MeetsMissing cs) := by
  constructor
  · rintro ⟨before, d, after, heq, hbefore, hd⟩
    cases before with
    | nil =>
      obtain ⟨rfl, rfl⟩ := List.cons.inj heq
      exact .inl hd
    | cons b before =>
      obtain ⟨rfl, rfl⟩ := List.cons.inj heq
      exact .inr ⟨hbefore c (List.mem_cons_self ..), before, d, after, rfl, fun e he => hbefore e (List.mem_cons_of_mem _ he), hd⟩
  · rintro (hc | ⟨hc, before, d, after, rfl, hbefore, hd⟩)
    · exact ⟨[], c, cs, rfl, fun b hb => absurd hb List.not_mem_nil, hc⟩
    · exact ⟨c :: before, d, after, rfl, List.forall_mem_cons.mpr ⟨hc, hbefore⟩, hd⟩

/-- What all comparisons together find. -/
theorem compareAll_true : ∀ cs : List (Option (List Char) × Option (List Char)),
    (compareAll cs true = some true ↔ ∀ c ∈ cs, Agrees c) ∧ (compareAll cs true = none ↔ MeetsMissing cs) := by
  intro cs
  induction cs with
  | nil =>
    refine ⟨iff_of_true rfl fun c hc => absurd hc List.not_mem_nil, iff_of_false (Option.some_ne_none _) ?_⟩
    rintro ⟨before, c, after, heq, -⟩
    exact absurd heq.symm (List.append_ne_nil_of_right_ne_nil _ (List.cons_ne_nil _ _))
  | cons c cs ih =>
    rw [List.forall_mem_cons, meetsMissing_cons]
    rcases compareAttr_cases c with ⟨hag, hc⟩ | ⟨hgiven, hmissing, hc⟩ | ⟨hag, hattr, hc⟩
    · -- the search goes on
      rw [compareAll_cons_some hc, ih.1, ih.2]
      refine ⟨(and_iff_right hag).symm, (or_iff_right ?_).trans (and_iff_right hag) |>.symm⟩
      exact fun h => hag.elim h.1 fun he => h.1 (he.trans h.2)
    · rw [compareAll_cons_none hc]
      have hag : ¬Agrees c := fun hag => hag.elim hgiven fun he => hgiven (he.trans hmissing)
      exact ⟨iff_of_false (Option.some_ne_none _).symm fun h => hag h.1, iff_of_true rfl (.inl ⟨hgiven, hmissing⟩)⟩
    · rw [compareAll_cons_some hc, compareAll_false]
      refine ⟨iff_of_false (fun h => Bool.false_ne_true (Option.some.inj h)) fun h => hag h.1,
        iff_of_false (Option.some_ne_none _) fun h => h.elim (fun h => hattr h.2) fun h => hag h.1⟩

/-- A turn makes the comparisons one after the other: where no field asks for the device, it need not be there. -/
theorem matchRequest_eq (x : Mxml) (service_node : XmlNode) (iterator : RequestService) :
    matchRequest x service_node iterator = compareAll (criteria x service_node iterator) true := by
  unfold matchRequest compareAll criteria
  rw [List.foldlM_cons]
  refine bind_congr fun found => ?_
  rw [List.foldlM_cons]
  refine bind_congr fun found => ?_
  obtain ⟨ID, name, value_url, complete_url, type, RSID, device_type, device_ID, location, changes, change⟩ := iterator
  cases found with
  | false => exact (compareAll_false _).symm
  | true =>
    cases x.mxmlFindElement service_node "device".toList with
    | none => cases device_ID <;> cases device_type <;> cases location <;> rfl
    | some device_node =>
      simp only [List.foldlM_cons, List.foldlM_nil, bind_pure, Option.bind_some]
      split
      · rfl
      · -- nothing is asked of the device
        rename_i h
        simp only [Bool.true_and, Bool.or_eq_true, Option.isSome_iff_ne_none, not_or, not_not] at h
        obtain ⟨⟨rfl, rfl⟩, rfl⟩ := h
        rfl

/-- What a turn finds out about a request. -/
theorem matchRequest_true {r : RequestService} : matchRequest x service_node r = some true ↔ Matches x service_node r := by
  rw [matchRequest_eq]
  exact (compareAll_true _).1

theorem matchRequest_none {r : RequestService} :
    matchRequest x service_node r = none ↔ MeetsMissing (criteria x service_node r) := by
  rw [matchRequest_eq]
  exact (compareAll_true _).2

/-! ## The search -/

/-- The copy is one where the memory held what is not copied. -/
theorem isCopyOf_iff {r : RequestService} : IsCopyOf (copy_request_service r fresh) r ↔ fresh.location = r.location ∧
    fresh.on_value_change_head = r.on_value_change_head ∧ fresh.default_value_change = r.default_value_change :=
  ⟨fun h => ⟨h.location, h.on_value_change_head, h.default_value_change⟩, fun h => ⟨rfl, rfl, rfl, rfl, h.1, rfl, h.2.1, h.2.2⟩⟩

theorem firstMatch_cons_of_matches {q : RequestService} (hq : Matches x service_node q) (rest : List RequestService) :
    firstMatch x service_node (q :: rest) = some q ∧ beforeMatch x service_node (q :: rest) = [] :=
  ⟨List.find?_cons_of_pos (decide_eq_true hq), List.takeWhile_cons_of_neg (by rw [decide_eq_true_eq]; exact not_not_intro hq)⟩

theorem firstMatch_cons {q : RequestService} (hq : ¬Matches x service_node q) (rest : List RequestService) :
    firstMatch x service_node (q :: rest) = firstMatch x service_node rest ∧
      beforeMatch x service_node (q :: rest) = q :: beforeMatch x service_node rest :=
  ⟨List.find?_cons_of_neg (by rw [decide_eq_true_eq]; exact hq), List.takeWhile_cons_of_pos (decide_eq_true hq)⟩

/-- The search returns the first request that is matched exactly where nothing hinders it. -/
theorem findsFirst_iff (requests : List RequestService) :
    FindsFirst x service_node requests (findMatching x service_node fresh requests) ↔ Unhindered x service_node fresh requests := by
  unfold FindsFirst Unhindered
  induction requests with
  | nil => exact iff_of_true rfl fun r h => absurd h.symm (Option.some_ne_none r)
  | cons q rest ih =>
    rw [findMatching]
    by_cases hq : Matches x service_node q
    · -- the first one is matched
      rw [matchRequest_true.mpr hq, (firstMatch_cons_of_matches hq rest).1, (firstMatch_cons_of_matches hq rest).2]
      constructor
      · rintro ⟨-, copy, hcopy, his⟩ r hr
        cases hcopy
        cases hr
        exact ⟨fun q hq => absurd hq List.not_mem_nil, isCopyOf_iff.mp his⟩
      · intro h
        exact ⟨rfl, _, rfl, isCopyOf_iff.mpr (h q rfl).2⟩
    · rw [(firstMatch_cons hq rest).1, (firstMatch_cons hq rest).2]
      cases hturn : matchRequest x service_node q with
      | none =>
        -- the search is given up, and there may be another one that is matched
        have hmissing := matchRequest_none.mp hturn
        cases firstMatch x service_node rest with
        | none => exact iff_of_true rfl fun r h => absurd h.symm (Option.some_ne_none r)
        | some r =>
          refine iff_of_false (fun h => absurd h.1 (show (-1 : Int) ≠ 0 by decide)) fun h => ?_
          exact (h r rfl).1 q (List.mem_cons_self ..) hmissing
      | some found =>
        cases found with
        | true => exact absurd (matchRequest_true.mp hturn) hq
        | false =>
          have hgoes : ¬MeetsMissing (criteria x service_node q) := fun h =>
            Option.some_ne_none _ (hturn.symm.trans (matchRequest_none.mpr h))
          refine ih.trans (forall_congr' fun r => imp_congr_right fun _ => and_congr_left fun _ => ?_)
          rw [List.forall_mem_cons, and_iff_right hgoes]

end

/-- For a description that parses and has a service element, the search returns the first request that is matched exactly where no
request in front of it meets an attribute that is missing, and the memory for the copy held what is not copied. -/
theorem first_match_iff (x : Mxml) (fresh : RequestService) (_service_xml : List Char) (tree service_node : XmlNode)
    (hload : x.mxmlLoadString _service_xml = some tree) (hfind : x.mxmlFindElement tree "service".toList = some service_node)
    (requests : List RequestService) :
    FindsFirst x service_node requests (get_matching_request_service x fresh (some _service_xml) requests) ↔
      Unhindered x service_node fresh requests := by
  unfold get_matching_request_service
  dsimp only
  rw [hload]
  dsimp only
  rw [hfind]
  exact findsFirst_iff requests

/-! ## A lamp without a location -/

def lampText : List Char :=
  "<?xml version=\"1.0\" encoding=\"utf-8\"?>\n<service type=\"lamp\" id=\"0\"><device type=\"plug\" id=\"7\"/></service>\n".toList

def lampDevice : XmlNode := .element "device".toList [("type".toList, "plug".toList), ("id".toList, "7".toList)] []

def lampService : XmlNode := .element "service".toList [("type".toList, "lamp".toList), ("id".toList, "0".toList)] [lampDevice]

def lampTree : XmlNode := .element valueMxml.declaration [] [lampService]

/-- The library, with this document read. -/
def lampMxml : Mxml := { valueMxml with mxmlLoadString := fun s => if s = lampText then some lampTree else none }

theorem lampMxml_load : lampMxml.mxmlLoadString lampText = some lampTree := by
  unfold lampMxml
  dsimp only
  rw [if_pos rfl]

/-- A request for nothing. -/
def noRequest : RequestService := ⟨none, none, none, none, none, none, none, none, none, none, none⟩

/-- Requests for a lamp in the kitchen, and for any lamp. -/
def lampRequests : List RequestService :=
  [{ noRequest with type := some "lamp".toList, location := some "kitchen".toList, RSID := some "1".toList },
    { noRequest with type := some "lamp".toList, RSID := some "2".toList }]

/-- Requests for a switch, and for any lamp. -/
def otherRequests : List RequestService :=
  [{ noRequest with type := some "switch".toList, RSID := some "1".toList },
    { noRequest with type := some "lamp".toList, RSID := some "2".toList }]

/-- Nothing hinders the search among these. -/
theorem otherRequests_unhindered : Unhindered lampMxml lampService noRequest otherRequests := by
  intro r hr
  have hfirst : firstMatch lampMxml lampService otherRequests =
      some { noRequest with type := some "lamp".toList, RSID := some "2".toList } := rfl
  obtain rfl := Option.some.inj (hfirst.symm.trans hr)
  refine ⟨fun q hq hmissing => ?_, rfl, rfl, rfl⟩
  have hbefore : beforeMatch lampMxml lampService otherRequests =
      [{ noRequest with type := some "switch".toList, RSID := some "1".toList }] := rfl
  rw [hbefore] at hq
  obtain rfl := List.mem_singleton.mp hq
  exact absurd (matchRequest_none.mpr hmissing) (by decide)

/-- So the lamp is found behind the switch. -/
theorem first_match_iff_lamp :
    lampMxml.mxmlLoadString lampText = some lampTree ∧ lampMxml.mxmlFindElement lampTree "service".toList = some lampService ∧
      FindsFirst lampMxml lampService otherRequests (get_matching_request_service lampMxml noRequest (some lampText) otherRequests) ∧
      (FindsFirst lampMxml lampService lampRequests (get_matching_request_service lampMxml noRequest (some lampText) lampRequests) ↔
        Unhindered lampMxml lampService noRequest lampRequests) :=
  ⟨lampMxml_load, rfl,
    (first_match_iff lampMxml noRequest lampText lampTree lampService lampMxml_load rfl otherRequests).mpr otherRequests_unhindered,
    first_match_iff lampMxml noRequest lampText lampTree lampService lampMxml_load rfl lampRequests⟩

/-- The lamp has no location, and the request for any lamp is not come to. -/
theorem not_first_match :
    ¬∀ (x : Mxml) (fresh : RequestService) (_service_xml : List Char) (tree service_node : XmlNode) (requests : List RequestService),
      x.mxmlLoadString _service_xml = some tree → x.mxmlFindElement tree "service".toList = some service_node →
        FindsFirst x service_node requests (get_matching_request_service x fresh (some _service_xml) requests) := by
  intro h
  have hfinds := h lampMxml noRequest lampText lampTree lampService lampRequests lampMxml_load rfl
  have hfirst : firstMatch lampMxml lampService lampRequests =
      some { noRequest with type := some "lamp".toList, RSID := some "2".toList } := by rfl
  have hgiven : (get_matching_request_service lampMxml noRequest (some lampText) lampRequests).1 = -1 := by
    unfold get_matching_request_service
    dsimp only
    rw [lampMxml_load]
    rfl
  rw [FindsFirst, hfirst, hgiven] at hfinds
  exact absurd hfinds.1 (by decide)

end HomeBridge.HpClient
