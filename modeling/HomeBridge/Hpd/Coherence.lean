import HomeBridge.Hpd.Registry

/-!
# The views of the registry agree

The list and the tree should hold the same services, each once, and a service should be found under its URL exactly when it is
registered. The URL does not tell services apart: a slash in one of the four strings can stand where another service has the one
between them. A registration under a URL that is taken breaks the agreement, and nothing else does, memory for the nodes provided.
-/

namespace HomeBridge.Hpd

open Runs

/-- The three views agree. -/
structure Coherent (r : Registry) : Prop where
  once : (r.service_head.map Service.key).Nodup
  labelled : Labelled r.xml_tree
  same : ∀ k, k ∈ xmlKeys r.xml_tree ↔ k ∈ r.service_head.map Service.key
  found : ∀ s : Service, (matching_service r.service_head s.value_url).map Service.key = some s.key ↔
    is_unsecure_service_registered r.service_head s = 1

/-- The condition on a call and the registry before it: a service is registered under a URL no registered service has, and its nodes
are allocated. -/
def Fits (r : Registry) : ServiceCall → Prop
  | .register o (some s) => (∀ s' ∈ r.service_head, s'.value_url ≠ s.value_url) ∧ NodesSuffice o.nodes r.xml_tree s
  | _ => True

/-! ## One call -/

section

variable {r : Registry} {o : Outcome} {s : Service}

/-- Taking one element out of a list without duplicates. -/
theorem mem_take_out {α : Type} {before after : List α} {a x : α} (h : (before ++ a :: after).Nodup) :
    x ∈ before ++ after ↔ x ∈ before ++ a :: after ∧ x ≠ a := by
  have ha : a ∉ before ++ after := (List.nodup_middle.mp h).notMem
  simp only [List.mem_append, List.mem_cons] at ha ⊢
  constructor
  · intro hx
    exact ⟨hx.imp_right .inr, fun he => ha (he ▸ hx)⟩
  · rintro ⟨hx | hx | hx, hne⟩
    · exact .inl hx
    · exact absurd hx hne
    · exact .inr hx

/-- In a coherent registry the URLs of the entries tell them apart. -/
theorem Coherent.urls (h : Coherent r) : UrlsTellApart r.service_head := matching_service_iff.mp h.found

/-- A service comes to a coherent registry without spoiling it exactly when its URL is new and its nodes are there. -/
theorem Coherent.added_iff (h : Coherent r) (ha : Admitted o r s) :
    Coherent (r.added o s) ↔ Fits r (.register o (some s)) := by
  have hnew : s.key ∉ r.service_head.map Service.key := not_registered_iff.mp ha.2.1
  have hkeys : (r.added o s).service_head.map Service.key = r.service_head.map Service.key ++ [s.key] := by
    rw [Registry.added, List.map_append, List.map_singleton]
  obtain ⟨hlab, hxml⟩ := add_service_to_xml_spec o.nodes h.labelled (fun hk => hnew ((h.same _).mp hk))
  constructor
  · intro hc
    refine ⟨(urlsTellApart_append h.urls hnew).mp hc.urls, ?_⟩
    have hin : s.key ∈ (r.added o s).service_head.map Service.key := hkeys ▸ List.mem_append_right _ (List.mem_singleton_self _)
    rcases (hxml _).mp ((hc.same _).mpr hin) with hk | hk
    · exact absurd ((h.same _).mp hk) hnew
    · exact hk.1
  · rintro ⟨hurl, hnodes⟩
    refine ⟨?_, hlab, fun k => ?_, matching_service_iff.mpr ((urlsTellApart_append h.urls hnew).mpr hurl)⟩
    · rw [hkeys, List.nodup_append]
      refine ⟨h.once, List.nodup_singleton _, fun a hmem b hb he => hnew ?_⟩
      rwa [he, List.mem_singleton.mp hb] at hmem
    · rw [hkeys, List.mem_append, List.mem_singleton, ← h.same]
      exact (hxml k).trans (or_congr_right (and_iff_right hnodes))

/-- A registered service leaves a coherent registry coherent. -/
theorem Coherent.removed (h : Coherent r) (hr : is_unsecure_service_registered r.service_head s = 1) :
    Coherent ⟨(unregister_service_in_unsecure_server r.service_head s).2, (remove_service_from_XML r.xml_tree s).2⟩ := by
  have hin := registered_iff.mp hr
  obtain ⟨before, after, hsplit, hleft⟩ := unregister_keys h.urls hin
  obtain ⟨hlab, xbefore, xafter, hxsplit, hxleft⟩ := remove_service_from_XML_spec h.labelled ((h.same _).mpr hin)
  have hnodup : (before ++ s.key :: after).Nodup := hsplit ▸ h.once
  have hxnodup : (xbefore ++ s.key :: xafter).Nodup := hxsplit ▸ h.labelled.nodup_xmlKeys
  refine ⟨?_, hlab, fun k => ?_, matching_service_iff.mpr fun a ha b hb => ?_⟩
  · dsimp only
    rw [hleft]
    exact (List.nodup_cons.mp (List.nodup_middle.mp hnodup)).2
  · dsimp only
    rw [hxleft, hleft, mem_take_out hxnodup, mem_take_out hnodup, ← hxsplit, ← hsplit, h.same]
  · exact h.urls a (List.mem_of_mem_eraseP ha) b (List.mem_of_mem_eraseP hb)

/-! ## Runs of successful calls -/

variable {r' : Registry}

theorem step_eq_some {c : ServiceCall} :
    Registry.step r c = some r' ↔ ¬(r.callService c).1 < HPD_E_SUCCESS ∧ (r.callService c).2 = r' := by
  rw [Registry.step, Option.ite_none_left_eq_some, Option.some.injEq]

/-- A registration that succeeds. -/
theorem step_register (h : Registry.step r (.register o (some s)) = some r') : Admitted o r s ∧ r' = r.added o s := by
  obtain ⟨hrc, rfl⟩ := step_eq_some.mp h
  have ha : Admitted o r s := by
    by_contra hno
    exact hrc (register_refused hno).1
  exact ⟨ha, congrArg Prod.snd (register_admitted ha)⟩

/-- An unregistration that succeeds, in a coherent registry. -/
theorem step_unregister (hc : Coherent r) (h : Registry.step r (.unregister o (some s)) = some r') :
    is_unsecure_service_registered r.service_head s = 1 ∧
      r' = ⟨(unregister_service_in_unsecure_server r.service_head s).2, (remove_service_from_XML r.xml_tree s).2⟩ := by
  obtain ⟨hrc, rfl⟩ := step_eq_some.mp h
  change ¬(unregister_service_in_server o r s).1 < HPD_E_SUCCESS at hrc
  by_cases h0 : is_service_registered r s = 0
  · rw [unregister_refused h0] at hrc
    exact absurd (show HPD_E_SERVICE_NOT_REGISTER < HPD_E_SUCCESS by decide) hrc
  · obtain ⟨h1, he⟩ := unregister_registered (o := o) h0
    have hin : s.key ∈ xmlKeys r.xml_tree := (hc.same _).mpr (registered_iff.mp h1)
    have hpub := publishUnregistered_there (o := o)
      (r := { r with service_head := (unregister_service_in_unsecure_server r.service_head s).2 }) hin
    exact ⟨h1, (congrArg Prod.snd he).trans (congrArg Prod.snd hpub)⟩

end

/-- Nothing registered, nothing listed. -/
theorem coherent_empty : Coherent Registry.empty := by
  refine ⟨List.nodup_nil, ⟨List.nodup_nil, fun d hd => nomatch hd⟩, fun k => ?_, matching_service_iff.mpr fun a ha => nomatch ha⟩
  simp [Registry.empty, xmlKeys]

/-- In every run of calls that return success, the views agree after every call exactly when every service was registered under a URL
that was free, with its nodes allocated. -/
theorem coherent_always_iff (cs : List ServiceCall) :
    Always Registry.step Coherent Registry.empty cs ↔ Along Registry.step Fits Registry.empty cs := by
  have hgood : ∀ r c r', Coherent r → Fits r c → Registry.step r c = some r' → Coherent r' := by
    intro r c r' h hc hs
    cases c with
    | register o s =>
      cases s with
      | none => exact absurd (show HPD_E_NULL_POINTER < HPD_E_SUCCESS by decide) (step_eq_some.mp hs).1
      | some s =>
        obtain ⟨ha, rfl⟩ := step_register hs
        exact (h.added_iff ha).mpr hc
    | unregister o s =>
      cases s with
      | none => exact absurd (show HPD_E_NULL_POINTER < HPD_E_SUCCESS by decide) (step_eq_some.mp hs).1
      | some s =>
        obtain ⟨hr, rfl⟩ := step_unregister h hs
        exact h.removed hr
  have hbad : ∀ r c r', Coherent r → Registry.step r c = some r' → Coherent r' → Fits r c := by
    intro r c r' h hs hc
    cases c with
    | register o s =>
      cases s with
      | none => trivial
      | some s =>
        obtain ⟨ha, rfl⟩ := step_register hs
        exact (h.added_iff ha).mp hc
    | unregister o s => trivial
  exact always_iff_along (fun _ h => h) hgood hbad coherent_empty

/-- A service that measures temperature, of a device of the given type and ID. -/
def thermometer (deviceType deviceID : String) : Option Service :=
  create_service_struct none (some "1") (some "temp") none
    (some ⟨none, deviceID, none, none, none, none, none, none, deviceType, HPD_NON_SECURE_DEVICE⟩) none

/-- A call for which all goes well. -/
def smooth : Outcome := ⟨true, ⟨true, true⟩, HPD_E_SUCCESS⟩

/-- Two services of different devices under `/a/b/c/temp/1`: the second one registered is not found. -/
theorem not_coherent_always : ¬∀ cs, Always Registry.step Coherent Registry.empty cs := by
  intro h
  have hrun : (run Registry.step Registry.empty
      [.register smooth (thermometer "a/b" "c"), .register smooth (thermometer "a" "b/c")]).bind (fun r =>
        (thermometer "a" "b/c").map fun s => (is_unsecure_service_registered r.service_head s, s.key,
          (matching_service r.service_head s.value_url).map Service.key)) =
      some (1, (("a", "b/c"), "temp", "1"), some (("a/b", "c"), "temp", "1")) := by
    decide +kernel
  obtain ⟨r, hr, he⟩ := Option.bind_eq_some_iff.mp hrun
  obtain ⟨s, _, he⟩ := Option.map_eq_some_iff.mp he
  simp only [Prod.mk.injEq] at he
  obtain ⟨h1, hkey, hfound⟩ := he
  have hc := always_iff_beginning.mp (h _) _ [] r (List.append_nil _).symm hr
  rw [(hc.found s).mpr h1, hkey] at hfound
  exact absurd hfound (by decide)

end HomeBridge.Hpd
