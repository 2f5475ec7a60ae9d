import Mathlib.Tactic.Tauto
import HomeBridge.Hpd.Registry

/-!
# What a failed call leaves behind

A call that returns an error should leave the list and the tree as they were. The steps of a call are not undone: when Avahi fails
the service is already in the list and the tree, or out of them, when the tree has lost a service the list has lost it too, and
when a service of a device fails the ones before it stay registered. Only what is refused before the first step leaves no trace.
-/

namespace HomeBridge.Hpd

open Runs

/-- An error leaves the registry as it was. -/
def ErrorAtomic (r : Registry) (c : RegistryCall) : Prop := (r.call c).1 < HPD_E_SUCCESS → (r.call c).2 = r

/-- All services of a list get into the server's list, one after the other, and Avahi takes each. -/
def AllAdmitted (r : Registry) (services : List (Service × Outcome)) : Prop :=
  (services.map fun p => p.1.key).Nodup ∧ ∀ p ∈ services, Admitted p.2 r p.1 ∧ 0 ≤ p.2.avahi

/-- The condition on a call and the registry before it: a service that gets into the list is taken by Avahi; one that is taken out
is in the tree, and Avahi lets it go; of a device, all services go through or the first does not get into the list. -/
def Undisturbed (r : Registry) : RegistryCall → Prop
  | .service (.register o (some s)) => Admitted o r s → 0 ≤ o.avahi
  | .service (.unregister o (some s)) =>
    is_service_registered r s ≠ 0 → service_is_in_xml_file r.xml_tree s = HPD_YES ∧ 0 ≤ o.avahi
  | .registerDevice (some (d, services)) => d.secure_device = HPD_NON_SECURE_DEVICE →
      AllAdmitted r services ∨ ∀ p ∈ services.head?, ¬Admitted p.2 r p.1
  | _ => True

/-! ## One service -/

section

variable {o : Outcome} {r : Registry} {s : Service}

/-- A service more is another registry. -/
theorem added_ne (r : Registry) (o : Outcome) (s : Service) : r.added o s ≠ r := by
  intro he
  have hlen := congrArg (fun r : Registry => r.service_head.length) he
  simp [Registry.added] at hlen

theorem errorAtomic_register :
    ErrorAtomic r (.service (.register o (some s))) ↔ Undisturbed r (.service (.register o (some s))) := by
  change ((register_service_in_server o r s).1 < HPD_E_SUCCESS → (register_service_in_server o r s).2 = r) ↔
    (Admitted o r s → 0 ≤ o.avahi)
  by_cases h : Admitted o r s
  · have hfail : (register_service_in_server o r s).1 < HPD_E_SUCCESS ↔ o.avahi < HPD_E_SUCCESS := by
      rw [register_fails_iff]
      exact or_iff_right fun hno => hno h
    have hstate : (register_service_in_server o r s).2 = r.added o s := congrArg Prod.snd (register_admitted h)
    rw [hfail, hstate]
    constructor
    · intro hsame _
      by_contra hneg
      exact added_ne r o s (hsame (Int.not_le.mp hneg))
    · intro hok hneg
      exact absurd (hok h) (Int.not_le.mpr hneg)
  · exact iff_of_true (fun _ => (register_refused h).2) fun ha => absurd ha h

/-- A registered service less is another registry. -/
theorem unregistered_ne (h : is_unsecure_service_registered r.service_head s = 1) (xml_tree : XmlTree) :
    Registry.mk (unregister_service_in_unsecure_server r.service_head s).2 xml_tree ≠ r := by
  intro he
  have hlen := congrArg (fun r : Registry => r.service_head.length) he
  obtain ⟨s', hs', hkey⟩ := List.mem_map.mp (registered_iff.mp h)
  let hasUrl : Service → Bool := fun iterator => iterator.value_url == s.value_url
  have hp : hasUrl s' = true := beq_iff_eq.mpr (value_url_of_key hkey)
  have herase : (r.service_head.eraseP hasUrl).length = r.service_head.length - 1 := List.length_eraseP_of_mem hs' hp
  have hpos := List.length_pos_of_mem hs'
  have hlen' : (r.service_head.eraseP hasUrl).length = r.service_head.length := hlen
  omega

theorem errorAtomic_unregister :
    ErrorAtomic r (.service (.unregister o (some s))) ↔ Undisturbed r (.service (.unregister o (some s))) := by
  change ((unregister_service_in_server o r s).1 < HPD_E_SUCCESS → (unregister_service_in_server o r s).2 = r) ↔
    (is_service_registered r s ≠ 0 → service_is_in_xml_file r.xml_tree s = HPD_YES ∧ 0 ≤ o.avahi)
  by_cases h0 : is_service_registered r s = 0
  · exact iff_of_true (fun _ => congrArg Prod.snd (unregister_refused h0)) fun hne => absurd h0 hne
  obtain ⟨h1, hun⟩ := unregister_registered (o := o) h0
  rw [hun]
  by_cases hx : s.key ∈ xmlKeys r.xml_tree
  · have hpub := publishUnregistered_there (o := o)
      (r := { r with service_head := (unregister_service_in_unsecure_server r.service_head s).2 }) hx
    rw [hpub]
    by_cases ha : o.avahi < HPD_E_SUCCESS
    · rw [if_pos ha]
      exact iff_of_false (fun hsame => unregistered_ne h1 _ (hsame ha)) fun hok => absurd (hok h0).2 (Int.not_le.mpr ha)
    · rw [if_neg ha]
      exact iff_of_true (fun hneg => absurd hneg (Int.lt_irrefl _)) fun _ => ⟨service_in_xml_iff.mpr hx, Int.not_lt.mp ha⟩
  · have hpub := publishUnregistered_missing (o := o)
      (r := { r with service_head := (unregister_service_in_unsecure_server r.service_head s).2 }) hx
    rw [hpub]
    refine iff_of_false (fun hsame => ?_) fun hok => hx (service_in_xml_iff.mp (hok h0).1)
    exact unregistered_ne h1 r.xml_tree (hsame (show HPD_E_XML_ERROR < HPD_E_SUCCESS by decide))

/-! ## The services of a device -/

/-- A service that gets into the list keeps out the services with its four strings, and no others. -/
theorem admitted_added_iff {o' : Outcome} {s' : Service} :
    Admitted o' (r.added o s) s' ↔ Admitted o' r s' ∧ s'.key ≠ s.key := by
  have hkeys : (r.added o s).service_head.map Service.key = r.service_head.map Service.key ++ [s.key] := by
    rw [Registry.added, List.map_append, List.map_singleton]
  simp only [Admitted, not_registered_iff, hkeys, List.mem_append, List.mem_singleton, not_or]
  tauto

theorem allAdmitted_cons {services : List (Service × Outcome)} (h : Admitted o r s ∧ 0 ≤ o.avahi) :
    AllAdmitted r ((s, o) :: services) ↔ AllAdmitted (r.added o s) services := by
  simp only [AllAdmitted, List.map_cons, List.nodup_cons, List.forall_mem_cons, h, true_and, admitted_added_iff]
  constructor
  · rintro ⟨⟨hnew, hnodup⟩, hall⟩
    exact ⟨hnodup, fun p hp => ⟨⟨(hall p hp).1, fun he => hnew (he ▸ List.mem_map_of_mem hp)⟩, (hall p hp).2⟩⟩
  · rintro ⟨hnodup, hall⟩
    refine ⟨⟨fun hmem => ?_, hnodup⟩, fun p hp => ⟨(hall p hp).1.1, (hall p hp).2⟩⟩
    obtain ⟨p, hp, he⟩ := List.mem_map.mp hmem
    exact (hall p hp).1.2 he

/-- The loop goes on exactly after a registration that does not fail. -/
theorem registerEach_cons (services : List (Service × Outcome)) : registerEach r ((s, o) :: services) =
    if (register_service_in_server o r s).1 < HPD_E_SUCCESS then register_service_in_server o r s
    else registerEach (register_service_in_server o r s).2 services := rfl

/-- The loop fails unless every service goes through. -/
theorem registerEach_fails_iff : ∀ {services : List (Service × Outcome)} {r : Registry},
    (registerEach r services).1 < HPD_E_SUCCESS ↔ ¬AllAdmitted r services
  | [], r => by
    refine iff_of_false (Int.lt_irrefl _) (not_not_intro ⟨List.nodup_nil, ?_⟩)
    simp
  | (s, o) :: services, r => by
    rw [registerEach_cons]
    by_cases h : Admitted o r s ∧ 0 ≤ o.avahi
    · have hok : ¬(register_service_in_server o r s).1 < HPD_E_SUCCESS := by
        rw [register_fails_iff, not_or, not_not, Int.not_lt]
        exact h
      rw [if_neg hok, allAdmitted_cons h, congrArg Prod.snd (register_admitted h.1)]
      exact registerEach_fails_iff
    · have hfail : (register_service_in_server o r s).1 < HPD_E_SUCCESS := by
        rw [register_fails_iff, ← Int.not_le]
        exact not_and_or.mp h
      rw [if_pos hfail]
      exact iff_of_true hfail fun hall => h (hall.2 (s, o) (List.mem_cons_self ..))

/-- The loop takes nothing out of the list. -/
theorem length_le_registerEach : ∀ {services : List (Service × Outcome)} {r : Registry},
    r.service_head.length ≤ (registerEach r services).2.service_head.length
  | [], r => Nat.le_refl _
  | (s, o) :: services, r => by
    have hstep : r.service_head.length ≤ (register_service_in_server o r s).2.service_head.length := by
      by_cases h : Admitted o r s
      · rw [register_admitted h]
        simp [Registry.added]
      · exact Nat.le_of_eq (congrArg (fun r : Registry => r.service_head.length) (register_refused h).2.symm)
    rw [registerEach_cons]
    split
    · exact hstep
    · exact Nat.le_trans hstep length_le_registerEach

/-- A first service that gets into the list stays there, whatever becomes of the others. -/
theorem registerEach_ne (services : List (Service × Outcome)) (h : Admitted o r s) :
    (registerEach r ((s, o) :: services)).2 ≠ r := by
  intro he
  have hlen : (r.added o s).service_head.length ≤ (registerEach r ((s, o) :: services)).2.service_head.length := by
    rw [registerEach_cons, register_admitted h]
    split
    · exact Nat.le_refl _
    · exact length_le_registerEach
  rw [he, Registry.added, List.length_append, List.length_singleton] at hlen
  omega

theorem errorAtomic_registerEach (services : List (Service × Outcome)) :
    ((registerEach r services).1 < HPD_E_SUCCESS → (registerEach r services).2 = r) ↔
      AllAdmitted r services ∨ ∀ p ∈ services.head?, ¬Admitted p.2 r p.1 := by
  match services with
  | [] => exact iff_of_true (fun _ => rfl) (.inr fun p hp => nomatch hp)
  | (s, o) :: services =>
    by_cases h : Admitted o r s
    · have hhead : ¬∀ p ∈ ((s, o) :: services).head?, ¬Admitted p.2 r p.1 := fun hno => hno (s, o) rfl h
      rw [registerEach_fails_iff, or_iff_left hhead]
      constructor
      · intro hsame
        by_contra hno
        exact registerEach_ne services h (hsame hno)
      · exact fun hall hno => absurd hall hno
    · have hfail : (register_service_in_server o r s).1 < HPD_E_SUCCESS := (register_refused h).1
      rw [registerEach_cons, if_pos hfail]
      refine iff_of_true (fun _ => (register_refused h).2) (.inr fun p hp => ?_)
      cases hp
      exact h

end

/-- An error leaves the registry as it was, in every registry, exactly when the call meets the condition. -/
theorem errorAtomic_iff (r : Registry) (c : RegistryCall) : ErrorAtomic r c ↔ Undisturbed r c := by
  match c with
  | .service (.register o none) | .service (.unregister o none) => exact iff_of_true (fun _ => rfl) trivial
  | .service (.register o (some s)) => exact errorAtomic_register
  | .service (.unregister o (some s)) => exact errorAtomic_unregister
  | .registerDevice none => exact iff_of_true (fun _ => rfl) trivial
  | .registerDevice (some (d, services)) =>
    by_cases hsec : d.secure_device = HPD_NON_SECURE_DEVICE
    · have hcall : r.call (.registerDevice (some (d, services))) = registerEach r services := if_pos hsec
      rw [ErrorAtomic, hcall, errorAtomic_registerEach]
      exact ⟨fun h _ => h, fun h => h hsec⟩
    · refine iff_of_true (fun _ => ?_) fun h => absurd h hsec
      have hcall : r.call (.registerDevice (some (d, services))) =
          if d.secure_device = HPD_SECURE_DEVICE then (HPD_E_NO_HTTPS, r) else (HPD_E_BAD_PARAMETER, r) := if_neg hsec
      rw [hcall]
      split <;> rfl

/-- A service that Avahi refuses, on a server that has just started, stays registered. -/
theorem not_errorAtomic : ¬∀ r c, Reachable Registry.next Registry.empty r → ErrorAtomic r c := by
  intro h
  let o : Outcome := ⟨true, ⟨true, true⟩, -22⟩
  let s : Service := ⟨none, "1", "temp", none, ⟨none, "t1", none, none, none, none, none, none, "thermometer",
    HPD_NON_SECURE_DEVICE⟩, [], _, rfl⟩
  have ha : Admitted o Registry.empty s := ⟨rfl, rfl, rfl⟩
  exact absurd (errorAtomic_register.mp (h _ (.service (.register o (some s))) (Reachable.refl _)) ha) (by decide)

end HomeBridge.Hpd
