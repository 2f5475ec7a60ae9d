import HomeBridge.Hpd.DeviceGraph
import HomeBridge.Hpd.Destruction

/-!
# The graph of devices and services in memory

A graph says which services a device lists; in memory the list is made of linked elements. The destruction of a service on the graph is
what `destroy_service_struct` does in a memory that holds the graph.
-/

namespace HomeBridge.Hpd

open Utlist

/-- The memory holds the graph: the structs have the strings and the pointers of the graph, the list of each device is linked, and no
element is in the lists of two devices. -/
structure Represents (m : Memory) (g : Graph) (lists : Nat → List (Nat × Nat)) : Prop where
  services : ∀ q, m.services q = (g.services q).map fun s => ⟨s.service.type, s.service.ID, some s.device⟩
  gone : ∀ a, g.devices a = none → m.devices a = none
  there : ∀ a d, g.devices a = some d → ∃ head, m.devices a = some ⟨d.device, head⟩ ∧ Linked m.elements head (lists a) ∧
    (lists a).map Prod.snd = d.service_head
  apart : ∀ a a', a ≠ a' → ∀ e ∈ (lists a).map Prod.fst, e ∉ (lists a').map Prod.fst

namespace Represents

open Memory

variable {server : Option (List Nat)} {m : Memory} {g : Graph} {lists : Nat → List (Nat × Nat)} {q : Nat} {s : ServiceStruct}
  {d : DeviceStruct}

/-- In a coherent graph the lists are as `destroy_service_struct` needs them. -/
theorem listed (hr : Represents m g lists) (hg : g.Inv) {a : Nat} (hd : g.devices a = some d) : Listed m a d.device (lists a) := by
  obtain ⟨head, hm, hl, hsnd⟩ := hr.there a d hd
  have hmem {p : Nat × Nat} (hp : p ∈ lists a) : p.2 ∈ d.service_head := hsnd ▸ List.mem_map_of_mem hp
  refine ⟨⟨head, hm, hl⟩, fun p hp => ?_, ?_⟩
  · obtain ⟨s, hs, hback⟩ := hg.members a d hd p.2 (hmem hp)
    exact ⟨_, by rw [hr.services, hs, Option.map_some], congrArg some hback⟩
  · have hapart := hg.coherent.apart a d hd
    rw [← hsnd, List.pairwise_map] at hapart
    refine List.pairwise_map.mpr (hapart.imp_of_mem fun {p p'} hp hp' hne he => ?_)
    obtain ⟨s, hs, _⟩ := hg.members a d hd p.2 (hmem hp)
    obtain ⟨s', hs', _⟩ := hg.members a d hd p'.2 (hmem hp')
    rw [hr.services, hr.services, hs, hs'] at he
    exact hne s s' hs hs' (Option.some.inj he)

/-- What comes of the destruction on the graph, for a service in its device's list. -/
theorem step_destroy (hg : g.Inv) (hs : g.services q = some s) (hd : g.devices s.device = some d) {l₁ l₂ : List Nat}
    (hl : d.service_head = l₁ ++ q :: l₂) : g.step (.destroy_service_struct q) = some { g with
      devices := Function.update g.devices s.device (if l₁ ++ l₂ = [] then none else some { d with service_head := l₁ ++ l₂ })
      services := Function.update g.services q none } := by
  have hne : d.service_head ≠ [] := by
    rw [hl]
    exact List.append_ne_nil_of_right_ne_nil _ (List.cons_ne_nil _ _)
  have hq : q ∉ l₁ := by
    obtain ⟨d', hd', hcount⟩ := hg.coherent.listed q s hs
    obtain rfl := Option.some.inj (hd.symm.trans hd')
    rw [hl, List.count_append, List.count_cons_self] at hcount
    exact List.count_eq_zero.mp (by omega)
  have herase : d.service_head.erase q = l₁ ++ l₂ := by
    rw [hl, List.erase_append_right _ hq, List.erase_cons_head]
  have hremove := Graph.remove_service_from_device_eq hs rfl
    (fun p hp => (hg.members _ d hd p hp).imp fun _ h => h.1) (hl ▸ List.mem_append_right _ (List.mem_cons_self ..))
    (hg.coherent.apart _ d hd)
  rw [herase] at hremove
  simp only [Graph.step, hs, hd, Option.bind_some, Graph.destroyService, if_neg hne, hremove, Option.map_some]

/-- One service gone, in memory and from the graph: its device is gone with it, or has the others in its list. -/
theorem without (hr : Represents m g lists) {p : Nat × Nat} {l₁ l₂ : List (Nat × Nat)} {a : Nat} (hd : g.devices a = some d)
    (hlist : lists a = l₁ ++ p :: l₂) {elements : Heap Nat} {b : Option DeviceBlock} {b' : Option DeviceStruct} {t : List Block}
    (hframe : ∀ e ∉ (l₁ ++ l₂).map Prod.fst, elements e = m.elements e)
    (hb : b = none ∧ b' = none ∨ ∃ head, b = some ⟨d.device, head⟩ ∧ Linked elements head (l₁ ++ l₂) ∧
      b' = some { d with service_head := (l₁ ++ l₂).map Prod.snd }) :
    Represents (m.without a b elements p t)
      { g with devices := Function.update g.devices a b', services := Function.update g.services p.2 none }
      (Function.update lists a (l₁ ++ l₂)) := by
  obtain ⟨_, _, hl, _⟩ := hr.there a d hd
  rw [hlist] at hl
  obtain ⟨hp, -⟩ := nodup_map_middle.mp hl.nodup
  have hsub {c e : Nat} (he : e ∈ (Function.update lists a (l₁ ++ l₂) c).map Prod.fst) : e ∈ (lists c).map Prod.fst := by
    by_cases hc : c = a
    · rw [hc, Function.update_self] at he
      rw [hc, hlist]
      exact mem_map_middle.mpr (Or.inr he)
    · rwa [Function.update_of_ne hc] at he
  refine ⟨fun q => ?_, fun c hc => ?_, fun c d' hc => ?_, fun c c' hne e he he' => hr.apart c c' hne e (hsub he) (hsub he')⟩
  · by_cases hq : q = p.2
    · simp [Memory.without, hq]
    · simpa [Memory.without, hq] using hr.services q
  · by_cases hca : c = a
    · rw [hca] at hc ⊢
      rcases hb with ⟨hb, _⟩ | ⟨head, _, _, hb'⟩
      · exact (Function.update_self ..).trans hb
      · exact absurd ((Function.update_self ..).symm.trans hc) (hb' ▸ Option.some_ne_none _)
    · exact (Function.update_of_ne hca ..).trans (hr.gone c ((Function.update_of_ne hca ..).symm.trans hc))
  · rcases Graph.update_cases hc with ⟨rfl, he⟩ | ⟨hca, hc⟩
    · rcases hb with ⟨_, hb'⟩ | ⟨head, hb, hlinked, hb'⟩
      · exact absurd (he.symm.trans hb') (Option.some_ne_none _)
      · obtain rfl := Option.some.inj (hb'.symm.trans he)
        rw [Function.update_self]
        refine ⟨head, (Function.update_self ..).trans hb, hlinked.congr fun e he => Function.update_of_ne ?_ .., rfl⟩
        rintro rfl
        exact hp he
    · obtain ⟨head, hm, hlinked, hsnd⟩ := hr.there c d' hc
      rw [Function.update_of_ne hca]
      refine ⟨head, (Function.update_of_ne hca ..).trans hm, hlinked.congr fun e he => ?_, hsnd⟩
      -- the elements of another device's list are not touched
      have hnot : e ∉ (l₁ ++ p :: l₂).map Prod.fst := hlist ▸ hr.apart c a hca e he
      rw [mem_map_middle, not_or] at hnot
      exact (Function.update_of_ne hnot.1 ..).trans (hframe e hnot.2)

/-- `destroy_service_struct` of a service that is not registered: a memory that holds a coherent graph holds the graph without the service
afterwards. -/
theorem destroy_service_struct (hr : Represents m g lists) (hg : g.Inv) (hs : g.services q = some s)
    (hu : Memory.is_service_registered server m q = some 0) : ∃ n m' g' lists', Represents m' g' lists' ∧
      g.step (.destroy_service_struct q) = some g' ∧
      ∀ fuel, n ≤ fuel → Memory.destroy_service_struct server fuel m q = some (HPD_E_SUCCESS, m') := by
  obtain ⟨d, hd, hcount⟩ := hg.coherent.listed q s hs
  have hlisted := hr.listed hg hd
  obtain ⟨_, _, _, hsnd⟩ := hr.there _ d hd
  have hq : q ∈ (lists s.device).map Prod.snd := hsnd ▸ List.count_pos_iff.mp (by omega)
  obtain ⟨p, hp, rfl⟩ := List.mem_map.mp hq
  obtain ⟨l₁, l₂, hlist⟩ := List.append_of_mem hp
  rw [hlist] at hlisted hsnd
  obtain ⟨elements, head, hl, hframe, hturn⟩ := hlisted.turn hu
  have hsplit : d.service_head = l₁.map Prod.snd ++ p.2 :: l₂.map Prod.snd := by simp [← hsnd]
  have hstep := step_destroy hg hs hd hsplit
  rw [← List.map_append] at hstep
  have hempty : head = none ↔ (l₁ ++ l₂).map Prod.snd = [] := by
    rw [List.map_eq_nil_iff]
    exact ⟨fun hn => (hn ▸ hl.path).unique rfl, fun hn => by rw [hl.path.head_eq, hn]; rfl⟩
  refine ⟨_, _, _, Function.update lists s.device (l₁ ++ l₂), ?_, hstep, hturn⟩
  by_cases hn : head = none
  · rw [if_pos hn, if_pos (hempty.mp hn)]
    exact hr.without hd hlist hframe (.inl ⟨rfl, rfl⟩)
  · rw [if_neg hn, if_neg (mt hempty.mpr hn)]
    exact hr.without hd hlist hframe (.inr ⟨head, rfl, hl, rfl⟩)

end Represents

end HomeBridge.Hpd
