import HomeBridge.Hpd.Descriptions

/-!
# The parameters of a service as a set

`hpd_parameters.c` and `hpd_services.c`. A parameter is put into a list unless `cmp_Parameter` finds it there, and is taken out by its
address if `cmp_Parameter` finds it there. `cmp_Parameter` looks at the attributes its first argument has; the second one is supposed
to have them too, and may have more.
-/

namespace HomeBridge.Hpd

open Runs Utlist

/-- The attributes of two parameters side by side, in the order in which they are compared. -/
def attributes (a b : Parameter) : List (Option String × Option String) :=
  [(a.ID, b.ID), (a.max, b.max), (a.min, b.min), (a.scale, b.scale), (a.step, b.step), (a.type, b.type), (a.unit, b.unit),
    (a.values, b.values)]

/-- `cmp_Parameter` has a result, and gives 0 exactly if all attributes are the same. -/
def ComparedRightly (a b : Parameter) : Prop := ∃ same, cmp_Parameter a b = some same ∧ (same = true ↔ a = b)

/-- The parameters are the same; or there is an attribute that both have and that differs, and before it the second one has every
attribute that the first one has. -/
def Comparable (a b : Parameter) : Prop :=
  a = b ∨ ∃ before x y after, attributes a b = before ++ (some x, some y) :: after ∧ x ≠ y ∧ ∀ f ∈ before, f.2 = none → f.1 = none

namespace Daemon

/-- The parameters `l` are linked in the list of the service, and there are no parameters but those created. -/
structure HasParameters (w : Daemon) (service : Nat) (l : List (Nat × Parameter)) : Prop where
  linked : ∃ s, w.services[service]? = some s ∧ Linked w.parameters s.parameter_head l
  bounded : ∀ b, w.nextParameter ≤ b → w.parameters b = none

/-- The parameter at `p`, with the attributes `q`, is appended exactly if no equal one is in the list. -/
def AddsRightly (w : Daemon) (service p : Nat) (l : List (Nat × Parameter)) (q : Parameter) : Prop :=
  ∃ rc w', w.add_parameter_to_service (some p) (some service) = some (rc, w') ∧
    ((∃ x ∈ l, x.2 = q) → rc = HPD_E_PARAMETER_ALREADY_IN_LIST ∧ w' = w) ∧
    ((∀ x ∈ l, x.2 ≠ q) → rc = HPD_E_SUCCESS ∧ w'.HasParameters service (l ++ [(p, q)]))

/-- An element equal to it is taken out, and the others stay in their order; or there is none. -/
def RemovesRightly (w : Daemon) (service p : Nat) (l : List (Nat × Parameter)) (q : Parameter) : Prop :=
  ∃ rc w', w.remove_parameter_from_service (some p) (some service) = some (rc, w') ∧
    ((∀ x ∈ l, x.2 ≠ q) → rc = HPD_E_PARAMETER_NOT_IN_LIST ∧ w' = w) ∧
    ((∃ x ∈ l, x.2 = q) → rc = HPD_E_SUCCESS ∧
      ∃ before x after, l = before ++ x :: after ∧ x.2 = q ∧ w'.HasParameters service (before ++ after))

/-- Every comparison of an element with the parameter, the addition and the removal are right. -/
structure ActsOnSet (w : Daemon) (service p : Nat) (l : List (Nat × Parameter)) (q : Parameter) : Prop where
  compared : ∀ x ∈ l, ComparedRightly x.2 q
  added : w.AddsRightly service p l q
  removed : w.RemovesRightly service p l q

/-- There is no element equal to the parameter, or the parameter is in the list itself, or it has the links of an equal one. -/
def Removable (w : Daemon) (p : Nat) (l : List (Nat × Parameter)) (q : Parameter) : Prop :=
  (∀ x ∈ l, x.2 ≠ q) ∨ p ∈ l.map Prod.fst ∨
    ∃ before x after, l = before ++ x :: after ∧ x.2 = q ∧ StandsFor w.parameters p x.1 before after

end Daemon

/-! ## Comparisons -/

section compare

variable {fields : List (Option String × Option String)}

/-- The comparison of attributes, one after the other. -/
def compareAll (fields : List (Option String × Option String)) : Option Bool :=
  fields.foldlM (fun same field => if same then cmpField field else some false) true

/-- The first difference ends the comparison, and so does an attribute that the second one lacks. -/
theorem compareAll_cons (field : Option String × Option String) : compareAll (field :: fields) =
    (cmpField field).bind fun same => if same then compareAll fields else some false := by
  have hfalse : ∀ l : List (Option String × Option String),
      l.foldlM (fun same field => if same then cmpField field else some false) false = some false := by
    intro l
    induction l with
    | nil => rfl
    | cons f l ih => exact ih
  rw [compareAll, List.foldlM_cons]
  refine congrArg (Option.bind (cmpField field)) (funext fun same => ?_)
  cases same with
  | true => rfl
  | false => exact hfalse fields

/-- Attributes that are all the same compare as the same. -/
theorem compareAll_of_same (h : ∀ f ∈ fields, f.1 = f.2) : compareAll fields = some true := by
  induction fields with
  | nil => rfl
  | cons f fields ih =>
    have hf : cmpField f = some true := by
      obtain ⟨x, y⟩ := f
      obtain rfl : x = y := h (x, y) (List.mem_cons_self ..)
      cases x with
      | none => rfl
      | some x => exact congrArg some (beq_self_eq_true x)
    rw [compareAll_cons, hf, Option.bind_some, if_pos rfl]
    exact ih fun f hf => h f (List.mem_cons_of_mem _ hf)

/-- An attribute that both have differs, and before it the second one has every attribute that the first one has. -/
def FirstDiffer (fields : List (Option String × Option String)) : Prop :=
  ∃ before x y after, fields = before ++ (some x, some y) :: after ∧ x ≠ y ∧ ∀ f ∈ before, f.2 = none → f.1 = none

/-- It is the first attribute, or there is nothing that the second one lacks at the first, and it is one of the others. -/
theorem firstDiffer_cons {f : Option String × Option String} : FirstDiffer (f :: fields) ↔
    (∃ x y, f = (some x, some y) ∧ x ≠ y) ∨ (f.2 = none → f.1 = none) ∧ FirstDiffer fields := by
  constructor
  · rintro ⟨before, x, y, after, he, hne, hb⟩
    cases before with
    | nil =>
      cases he
      exact .inl ⟨x, y, rfl, hne⟩
    | cons g before =>
      cases he
      exact .inr ⟨hb _ (List.mem_cons_self ..), before, x, y, after, rfl, hne, fun f hf => hb f (List.mem_cons_of_mem _ hf)⟩
  · rintro (⟨x, y, rfl, hne⟩ | ⟨hf, before, x, y, after, rfl, hne, hb⟩)
    · exact ⟨[], x, y, fields, rfl, hne, fun f hf => absurd hf List.not_mem_nil⟩
    · exact ⟨f :: before, x, y, after, rfl, hne, fun g hg => (List.mem_cons.mp hg).elim (fun he => he ▸ hf) (hb g)⟩

/-- They are found different at the first attribute that both have and that differs, if the comparison gets there. -/
theorem compareAll_eq_false : compareAll fields = some false ↔ FirstDiffer fields := by
  induction fields with
  | nil => simp [compareAll, FirstDiffer]
  | cons f fields ih =>
    rw [compareAll_cons, firstDiffer_cons]
    rcases f with ⟨_ | x, _ | y⟩
    · simp [cmpField, ih]
    · simp [cmpField, ih]
    · -- the second one lacks it
      simp [cmpField]
    · by_cases hxy : x = y
      · simp [cmpField, hxy, ih]
      · simp [cmpField, hxy]

theorem attributes_self (a : Parameter) : ∀ f ∈ attributes a a, f.1 = f.2 := by
  simp [attributes]

/-- The comparison is right exactly if the parameters are comparable. -/
theorem comparedRightly_iff {a b : Parameter} : ComparedRightly a b ↔ Comparable a b := by
  constructor
  · rintro ⟨same, hcmp, hsame⟩
    cases same with
    | true => exact .inl (hsame.mp rfl)
    | false => exact .inr (compareAll_eq_false.mp hcmp)
  · rintro (rfl | h)
    · exact ⟨true, compareAll_of_same (attributes_self a), iff_of_true rfl rfl⟩
    · refine ⟨false, compareAll_eq_false.mpr h, iff_of_false Bool.false_ne_true ?_⟩
      rintro rfl
      obtain ⟨before, x, y, after, he, hne, -⟩ := h
      have hxy := attributes_self a (some x, some y) (he ▸ List.mem_append_right _ (List.mem_cons_self ..))
      exact hne (Option.some.inj hxy)

end compare

/-! ## Lists -/

namespace Daemon

section list

variable {w : Daemon} {service p : Nat} {l : List (Nat × Parameter)} {n : Node Parameter}

/-- What was found of a node along a list is what is in it. -/
theorem data_of_mem {head : Option Nat} {x : Nat × Parameter} (hl : Linked w.parameters head l) (hx : x ∈ l)
    (hn : w.parameters x.1 = some n) : x.2 = n.data := by
  obtain ⟨before, after, rfl⟩ := List.append_of_mem hx
  obtain ⟨_, n', hn', hdata, _⟩ := hl.path.suffix
  cases hn.symm.trans hn'
  exact hdata.symm

/-- Where all comparisons are right, the search finds an element exactly if there is an equal one. -/
theorem search_right {s : DescribedService} (hs : Linked w.parameters s.parameter_head l)
    (hbound : ∀ b, w.nextParameter ≤ b → w.parameters b = none) {q : Parameter} (hcmp : ∀ x ∈ l, ComparedRightly x.2 q) :
    ∃ elt, w.searchParameter s q = some elt ∧ (elt.isSome = true ↔ ∃ x ∈ l, x.2 = q) := by
  classical
  have htest : ∀ x ∈ l, cmp_Parameter x.2 q = some (decide (x.2 = q)) := by
    intro x hx
    obtain ⟨same, hsame, hiff⟩ := hcmp x hx
    rw [hsame, ← Bool.decide_coe same, decide_eq_decide.mpr hiff]
  refine ⟨_, hs.path.search (p := fun y => decide (y = q)) htest (hs.path.length_le hbound), ?_⟩
  rw [Option.isSome_map, List.find?_isSome]
  simp only [decide_eq_true_eq]

/-- So it appends exactly if there is no equal one. -/
theorem adds_rightly (hl : w.HasParameters service l) (hn : w.parameters p = some n) (hcmp : ∀ x ∈ l, ComparedRightly x.2 n.data) :
    w.AddsRightly service p l n.data := by
  obtain ⟨s, hs, hlinked⟩ := hl.linked
  obtain ⟨elt, hsearch, helt⟩ := search_right hlinked hl.bounded hcmp
  by_cases hex : ∃ x ∈ l, x.2 = n.data
  · refine ⟨HPD_E_PARAMETER_ALREADY_IN_LIST, w, ?_, fun _ => ⟨rfl, rfl⟩, fun hno => ?_⟩
    · simp only [add_parameter_to_service, hs, hn, hsearch, Option.bind_eq_bind, Option.bind_some, if_pos (helt.mpr hex)]
    · obtain ⟨x, hx, he⟩ := hex
      exact absurd he (hno x hx)
  · have hp : p ∉ l.map Prod.fst := by
      intro hmem
      obtain ⟨x, hx, rfl⟩ := List.mem_map.mp hmem
      exact hex ⟨x, hx, data_of_mem hlinked hx hn⟩
    obtain ⟨parameters, parameter_head, happ, hlinked', hframe⟩ := hlinked.append hn hp
    have hlt : service < w.services.length := (List.getElem?_eq_some_iff.mp hs).1
    refine ⟨HPD_E_SUCCESS, { w with parameters, services := w.services.set service { s with parameter_head } }, ?_,
      fun h => absurd h hex, fun _ => ⟨rfl, ⟨{ s with parameter_head }, ?_, hlinked'⟩,
        bounded_of_data (w := w) hl.bounded (append_leaves happ).1⟩⟩
    · simp only [add_parameter_to_service, hs, hn, hsearch, Option.bind_eq_bind, Option.bind_some, if_neg (mt helt.mp hex), happ]
    · exact List.getElem?_set_self hlt

/-- Where the comparisons are right, so is the removal, exactly if what is taken out by its address is or stands for an equal element. -/
theorem removes_rightly_iff (hl : w.HasParameters service l) (hn : w.parameters p = some n)
    (hcmp : ∀ x ∈ l, ComparedRightly x.2 n.data) : w.RemovesRightly service p l n.data ↔ w.Removable p l n.data := by
  obtain ⟨s, hs, hlinked⟩ := hl.linked
  obtain ⟨elt, hsearch, helt⟩ := search_right hlinked hl.bounded hcmp
  by_cases hex : ∃ x ∈ l, x.2 = n.data
  · have hlt : service < w.services.length := (List.getElem?_eq_some_iff.mp hs).1
    have hisNone : elt.isNone = false := Option.isNone_eq_false_iff.mpr (helt.mpr hex)
    -- the call is `DL_DELETE` of the parameter
    have hcall : w.remove_parameter_from_service (some p) (some service) = (DL_DELETE w.parameters s.parameter_head p).bind fun r =>
        some (HPD_E_SUCCESS, { w with
          parameters := r.1, services := w.services.set service { s with parameter_head := r.2 } }) := by
      simp only [remove_parameter_from_service, hs, hn, hsearch, Option.bind_eq_bind, Option.bind_some, hisNone, if_neg Bool.false_ne_true]
    have hright : w.RemovesRightly service p l n.data ↔ ∃ before x after, l = before ++ x :: after ∧ x.2 = n.data ∧
        ∃ m' head', DL_DELETE w.parameters s.parameter_head p = some (m', head') ∧ Linked m' head' (before ++ after) := by
      constructor
      · rintro ⟨rc, w', hw, -, h⟩
        obtain ⟨-, before, x, after, hsplit, hx, ⟨s', hs', hlinked'⟩, -⟩ := h hex
        rw [hcall] at hw
        obtain ⟨r, hdel, hw⟩ := Option.bind_eq_some_iff.mp hw
        cases hw
        rw [List.getElem?_set_self hlt] at hs'
        cases hs'
        exact ⟨before, x, after, hsplit, hx, r.1, r.2, hdel, hlinked'⟩
      · rintro ⟨before, x, after, hsplit, hx, m', head', hdel, hlinked'⟩
        refine ⟨HPD_E_SUCCESS, { w with parameters := m', services := w.services.set service { s with parameter_head := head' } },
          by rw [hcall, hdel, Option.bind_some], fun hno => ?_, fun _ => ⟨rfl, before, x, after, hsplit, hx,
            ⟨{ s with parameter_head := head' }, List.getElem?_set_self hlt, hlinked'⟩,
            bounded_of_data (w := w) hl.bounded (delete_leaves hdel).1⟩⟩
        obtain ⟨y, hy, he⟩ := hex
        exact absurd he (hno y hy)
    rw [hright, Removable, or_iff_right (show ¬∀ x ∈ l, x.2 ≠ n.data by rintro hno; obtain ⟨x, hx, he⟩ := hex; exact hno x hx he)]
    by_cases hp : p ∈ l.map Prod.fst
    · refine iff_of_true ?_ (.inl hp)
      obtain ⟨⟨a, x⟩, hx, rfl⟩ := List.mem_map.mp hp
      obtain ⟨before, after, rfl⟩ := List.append_of_mem hx
      obtain ⟨m', head', hdel, hlinked', -⟩ := hlinked.delete
      exact ⟨before, (a, x), after, rfl, data_of_mem hlinked hx hn, m', head', hdel, hlinked'⟩
    · rw [or_iff_right hp]
      constructor
      · rintro ⟨before, x, after, rfl, hx, h⟩
        exact ⟨before, x, after, rfl, hx, (hlinked.delete_apart_iff hn hp).mp h⟩
      · rintro ⟨before, x, after, rfl, hx, h⟩
        exact ⟨before, x, after, rfl, hx, (hlinked.delete_apart_iff hn hp).mpr h⟩
  · have hno : ∀ x ∈ l, x.2 ≠ n.data := fun x hx he => hex ⟨x, hx, he⟩
    refine iff_of_true ⟨HPD_E_PARAMETER_NOT_IN_LIST, w, ?_, fun _ => ⟨rfl, rfl⟩, fun h => absurd h hex⟩ (.inl hno)
    have hisNone : elt.isNone = true := Option.isNone_iff_eq_none.mpr (Option.not_isSome_iff_eq_none.mp (mt helt.mp hex))
    simp only [remove_parameter_from_service, hs, hn, hsearch, Option.bind_eq_bind, Option.bind_some, hisNone, if_pos]

end list

/-- Two parameters are compared rightly exactly if they are comparable; and a list and a parameter are treated as a set and an element
exactly if the elements are comparable with the parameter, and it is one that can be taken out. -/
theorem parameters_set_iff {w : Daemon} {service p : Nat} {l : List (Nat × Parameter)} {n : Node Parameter}
    (hl : w.HasParameters service l) (hn : w.parameters p = some n) : (∀ a b, ComparedRightly a b ↔ Comparable a b) ∧
      (w.ActsOnSet service p l n.data ↔ (∀ x ∈ l, Comparable x.2 n.data) ∧ w.Removable p l n.data) := by
  refine ⟨fun a b => comparedRightly_iff, ?_⟩
  constructor
  · intro h
    exact ⟨fun x hx => comparedRightly_iff.mp (h.compared x hx), (removes_rightly_iff hl hn h.compared).mp h.removed⟩
  · rintro ⟨hc, hr⟩
    have hcmp : ∀ x ∈ l, ComparedRightly x.2 n.data := fun x hx => comparedRightly_iff.mpr (hc x hx)
    exact ⟨hcmp, adds_rightly hl hn hcmp, (removes_rightly_iff hl hn hcmp).mpr hr⟩

/-- A parameter with an ID only. -/
def bare : Parameter := ⟨some "0", none, none, none, none, none, none, none⟩

/-- A service is created with that parameter, and then another parameter is. -/
def twoParameters (q : Parameter) : List DaemonCall :=
  [.create_device_struct roomThermometer, .create_parameter_struct bare,
    .create_service_struct none (some "1") (some "temp") none 0 (some 0), .create_parameter_struct q]

/-- The list of the service has the one, and the other is in memory. -/
theorem run_twoParameters {q : Parameter} (hq : q.ID ≠ none) : ∃ w, run Daemon.step start (twoParameters q) = some w ∧
    w.HasParameters 0 [(0, bare)] ∧ w.parameters 1 = some ⟨q, none, none⟩ := by
  have hcreate (w : Daemon) : w.create_parameter_struct q = { w with
      parameters := Function.update w.parameters w.nextParameter (some ⟨q, none, none⟩), nextParameter := w.nextParameter + 1 } :=
    if_neg hq
  refine ⟨_, congrArg some (hcreate _), ⟨⟨_, rfl, some 0, rfl, ⟨bare, none, some 0⟩, rfl, rfl, rfl, rfl, rfl⟩, fun b hb => ?_⟩, rfl⟩
  obtain ⟨b, rfl⟩ := Nat.exists_eq_add_of_le hb
  have h0 : 2 + b ≠ 0 := by omega
  have h1 : 2 + b ≠ 1 := by omega
  exact (Function.update_of_ne h1 ..).trans ((Function.update_of_ne h0 ..).trans ((Function.update_of_ne h0 ..).trans
    (Function.update_of_ne h0 ..)))

/-- One with another ID, and limits. -/
def other : Parameter := { limits with ID := some "1" }

theorem other_ne : ∀ x ∈ [(0, bare)], x.2 ≠ other := by
  intro x hx he
  rw [List.mem_singleton.mp hx] at he
  exact absurd (congrArg Parameter.ID he) (by decide)

theorem other_comparable : ∀ x ∈ [(0, bare)], Comparable x.2 other := by
  intro x hx
  rw [List.mem_singleton.mp hx]
  exact .inr ⟨[], "0", "1", _, rfl, by decide, fun f hf => absurd hf List.not_mem_nil⟩

/-- It is not in the list, and is put there; in the list of two it is found, and is taken out. -/
theorem parameters_set_other : ∃ w w', run Daemon.step start (twoParameters other) = some w ∧ w.ActsOnSet 0 1 [(0, bare)] other ∧
    w.step (.add_parameter_to_service (some 1) (some 0)) = some w' ∧ w'.ActsOnSet 0 1 [(0, bare), (1, other)] other := by
  obtain ⟨w, hrun, hl, hn⟩ := run_twoParameters (q := other) (Option.some_ne_none _)
  have hone : w.ActsOnSet 0 1 [(0, bare)] other := (parameters_set_iff hl hn).2.mpr ⟨other_comparable, .inl other_ne⟩
  obtain ⟨rc, w', hadd, -, hnew⟩ := hone.added
  have hl' : w'.HasParameters 0 ([(0, bare)] ++ [(1, other)]) := (hnew other_ne).2
  -- the node of the second element
  obtain ⟨s, -, hlinked⟩ := hl'.linked
  obtain ⟨-, n, hn', hdata, -⟩ := hlinked.path.suffix
  have htwo := (parameters_set_iff hl' hn').2
  rw [hdata] at htwo
  refine ⟨w, w', hrun, hone, congrArg (Option.map Prod.snd) hadd, htwo.mpr ⟨fun x hx => ?_, .inr (.inl ?_)⟩⟩
  · rcases List.mem_append.mp hx with hx | hx
    · exact other_comparable x hx
    · rw [List.mem_singleton.mp hx]
      exact .inl rfl
  · decide

/-- The parameter in the list has the ID of the other one, and no limits. -/
theorem not_parameters_set : ¬∀ calls w service p l n, run Daemon.step start calls = some w → w.HasParameters service l →
    w.parameters p = some n → w.ActsOnSet service p l n.data := by
  intro h
  obtain ⟨w, hrun, hl, hn⟩ := run_twoParameters (q := limits) (Option.some_ne_none _)
  obtain ⟨same, hcmp, hsame⟩ := (h _ w 0 1 _ _ hrun hl hn).compared (0, bare) (List.mem_singleton_self _)
  have htrue : cmp_Parameter bare limits = some true := rfl
  cases htrue.symm.trans hcmp
  exact absurd (congrArg Parameter.max (hsame.mp rfl)) (by decide)

end Daemon

end HomeBridge.Hpd
