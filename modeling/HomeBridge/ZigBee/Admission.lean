import Mathlib.Data.List.Perm.Subperm
import HomeBridge.ZigBee.Frames
import HomeBridge.ZigBee.Wiring

/-!
# Who may join

A device gets a slot while the task includes devices, and a mode is all that says whether it does. A command on port 0
sets it; a join, three other commands, and the exclusion of a device clear it; nothing else touches it. So behind every
device that has joined there is a command of its own.
-/

namespace HomeBridge

open CMem Runs

/-- The frame has one of the two forms of a join. -/
def JoinForm (m : Msg) : Prop := m.rd 8 = 0xc1 ∧ m.rd 9 = 0x20 ∧ m.rd 10 = 0xf1 ∨ m.rd 8 = 0x42

/-- `INCLUDE_REQ` on port 0. -/
def IncludeReq (i : Nat × Msg) : Prop := i.1 = In2 ∧ i.2.vps = 0 ∧ i.2.isAt (ascii "INCLUDE_REQ") 2 = true

/-- `XADDSTOP_REQ`, of which eleven bytes are compared, `GETDESC_REQ` or `XCLUDE_REQ` on port 0, or `XCLUDE_REQ` on the
port of a device. -/
def StopReq (z : ZigBee) (i : Nat × Msg) : Prop :=
  i.1 = In2 ∧ (i.2.vps = 0 ∧ (i.2.isAt ((ascii "XADDSTOP_REQ").take 11) 2 = true ∨ i.2.isAt (ascii "GETDESC_REQ") 2 = true ∨
      i.2.isAt (ascii "XCLUDE_REQ") 2 = true) ∨
    i.2.vps ≠ 0 ∧ check_valid_vps z.table i.2.vps = true ∧ i.2.isAt (ascii "XCLUDE_REQ") 2 = true)

instance (m : Msg) : Decidable (JoinForm m) := by unfold JoinForm; infer_instance

instance : DecidablePred IncludeReq := fun i => by unfold IncludeReq; infer_instance

/-- The slots of a table that were not in use in another. -/
def newSlots (t t' : VpsTable) : List Nat := (List.range MAXVPS).filter fun v => decide (¬Used t v ∧ Used t' v)

/-- How many devices a turn adds to the table on a join frame. -/
def admitted (z : ZigBee) (i : Nat × Msg) : Nat :=
  if i.1 = In1 ∧ JoinForm i.2 then ((z.step i).elim [] fun z' => newSlots z.table z'.table).length else 0

/-- How many devices a run adds on join frames. -/
def admissions : ZigBee → List (Nat × Msg) → Nat
  | _, [] => 0
  | z, i :: is => admitted z i + (z.step i).elim 0 fun z' => admissions z' is

/-- The messages hold an `INCLUDE_REQ`, since which no device was added and no request has stopped the inclusion. -/
def IncludedSince (z : ZigBee) (is : List (Nat × Msg)) : Prop :=
  ∃ l₁ i l₂ z₁ z₂, is = l₁ ++ i :: l₂ ∧ run ZigBee.step z l₁ = some z₁ ∧ IncludeReq i ∧ z₁.step i = some z₂ ∧
    Along ZigBee.step (fun z i => admitted z i = 0 ∧ ¬StopReq z i) z₂ l₂

/-! ## The modes -/

section modes

variable {t t' : Turn}

/-- A frame from the radio sets no mode, and a join ends the inclusion. -/
theorem radioBranches_modes (h : radioBranches t = some t') :
    (t'.z.includemode = true → t.z.includemode = true ∧ joinAddr t.z t.dataPtr = none) ∧
      (t'.z.excludemode = true → t.z.excludemode = true) := by
  cases radioBranches_outcome h with
  | @join t₀ _ a h₀ _ h =>
    obtain ⟨⟨newvps, table⟩, _, rfl⟩ := Option.map_eq_some_iff.mp h
    refine ⟨fun hi => absurd hi Bool.false_ne_true, fun hx => ?_⟩
    rcases h₀ with rfl | rfl
    · exact hx
    · exact (gatewayAddress_excludemode t) ▸ hx
  | announce ha hi h8 =>
    rw [announce_taken hi h8]
    exact ⟨fun h => ⟨gatewayAddress_includemode t ▸ h, ha⟩, fun h => gatewayAddress_excludemode t ▸ h⟩
  | excludeConfirm ha hx =>
    rw [excludeConfirm_taken hx]
    exact ⟨fun h => ⟨gatewayAddress_includemode t ▸ h, ha⟩, fun h => absurd h Bool.false_ne_true⟩
  | netlist ha hn h =>
    have h' := (if_pos (by simpa using hn)).symm.trans h
    obtain ⟨⟨table, buffer⟩, _, h'⟩ := Option.bind_eq_some_iff.mp h'
    obtain ⟨m, _, rfl⟩ := Option.map_eq_some_iff.mp h'
    exact ⟨fun h => ⟨gatewayAddress_includemode t ▸ h, ha⟩, fun h => gatewayAddress_excludemode t ▸ h⟩
  | upward ha =>
    obtain ⟨m, b, he⟩ := upward_frame (gatewayAddress t)
    rw [he]
    exact ⟨fun h => ⟨gatewayAddress_includemode t ▸ h, ha⟩, fun h => gatewayAddress_excludemode t ▸ h⟩

/-- A command on port 0 that leaves the inclusion on is the one that sets it, or found it on and is none that stops
it. -/
theorem gatewayCommand_modes (t : Turn) :
    ((gatewayCommand t).z.includemode = true → t.dataPtr.isAt (ascii "INCLUDE_REQ") 2 = true ∨ t.z.includemode = true ∧
      ¬(t.dataPtr.isAt ((ascii "XADDSTOP_REQ").take 11) 2 = true ∨ t.dataPtr.isAt (ascii "GETDESC_REQ") 2 = true ∨
        t.dataPtr.isAt (ascii "XCLUDE_REQ") 2 = true)) ∧
      ((gatewayCommand t).z.includemode = true → (gatewayCommand t).z.excludemode = true →
        t.z.includemode = true ∧ t.z.excludemode = true) := by
  have h := gatewayCommand_outcome t
  generalize gatewayCommand t = t' at h
  cases h with
  | netlistReq hk =>
    have hsame : ∀ u, (netlistReq u).z.includemode = u.z.includemode ∧
        (netlistReq u).z.excludemode = u.z.excludemode := fun u => by
      unfold netlistReq
      split <;> exact ⟨rfl, rfl⟩
    rw [(hsame _).1, (hsame _).2]
    refine ⟨fun hi => .inr ⟨hi, ?_⟩, fun hi hx => ⟨hi, hx⟩⟩
    rw [Msg.isAt_eq_false_of_isAt hk 0 (by decide) (by decide) (by decide),
      Msg.isAt_eq_false_of_isAt hk 0 (by decide) (by decide) (by decide),
      Msg.isAt_eq_false_of_isAt hk 0 (by decide) (by decide) (by decide)]
    decide
  | includeReq hk =>
    refine ⟨fun _ => .inl hk, fun _ hx => ?_⟩
    rw [includeReq, if_pos hk] at hx
    cases hx
  | xaddstopReq hk =>
    rw [xaddstopReq, if_pos hk]
    exact ⟨fun hi => absurd hi Bool.false_ne_true, fun hi => absurd hi Bool.false_ne_true⟩
  | getdescReq hk =>
    rw [getdescReq, if_pos hk]
    exact ⟨fun hi => absurd hi Bool.false_ne_true, fun hi => absurd hi Bool.false_ne_true⟩
  | xcludeReq hk =>
    rw [xcludeReq, if_pos hk]
    exact ⟨fun hi => absurd hi Bool.false_ne_true, fun hi => absurd hi Bool.false_ne_true⟩
  | unrecognised _ _ h₂ h₃ h₄ =>
    rw [h₂, h₃, h₄]
    exact ⟨fun hi => .inr ⟨hi, by decide⟩, fun hi hx => ⟨hi, hx⟩⟩

/-- A message for a device sets no mode but the exclusion, which ends the inclusion. -/
theorem deviceCommand_modes (h : deviceCommand t = some t') :
    (t'.z.includemode = true → t.z.includemode = true ∧ t.dataPtr.isAt (ascii "XCLUDE_REQ") 2 = false ∧
      t'.z.excludemode = t.z.excludemode) := by
  simp only [deviceCommand] at h
  split at h
  · cases h
    exact fun hi => absurd hi Bool.false_ne_true
  · rename_i hx
    repeat' split at h
    all_goals cases h
    all_goals exact fun hi => ⟨hi, Bool.eq_false_iff.mpr hx, rfl⟩

end modes

/-! ## One turn -/

section turn

variable {z z' : ZigBee} {i : Nat × Msg}

theorem newSlots_eq_nil {t t' : VpsTable} (h : ∀ v, Used t' v → Used t v) : newSlots t t' = [] :=
  List.filter_eq_nil_iff.mpr fun v _ hv => (of_decide_eq_true hv).1 (h v (of_decide_eq_true hv).2)

/-- An address takes one slot. -/
theorem length_newSlots_add {t t' : VpsTable} {a : Addr ADDRLEN} {k : Nat} (h : vps_add t a = some (k, t')) :
    (newSlots t t').length ≤ 1 := by
  have hsub : newSlots t t' ⊆ [k] := fun v hv => by
    obtain ⟨hno, hv⟩ := of_decide_eq_true (List.mem_filter.mp hv).2
    exact List.mem_singleton.mpr (((used_add h v).mp hv).resolve_left hno)
  exact (List.subperm_of_subset (List.nodup_range.filter _) hsub).length_le

theorem step_eq_some : z.step i = some z' ↔ ∃ t, endOfTurn z i = some t ∧ t.z = z' := by
  rw [ZigBee.step, ZigBeeTask_eq, Option.map_map, Option.map_eq_some_iff]
  rfl

/-- A frame that is no join for the task adds no device. -/
theorem admitted_eq_zero (hs : z.step i = some z') (h : i.1 = In1 → joinAddr z i.2 = none) : admitted z i = 0 := by
  unfold admitted
  split
  case isFalse => rfl
  case isTrue hc =>
    obtain ⟨port, m⟩ := i
    obtain ⟨rfl, hform⟩ := hc
    rw [hs, Option.elim_some, List.length_eq_zero_iff]
    cases tableChange_of_step hs with
    | join ha _ => exact absurd ((h rfl).symm.trans ha) (Option.some_ne_none _).symm
    | announce _ _ _ ht => exact newSlots_eq_nil fun v hv => by rwa [ht, used_add_nwk] at hv
    | netlist _ hn _ =>
      -- a network list has another byte where a join has its form
      rcases hform with ⟨h8, _⟩ | h8
      · exact absurd (hn.2.symm.trans h8) (by decide)
      · exact absurd (hn.2.symm.trans h8) (by decide)
    | none _ _ _ ht => exact newSlots_eq_nil fun v hv => by rwa [ht] at hv

/-- A turn adds one device at most, and only while the task includes devices; it includes none behind it. -/
theorem admitted_cases (hs : z.step i = some z') :
    admitted z i = 0 ∨ admitted z i ≤ 1 ∧ i.1 = In1 ∧ z.includemode = true ∧ z'.includemode = false := by
  by_cases h : i.1 = In1 → joinAddr z i.2 = none
  · exact .inl (admitted_eq_zero hs h)
  · rw [Classical.not_imp] at h
    obtain ⟨h1, hj⟩ := h
    obtain ⟨port, m⟩ := i
    obtain rfl : port = In1 := h1
    have hinclude : z.includemode = true := by
      by_contra hi
      exact hj ((if_neg fun hc => hi hc.1).trans (if_neg fun hc => hi hc.1))
    refine .inr ⟨?_, rfl, hinclude, ?_⟩
    · unfold admitted
      split
      · rw [hs, Option.elim_some]
        cases tableChange_of_step hs with
        | join _ hadd => exact length_newSlots_add hadd
        | announce ha _ _ _ | netlist ha _ _ | none ha _ _ _ => exact absurd ha hj
      · exact Nat.zero_le _
    · obtain ⟨t, hr, rfl⟩ := step_in1_eq_some.mp hs
      have hj' : joinAddr (radioTurn z m).z (radioTurn z m).dataPtr ≠ none := by
        rwa [radioTurn, joinAddr_set_zero, joinAddr_set_zero]
      exact Bool.eq_false_iff.mpr fun hi => hj' ((radioBranches_modes hr).1 hi).2

/-- Behind a turn the task includes devices because of the turn's command, or because it did and the turn has not
changed it. -/
theorem include_step (hs : z.step i = some z') (hi : z'.includemode = true) :
    IncludeReq i ∨ z.includemode = true ∧ admitted z i = 0 ∧ ¬StopReq z i := by
  obtain ⟨t, ht, rfl⟩ := step_eq_some.mp hs
  have hquiet : z.includemode = true → ¬StopReq z i →
      IncludeReq i ∨ z.includemode = true ∧ admitted z i = 0 ∧ ¬StopReq z i := by
    intro h hno
    rcases admitted_cases hs with h0 | ⟨_, _, _, hf⟩
    · exact .inr ⟨h, h0, hno⟩
    · exact absurd (hi.symm.trans hf) (by decide)
  rcases endOfTurn_cases ht with ⟨h1, hr⟩ | ⟨h2, hr⟩ | ⟨hno, rfl⟩
  · exact hquiet ((radioBranches_modes hr).1 hi).1 fun hstop => absurd (h1.symm.trans hstop.1) (by decide)
  · rcases serviceUpperLayers_cases hr with ⟨h0, rfl⟩ | ⟨⟨h0, _⟩, ⟨_, hd⟩ | ⟨hv, rfl⟩⟩
    · rcases (gatewayCommand_modes _).1 hi with hk | ⟨h, hno⟩
      · exact .inl ⟨h2, h0, hk⟩
      · exact hquiet h fun hstop => hstop.2.elim (fun hs => hno hs.2) fun hs => hs.1 h0
    · obtain ⟨h, hx, _⟩ := deviceCommand_modes hd hi
      exact hquiet h fun hstop => hstop.2.elim (fun hs => h0 hs.1) fun hs => absurd (hs.2.2.symm.trans hx) (by decide)
    · exact hquiet hi fun hstop => hstop.2.elim (fun hs => h0 hs.1) fun hs => absurd (hs.2.1.symm.trans hv) (by decide)
  · exact hquiet hi fun hstop => hno.2 hstop.1

/-- The task never includes and excludes devices at once. -/
def OneMode (z : ZigBee) : Prop := ¬(z.includemode = true ∧ z.excludemode = true)

theorem OneMode.step (h : OneMode z) (hs : z.step i = some z') : OneMode z' := by
  rintro ⟨hi, hx⟩
  obtain ⟨t, ht, rfl⟩ := step_eq_some.mp hs
  rcases endOfTurn_cases ht with ⟨_, hr⟩ | ⟨_, hr⟩ | ⟨_, rfl⟩
  · exact h ⟨((radioBranches_modes hr).1 hi).1, (radioBranches_modes hr).2 hx⟩
  · rcases serviceUpperLayers_cases hr with ⟨_, rfl⟩ | ⟨_, ⟨_, hd⟩ | ⟨_, rfl⟩⟩
    · exact h ((gatewayCommand_modes _).2 hi hx)
    · obtain ⟨hi', _, hsame⟩ := deviceCommand_modes hd hi
      exact h ⟨hi', hsame ▸ hx⟩
    · exact h ⟨hi, hx⟩
  · exact h ⟨hi, hx⟩

end turn

/-! ## Every run -/

/-- The devices a run adds are no more than its `INCLUDE_REQ`s, and one more if the task included devices at its
start. -/
theorem admissions_le : ∀ {is : List (Nat × Msg)} {z : ZigBee},
    admissions z is ≤ is.countP (fun i => decide (IncludeReq i)) + if z.includemode then 1 else 0 := by
  intro is
  induction is with
  | nil => exact fun {_} => Nat.zero_le _
  | cons i is ih =>
    intro z
    rw [admissions, List.countP_cons]
    cases hs : z.step i with
    | none =>
      have h0 : admitted z i = 0 := by
        unfold admitted
        rw [hs]
        exact ite_self _
      rw [h0]
      exact Nat.zero_le _
    | some z' =>
      rw [Option.elim_some]
      have hrest := @ih z'
      rcases admitted_cases hs with h0 | ⟨h1, _, hz, hz'⟩
      · rw [h0, Nat.zero_add]
        refine Nat.le_trans hrest ?_
        rw [Nat.add_assoc]
        refine Nat.add_le_add_left ?_ _
        cases hi : z'.includemode with
        | false => exact Nat.zero_le _
        | true =>
          rcases include_step hs hi with hreq | ⟨h, _⟩
          · rw [decide_eq_true hreq]
            exact Nat.le_add_right 1 _
          · rw [h]
            exact Nat.le_add_left 1 _
      · rw [hz'] at hrest
        rw [hz]
        simp only [Bool.false_eq_true, if_false, if_true] at hrest ⊢
        omega

/-- In every run, a join frame adds a device only where an `INCLUDE_REQ` was processed, since which no device was added
and no request has stopped the inclusion; no more devices are added than there are `INCLUDE_REQ`s; and the two modes are
never both set. -/
theorem admission_controlled (gwieeeaddr : Addr ADDRLEN) (is : List (Nat × Msg)) :
    (∀ l₁ i l₂ z, is = l₁ ++ i :: l₂ → run ZigBee.step (ZigBee.start gwieeeaddr) l₁ = some z → admitted z i ≠ 0 →
      IncludedSince (ZigBee.start gwieeeaddr) l₁) ∧
    admissions (ZigBee.start gwieeeaddr) is ≤ is.countP (fun i => decide (IncludeReq i)) ∧
    Always ZigBee.step OneMode (ZigBee.start gwieeeaddr) is := by
  refine ⟨fun l₁ i l₂ z _ hr ha => ?_, admissions_le, always_of_invariant (fun _ h => h) (fun _ _ _ h hs => h.step hs) nofun⟩
  have hz : z.includemode = true := by
    cases hs : z.step i with
    | none =>
      refine absurd ?_ ha
      unfold admitted
      rw [hs]
      exact ite_self _
    | some z' =>
      rcases admitted_cases hs with h0 | ⟨_, _, h, _⟩
      · exact absurd h0 ha
      · exact h
  rcases held_or_opened (P := fun z : ZigBee => z.includemode = true) (fun _ _ _ hs hi => include_step hs hi) hr hz with
    ⟨h0, _⟩ | ⟨k₁, j, k₂, z₁, z₂, hk, h₁, hreq, h₂, hquiet⟩
  · exact absurd h0 Bool.false_ne_true
  · exact ⟨k₁, j, k₂, z₁, z₂, hk, h₁, hreq, h₂, hquiet⟩

/-- A command and a device that joins. -/
theorem admission_controlled_join : ∃ z,
    run ZigBee.step (ZigBee.start ⟨List.replicate 8 0, rfl⟩) [(In2, message 0 (ascii "INCLUDE_REQ"))] = some z ∧
    admitted z (In1, joinMsg) = 1 ∧
      IncludedSince (ZigBee.start ⟨List.replicate 8 0, rfl⟩) [(In2, message 0 (ascii "INCLUDE_REQ"))] := by
  have hrun : (run ZigBee.step (ZigBee.start ⟨List.replicate 8 0, rfl⟩) [(In2, message 0 (ascii "INCLUDE_REQ"))]).map
      (fun z => admitted z (In1, joinMsg)) = some 1 := by
    decide +kernel
  obtain ⟨z, hz, h1⟩ := Option.map_eq_some_iff.mp hrun
  exact ⟨z, hz, h1, (admission_controlled _ ([(In2, message 0 (ascii "INCLUDE_REQ"))] ++ [(In1, joinMsg)])).1 _ _ [] z rfl hz
    (by rw [h1]; exact Nat.one_ne_zero)⟩

end HomeBridge
