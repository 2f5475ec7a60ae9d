import HomeBridge.ZigBee.Wiring

/-!
# One message, one receiver

A turn may set two flags, one for each output port, and whoever gets a message owns it: the task behind `Out2` frees it.
The flags are set and cleared in some twenty places. But a frame from the radio has one outcome, a command that is
answered at once is not sent out, and the one command whose block is given back clears what was set before it.
-/

namespace HomeBridge

open CMem

/-- At the end of the loop at most one flag is set, and none where the block was given back. -/
structure Turn.OneReceiver (t : Turn) : Prop where
  flags : ¬(t.do_broadcast_to_serial = true ∧ t.do_broadcast_to_upperlayers = true)
  freed : t.freed = true → t.do_broadcast_to_serial = false ∧ t.do_broadcast_to_upperlayers = false

/-- The task an output goes to. -/
def ZigBeeOut.receiver : ZigBeeOut → Option Nat
  | .broadcast outport _ => some (route ZigBeeTask_id outport).1
  | .free _ => none

section freed

variable {t t' : Turn}

theorem joinDevice_kept {a : Addr ADDRLEN} (h : joinDevice t a = some t') :
    t'.dataPtr.off = t.dataPtr.off ∧ t'.freed = t.freed := by
  obtain ⟨⟨newvps, table⟩, _, rfl⟩ := Option.map_eq_some_iff.mp h
  exact ⟨rfl, rfl⟩

theorem netlist_kept (hn : t.z.netupdatemode = true ∧ t.dataPtr.rd 8 = 0x83) (h : netlist t = some t') :
    t'.dataPtr.off = t.dataPtr.off ∧ t'.freed = t.freed := by
  obtain ⟨table, buffer, m, _, hm, rfl⟩ := netlist_eq_some hn h
  simp only [Msg.strcat, Option.ite_none_right_eq_some, Option.some.injEq] at hm
  rw [← hm.2]
  exact ⟨rfl, rfl⟩

/-- No frame from the radio is given back. -/
theorem radioBranches_freed (h : radioBranches t = some t') : t'.freed = t.freed := by
  cases radioBranches_outcome h with
  | join h₀ _ h =>
    rw [(joinDevice_kept h).2]
    rcases h₀ with rfl | rfl
    · rfl
    · exact gatewayAddress_freed t
  | announce _ hi h8 => rw [announce_taken hi h8, gatewayAddress_freed]
  | excludeConfirm _ hx => rw [excludeConfirm_taken hx, gatewayAddress_freed]
  | netlist _ hn h => rw [(netlist_kept (by simpa using hn) h).2, gatewayAddress_freed]
  | upward =>
    obtain ⟨m, b, he⟩ := upward_frame (gatewayAddress t)
    rw [he, gatewayAddress_freed]

/-- The one command on port 0 that gives its block back sends nothing out. -/
theorem gatewayCommand_freed (ht : t.freed = false) (h : (gatewayCommand t).freed = true) :
    (gatewayCommand t).do_broadcast_to_serial = false := by
  have hu := (getdescReq_kept { t with do_broadcast_to_serial := true }).2
  unfold gatewayCommand xcludeReq at h ⊢
  split at h
  · rename_i hx
    rw [if_pos hx]
  · exact absurd (h.symm.trans (hu.trans ht)) (by decide)

end freed

/-- What goes up does not go out, and what is given back goes nowhere. -/
theorem endOfTurn_oneReceiver {z : ZigBee} {i : Nat × Msg} {t : Turn} (h : endOfTurn z i = some t) : t.OneReceiver := by
  have hup := endOfTurn_upward h
  have hflags : ¬(t.do_broadcast_to_serial = true ∧ t.do_broadcast_to_upperlayers = true) := by
    rintro ⟨hs, hu⟩
    exact absurd (hs.symm.trans (hup hu).1) (by decide)
  refine ⟨hflags, fun hf => ?_⟩
  rcases endOfTurn_cases h with ⟨_, h⟩ | ⟨_, h⟩ | ⟨_, rfl⟩
  · exact absurd (show true = false from hf.symm.trans (radioBranches_freed h)) (by decide)
  · rcases serviceUpperLayers_cases h with ⟨_, rfl⟩ | ⟨_, ⟨_, h⟩ | ⟨_, rfl⟩⟩
    · exact ⟨gatewayCommand_freed rfl hf, (gatewayCommand_kept _).upper⟩
    · exact absurd (show true = false from hf.symm.trans (deviceCommand_kept h).2.2) (by decide)
    · exact absurd (show true = false from hf.symm) (by decide)
  · exact ⟨rfl, rfl⟩

/-- The message is handed on once, given back, or neither. -/
theorem Turn.OneReceiver.handOff_length {t : Turn} (h : t.OneReceiver) : (handOff t).length ≤ 1 := by
  obtain ⟨hflags, hfreed⟩ := h
  unfold handOff
  cases hf : t.freed <;> cases hs : t.do_broadcast_to_serial <;> cases hu : t.do_broadcast_to_upperlayers <;> simp_all

/-- Two outputs to different tasks do not fit. -/
theorem not_both_receivers {outs : List ZigBeeOut} (h : outs.length ≤ 1) {T T' : Nat} (hT : T ≠ T') :
    ¬((∃ o ∈ outs, o.receiver = some T) ∧ ∃ o ∈ outs, o.receiver = some T') := by
  rintro ⟨⟨o, ho, hr⟩, o', ho', hr'⟩
  have he : o = o' := by
    match outs, h with
    | [], _ => cases ho
    | [_], _ => rw [List.mem_singleton.mp ho, List.mem_singleton.mp ho']
  subst he
  exact hT (Option.some.inj (hr.symm.trans hr'))

/-- For every state and every message, at most one of the two flags is set at the end of the loop, and the message is
not given both to the task that frees it and to the session manager. -/
theorem handedOn_once {z : ZigBee} {i : Nat × Msg} {t : Turn} (h : endOfTurn z i = some t) :
    ¬(t.do_broadcast_to_serial = true ∧ t.do_broadcast_to_upperlayers = true) ∧ ZigBeeTask z i = some (t.z, handOff t) ∧
      ¬((∃ o ∈ handOff t, o.receiver = some IpStreamSenderTask_id) ∧
        ∃ o ∈ handOff t, o.receiver = some SessionManagerTask_id) := by
  have hone := endOfTurn_oneReceiver h
  refine ⟨hone.flags, ?_, not_both_receivers hone.handOff_length (by decide)⟩
  rw [ZigBeeTask_eq, h, Option.map_some]

/-- A frame that goes up. -/
theorem handedOn_once_up : ∃ t, endOfTurn joined (In1, dataMsg 0x00) = some t ∧
    ¬(t.do_broadcast_to_serial = true ∧ t.do_broadcast_to_upperlayers = true) ∧
      ZigBeeTask joined (In1, dataMsg 0x00) = some (t.z, handOff t) ∧
      ¬((∃ o ∈ handOff t, o.receiver = some IpStreamSenderTask_id) ∧
        ∃ o ∈ handOff t, o.receiver = some SessionManagerTask_id) := by
  have hsome : (endOfTurn joined (In1, dataMsg 0x00)).isSome = true := by decide +kernel
  obtain ⟨t, ht⟩ := Option.isSome_iff_exists.mp hsome
  exact ⟨t, ht, handedOn_once ht⟩

end HomeBridge
