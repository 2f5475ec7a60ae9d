import HomeBridge.Ihaplite.Lines
import HomeBridge.ZigBee.Blocks

/-!
# Messages on the console

Each task prints the messages it gets, rendered in hex into a buffer on its stack that is as long as a message block. A byte takes three
characters there, so the buffer is full long before the block is. What the session manager and the ZigBee task print has been printed
before, by the task it came from.
-/

namespace HomeBridge

open CMem Runs

namespace Blocks

/-- The tasks that render whatever they get. -/
def RendersAll (T : Nat) : Prop := T = ZigBeeTask_id ∨ T = IpStreamSenderTask_id ∨ USER_TASKS ≤ T ∧ T < USER_TASKS + TOTAL_VPS

instance (T : Nat) : Decidable (RendersAll T) := by unfold RendersAll; infer_instance

/-- The messages a task renders in a turn with a message: the session manager a request it accepts, and again where it takes the keyword
off; the ZigBee task, the sender and the IP tasks what they get. -/
def turnPrints (T InputID : Nat) (m : Msg) : List Msg :=
  if T = SessionManagerTask_id then
    if InputID = In1 ∧ ¬m.vps > MAX_VPS then
      m :: if strncmp (m.bytes 2 5) (ascii "0TIME") ≠ 0 then [] else [stripKeyword m]
    else []
  else if RendersAll T then [m]
  else []

/-- The messages rendered in a step. An IP task renders the command it has read, and what it makes of it. A task that `receive` returns
to without a message renders the last one, as its block is by now; the session manager looks at its flag first. -/
def prints (s : Blocks) : BlockAct → List Msg
  | .request VPS stream closed =>
    if VPS.toNat < MAX_VPS then (receive_cmd stream closed VPS).elim [] fun cmd => [cmd, decodeCommand cmd] else []
  | .call => []
  | .frame bytes => s.calling.elim [] fun sslegacymode =>
    if bytes.length + 2 ≤ DATASIZE then [receivedFrame sslegacymode bytes] else []
  | .deliver k => (s.transit[k]?).elim [] fun (T, InputID, p) => turnPrints T InputID p.msg
  | .alarm => []
  | .wake T mem =>
    if T = SessionManagerTask_id then []
    else (s.holder T).elim [] fun (InputID, p) => turnPrints T InputID { p.msg with mem := mem }

/-- Every rendering in the step lies in its buffer of `DATASIZE` bytes. -/
def PrintsFit (s : Blocks) (a : BlockAct) : Prop :=
  ∀ m ∈ s.prints a, StoresIn (binary_to_hexbinaryString (m.bytes 0 (m.len + 2))) DATASIZE

/-- The condition: a line has at most 82 bytes, and so does the payload it becomes, also where the client has closed its connection
instead of ending the line; a frame from the radio that is given its length byte; a message for the sender or for an IP task; and what a
block holds by now that a task renders again. -/
def ShortMessages (s : Blocks) : BlockAct → Prop
  | .request VPS stream closed => VPS.toNat < MAX_VPS → ∀ text ended, receivedText closed stream LINESIZE = some (text, ended) →
      (ended = true → text.length ≤ 82) ∧ payloadLen text ≤ 82
  | .call => True
  | .frame bytes => s.calling = some true → bytes.length + 2 ≤ DATASIZE → bytes.length ≤ 82
  | .deliver k => ∀ e ∈ s.transit[k]?, RendersAll e.1 → e.1 ≠ ZigBeeTask_id → e.2.2.msg.len ≤ 82
  | .alarm => True
  | .wake T mem => ∀ h ∈ s.holder T, RendersAll T → ({ h.2.msg with mem := mem } : Msg).len ≤ 82

/-- Of a client that closes its connection without a line end the payload alone matters: what it becomes is rendered, the line with its
length byte is not. -/
theorem shortMessages_closed (s : Blocks) (VPS : UInt8) {text : List UInt8} (hlen : text.length < LINESIZE)
    (hno : ∀ b ∈ text, ¬EndsLine b) : s.ShortMessages (.request VPS text true) ↔ (VPS.toNat < MAX_VPS → payloadLen text ≤ 82) := by
  have hr := receivedText_closed hlen hno
  refine imp_congr_right fun _ => ⟨fun h => ?_, fun h text' ended hr' => ?_⟩
  · rw [← payloadLen_filled text (LINESIZE - text.length)]
    exact (h _ _ hr).2
  · cases hr.symm.trans hr'
    rw [payloadLen_filled]
    exact ⟨fun hend => absurd hend Bool.false_ne_true, h⟩

/-! ## One step -/

/-- A message's rendering fits exactly where its length byte is at most 82. -/
theorem rendering_fits (m : Msg) : StoresIn (binary_to_hexbinaryString (m.bytes 0 (m.len + 2))) DATASIZE ↔ m.len ≤ 82 := by
  have hlen : (m.bytes 0 (m.len + 2)).length = m.len + 2 := Msg.length_bytes ..
  rw [storesIn_hexbinaryString (List.ne_nil_of_length_pos (by omega)), hlen]
  simp only [DATASIZE]
  omega

theorem printsFit_iff {s : Blocks} {a : BlockAct} : s.PrintsFit a ↔ ∀ m ∈ s.prints a, m.len ≤ 82 :=
  forall_congr' fun m => imp_congr_right fun _ => rendering_fits m

/-- Without its length byte a frame counts as empty. -/
theorem frame_len {sslegacymode : Bool} {bytes : List UInt8} (h : bytes.length + 2 ≤ DATASIZE) :
    (receivedFrame sslegacymode bytes).len = if sslegacymode then bytes.length else 0 := by
  simp only [DATASIZE] at h
  cases sslegacymode with
  | true =>
    change (UInt8.ofNat bytes.length).toNat = bytes.length
    rw [UInt8.toNat_ofNat']
    omega
  | false => rfl

/-- So it is short exactly if it is, or has no length byte. -/
theorem frame_short_iff {sslegacymode : Bool} {bytes : List UInt8} (h : bytes.length + 2 ≤ DATASIZE) :
    (receivedFrame sslegacymode bytes).len ≤ 82 ↔ (sslegacymode = true → bytes.length ≤ 82) := by
  rw [frame_len h]
  cases sslegacymode with
  | true => exact ⟨fun hl _ => hl, fun hl => hl rfl⟩
  | false => exact iff_of_true (Nat.zero_le _) nofun

/-- The two renderings of a request. -/
theorem request_prints (s : Blocks) (stream : List UInt8) (closed : Bool) {VPS : UInt8} (hv : VPS.toNat < MAX_VPS) :
    (∀ m ∈ s.prints (.request VPS stream closed), m.len ≤ 82) ↔
      ∀ text ended, receivedText closed stream LINESIZE = some (text, ended) →
        (ended = true → text.length ≤ 82) ∧ payloadLen text ≤ 82 := by
  have hp : s.prints (.request VPS stream closed) = (receive_cmd stream closed VPS).elim [] fun cmd => [cmd, decodeCommand cmd] :=
    if_pos hv
  have hsome := receive_cmd_isSome stream closed VPS
  rw [hp]
  cases hc : receive_cmd stream closed VPS with
  | none =>
    rw [hc] at hsome
    refine iff_of_true (fun m hm => absurd hm List.not_mem_nil) fun text ended hr => ?_
    rw [hr] at hsome
    exact absurd hsome Bool.false_ne_true
  | some cmd =>
    obtain ⟨text, ended, hr, hcmd⟩ := receive_cmd_text hc
    have hle := length_receivedText (by decide) hr
    simp only [LINESIZE, DATASIZE] at hle
    have hdec := decodeCommand_text hcmd (by simp only [LINESIZE, DATASIZE]; omega)
    have hcmdlen : cmd.len ≤ 82 ↔ (ended = true → text.length ≤ 82) := by
      rw [Msg.len, hcmd.len]
      cases ended with
      | false => exact iff_of_true (Nat.zero_le 82) (fun h => absurd h Bool.false_ne_true)
      | true =>
        rw [if_pos rfl, UInt8.toNat_ofNat', Nat.mod_eq_of_lt (by omega)]
        exact ⟨fun h _ => h, fun h => h rfl⟩
    change (∀ m ∈ [cmd, decodeCommand cmd], m.len ≤ 82) ↔ _
    rw [List.forall_mem_cons, List.forall_mem_singleton, hcmdlen, hdec.len]
    constructor
    · intro h text' ended' hr'
      cases hr.symm.trans hr'
      exact h
    · exact fun h => h text ended hr

/-! ## What is under way -/

/-- What is under way to the session manager from an IP task is a request whose payload has at most 82 bytes, and nothing longer is under
way to the ZigBee task. -/
structure ShortTransit (T InputID : Nat) (m : Msg) : Prop where
  request : T = SessionManagerTask_id → InputID = In1 → (∃ VPS text, IsRequest m VPS text) ∧ m.len ≤ 82
  gateway : T = ZigBeeTask_id → m.len ≤ 82

/-- So it is with everything under way. -/
def AllShort (s : Blocks) : Prop := ∀ e ∈ s.transit, ShortTransit e.1 e.2.1 e.2.2.msg

/-- A task gives away nothing that breaks it. -/
def GivesShort (T : Nat) (o : ZigBeeOut) : Prop :=
  ∀ outport m, o = .broadcast outport m → ShortTransit (route T outport).1 (route T outport).2 m

section short

variable {s s' : Blocks} {T block : Nat} {o : ZigBeeOut} {outs : List ZigBeeOut}

/-- Only these two are asked. -/
theorem shortTransit_other {T InputID : Nat} {m : Msg} (hS : T = SessionManagerTask_id → InputID ≠ In1) (hZ : T ≠ ZigBeeTask_id) :
    ShortTransit T InputID m :=
  ⟨fun h h1 => absurd h1 (hS h), fun h => absurd h hZ⟩

theorem AllShort.give (h : s.AllShort) (ho : GivesShort T o) : (s.give T block o).AllShort := by
  cases o with
  | broadcast outport m =>
    intro e he
    rcases List.mem_append.mp he with he | he
    · exact h e he
    · rw [List.mem_singleton.mp he]
      exact ho outport m rfl
  | free m => exact h

theorem AllShort.giveAll (h : s.AllShort) (ho : ∀ o ∈ outs, GivesShort T o) : (outs.foldl (Blocks.give T block) s).AllShort :=
  List.foldlRecOn (motive := AllShort) outs _ h fun _ hs o hmem => hs.give (ho o hmem)

theorem AllShort.giveNew (h : s.AllShort) (ho : GivesShort T o) : (s.giveNew T o).AllShort := AllShort.give h ho

theorem AllShort.giveNewAll (h : s.AllShort) (ho : ∀ o ∈ outs, GivesShort T o) : (outs.foldl (Blocks.giveNew T) s).AllShort :=
  List.foldlRecOn (motive := AllShort) outs _ h fun _ hs o hmem => hs.giveNew (ho o hmem)

/-- The session manager answers IP tasks. -/
theorem givesShort_session_port {v : Nat} (hv : v ≤ MAX_VPS) (m : Msg) : GivesShort SessionManagerTask_id (.broadcast (v + 2) m) := by
  simp only [MAX_VPS, TOTAL_VPS] at hv
  rintro _ _ ⟨⟩
  have hroute : ∀ v ≤ 6, (route SessionManagerTask_id (v + 2)).1 ≠ SessionManagerTask_id ∧
      (route SessionManagerTask_id (v + 2)).1 ≠ ZigBeeTask_id := by decide
  exact shortTransit_other (fun h => absurd h (hroute v hv).1) (hroute v hv).2

/-- It passes requests on no longer than they came. -/
theorem sessionMessage_givesShort {t : SessionTable} {InputID : Nat} {m : Msg} (hm : ShortTransit SessionManagerTask_id InputID m) :
    ∀ o ∈ (sessionMessage t (some (InputID, m))).2.filterMap SessionEvent.out, GivesShort SessionManagerTask_id o := by
  cases sessionMessage_outcome t (some (InputID, m)) with
  | refused _ _ he =>
    rw [he]
    refine List.forall_mem_singleton.mpr ?_
    rintro outport m' ⟨⟩
  | @opened _ m' _ _ hm' he =>
    obtain ⟨⟨VPS, text, hreq⟩, hlen⟩ := hm.request rfl rfl
    have hshort : m'.len ≤ 82 := by
      rcases hm' with ⟨_, _, rfl⟩ | ⟨hk, _, rfl⟩
      · exact hlen
      · rw [(stripped_of_keyword hreq hk).len]
        omega
    rw [he]
    refine List.forall_mem_singleton.mpr ?_
    rintro outport _ ⟨⟩
    exact ⟨fun h => absurd h (by decide), fun _ => hshort⟩
  | answered hle _ he =>
    rw [he]
    exact List.forall_mem_singleton.mpr (givesShort_session_port hle m)
  | closed _ _ he | other _ _ he =>
    rw [he]
    exact fun _ ho => absurd ho List.not_mem_nil

/-- The ZigBee task sends to the session manager's other port and to the sender. -/
theorem zigBeeTask_givesShort {z z' : ZigBee} {i : Nat × Msg} (h : ZigBeeTask z i = some (z', outs)) :
    ∀ o ∈ outs, GivesShort ZigBeeTask_id o := by
  rintro _ ho outport m rfl
  obtain ⟨t, _, _, rfl⟩ := ZigBeeTask_eq_some h
  rcases mem_handOff.mp ho with ⟨_, ho⟩ | ⟨_, ho⟩ | ⟨_, ho⟩
  · cases ho
  · cases ho
    exact shortTransit_other (fun h => absurd h (by decide)) (by decide)
  · cases ho
    exact shortTransit_other (fun _ => by decide) (by decide)

/-- At an alarm it answers IP tasks. -/
theorem sessionAlarm_givesShort (t : SessionTable) :
    ∀ o ∈ (sessionAlarm t true).2.filterMap SessionEvent.out, GivesShort SessionManagerTask_id o := by
  intro o ho
  obtain ⟨v, hv, m, rfl⟩ := mem_sessionAlarm_out ho
  exact givesShort_session_port hv m

/-- A turn with a message of which nothing is asked but of the session manager. -/
theorem AllShort.turn (h : s.AllShort) {InputID : Nat} {p : Ptr} (hp : T = SessionManagerTask_id → ShortTransit T InputID p.msg)
    (hs : s.turn T InputID p = some s') : s'.AllShort := by
  rcases turn_cases hs with ⟨rfl, rfl⟩ | ⟨rfl, z', outs, hz, rfl⟩ | ⟨_, rfl⟩ | ⟨_, rfl⟩
  · exact AllShort.giveAll (s := { s with session_table := _ }) h (sessionMessage_givesShort (hp rfl))
  · exact AllShort.giveAll (s := { s with z := z' }) h (zigBeeTask_givesShort hz)
  · exact AllShort.give (s := { s with sslegacymode := _ }) h fun outport m he => by cases he
  · exact h

/-- The step lemma. -/
theorem AllShort.step (h : s.AllShort) {a : BlockAct} (hc : s.ShortMessages a) (hs : s.step a = some s') : s'.AllShort := by
  cases a with
  | request VPS stream closed =>
    obtain ⟨hv, rfl | ⟨m, hm, rfl⟩⟩ := request_cases hs
    · exact h
    · obtain ⟨text, ended, hr, hreq⟩ := IPTask_text hm
      refine h.giveNew ?_
      rintro _ _ ⟨⟩
      rw [route_ip_task hv]
      exact ⟨fun _ _ => ⟨⟨VPS, text, hreq⟩, by rw [hreq.len]; exact (hc hv text ended hr).2⟩, fun hZ => absurd hZ (by decide)⟩
  | call =>
    cases ((Option.ite_none_right_eq_some ..).mp hs).2
    exact h
  | frame bytes =>
    obtain ⟨sslegacymode, hcalling, hfit, rfl⟩ := frame_cases hs
    refine AllShort.giveNew (s := { s with calling := none }) h ?_
    rintro _ _ ⟨⟩
    exact ⟨fun hS => absurd hS (by decide), fun _ => (frame_short_iff hfit).mpr fun hmode => hc (hmode ▸ hcalling) hfit⟩
  | deliver k =>
    obtain ⟨⟨T, InputID, p⟩, hk, hs⟩ := Option.bind_eq_some_iff.mp hs
    have hrest : AllShort { s with transit := s.transit.eraseIdx k, holder := Function.update s.holder T (some (InputID, p)) } :=
      fun e he => h e (List.mem_of_mem_eraseIdx he)
    exact hrest.turn (fun _ => h _ (List.mem_of_getElem? hk)) hs
  | alarm =>
    cases hs
    exact AllShort.giveNewAll (s := { s with session_table := _ }) h (sessionAlarm_givesShort _)
  | wake T mem =>
    simp only [Blocks.step] at hs
    split at hs
    · rename_i hT
      obtain ⟨⟨InputID, p⟩, _, hs⟩ := Option.bind_eq_some_iff.mp hs
      exact h.turn (fun hS => absurd hS (by rcases hT with rfl | rfl <;> decide)) hs
    · cases hs
      exact h

/-- What a task renders, where nothing long is under way to it. -/
theorem turnPrints_short {InputID : Nat} {m : Msg} (h : ShortTransit T InputID m) (hm : RendersAll T → T ≠ ZigBeeTask_id → m.len ≤ 82) :
    ∀ m' ∈ turnPrints T InputID m, m'.len ≤ 82 := by
  intro m' hm'
  unfold turnPrints at hm'
  by_cases hS : T = SessionManagerTask_id
  · rw [if_pos hS] at hm'
    split at hm'
    · rename_i hin
      obtain ⟨⟨VPS, text, hreq⟩, hlen⟩ := h.request hS hin.1
      rcases List.mem_cons.mp hm' with rfl | hm'
      · exact hlen
      · split at hm'
        · cases hm'
        · rename_i hk
          rw [List.mem_singleton.mp hm']
          have hs := stripped_of_keyword hreq (not_not.mp hk)
          rw [hs.len]
          omega
    · cases hm'
  · rw [if_neg hS] at hm'
    split at hm'
    · rename_i hT
      rw [List.mem_singleton.mp hm']
      by_cases hZ : T = ZigBeeTask_id
      · exact h.gateway hZ
      · exact hm hT hZ
    · cases hm'

/-- A task that renders whatever it gets renders the message. -/
theorem mem_turnPrints {InputID : Nat} {m : Msg} (h : RendersAll T) : m ∈ turnPrints T InputID m := by
  have hS : T ≠ SessionManagerTask_id := by
    rintro rfl
    exact absurd h (by decide)
  rw [turnPrints, if_neg hS, if_pos h]
  exact List.mem_singleton_self m

/-- Who wakes up renders the message it has had in hand. -/
theorem printsFit_wake_iff (s : Blocks) (T : Nat) (mem : Mem) : s.PrintsFit (.wake T mem) ↔ s.ShortMessages (.wake T mem) := by
  rw [Blocks.printsFit_iff]
  cases hh : s.holder T with
  | none =>
    refine iff_of_true (fun m hm => absurd hm ?_) fun e he => ?_
    · rw [prints, hh]
      split <;> exact List.not_mem_nil
    · rw [hh] at he
      cases he
  | some e =>
    by_cases hT : RendersAll T
    · have hS : T ≠ SessionManagerTask_id := fun hS => absurd (hS ▸ hT) (by decide)
      have hp : s.prints (.wake T mem) = [{ e.2.msg with mem := mem }] := by
        rw [prints, if_neg hS, hh]
        exact (if_neg hS).trans (if_pos hT)
      rw [hp, List.forall_mem_singleton]
      constructor
      · intro hm e' he' _
        rw [hh] at he'
        cases he'
        exact hm
      · exact fun hc => hc _ hh hT
    · refine iff_of_true (fun m hm => absurd hm ?_) fun e' _ hT' => absurd hT' hT
      rw [prints, hh]
      split
      · exact List.not_mem_nil
      · rename_i hS
        change m ∉ turnPrints T e.1 _
        rw [turnPrints, if_neg hS, if_neg hT]
        exact List.not_mem_nil

/-- With short messages under way, a step's renderings fit exactly when it meets the condition. -/
theorem AllShort.printsFit_iff (h : s.AllShort) (a : BlockAct) : s.PrintsFit a ↔ s.ShortMessages a := by
  rw [Blocks.printsFit_iff]
  cases a with
  | request VPS stream closed =>
    by_cases hv : VPS.toNat < MAX_VPS
    · rw [request_prints s stream closed hv]
      exact ⟨fun hl _ => hl, fun hl => hl hv⟩
    · exact iff_of_true (fun m hm => absurd hm (by rw [prints, if_neg hv]; exact List.not_mem_nil)) fun hv' => absurd hv' hv
  | call => exact iff_of_true (fun m hm => absurd hm List.not_mem_nil) trivial
  | frame bytes =>
    have hp : s.prints (.frame bytes) = s.calling.elim [] fun sslegacymode =>
      if bytes.length + 2 ≤ DATASIZE then [receivedFrame sslegacymode bytes] else [] := rfl
    rw [hp]
    cases hcalling : s.calling with
    | none => exact iff_of_true (fun m hm => absurd hm List.not_mem_nil) fun hc => absurd (hcalling.symm.trans hc) nofun
    | some sslegacymode =>
      by_cases hfit : bytes.length + 2 ≤ DATASIZE
      · rw [Option.elim_some, if_pos hfit, List.forall_mem_singleton, frame_short_iff hfit]
        exact ⟨fun hl hc _ => hl (Option.some.inj (hcalling.symm.trans hc)), fun hc hmode => hc (hmode ▸ hcalling) hfit⟩
      · exact iff_of_true (fun m hm => absurd hm (by rw [Option.elim_some, if_neg hfit]; exact List.not_mem_nil))
          fun _ hfit' => absurd hfit' hfit
  | deliver k =>
    cases hk : s.transit[k]? with
    | none =>
      refine iff_of_true (fun m hm => absurd hm ?_) fun e he => ?_
      · rw [prints, hk]
        exact List.not_mem_nil
      · rw [hk] at he
        cases he
    | some e =>
      obtain ⟨T, InputID, p⟩ := e
      have hp : s.prints (.deliver k) = turnPrints T InputID p.msg := by
        rw [prints, hk]
        rfl
      rw [hp]
      constructor
      · intro hm e he hT _
        rw [hk] at he
        cases he
        exact hm _ (mem_turnPrints hT)
      · intro hc
        exact turnPrints_short (h _ (List.mem_of_getElem? hk)) (hc _ hk)
  | alarm => exact iff_of_true (fun m hm => absurd hm List.not_mem_nil) trivial
  | wake T mem => exact (Blocks.printsFit_iff ..).symm.trans (printsFit_wake_iff s T mem)

end short

end Blocks

/-- No letter ends a line. -/
theorem letters_not_endsLine {n : Nat} : ∀ b ∈ List.replicate n (0x78 : UInt8), ¬EndsLine b := by
  intro b hb
  rw [List.eq_of_mem_replicate hb]
  decide

/-- A client sends letters and closes its connection. -/
theorem closedLetters_short (s : Blocks) {n : Nat} (hn : n < LINESIZE) :
    s.ShortMessages (.request 1 (List.replicate n 0x78) true) ↔ n ≤ 82 := by
  have hlen : (List.replicate n (0x78 : UInt8)).length = n := List.length_replicate
  have h0 : ∀ b ∈ List.replicate n (0x78 : UInt8), b ≠ 0 := fun b hb => by
    rw [List.eq_of_mem_replicate hb]
    decide
  have hraw : ¬IsHexChar ((List.replicate n (0x78 : UInt8)).headD 0) := by
    cases n with
    | zero => decide
    | succ n => exact (by decide : ¬IsHexChar 0x78)
  rw [Blocks.shortMessages_closed s 1 (by rwa [hlen]) letters_not_endsLine, payloadLen_raw h0 hraw, hlen]
  exact ⟨fun h => h (by decide), fun h _ => h⟩

end HomeBridge
