import HomeBridge.Lib.Run
import HomeBridge.ZigBee.StreamReceiver

/-!
# The stream to the gateway

The two tasks of `ipstreamtasks.c` and the connection they share. The receiver accepts a connection when there is none and makes a
message of every burst that comes on it; the end of the connection is a message without payload. The sender writes what it is given to
the connection there is. Which of the two forms a message has is `sslegacymode`, set by the sender and asked at the top of the receiver's
loop.

The sender can wait for a connection of its own when there is none; those runs are left out, and so are sockets that fail.
-/

namespace HomeBridge

open CMem Runs

/-- `zconnected` and `sslegacymode`, what is still to come on the connection, the connections `accept` will return, and the form that
was asked for by the receiver's call, if there is one under way. -/
structure IpStream where
  zconnected : Bool
  sslegacymode : Bool
  arrivals : List Arrival
  connections : List (List Arrival)
  calling : Option Bool

/-- The receiver comes to the top of its loop, its call returns, or the sender has a message. -/
inductive IpStreamAct where
  | call
  | returns
  | send (m : Msg)

/-- What the tasks do: a message broadcast, or bytes written to the connection. -/
inductive IpStreamEvent where
  | broadcast (m : Msg)
  | written (bytes : List UInt8)

/-- What a call leaves to come: at the end of the connection `read` finds the end again. -/
def Received.left (r : Received) : List Arrival := if r.cmd_len = 0 then [.eof] else r.rest

namespace IpStream

def start (connections : List (List Arrival)) : IpStream := ⟨false, true, [], connections, none⟩

/-- `use_ipstream_server("RESV", ..)`. Only a connection that was there already is given up when it has ended. -/
def use_ipstream_server_RESV (s : IpStream) : Option (IpStream × Received) :=
  if s.zconnected then
    (receive_stream_data s.arrivals).map fun r => ({ s with zconnected := decide (r.cmd_len ≠ 0), arrivals := r.left }, r)
  else
    match s.connections with
    | [] => none
    | arrivals :: connections =>
      (receive_stream_data arrivals).map fun r =>
        ({ s with zconnected := true, arrivals := r.left, connections := connections }, r)

/-- `send_stream_data`. -/
def send_stream_data (bytes : List UInt8) : List IpStreamEvent := if bytes.length > 0 then [.written bytes] else []

/-- One step. -/
def step (s : IpStream) : IpStreamAct → Option (IpStream × List IpStreamEvent)
  | .call => if s.calling = none then some ({ s with calling := some s.sslegacymode }, []) else none
  | .returns => do
    let sslegacymode ← s.calling
    let (s, r) ← s.use_ipstream_server_RESV
    some ({ s with calling := none }, [.broadcast (receiverBuffer sslegacymode r)])
  | .send m =>
    if s.zconnected then
      if m.rd 0 = 0xff then some ({ s with sslegacymode := true }, send_stream_data m.payload)
      else some ({ s with sslegacymode := false }, send_stream_data (m.bytes 0 (m.len + 2)))
    else none

/-- A run, with all that was done in it. -/
def runs : IpStream → List IpStreamAct → Option (IpStream × List IpStreamEvent)
  | s, [] => some (s, [])
  | s, a :: acts => (s.step a).bind fun (s', es) => (runs s' acts).map fun (s'', es') => (s'', es ++ es')

end IpStream

/-! ## What the gateway sends -/

/-- A burst of bytes that fits behind the header. -/
structure Burst where
  bytes : List UInt8
  nonempty : bytes ≠ []
  short : bytes.length ≤ DATASIZE - 2

/-- What comes on a connection: pauses, bursts with pauses behind them, and bytes the connection is closed on. -/
structure Connection where
  pauses : Nat
  bursts : List (Burst × Nat)
  cut : List UInt8
  cut_short : cut.length ≤ DATASIZE - 2

/-- A burst, and at least one pause. -/
def Burst.arrivals (b : Burst × Nat) : List Arrival := b.1.bytes.map .byte ++ List.replicate (b.2 + 1) .pause

def Connection.arrivals (c : Connection) : List Arrival :=
  List.replicate c.pauses .pause ++ c.bursts.flatMap Burst.arrivals ++ c.cut.map .byte ++ [.eof]

/-- A message as it lies in its buffer. -/
def frameBytes (bytes : List UInt8) : List UInt8 := 0xFF :: UInt8.ofNat bytes.length :: bytes

/-- The messages made of a connection: its bursts, and its end, which is found twice where there was no burst before it. -/
def Connection.frames (c : Connection) : List (List UInt8) :=
  c.bursts.map (fun b => frameBytes b.1.bytes) ++ (if c.bursts = [] then [frameBytes [], frameBytes []] else [frameBytes []])

/-- The messages broadcast in a run, header and payload. -/
def broadcasts (es : List IpStreamEvent) : List (List UInt8) :=
  es.filterMap fun
    | .broadcast m => some (m.bytes 0 (m.len + 2))
    | .written _ => none

/-! ## One call -/

section call

variable {rest : List Arrival}

/-- A call waits through the pauses in front of a burst. -/
theorem receive_pauses (n : Nat) : receive_stream_data (List.replicate n .pause ++ rest) = receive_stream_data rest := by
  induction n with
  | zero => rfl
  | succ n ih => exact ih

/-- Bytes below the limit are read one after the other. -/
theorem receiveStreamLoop_bytes : ∀ {bytes cmd : List UInt8} {detected : Bool}, cmd.length + bytes.length < 254 → bytes ≠ [] →
    receiveStreamLoop cmd detected (bytes.map .byte ++ rest) = receiveStreamLoop (cmd ++ bytes) true rest := by
  intro bytes
  induction bytes with
  | nil => exact fun _ h => absurd rfl h
  | cons b bytes ih =>
    intro cmd detected hlen _
    rw [List.length_cons] at hlen
    rw [List.map_cons, List.cons_append, receiveStreamLoop, if_neg (by omega), Arrival.stored]
    · by_cases hnil : bytes = []
      · rw [hnil]
        rfl
      · rw [ih (by rw [List.length_append, List.length_singleton]; omega) hnil, List.append_assoc]
        rfl
    all_goals exact fun he => Arrival.noConfusion he

/-- A burst is received up to the pause behind it. -/
theorem receive_burst (b : Burst) : receive_stream_data (b.bytes.map .byte ++ .pause :: rest) =
    some ⟨b.bytes.length, [(0, b.bytes)], rest⟩ := by
  have hshort := b.short
  simp only [DATASIZE] at hshort
  rw [receive_stream_data, receiveStreamLoop_bytes (by rw [List.length_nil]; omega) b.nonempty]
  rfl

/-- Bytes the connection is closed on are lost. -/
theorem receive_cut {cut : List UInt8} (hcut : cut.length ≤ DATASIZE - 2) :
    receive_stream_data (cut.map .byte ++ .eof :: rest) = some ⟨0, [], rest⟩ := by
  simp only [DATASIZE] at hcut
  by_cases hnil : cut = []
  · rw [hnil]
    rfl
  · rw [receive_stream_data, receiveStreamLoop_bytes (by rw [List.length_nil]; omega) hnil]
    rfl

/-- The buffer of a burst. -/
theorem receiverBuffer_burst (b : Burst) (rest : List Arrival) :
    (receiverBuffer true ⟨b.bytes.length, [(0, b.bytes)], rest⟩).bytes 0
      ((receiverBuffer true ⟨b.bytes.length, [(0, b.bytes)], rest⟩).len + 2) = frameBytes b.bytes := by
  have hshort := b.short
  simp only [DATASIZE] at hshort
  obtain ⟨m, hm⟩ : ∃ m, receiverBuffer true ⟨b.bytes.length, [(0, b.bytes)], rest⟩ = m := ⟨_, rfl⟩
  have hbuf : m = ((Msg.set ⟨zeroed, 0⟩ 0 0xFF).wr 2 b.bytes).set 1 (UInt8.ofNat b.bytes.length) := hm.symm
  have h1 : m.rd 1 = UInt8.ofNat b.bytes.length := by rw [hbuf, Msg.rd_set, if_pos rfl]
  have h0 : m.rd 0 = 0xFF := by
    rw [hbuf, Msg.rd_set, if_neg (by decide), Msg.rd_wr, if_neg (by omega), Msg.rd_set, if_pos rfl]
  have hlen : m.len = b.bytes.length := by
    rw [Msg.len, h1, UInt8.toNat_ofNat']
    omega
  have hbody : m.bytes 2 b.bytes.length = b.bytes := by
    rw [hbuf, Msg.bytes_set_disjoint _ _ (.inr (by decide))]
    exact Msg.bytes_wr_self _ _ _
  have hhead : m.bytes 0 2 = [m.rd 0, m.rd 1] := rfl
  rw [hm, hlen, Nat.add_comm, Msg.bytes_add, hhead, h0, h1, hbody]
  rfl

/-- The end of the connection is an empty message. -/
theorem receiverBuffer_end (rest : List Arrival) : (receiverBuffer true ⟨0, [], rest⟩).bytes 0
    ((receiverBuffer true ⟨0, [], rest⟩).len + 2) = frameBytes [] := rfl

end call

/-! ## What is left -/

/-- The messages still to be made of a connection that was accepted. -/
def Connection.framesLeft (c : Connection) : List (List UInt8) := c.bursts.map (fun b => frameBytes b.1.bytes) ++ [frameBytes []]

/-- A connection at its end. -/
def Connection.ended : Connection := ⟨0, [], [], Nat.zero_le _⟩

/-- What a call finds on a connection: its next burst, or its end. -/
theorem receive_connection (c : Connection) :
    (∃ b n bs, c.bursts = (b, n) :: bs ∧ receive_stream_data c.arrivals =
      some ⟨b.bytes.length, [(0, b.bytes)], Connection.arrivals { c with pauses := n, bursts := bs }⟩) ∨
    c.bursts = [] ∧ receive_stream_data c.arrivals = some ⟨0, [], []⟩ := by
  unfold Connection.arrivals
  rw [List.append_assoc, List.append_assoc, receive_pauses]
  cases hb : c.bursts with
  | nil => exact .inr ⟨rfl, receive_cut c.cut_short⟩
  | cons b bs =>
    obtain ⟨b, n⟩ := b
    refine .inl ⟨b, n, bs, rfl, ?_⟩
    rw [List.flatMap_cons, Burst.arrivals, List.replicate_succ, List.append_assoc, List.append_assoc, List.cons_append, receive_burst]
    simp only [List.append_assoc]

namespace IpStream

variable {s s' : IpStream} {es : List IpStreamEvent}

/-- The messages still to be broadcast. -/
inductive Left (s : IpStream) : List (List UInt8) → Prop
  | waiting (cs : List Connection) (hzconnected : s.zconnected = false) (hconnections : s.connections = cs.map Connection.arrivals) :
      Left s (cs.flatMap Connection.frames)
  | connected (c : Connection) (cs : List Connection) (hzconnected : s.zconnected = true) (harrivals : s.arrivals = c.arrivals)
      (hconnections : s.connections = cs.map Connection.arrivals) : Left s (c.framesLeft ++ cs.flatMap Connection.frames)

/-- The stream is in its first form, and no call was made in the other. -/
structure Legacy (s : IpStream) : Prop where
  mode : s.sslegacymode = true
  calling : s.calling ≠ some false

/-- What is left depends on the connections alone. -/
theorem Left.congr {frames : List (List UInt8)} (h : Left s frames) (hz : s'.zconnected = s.zconnected) (ha : s'.arrivals = s.arrivals)
    (hc : s'.connections = s.connections) : Left s' frames := by
  cases h with
  | waiting cs hz' hc' => exact .waiting cs (hz.trans hz') (hc.trans hc')
  | connected c cs hz' ha' hc' => exact .connected c cs (hz.trans hz') (ha.trans ha') (hc.trans hc')

/-- At the start all is still to come. -/
theorem left_start (cs : List Connection) : Left (start (cs.map Connection.arrivals)) (cs.flatMap Connection.frames) :=
  .waiting cs rfl rfl

/-- A call without a connection accepts one, and keeps it even where it has ended. -/
theorem use_accepted {arrivals : List Arrival} {connections : List (List Arrival)} {r : Received} (hz : s.zconnected = false)
    (hc : s.connections = arrivals :: connections) (hr : receive_stream_data arrivals = some r) :
    s.use_ipstream_server_RESV = some ({ s with zconnected := true, arrivals := r.left, connections := connections }, r) := by
  simp only [use_ipstream_server_RESV, hz, Bool.false_eq_true, if_false, hc, hr, Option.map_some]

/-- A call on a connection gives it up at its end. -/
theorem use_connected {r : Received} (hz : s.zconnected = true) (hr : receive_stream_data s.arrivals = some r) :
    s.use_ipstream_server_RESV = some ({ s with zconnected := decide (r.cmd_len ≠ 0), arrivals := r.left }, r) := by
  simp only [use_ipstream_server_RESV, hz, if_true, hr, Option.map_some]

/-- Behind a burst the connection goes on. -/
theorem left_burst (b : Burst) (rest : List Arrival) : Received.left ⟨b.bytes.length, [(0, b.bytes)], rest⟩ = rest :=
  if_neg fun h0 => b.nonempty (List.eq_nil_of_length_eq_zero h0)

/-- A call that returns makes the next message. -/
theorem returns_next {frames : List (List UInt8)} (h : Left s frames) (hne : frames ≠ []) :
    ∃ f rest s' r, frames = f :: rest ∧ s.use_ipstream_server_RESV = some (s', r) ∧ Left s' rest ∧
      (receiverBuffer true r).bytes 0 ((receiverBuffer true r).len + 2) = f ∧ s'.sslegacymode = s.sslegacymode := by
  cases h with
  | waiting cs hz hc =>
    cases cs with
    | nil => exact absurd rfl hne
    | cons c cs =>
      have hconn : s.connections = c.arrivals :: cs.map Connection.arrivals := hc
      rcases receive_connection c with ⟨b, n, bs, hb, hr⟩ | ⟨hb, hr⟩
      · have huse := use_accepted hz hconn hr
        have hframes : (c :: cs).flatMap Connection.frames = frameBytes b.bytes ::
            (Connection.framesLeft { c with pauses := n, bursts := bs } ++ cs.flatMap Connection.frames) := by
          rw [List.flatMap_cons, Connection.frames, hb, if_neg (List.cons_ne_nil _ _)]
          rfl
        rw [left_burst] at huse
        exact ⟨_, _, _, _, hframes, huse, .connected _ cs rfl rfl rfl, receiverBuffer_burst b _, rfl⟩
      · have huse := use_accepted hz hconn hr
        have hframes : (c :: cs).flatMap Connection.frames =
            frameBytes [] :: (Connection.ended.framesLeft ++ cs.flatMap Connection.frames) := by
          rw [List.flatMap_cons, Connection.frames, hb, if_pos rfl]
          rfl
        exact ⟨_, _, _, _, hframes, huse, .connected Connection.ended cs rfl rfl rfl, receiverBuffer_end [], rfl⟩
  | connected c cs hz ha hc =>
    rcases receive_connection c with ⟨b, n, bs, hb, hr⟩ | ⟨hb, hr⟩
    · have huse := use_connected hz (ha ▸ hr)
      have hframes : c.framesLeft ++ cs.flatMap Connection.frames = frameBytes b.bytes ::
          (Connection.framesLeft { c with pauses := n, bursts := bs } ++ cs.flatMap Connection.frames) := by
        rw [Connection.framesLeft, hb]
        rfl
      have hpos : b.bytes.length ≠ 0 := fun h0 => b.nonempty (List.eq_nil_of_length_eq_zero h0)
      rw [left_burst] at huse
      exact ⟨_, _, _, _, hframes, huse, .connected _ cs (decide_eq_true hpos) rfl hc, receiverBuffer_burst b _, rfl⟩
    · have huse := use_connected hz (ha ▸ hr)
      have hframes : c.framesLeft ++ cs.flatMap Connection.frames = frameBytes [] :: cs.flatMap Connection.frames := by
        rw [Connection.framesLeft, hb]
        rfl
      exact ⟨_, _, _, _, hframes, huse, .waiting cs rfl hc, receiverBuffer_end [], rfl⟩

theorem Connection.frames_ne_nil (c : Connection) : c.frames ≠ [] := by
  unfold Connection.frames
  split <;> exact List.append_ne_nil_of_right_ne_nil _ (List.cons_ne_nil _ _)

/-- Nothing is left when there is no connection, and none to accept. -/
theorem left_nil (h : Left s []) : s.zconnected = false ∧ s.connections = [] := by
  generalize hf : ([] : List (List UInt8)) = frames at h
  cases h with
  | waiting cs hz hc =>
    cases cs with
    | nil => exact ⟨hz, hc⟩
    | cons c cs => exact absurd hf.symm (List.append_ne_nil_of_left_ne_nil (Connection.frames_ne_nil c) _)
  | connected c cs hz ha hc =>
    exact absurd hf.symm (List.append_ne_nil_of_left_ne_nil (List.append_ne_nil_of_right_ne_nil _ (List.cons_ne_nil _ _)) _)

/-- The bytes of the messages a sender is given. -/
def sent (acts : List IpStreamAct) : List (List UInt8) :=
  acts.filterMap fun
    | .send m => if m.payload.length > 0 then some m.payload else none
    | _ => none

/-- The bytes written in a run. -/
def written (es : List IpStreamEvent) : List (List UInt8) :=
  es.filterMap fun
    | .written bytes => some bytes
    | .broadcast _ => none

/-- Nothing is written for an empty message. -/
theorem written_send (bytes : List UInt8) : written (send_stream_data bytes) = if bytes.length > 0 then [bytes] else [] := by
  unfold send_stream_data
  split <;> rfl

theorem sent_send (m : Msg) : sent [.send m] = if m.payload.length > 0 then [m.payload] else [] := by
  by_cases hpos : m.payload.length > 0
  · rw [if_pos hpos]
    exact List.filterMap_cons_some (if_pos hpos)
  · rw [if_neg hpos]
    exact List.filterMap_cons_none (if_neg hpos)

/-- A step makes at most the next message, and writes what it is given. -/
theorem step_left {frames : List (List UInt8)} {a : IpStreamAct} (h : Left s frames) (hl : s.Legacy)
    (ha : ∀ m, a = .send m → m.rd 0 = 0xff) (hs : s.step a = some (s', es)) :
    s'.Legacy ∧ written es = sent [a] ∧ ∃ rest, Left s' rest ∧ broadcasts es ++ rest = frames := by
  cases a with
  | call =>
    simp only [step, Option.ite_none_right_eq_some, Option.some.injEq, Prod.mk.injEq] at hs
    obtain ⟨-, rfl, rfl⟩ := hs
    refine ⟨⟨hl.mode, fun hc => ?_⟩, rfl, frames, ?_, rfl⟩
    · rw [hl.mode] at hc
      cases hc
    · exact h.congr rfl rfl rfl
  | returns =>
    obtain ⟨sslegacymode, hcalling, hs⟩ := Option.bind_eq_some_iff.mp hs
    obtain ⟨⟨s₁, r⟩, huse, hs⟩ := Option.bind_eq_some_iff.mp hs
    simp only [Option.some.injEq, Prod.mk.injEq] at hs
    obtain ⟨rfl, rfl⟩ := hs
    have hmode : sslegacymode = true := by
      cases sslegacymode with
      | true => rfl
      | false => exact absurd hcalling hl.calling
    subst hmode
    have hne : frames ≠ [] := by
      rintro rfl
      obtain ⟨hz, hc⟩ := left_nil h
      simp only [use_ipstream_server_RESV, hz, Bool.false_eq_true, if_false, hc] at huse
      cases huse
    obtain ⟨f, rest, s₂, r', rfl, huse', hleft, hf, hm⟩ := returns_next h hne
    cases huse.symm.trans huse'
    exact ⟨⟨hm.trans hl.mode, nofun⟩, rfl, rest, hleft.congr rfl rfl rfl, congrArg (· :: rest) hf⟩
  | send m =>
    have hff : m.rd 0 = 0xff := ha m rfl
    simp only [step, hff, if_true, Option.ite_none_right_eq_some, Option.some.injEq, Prod.mk.injEq] at hs
    obtain ⟨-, rfl, rfl⟩ := hs
    refine ⟨⟨rfl, hl.calling⟩, ?_, frames, ?_, ?_⟩
    · exact (written_send m.payload).trans (sent_send m).symm
    · exact h.congr rfl rfl rfl
    · unfold send_stream_data
      split <;> rfl

/-- A run from any point on: what is broadcast and what is left are what was left before. -/
theorem runs_left : ∀ {acts : List IpStreamAct} {s s' : IpStream} {es : List IpStreamEvent} {frames : List (List UInt8)},
    Left s frames → s.Legacy → (∀ m, .send m ∈ acts → m.rd 0 = 0xff) → s.runs acts = some (s', es) →
    s'.Legacy ∧ written es = sent acts ∧ ∃ rest, Left s' rest ∧ broadcasts es ++ rest = frames := by
  intro acts
  induction acts with
  | nil =>
    intro s s' es frames h hl _ hrun
    cases hrun
    exact ⟨hl, rfl, frames, h, rfl⟩
  | cons a acts ih =>
    intro s s' es frames h hl hsend hrun
    obtain ⟨⟨s₁, es₁⟩, hs, hrun⟩ := Option.bind_eq_some_iff.mp hrun
    obtain ⟨⟨s₂, es₂⟩, hr, hrun⟩ := Option.map_eq_some_iff.mp hrun
    cases hrun
    obtain ⟨hl₁, hw₁, rest₁, hleft₁, rfl⟩ := step_left h hl (fun m he => hsend m (he ▸ List.mem_cons_self ..)) hs
    obtain ⟨hl₂, hw₂, rest₂, hleft₂, rfl⟩ := ih hleft₁ hl₁ (fun m hm => hsend m (List.mem_cons_of_mem a hm)) hr
    refine ⟨hl₂, ?_, rest₂, hleft₂, ?_⟩
    · rw [written, List.filterMap_append]
      change written es₁ ++ written es₂ = sent ([a] ++ acts)
      rw [hw₁, hw₂, sent, sent, sent, List.filterMap_append]
    · rw [broadcasts, List.filterMap_append, List.append_assoc]
      rfl

/-- Two bytes, a pause, one byte more, and a pause. -/
def twoBursts : Connection := ⟨0, [(⟨[0x61, 0x62], by decide, by decide⟩, 0), (⟨[0x63], by decide, by decide⟩, 0)], [], by decide⟩

/-- The calls for them, with a message to the gateway between. -/
def twoBurstsActs : List IpStreamAct :=
  [.call, .returns, .send ⟨write zeroed 0 [0xFF, 0x01, 0x7A], 0⟩, .call, .returns, .call, .returns]

end IpStream

end HomeBridge
