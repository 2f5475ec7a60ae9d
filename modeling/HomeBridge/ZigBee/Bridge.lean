import HomeBridge.Ihaplite.Lines
import HomeBridge.Ihaplite.Replies
import HomeBridge.Ihaplite.SessionTimeouts
import HomeBridge.ZigBee.RequestPath
import HomeBridge.ZigBee.HandOff
import Mathlib.Algebra.GroupWithZero.Nat
import Mathlib.Data.List.Perm.Basic

/-!
# The bridge

The tasks put together as `main` wires them. What a task broadcasts is posted to the task and the input port the routing table names,
and any posted message may be the next one delivered, so that the runs are those of all the orders in which the message handler can
hand the messages over. That it hands each of them over once, to a task that waits for it, is taken for granted here.

An IP task serves one connection: it takes a line, waits in `receive` for one message, writes it and closes the connection; until then
it accepts no other. A turn of the session manager with a message and an alarm is a turn with the message and one with the alarm.
-/

namespace HomeBridge

open CMem Runs

/-- A message that is posted: the task it goes to, the input port there, and the message. -/
abbrev Posted : Type := (Nat × Nat) × Msg

/-- What the tasks keep, the IP tasks that wait for a message by their ports, and the messages under way. -/
structure Bridge where
  z : ZigBee
  session_table : SessionTable
  waiting : Nat → Bool
  posted : List Posted

/-- What happens next: a client of `VPS` sends something, a frame comes from the gateway, a posted message is delivered, or the session
manager's alarm has gone off. -/
inductive BridgeInput where
  | client (VPS : UInt8) (stream : List UInt8) (closed : Bool)
  | frame (m : Msg)
  | deliver (k : Nat)
  | alarm

/-- What passes the edges of the bridge: a client's message goes in, a frame out to the gateway, a text to the client of a port, a
datagram. A message for an IP task that does not wait stays behind for its next client. -/
inductive BridgeEvent where
  | request (v : Nat) (m : Msg)
  | gateway (m : Msg)
  | reply (v : Nat) (text : List UInt8)
  | datagram (port : Nat) (data : List UInt8)
  | stale (v : Nat) (m : Msg)

/-- A step's result: the bridge, and what happened. -/
abbrev BridgeResult : Type := Option (Bridge × List BridgeEvent)

/-- What a turn of the session manager posts. -/
def sessionPosts (events : List SessionEvent) : List Posted :=
  events.filterMap fun
    | .broadcast outport m => some (route SessionManagerTask_id outport, m)
    | _ => none

/-- What it sends on UDP. -/
def sessionDatagrams (events : List SessionEvent) : List BridgeEvent :=
  events.filterMap fun
    | .UDP_broadcast port data => some (.datagram port data)
    | _ => none

/-- What a turn of the ZigBee task posts. -/
def zigBeePosts (outs : List ZigBeeOut) : List Posted :=
  outs.filterMap fun
    | .broadcast outport m => some (route ZigBeeTask_id outport, m)
    | .free _ => none

namespace Bridge

def start (gwieeeaddr : Addr ADDRLEN) : Bridge := ⟨ZigBee.start gwieeeaddr, noSession, fun _ => false, []⟩

/-- A turn of the session manager. Where it would read the entry behind its table there is no result. -/
def sessionTurn (b : Bridge) (i : SessionInput) : BridgeResult :=
  if i.msg.any fun p => p.2.vps = MAX_VPS then none
  else
    let (session_table, events) := SessionManagerTask b.session_table i
    some ({ b with session_table := session_table, posted := b.posted ++ sessionPosts events }, sessionDatagrams events)

/-- A turn of the ZigBee task. -/
def zigBeeTurn (b : Bridge) (i : Nat × Msg) : BridgeResult :=
  (ZigBeeTask b.z i).map fun (z, outs) => ({ b with z := z, posted := b.posted ++ zigBeePosts outs }, [])

/-- A message for the IP task of `v`. What lies in the buffer its text is made in does not matter. -/
def ipTask (b : Bridge) (v : Nat) (m : Msg) : Bridge × List BridgeEvent :=
  if b.waiting v then ({ b with waiting := Function.update b.waiting v false }, [.reply v (IPTaskReply zeroed m)])
  else (b, [.stale v m])

/-- A message is delivered. -/
def deliver (b : Bridge) : Posted → BridgeResult
  | ((receiver, input), m) =>
    if receiver = SessionManagerTask_id then b.sessionTurn ⟨some (input, m), false⟩
    else if receiver = ZigBeeTask_id then b.zigBeeTurn (input, m)
    else if receiver = IpStreamSenderTask_id then some (b, [.gateway m])
    else some (b.ipTask (receiver - USER_TASKS) m)

/-- One step. A client whose task does not accept has none. -/
def step (b : Bridge) : BridgeInput → BridgeResult
  | .client VPS stream closed =>
    let v := VPS.toNat
    if b.waiting v ∨ MAX_VPS ≤ v then none
    else
      match IPTask VPS stream closed with
      | none => some (b, [])
      | some m => some ({ b with waiting := Function.update b.waiting v true, posted := b.posted ++ [(route (IPTask_id v) Out1, m)] },
          [.request v m])
  | .frame m => some ({ b with posted := b.posted ++ [(route IpStreamReceiverTask_id Out1, m)] }, [])
  | .deliver k => b.posted[k]?.bind fun p => { b with posted := b.posted.eraseIdx k }.deliver p
  | .alarm => b.sessionTurn ⟨none, true⟩

/-- A run, with all that happened in it. -/
def runs : Bridge → List BridgeInput → BridgeResult
  | b, [] => some (b, [])
  | b, i :: is => (b.step i).bind fun (b', es) => (runs b' is).map fun (b'', es') => (b'', es ++ es')

end Bridge

/-- A request of the client of `v`. -/
def Requests (v : Nat) : BridgeEvent → Prop
  | .request v' _ => v' = v
  | _ => False

/-- A text for the client of `v`. -/
def Replies (v : Nat) : BridgeEvent → Prop
  | .reply v' _ => v' = v
  | _ => False

/-- A posted request of the client of `v`. -/
def Asks (v : Nat) (p : Posted) : Prop := p.1 = (SessionManagerTask_id, In1) ∧ p.2.vps = v

/-- A message posted to the IP task of `v`. -/
def ForClient (v : Nat) (p : Posted) : Prop := p.1 = (IPTask_id v, In1)

/-- The alarms among the inputs. -/
def BridgeInput.alarms : BridgeInput → Nat
  | .alarm => 1
  | _ => 0

instance (v : Nat) : DecidablePred (Requests v) := fun e => by cases e <;> unfold Requests <;> infer_instance

instance (v : Nat) : DecidablePred (Replies v) := fun e => by cases e <;> unfold Replies <;> infer_instance

instance (v : Nat) : DecidablePred (Asks v) := fun p => inferInstanceAs (Decidable (p.1 = _ ∧ p.2.vps = v))

instance (v : Nat) : DecidablePred (ForClient v) := fun p => inferInstanceAs (Decidable (p.1 = _))

namespace Bridge

/-- The requests of the client of `v` that are under way. -/
def asked (b : Bridge) (v : Nat) : Nat := b.posted.countP fun p => decide (Asks v p)

/-- The messages for it that are under way. -/
def answered (b : Bridge) (v : Nat) : Nat := b.posted.countP fun p => decide (ForClient v p)

/-- What a posted message can be: a client's request, a message from the network, one for the ZigBee task, one for the gateway, or one
for a client. -/
def Wired (p : Posted) : Prop :=
  p.1 = (SessionManagerTask_id, In1) ∧ p.2.vps < MAX_VPS ∨ p.1 = (SessionManagerTask_id, In2) ∨ p.1.1 = ZigBeeTask_id ∨
    p.1.1 = IpStreamSenderTask_id ∨ ∃ v < MAX_VPS, ForClient v p

/-- For a client that waits one thing is under way: its request, its session, or its reply. For one that does not, nothing is. -/
structure Inv (b : Bridge) : Prop where
  wired : ∀ p ∈ b.posted, Wired p
  underWay : ∀ v < MAX_VPS, b.asked v + (isOpen v b.session_table).toNat + b.answered v = (b.waiting v).toNat
  timeout : ∀ v < MAX_VPS, b.session_table v ≤ SESSION_TIMEOUT

/-- What a step, or a number of them in which there were `n` alarms, comes to for port `v`: requests and replies take turns, no message
stays behind, and a client that waits on with its request taken does so with `n` alarms less before it. -/
structure TurnedAt (v n : Nat) (b b' : Bridge) (es : List BridgeEvent) : Prop where
  underWay : b'.asked v + (isOpen v b'.session_table).toNat + b'.answered v = (b'.waiting v).toNat
  le : b'.session_table v ≤ SESSION_TIMEOUT
  turns : run (Ledger.turn (Requests v) (Replies v)) (b.waiting v) es = some (b'.waiting v)
  fresh : ∀ m, .stale v m ∉ es
  timeout : b.waiting v = true → b.asked v = 0 → (∀ e ∈ es, ¬Replies v e) →
    b'.asked v = 0 ∧ b'.session_table v ≤ b.session_table v - n

/-- What it comes to for all of them. -/
structure Turned (n : Nat) (b b' : Bridge) (es : List BridgeEvent) : Prop where
  wired : ∀ p ∈ b'.posted, Wired p
  at_port : ∀ v < MAX_VPS, TurnedAt v n b b' es

variable {b b' b'' : Bridge} {es es' : List BridgeEvent} {n n' v : Nat}

theorem Turned.inv (h : Turned n b b' es) : b'.Inv :=
  ⟨h.wired, fun v hv => (h.at_port v hv).underWay, fun v hv => (h.at_port v hv).le⟩

theorem disjoint_turns (v : Nat) (e : BridgeEvent) (h : Requests v e) : ¬Replies v e := by
  cases e with
  | request v' m => exact id
  | _ => exact h.elim

/-- A client that waits and gets nothing waits on. -/
theorem TurnedAt.waits_on (h : TurnedAt v n b b' es) (hw : b.waiting v = true) (hno : ∀ e ∈ es, ¬Replies v e) :
    b'.waiting v = true := by
  have hcount := Ledger.turn_count (disjoint_turns v) h.turns
  have hzero : es.countP (fun e => decide (Replies v e)) = 0 := List.countP_eq_zero.mpr fun e he => by
    rw [decide_eq_true_eq]
    exact hno e he
  rw [hw, hzero] at hcount
  cases hb' : b'.waiting v with
  | true => rfl
  | false =>
    rw [hb'] at hcount
    simp only [Bool.toNat_true, Bool.toNat_false] at hcount
    omega

theorem TurnedAt.trans (h : TurnedAt v n b b' es) (h' : TurnedAt v n' b' b'' es') : TurnedAt v (n + n') b b'' (es ++ es') := by
  refine ⟨h'.underWay, h'.le, ?_, fun m hm => ?_, fun hw hask hno => ?_⟩
  · rw [run_append, h.turns]
    exact h'.turns
  · rcases List.mem_append.mp hm with hm | hm
    · exact h.fresh m hm
    · exact h'.fresh m hm
  · have hno₁ : ∀ e ∈ es, ¬Replies v e := fun e he => hno e (List.mem_append_left _ he)
    have hno₂ : ∀ e ∈ es', ¬Replies v e := fun e he => hno e (List.mem_append_right _ he)
    obtain ⟨hask₁, hle₁⟩ := h.timeout hw hask hno₁
    obtain ⟨hask₂, hle₂⟩ := h'.timeout (h.waits_on hw hno₁) hask₁ hno₂
    exact ⟨hask₂, by omega⟩

/-! ## What is under way -/

/-- The rest of what is under way, when one of it is delivered. -/
theorem countP_eraseIdx {l : List Posted} {k : Nat} {p : Posted} (h : l[k]? = some p) (P : Posted → Bool) :
    (l.eraseIdx k).countP P + (if P p = true then 1 else 0) = l.countP P := by
  obtain ⟨hk, rfl⟩ := List.getElem?_eq_some_iff.mp h
  rw [← List.countP_cons, List.Perm.countP_eq P (List.getElem_cons_eraseIdx_perm hk)]

/-- A message that is neither a request nor for a client. -/
theorem not_counted {p : Posted} (h : p.1 = (SessionManagerTask_id, In2) ∨ p.1.1 = ZigBeeTask_id ∨ p.1.1 = IpStreamSenderTask_id)
    (v : Nat) : ¬Asks v p ∧ ¬ForClient v p := by
  obtain ⟨⟨T, i⟩, m⟩ := p
  refine ⟨fun ⟨ha, _⟩ => ?_, fun ha => ?_⟩ <;> cases ha <;>
    simp only [SessionManagerTask_id, ZigBeeTask_id, IpStreamSenderTask_id, IPTask_id, USER_TASKS, In1, In2, Prod.mk.injEq] at h <;> omega

/-- What the ZigBee task gives away goes to the session manager or to the gateway. -/
theorem zigBeePosts_wired {z z' : ZigBee} {i : Nat × Msg} {outs : List ZigBeeOut} (h : ZigBeeTask z i = some (z', outs))
    {p : Posted} (hp : p ∈ zigBeePosts outs) :
    p.1 = (SessionManagerTask_id, In2) ∨ p.1.1 = ZigBeeTask_id ∨ p.1.1 = IpStreamSenderTask_id := by
  rw [ZigBeeTask_eq] at h
  obtain ⟨t, -, he⟩ := Option.map_eq_some_iff.mp h
  obtain ⟨-, rfl⟩ := Prod.mk.inj he
  obtain ⟨o, ho, hpost⟩ := List.mem_filterMap.mp hp
  rcases mem_handOff.mp ho with ⟨-, rfl⟩ | ⟨-, rfl⟩ | ⟨-, rfl⟩
  · cases hpost
  · cases hpost
    exact .inr (.inr rfl)
  · cases hpost
    exact .inl rfl

/-- What the session manager broadcasts goes to the ZigBee task, or to the client it is an answer for. -/
theorem sessionPosts_count (v : Nat) : ∀ {events : List SessionEvent},
    (∀ p m, .broadcast p m ∈ events → p = Out1 ∨ ∃ u < MAX_VPS, p = u + 2) →
    (∀ p ∈ sessionPosts events, Wired p ∧ ¬Asks v p) ∧
      (sessionPosts events).countP (fun p => decide (ForClient v p)) = events.countP fun e => decide (Answers v e) := by
  intro events
  induction events with
  | nil => exact fun _ => ⟨nofun, rfl⟩
  | cons e events ih =>
    intro hports
    obtain ⟨hall, hcount⟩ := ih fun p m h => hports p m (List.mem_cons_of_mem e h)
    cases e with
    | broadcast p m =>
      have hcons : sessionPosts (.broadcast p m :: events) = (route SessionManagerTask_id p, m) :: sessionPosts events := rfl
      rw [hcons, List.countP_cons, List.countP_cons, hcount]
      rcases hports p m (List.mem_cons_self ..) with rfl | ⟨u, hu, rfl⟩
      · have hz : route SessionManagerTask_id Out1 = (ZigBeeTask_id, In2) := rfl
        have hno := not_counted (p := (route SessionManagerTask_id Out1, m)) (.inr (.inl (congrArg Prod.fst hz))) v
        have hans : ¬Answers v (.broadcast Out1 m) := by
          unfold Answers Out1
          omega
        refine ⟨fun p hp => ?_, by rw [decide_eq_false hno.2, decide_eq_false hans]⟩
        rcases List.mem_cons.mp hp with rfl | hp
        · exact ⟨.inr (.inr (.inl (congrArg Prod.fst hz))), hno.1⟩
        · exact hall p hp
      · have hr := route_session_port hu
        have hiff : ForClient v (route SessionManagerTask_id (u + 2), m) ↔ Answers v (.broadcast (u + 2) m) := by
          rw [hr]
          simp only [ForClient, Answers, IPTask_id, Prod.mk.injEq, and_true]
          omega
        refine ⟨fun p hp => ?_, by rw [decide_eq_decide.mpr hiff]⟩
        rcases List.mem_cons.mp hp with rfl | hp
        · refine ⟨.inr (.inr (.inr (.inr ⟨u, hu, hr⟩))), fun ha => ?_⟩
          have hT := congrArg Prod.fst (hr.symm.trans ha.1)
          simp only [IPTask_id, USER_TASKS, SessionManagerTask_id] at hT
          omega
        · exact hall p hp
    | _ =>
      refine ⟨hall, ?_⟩
      rw [List.countP_cons, ← hcount]
      rfl

/-- Where nothing is opened, what is answered was open. -/
theorem answers_add_isOpen {v : Nat} {events : List SessionEvent} {s t : Bool} (hno : ∀ e ∈ events, ¬Opens v e)
    (h : run (Ledger.step (Opens v) (Answers v)) s events = some t) :
    events.countP (fun e => decide (Answers v e)) + t.toNat = s.toNat := by
  induction events generalizing s with
  | nil =>
    cases h
    exact Nat.zero_add _
  | cons e events ih =>
    obtain ⟨s', h1, h2⟩ := run_cons_eq_some.mp h
    have hrest := ih (fun e' he' => hno e' (List.mem_cons_of_mem e he')) h2
    have ho := hno e (List.mem_cons_self ..)
    rw [List.countP_cons]
    by_cases ha : Answers v e
    · rw [Ledger.step_answers ho ha] at h1
      cases s with
      | false => cases h1
      | true =>
        cases h1
        rw [decide_eq_true ha]
        simp only [Bool.toNat_false, if_true, Bool.toNat_true] at hrest ⊢
        omega
    · rw [Ledger.step_other ho ha] at h1
      cases h1
      rw [decide_eq_false ha]
      simpa using hrest

/-- What the steps inside the bridge come to for a port. -/
theorem turnedAt_inside (hw : b'.waiting v = b.waiting v) (hes : ∀ e ∈ es, (∃ m, e = .gateway m) ∨ ∃ port data, e = .datagram port data)
    (hsum : b'.asked v + (isOpen v b'.session_table).toNat + b'.answered v = (b.waiting v).toNat)
    (hle : b'.session_table v ≤ SESSION_TIMEOUT)
    (htime : b.asked v = 0 → b'.asked v = 0 ∧ b'.session_table v ≤ b.session_table v - n) : TurnedAt v n b b' es := by
  have hquiet : ∀ e ∈ es, ¬Requests v e ∧ ¬Replies v e ∧ ∀ m, e ≠ .stale v m := by
    intro e he
    rcases hes e he with ⟨m, rfl⟩ | ⟨port, data, rfl⟩
    · exact ⟨id, id, nofun⟩
    · exact ⟨id, id, nofun⟩
  refine ⟨by rw [hw]; exact hsum, hle, ?_, fun m hm => (hquiet _ hm).2.2 m rfl, fun _ hask _ => htime hask⟩
  rw [hw]
  clear hes
  induction es with
  | nil => rfl
  | cons e es ih =>
    obtain ⟨ho, ha, -⟩ := hquiet e (List.mem_cons_self ..)
    rw [run_cons, Ledger.turn_other ho ha]
    exact ih fun e' he' => hquiet e' (List.mem_cons_of_mem e he')

/-! ## A turn of the session manager -/

section session

variable {t : SessionTable} {i : SessionInput}

/-- What it broadcasts goes to the ZigBee task or to a client. -/
theorem session_ports (hi : ∀ p m, i.msg = some (p, m) → m.vps ≠ MAX_VPS) {p : Nat} {m : Msg}
    (h : .broadcast p m ∈ (SessionManagerTask t i).2) : p = Out1 ∨ ∃ u < MAX_VPS, p = u + 2 := by
  rcases List.mem_append.mp h with h | h
  · have hout := sessionMessage_outcome t i.msg
    generalize hmsg : i.msg = msg at h hout
    cases hout with
    | opened _ _ he =>
      rw [he] at h
      simp only [List.mem_cons, SessionEvent.broadcast.injEq, List.not_mem_nil, reduceCtorEq, false_or, or_false] at h
      exact .inl h.1
    | @answered m' hle _ he =>
      rw [he] at h
      simp only [List.mem_cons, SessionEvent.broadcast.injEq, List.not_mem_nil, reduceCtorEq, false_or, or_false] at h
      exact .inr ⟨m'.vps, Nat.lt_of_le_of_ne hle (hi _ _ hmsg), h.1⟩
    | idle he | refused _ _ he | closed _ _ he | other _ _ he =>
      rw [he] at h
      simp at h
  · rcases mem_sessionAlarm h with h | h | ⟨j, hj, h⟩
    · cases h
    · cases h
    · simp only [SessionEvent.broadcast.injEq] at h
      exact .inr ⟨j, hj, h.1⟩

/-- A message from the network answers a session that is open, or none. -/
theorem ledger_message {m : Msg} (hne : m.vps ≠ MAX_VPS) :
    run (Ledger.step (Opens v) (Answers v)) (isOpen v t) (sessionMessage t (some (In2, m))).2 =
      some (isOpen v (sessionMessage t (some (In2, m))).1) := by
  by_cases hlt : m.vps < MAX_VPS
  · exact ledger_in2 t hlt
  · have hgt : m.vps > MAX_VPS := by omega
    have hrec : ¬Opens v (.received In2 m) := fun ho => absurd ho.1 (by decide)
    have hfree : ¬Opens v (.free m) := id
    have he : sessionMessage t (some (In2, m)) = (t, [.received In2 m, .free m]) := by
      simp only [sessionMessage, sessionIn2, if_pos hgt]
      rfl
    rw [he, run_cons, Ledger.step_other hrec id]
    exact ledger_other hfree id

/-- A turn without a request: what it answers was open, and no session lasts longer for it. -/
theorem session_answers (hi : ∀ p m, i.msg = some (p, m) → p = In2 ∧ m.vps ≠ MAX_VPS) (hv : v < MAX_VPS) :
    (SessionManagerTask t i).2.countP (fun e => decide (Answers v e)) + (isOpen v (SessionManagerTask t i).1).toNat = (isOpen v t).toNat ∧
      (SessionManagerTask t i).1 v ≤ t v - (if i.alarm = true then 1 else 0) := by
  have hledger : run (Ledger.step (Opens v) (Answers v)) (isOpen v t) (sessionMessage t i.msg).2 =
      some (isOpen v (sessionMessage t i.msg).1) := by
    cases hm : i.msg with
    | none => rfl
    | some p =>
      obtain ⟨InputID, m⟩ := p
      obtain ⟨rfl, hne⟩ := hi InputID m hm
      exact ledger_message hne
  have hnoOpens : ∀ e ∈ (SessionManagerTask t i).2, ¬Opens v e := by
    intro e he
    rcases List.mem_append.mp he with he | he
    · cases hm : i.msg with
      | none =>
        rw [hm] at he
        cases he
      | some p =>
        obtain ⟨InputID, m⟩ := p
        obtain ⟨rfl, -⟩ := hi InputID m hm
        rw [hm] at he
        rcases List.mem_cons.mp he with rfl | he
        · exact fun ho => absurd ho.1 (by decide)
        · have h21 : ¬In2 = In1 := by decide
          simp only [h21, if_false, if_true, sessionIn2] at he
          split at he
          · rw [List.mem_singleton.mp he]
            exact id
          · split at he <;> rw [List.mem_singleton.mp he] <;> exact id
    · rcases mem_sessionAlarm he with rfl | rfl | ⟨j, hj, rfl⟩ <;> exact id
  have hrun : run (Ledger.step (Opens v) (Answers v)) (isOpen v t) (SessionManagerTask t i).2 =
      some (isOpen v (SessionManagerTask t i).1) := by
    rw [SessionManagerTask, run_append, hledger, Option.bind_some]
    exact ledger_alarm _ _
  refine ⟨answers_add_isOpen hnoOpens hrun, ?_⟩
  have hmessage : (sessionMessage t i.msg).1 v ≤ t v := by
    cases hm : i.msg with
    | none => exact Nat.le_refl _
    | some p =>
      obtain ⟨InputID, m⟩ := p
      obtain ⟨rfl, -⟩ := hi InputID m hm
      have h21 : ¬In2 = In1 := by decide
      simp only [sessionMessage, h21, if_false, if_true, sessionIn2]
      split
      · exact Nat.le_refl _
      · split
        · change Function.update t m.vps 0 v ≤ t v
          by_cases hvm : v = m.vps
          · rw [hvm, Function.update_self]
            exact Nat.zero_le _
          · rw [Function.update_of_ne hvm]
        · exact Nat.le_refl _
  have hturn : (SessionManagerTask t i).1 = (sessionAlarm (sessionMessage t i.msg).1 i.alarm).1 := rfl
  rw [hturn]
  cases i.alarm with
  | false => exact hmessage
  | true =>
    rw [sessionAlarm_entry hv, if_pos rfl]
    omega

end session

/-- What a turn of the session manager makes of the bridge. -/
theorem sessionTurn_eq_some {i : SessionInput} (h : b.sessionTurn i = some (b', es)) :
    (∀ p m, i.msg = some (p, m) → m.vps ≠ MAX_VPS) ∧
      b' = { b with session_table := (SessionManagerTask b.session_table i).1
                    posted := b.posted ++ sessionPosts (SessionManagerTask b.session_table i).2 } ∧
      es = sessionDatagrams (SessionManagerTask b.session_table i).2 := by
  unfold sessionTurn at h
  split at h
  · cases h
  · rename_i hread
    obtain ⟨rfl, rfl⟩ := Prod.mk.inj (Option.some.inj h)
    refine ⟨fun p m hm he => hread ?_, rfl, rfl⟩
    rw [hm]
    exact decide_eq_true he

theorem mem_sessionDatagrams {events : List SessionEvent} {e : BridgeEvent} (h : e ∈ sessionDatagrams events) :
    (∃ m, e = .gateway m) ∨ ∃ port data, e = .datagram port data := by
  obtain ⟨se, -, hse⟩ := List.mem_filterMap.mp h
  split at hse
  · cases hse
    exact .inr ⟨_, _, rfl⟩
  · cases hse

/-! ## Every step -/

/-- Nothing happened to the clients. -/
theorem turned_same (hb : b.Inv) (hwired : ∀ p ∈ b'.posted, Wired p)
    (hcount : ∀ v, b'.asked v = b.asked v ∧ b'.answered v = b.answered v) (htable : b'.session_table = b.session_table)
    (hw : b'.waiting = b.waiting) (hes : ∀ e ∈ es, (∃ m, e = .gateway m) ∨ ∃ port data, e = .datagram port data) : Turned 0 b b' es := by
  refine ⟨hwired, fun v hv => turnedAt_inside (by rw [hw]) hes ?_ ?_ fun hask => ⟨?_, ?_⟩⟩
  · rw [(hcount v).1, (hcount v).2, htable]
    exact hb.underWay v hv
  · rw [htable]
    exact hb.timeout v hv
  · rw [(hcount v).1, hask]
  · rw [htable]
    exact Nat.le_refl _

/-- A turn of the session manager without a request, once the message for it is taken out of `b`. -/
theorem turned_answers {b₀ : Bridge} {i : SessionInput} (hb : b.Inv) (hwired : ∀ p ∈ b₀.posted, Wired p)
    (hcount : ∀ v, b₀.asked v = b.asked v ∧ b₀.answered v = b.answered v) (htable : b₀.session_table = b.session_table)
    (hw : b₀.waiting = b.waiting) (hi : ∀ p m, i.msg = some (p, m) → p = In2) (h : b₀.sessionTurn i = some (b', es)) :
    Turned (if i.alarm = true then 1 else 0) b b' es := by
  obtain ⟨hne, rfl, rfl⟩ := sessionTurn_eq_some h
  have hposts := fun v => sessionPosts_count v fun p m hp => session_ports (t := b₀.session_table) hne (p := p) (m := m) hp
  refine ⟨fun p hp => ?_, fun v hv => ?_⟩
  · rcases List.mem_append.mp hp with hp | hp
    · exact hwired p hp
    · exact ((hposts 0).1 p hp).1
  obtain ⟨hopen, hle⟩ := session_answers (t := b₀.session_table) (fun p m hm => ⟨hi p m hm, hne p m hm⟩) hv
  obtain ⟨hall, hfor⟩ := hposts v
  have hunder := hb.underWay v hv
  have htime := hb.timeout v hv
  rw [htable] at hopen hle hfor
  have hno : (sessionPosts (SessionManagerTask b₀.session_table i).2).countP (fun p => decide (Asks v p)) = 0 :=
    List.countP_eq_zero.mpr fun p hp => by
      rw [decide_eq_true_eq]
      exact (hall p hp).2
  rw [htable] at hno
  have hask' : ∀ q : Bridge, q.posted = b₀.posted ++ sessionPosts (SessionManagerTask b.session_table i).2 → q.asked v = b.asked v := by
    intro q hq
    rw [asked, hq, List.countP_append, hno]
    exact (hcount v).1
  have hans' : ∀ q : Bridge, q.posted = b₀.posted ++ sessionPosts (SessionManagerTask b.session_table i).2 →
      q.answered v = b.answered v + (SessionManagerTask b.session_table i).2.countP fun e => decide (Answers v e) := by
    intro q hq
    rw [answered, hq, List.countP_append, hfor, ← (hcount v).2]
    rfl
  rw [htable]
  have hle' : (SessionManagerTask b.session_table i).1 v ≤ SESSION_TIMEOUT := by omega
  refine turnedAt_inside (congrFun hw v) (fun e he => mem_sessionDatagrams he) ?_ hle' fun hask => ⟨?_, hle⟩
  · rw [hask' _ rfl, hans' _ rfl]
    change _ + (isOpen v (SessionManagerTask b.session_table i).1).toNat + _ = _
    omega
  · rw [hask' _ rfl, hask]

/-- A turn with a request: the session it opens was closed, since only the request was under way. -/
theorem turned_opens {b₀ : Bridge} {m : Msg} (hb : b.Inv) (hv : m.vps < MAX_VPS) (hwired : ∀ p ∈ b₀.posted, Wired p)
    (hasked : ∀ v, b₀.asked v + (if v = m.vps then 1 else 0) = b.asked v) (hanswered : ∀ v, b₀.answered v = b.answered v)
    (htable : b₀.session_table = b.session_table) (hw : b₀.waiting = b.waiting)
    (h : b₀.sessionTurn ⟨some (In1, m), false⟩ = some (b', es)) : Turned 0 b b' es := by
  obtain ⟨-, rfl, rfl⟩ := sessionTurn_eq_some h
  obtain ⟨time, m', he⟩ := sessionIn1_eq b₀.session_table hv
  have hturn : SessionManagerTask b₀.session_table ⟨some (In1, m), false⟩ =
      (Function.update b₀.session_table m.vps SESSION_TIMEOUT, [.received In1 m, .alarmSet time, .broadcast Out1 m']) := by
    simp only [SessionManagerTask, sessionMessage, if_true, he, sessionAlarm_false, List.append_nil]
  have hposts : sessionPosts (SessionManagerTask b₀.session_table ⟨some (In1, m), false⟩).2 = [((ZigBeeTask_id, In2), m')] := by
    rw [hturn]
    rfl
  have hno := not_counted (p := ((ZigBeeTask_id, In2), m')) (.inr (.inl rfl))
  rw [hposts]
  refine ⟨fun p hp => ?_, fun u hu => ?_⟩
  · rcases List.mem_append.mp hp with hp | hp
    · exact hwired p hp
    · rw [List.mem_singleton.mp hp]
      exact .inr (.inr (.inl rfl))
  have hask' : ∀ q : Bridge, q.posted = b₀.posted ++ [((ZigBeeTask_id, In2), m')] → q.asked u = b₀.asked u := by
    intro q hq
    rw [asked, hq, List.countP_append, List.countP_singleton, decide_eq_false (hno u).1]
    rfl
  have hans' : ∀ q : Bridge, q.posted = b₀.posted ++ [((ZigBeeTask_id, In2), m')] → q.answered u = b₀.answered u := by
    intro q hq
    rw [answered, hq, List.countP_append, List.countP_singleton, decide_eq_false (hno u).2]
    rfl
  have hunder := hb.underWay u hu
  have hask := hasked u
  have hans := hanswered u
  have htime := hb.timeout u hu
  have hbool := Bool.toNat_le (b.waiting u)
  rw [hturn]
  refine turnedAt_inside (congrFun hw u) (fun e he => mem_sessionDatagrams he) ?_ ?_ fun h0 => ⟨?_, ?_⟩
  · rw [hask' _ rfl, hans' _ rfl, htable]
    by_cases hum : u = m.vps
    · subst hum
      rw [if_pos rfl] at hask
      have hopen : (isOpen m.vps b.session_table).toNat = 0 := by omega
      rw [isOpen_update_self, decide_eq_true (by decide), Bool.toNat_true]
      omega
    · rw [if_neg hum] at hask
      rw [isOpen_update_of_ne hum]
      omega
  · change Function.update b₀.session_table m.vps SESSION_TIMEOUT u ≤ SESSION_TIMEOUT
    by_cases hum : u = m.vps
    · rw [hum, Function.update_self]
    · rw [Function.update_of_ne hum, htable]
      exact htime
  · rw [hask' _ rfl]
    omega
  · change Function.update b₀.session_table m.vps SESSION_TIMEOUT u ≤ b.session_table u
    by_cases hum : u = m.vps
    · rw [if_pos hum] at hask
      omega
    · rw [Function.update_of_ne hum, htable]

/-- A message for a client: its client waits, for this one. -/
theorem turned_reply {b₀ : Bridge} {m : Msg} {u : Nat} (hb : b.Inv) (hu : u < MAX_VPS) (hwired : ∀ p ∈ b₀.posted, Wired p)
    (hasked : ∀ v, b₀.asked v = b.asked v) (hanswered : ∀ v, b₀.answered v + (if v = u then 1 else 0) = b.answered v)
    (htable : b₀.session_table = b.session_table) (hw : b₀.waiting = b.waiting) (h : b₀.ipTask u m = (b', es)) :
    Turned 0 b b' es := by
  have hwait : b.waiting u = true := by
    have hunder := hb.underWay u hu
    have hans := hanswered u
    rw [if_pos rfl] at hans
    cases hbu : b.waiting u with
    | true => rfl
    | false =>
      rw [hbu, Bool.toNat_false] at hunder
      omega
  rw [ipTask, hw, if_pos hwait] at h
  obtain ⟨rfl, rfl⟩ := Prod.mk.inj h
  have hreq : ∀ v, ¬Requests v (.reply u (IPTaskReply zeroed m)) := fun v => id
  have hrep : Replies u (.reply u (IPTaskReply zeroed m)) := rfl
  refine ⟨hwired, fun v hv => ?_⟩
  have hunder := hb.underWay v hv
  have hask := hasked v
  have hans := hanswered v
  by_cases hvu : v = u
  · subst hvu
    rw [if_pos rfl] at hans
    refine ⟨?_, htable ▸ hb.timeout v hv, ?_, fun m hm => ?_, fun _ _ hno => absurd hrep (hno _ (List.mem_singleton_self _))⟩
    · change b₀.asked v + (isOpen v b₀.session_table).toNat + b₀.answered v = (Function.update b.waiting v false v).toNat
      rw [hwait, Bool.toNat_true] at hunder
      rw [Function.update_self, htable, Bool.toNat_false]
      omega
    · change _ = some (Function.update b.waiting v false v)
      rw [run_cons, hwait, Ledger.turn_answers (hreq v) hrep, Function.update_self]
      rfl
    · cases List.mem_singleton.mp hm
  · rw [if_neg hvu] at hans
    have hnrep : ¬Replies v (.reply u (IPTaskReply zeroed m)) := fun ha => hvu (Eq.symm ha)
    refine ⟨?_, htable ▸ hb.timeout v hv, ?_, fun m hm => ?_, fun _ h0 _ => ⟨hask.trans h0, ?_⟩⟩
    · change b₀.asked v + (isOpen v b₀.session_table).toNat + b₀.answered v = (Function.update b.waiting u false v).toNat
      rw [Function.update_of_ne hvu, htable]
      omega
    · change _ = some (Function.update b.waiting u false v)
      rw [run_cons, Ledger.turn_other (hreq v) hnrep, Function.update_of_ne hvu]
      rfl
    · cases List.mem_singleton.mp hm
    · change b₀.session_table v ≤ b.session_table v
      rw [htable]

/-- A delivery. -/
theorem turned_deliver (hb : b.Inv) {k : Nat} {p : Posted} (hp : b.posted[k]? = some p)
    (h : ({ b with posted := b.posted.eraseIdx k } : Bridge).deliver p = some (b', es)) : Turned 0 b b' es := by
  obtain ⟨b₀, hb₀⟩ : ∃ b₀ : Bridge, { b with posted := b.posted.eraseIdx k } = b₀ := ⟨_, rfl⟩
  have hposted : b₀.posted = b.posted.eraseIdx k := hb₀ ▸ rfl
  have hwired : ∀ q ∈ b₀.posted, Wired q := fun q hq => hb.wired q (List.mem_of_mem_eraseIdx (hposted ▸ hq))
  have hcount := countP_eraseIdx hp
  have hasked : ∀ v, b₀.asked v + (if Asks v p then 1 else 0) = b.asked v := fun v => by
    rw [asked, hposted, asked, ← hcount]
    simp only [decide_eq_true_eq]
  have hanswered : ∀ v, b₀.answered v + (if ForClient v p then 1 else 0) = b.answered v := fun v => by
    rw [answered, hposted, answered, ← hcount]
    simp only [decide_eq_true_eq]
  have htable : b₀.session_table = b.session_table := hb₀ ▸ rfl
  have hw : b₀.waiting = b.waiting := hb₀ ▸ rfl
  rw [hb₀] at h
  have hother : (p.1 = (SessionManagerTask_id, In2) ∨ p.1.1 = ZigBeeTask_id ∨ p.1.1 = IpStreamSenderTask_id) →
      ∀ v, b₀.asked v = b.asked v ∧ b₀.answered v = b.answered v := by
    intro hc v
    obtain ⟨hna, hnf⟩ := not_counted hc v
    have ha := hasked v
    have hf := hanswered v
    rw [if_neg hna] at ha
    rw [if_neg hnf] at hf
    exact ⟨ha, hf⟩
  obtain ⟨⟨receiver, input⟩, m⟩ := p
  rcases hb.wired _ (List.mem_of_getElem? hp) with ⟨he, hv⟩ | he | he | he | ⟨u, hu, he⟩
  · obtain ⟨rfl, rfl⟩ := Prod.mk.inj he
    rw [deliver, if_pos rfl] at h
    refine turned_opens hb hv hwired (fun v => ?_) (fun v => ?_) htable hw h
    · rw [← hasked v]
      simp only [Asks, true_and, eq_comm]
    · rw [← hanswered v, if_neg]
      · rfl
      · intro hc
        have hT := congrArg Prod.fst hc
        simp only [IPTask_id, USER_TASKS, SessionManagerTask_id] at hT
        omega
  · obtain ⟨rfl, rfl⟩ := Prod.mk.inj he
    rw [deliver, if_pos rfl] at h
    refine turned_answers hb hwired (hother (.inl rfl)) htable hw (fun p m hm => ?_) h
    cases hm
    rfl
  · obtain rfl : receiver = ZigBeeTask_id := he
    rw [deliver, if_neg (by decide), if_pos rfl] at h
    obtain ⟨⟨z, outs⟩, hz, hr⟩ := Option.map_eq_some_iff.mp h
    obtain ⟨rfl, rfl⟩ := Prod.mk.inj hr
    have hposts := fun q (hq : q ∈ zigBeePosts outs) => zigBeePosts_wired hz hq
    have hzero : ∀ P : Posted → Bool, (∀ q ∈ zigBeePosts outs, ¬P q = true) → (b₀.posted ++ zigBeePosts outs).countP P = b₀.posted.countP P :=
      fun P hP => by rw [List.countP_append, List.countP_eq_zero.mpr hP, Nat.add_zero]
    refine turned_same hb (fun q hq => ?_) (fun v => ?_) htable hw nofun
    · rcases List.mem_append.mp hq with hq | hq
      · exact hwired q hq
      · rcases hposts q hq with hq | hq | hq
        · exact .inr (.inl hq)
        · exact .inr (.inr (.inl hq))
        · exact .inr (.inr (.inr (.inl hq)))
    · obtain ⟨ha, hf⟩ := hother (.inr (.inl rfl)) v
      refine ⟨(hzero _ fun q hq => ?_).trans ha, (hzero _ fun q hq => ?_).trans hf⟩
      · rw [decide_eq_true_eq]
        exact (not_counted (hposts q hq) v).1
      · rw [decide_eq_true_eq]
        exact (not_counted (hposts q hq) v).2
  · obtain rfl : receiver = IpStreamSenderTask_id := he
    rw [deliver, if_neg (by decide), if_neg (by decide), if_pos rfl] at h
    obtain ⟨rfl, rfl⟩ := Prod.mk.inj (Option.some.inj h)
    exact turned_same hb hwired (hother (.inr (.inr rfl))) htable hw fun e he => .inl ⟨m, List.mem_singleton.mp he⟩
  · obtain ⟨rfl, rfl⟩ := Prod.mk.inj he
    have hne : IPTask_id u ≠ SessionManagerTask_id ∧ IPTask_id u ≠ ZigBeeTask_id ∧ IPTask_id u ≠ IpStreamSenderTask_id ∧
        IPTask_id u - USER_TASKS = u := by
      simp only [MAX_VPS, TOTAL_VPS] at hu
      simp only [IPTask_id, USER_TASKS, SessionManagerTask_id, ZigBeeTask_id, IpStreamSenderTask_id]
      omega
    rw [deliver, if_neg hne.1, if_neg hne.2.1, if_neg hne.2.2.1, hne.2.2.2] at h
    refine turned_reply hb hu hwired (fun v => ?_) (fun v => ?_) htable hw (Option.some.inj h)
    · rw [← hasked v, if_neg]
      · rfl
      · exact fun ha => hne.1 (congrArg Prod.fst ha.1)
    · rw [← hanswered v]
      simp only [ForClient, IPTask_id, Prod.mk.injEq, and_true, Nat.add_right_cancel_iff, eq_comm]

/-- A client that does not wait makes its request. -/
theorem turned_request (hb : b.Inv) {u : Nat} (hu : u < MAX_VPS) (hidle : b.waiting u = false) {m : Msg} (hm : m.vps = u) :
    Turned 0 b { b with waiting := Function.update b.waiting u true
                        posted := b.posted ++ [((SessionManagerTask_id, In1), m)] } [.request u m] := by
  have hrep : ∀ v, ¬Replies v (.request u m) := fun v => id
  have hreq : Requests u (.request u m) := rfl
  refine ⟨fun p hp => ?_, fun v hv => ?_⟩
  · rcases List.mem_append.mp hp with hp | hp
    · exact hb.wired p hp
    · rw [List.mem_singleton.mp hp]
      exact .inl ⟨rfl, hm ▸ hu⟩
  have hnot : ¬ForClient v ((SessionManagerTask_id, In1), m) := by
    intro hc
    have hT := congrArg Prod.fst hc
    simp only [IPTask_id, USER_TASKS, SessionManagerTask_id] at hT
    omega
  have hans : ∀ q : Bridge, q.posted = b.posted ++ [((SessionManagerTask_id, In1), m)] → q.answered v = b.answered v := by
    intro q hq
    rw [answered, hq, List.countP_append, List.countP_singleton, decide_eq_false hnot]
    rfl
  have hask : ∀ q : Bridge, q.posted = b.posted ++ [((SessionManagerTask_id, In1), m)] →
      q.asked v = b.asked v + if v = u then 1 else 0 := by
    intro q hq
    have hiff : Asks v ((SessionManagerTask_id, In1), m) ↔ v = u := ⟨fun ha => ha.2.symm.trans hm, fun he => ⟨rfl, hm.trans he.symm⟩⟩
    rw [asked, hq, List.countP_append, List.countP_singleton]
    simp only [hiff, decide_eq_true_eq]
    rfl
  have hunder := hb.underWay v hv
  by_cases hvu : v = u
  · subst hvu
    refine ⟨?_, hb.timeout v hv, ?_, fun m' hm' => ?_, fun hwait => ?_⟩
    · rw [hask _ rfl, hans _ rfl, if_pos rfl]
      change _ + 1 + (isOpen v b.session_table).toNat + _ = (Function.update b.waiting v true v).toNat
      rw [hidle, Bool.toNat_false] at hunder
      rw [Function.update_self, Bool.toNat_true]
      omega
    · change _ = some (Function.update b.waiting v true v)
      rw [run_cons, hidle, Ledger.turn_opens hreq, Function.update_self]
      rfl
    · cases List.mem_singleton.mp hm'
    · exact absurd (hwait.symm.trans hidle) (by decide)
  · have hnreq : ¬Requests v (.request u m) := fun ha => hvu (Eq.symm ha)
    refine ⟨?_, hb.timeout v hv, ?_, fun m' hm' => ?_, fun _ h0 _ => ⟨?_, Nat.le_refl _⟩⟩
    · rw [hask _ rfl, hans _ rfl, if_neg hvu]
      change _ + 0 + (isOpen v b.session_table).toNat + _ = (Function.update b.waiting u true v).toNat
      rw [Function.update_of_ne hvu]
      omega
    · change _ = some (Function.update b.waiting u true v)
      rw [run_cons, Ledger.turn_other hnreq (hrep v), Function.update_of_ne hvu]
      rfl
    · cases List.mem_singleton.mp hm'
    · rw [hask _ rfl, if_neg hvu, h0]

theorem turned_step (hb : b.Inv) {i : BridgeInput} (h : b.step i = some (b', es)) : Turned i.alarms b b' es := by
  cases i with
  | client VPS stream closed =>
    simp only [step] at h
    split at h
    · cases h
    · rename_i hacc
      rw [not_or, Nat.not_le, Bool.not_eq_true] at hacc
      obtain ⟨hidle, hv⟩ := hacc
      split at h
      · cases h
        exact turned_same hb hb.wired (fun v => ⟨rfl, rfl⟩) rfl rfl nofun
      · rename_i m hm
        obtain ⟨text, ended, -, hreq⟩ := IPTask_text hm
        rw [route_ip_task hv] at h
        obtain ⟨rfl, rfl⟩ := Prod.mk.inj (Option.some.inj h)
        exact turned_request hb hv hidle (by rw [Msg.vps, hreq.vps])
  | frame m =>
    obtain ⟨rfl, rfl⟩ := Prod.mk.inj (Option.some.inj h)
    have hr : route IpStreamReceiverTask_id Out1 = (ZigBeeTask_id, In1) := rfl
    have hno := not_counted (p := (route IpStreamReceiverTask_id Out1, m)) (.inr (.inl rfl))
    refine turned_same hb (fun p hp => ?_) (fun v => ?_) rfl rfl nofun
    · rcases List.mem_append.mp hp with hp | hp
      · exact hb.wired p hp
      · rw [List.mem_singleton.mp hp]
        exact .inr (.inr (.inl rfl))
    · refine ⟨?_, ?_⟩
      · rw [asked, List.countP_append, List.countP_singleton, decide_eq_false (hno v).1]
        rfl
      · rw [answered, List.countP_append, List.countP_singleton, decide_eq_false (hno v).2]
        rfl
  | deliver k =>
    obtain ⟨p, hp, hd⟩ := Option.bind_eq_some_iff.mp h
    exact turned_deliver hb hp hd
  | alarm => exact turned_answers hb hb.wired (fun v => ⟨rfl, rfl⟩) rfl rfl (fun _ _ hm => by cases hm) h

theorem turned_nil (hb : b.Inv) : Turned 0 b b [] := turned_same hb hb.wired (fun _ => ⟨rfl, rfl⟩) rfl rfl nofun

theorem runs_cons_eq_some {i : BridgeInput} {is : List BridgeInput} (h : b.runs (i :: is) = some (b'', es)) :
    ∃ b' es₁ es₂, b.step i = some (b', es₁) ∧ b'.runs is = some (b'', es₂) ∧ es = es₁ ++ es₂ := by
  obtain ⟨⟨b', es₁⟩, hs, h⟩ := Option.bind_eq_some_iff.mp h
  obtain ⟨⟨b₂, es₂⟩, hr, h⟩ := Option.map_eq_some_iff.mp h
  obtain ⟨rfl, rfl⟩ := Prod.mk.inj h
  exact ⟨b', es₁, es₂, hs, hr, rfl⟩

/-- A run is one step after the other. -/
theorem turned_runs : ∀ {is : List BridgeInput} {b b' : Bridge} {es : List BridgeEvent}, b.Inv → b.runs is = some (b', es) →
    Turned (is.map BridgeInput.alarms).sum b b' es := by
  intro is
  induction is with
  | nil =>
    intro b b' es hb h
    cases h
    exact turned_nil hb
  | cons i is ih =>
    intro b b' es hb h
    obtain ⟨b₁, es₁, es₂, hs, hr, rfl⟩ := runs_cons_eq_some h
    have ht := turned_step hb hs
    have hrest := ih ht.inv hr
    exact ⟨hrest.wired, fun v hv => (ht.at_port v hv).trans (hrest.at_port v hv)⟩

theorem inv_start (gwieeeaddr : Addr ADDRLEN) : (start gwieeeaddr).Inv := ⟨nofun, fun _ _ => rfl, fun _ _ => Nat.zero_le _⟩

/-! ## Requests and replies -/

/-- The client of port 0 asks for devices, and one joins. -/
def joinInputs : List BridgeInput :=
  [.client 0 (ascii "INCLUDE_REQ" ++ [0x0d]) false, .deliver 0, .deliver 0, .deliver 0,
    .frame (message 0xFF ([0x00, 0x03, 0x00, 0xC0, 0x13, 0x00, 0x42] ++ List.replicate 18 0x07)), .deliver 0, .deliver 0]

/-- Then nothing is under way, that client waits, the one of port 1 does not, and slot 1 is in use; and the alarm may go off. -/
theorem joinInputs_runs : ∃ b es, (start ⟨List.replicate 8 0, rfl⟩).runs joinInputs = some (b, es) ∧ b.posted = [] ∧
    b.waiting 0 = true ∧ b.waiting 1 = false ∧ check_valid_vps b.z.table 1 = true ∧
    ∃ b' es', b.runs (List.replicate 15 .alarm) = some (b', es') := by
  have hrun : ((start ⟨List.replicate 8 0, rfl⟩).runs joinInputs).map (fun (b, _) =>
      (b.posted.isEmpty, b.waiting 0, b.waiting 1, check_valid_vps b.z.table 1, (b.runs (List.replicate 15 .alarm)).isSome)) =
        some (true, true, false, true, true) := by
    decide +kernel
  obtain ⟨⟨b, es⟩, hb, he⟩ := Option.map_eq_some_iff.mp hrun
  simp only [Prod.mk.injEq] at he
  obtain ⟨hposted, h0, h1, hused, halarm⟩ := he
  obtain ⟨⟨b', es'⟩, hb'⟩ := Option.isSome_iff_exists.mp halarm
  exact ⟨b, es, hb, List.isEmpty_iff.mp hposted, h0, h1, hused, b', es', hb'⟩

/-- In every run, whatever is delivered when: requests and replies take turns on every port, a client waits exactly as long as one thing
is under way for it, its request, its session or its reply, and no message is left for the next client. -/
theorem requests_take_turns (gwieeeaddr : Addr ADDRLEN) {is : List BridgeInput} {b : Bridge} {es : List BridgeEvent}
    (hrun : (start gwieeeaddr).runs is = some (b, es)) {v : Nat} (hv : v < MAX_VPS) :
    (∀ es₁ es₂, es = es₁ ++ es₂ →
      es₁.countP (fun e => decide (Replies v e)) ≤ es₁.countP (fun e => decide (Requests v e)) ∧
        es₁.countP (fun e => decide (Requests v e)) ≤ es₁.countP (fun e => decide (Replies v e)) + 1) ∧
    es.countP (fun e => decide (Requests v e)) = es.countP (fun e => decide (Replies v e)) + (b.waiting v).toNat ∧
    b.asked v + (isOpen v b.session_table).toNat + b.answered v = (b.waiting v).toNat ∧
    ∀ m, .stale v m ∉ es := by
  have hport := (turned_runs (inv_start gwieeeaddr) hrun).at_port v hv
  have hcount : ∀ {es₁ : List BridgeEvent} {w : Bool}, run (Ledger.turn (Requests v) (Replies v)) false es₁ = some w →
      es₁.countP (fun e => decide (Requests v e)) = es₁.countP (fun e => decide (Replies v e)) + w.toNat := by
    intro es₁ w h
    rw [← Ledger.turn_count (disjoint_turns v) h]
    exact (Nat.zero_add _).symm
  refine ⟨fun es₁ es₂ he => ?_, hcount hport.turns, hport.underWay, hport.fresh⟩
  have hturns : run (Ledger.turn (Requests v) (Replies v)) false (es₁ ++ es₂) = some (b.waiting v) := he ▸ hport.turns
  rw [run_append] at hturns
  obtain ⟨w, hw, -⟩ := Option.bind_eq_some_iff.mp hturns
  have h := hcount hw
  have hw1 := Bool.toNat_le w
  omega

/-- After a request that waits for its reply. -/
theorem requests_take_turns_join : ∃ b es, (start ⟨List.replicate 8 0, rfl⟩).runs joinInputs = some (b, es) ∧
    es.countP (fun e => decide (Requests 0 e)) = es.countP (fun e => decide (Replies 0 e)) + (b.waiting 0).toNat := by
  obtain ⟨b, es, hrun, -⟩ := joinInputs_runs
  exact ⟨b, es, hrun, (requests_take_turns _ hrun (by decide)).2.1⟩

/-- A client whose request the session manager has taken has its text, or the message for it is under way, once the alarm has gone off
`SESSION_TIMEOUT` times. -/
theorem answered_in_time (gwieeeaddr : Addr ADDRLEN) {is js : List BridgeInput} {b b' : Bridge} {es₀ es : List BridgeEvent}
    (hreach : (start gwieeeaddr).runs is = some (b, es₀)) (hrun : b.runs js = some (b', es)) {v : Nat} (hv : v < MAX_VPS)
    (hwait : b.waiting v = true) (htaken : ∀ p ∈ b.posted, ¬Asks v p) (hlate : SESSION_TIMEOUT ≤ (js.map BridgeInput.alarms).sum) :
    (∃ e ∈ es, Replies v e) ∨ ∃ p ∈ b'.posted, ForClient v p := by
  by_cases hno : ∃ e ∈ es, Replies v e
  · exact .inl hno
  right
  have hb := (turned_runs (inv_start gwieeeaddr) hreach).inv
  have hport := (turned_runs hb hrun).at_port v hv
  have hquiet : ∀ e ∈ es, ¬Replies v e := fun e he hr => hno ⟨e, he, hr⟩
  have hask : b.asked v = 0 := List.countP_eq_zero.mpr fun p hp => by
    rw [decide_eq_true_eq]
    exact htaken p hp
  obtain ⟨hask', hle⟩ := hport.timeout hwait hask hquiet
  have hzero : b'.session_table v = 0 := by
    have := hb.timeout v hv
    omega
  have hunder := hport.underWay
  rw [hport.waits_on hwait hquiet, hask', isOpen_of_eq_zero hzero, Bool.toNat_true, Bool.toNat_false] at hunder
  have hpos : 0 < b'.answered v := by omega
  obtain ⟨p, hp, hf⟩ := List.countP_pos_iff.mp hpos
  exact ⟨p, hp, of_decide_eq_true hf⟩

/-- The client that asked for devices, when no device joins any more. -/
theorem answered_in_time_join : ∃ b es₀ b' es, (start ⟨List.replicate 8 0, rfl⟩).runs joinInputs = some (b, es₀) ∧
    b.runs (List.replicate 15 .alarm) = some (b', es) ∧ ((∃ e ∈ es, Replies 0 e) ∨ ∃ p ∈ b'.posted, ForClient 0 p) := by
  obtain ⟨b, es₀, hrun, hposted, h0, -, -, b', es, halarm⟩ := joinInputs_runs
  exact ⟨b, es₀, b', es, hrun, halarm, answered_in_time _ hrun halarm (by decide) h0 (fun p hp => by rw [hposted] at hp; cases hp)
    (by decide)⟩

/-! ## A conversation -/

/-- The message posted last is delivered. -/
theorem step_deliver_last {l : List Posted} {p : Posted} (h : b.posted = l ++ [p]) :
    b.step (.deliver l.length) = ({ b with posted := l } : Bridge).deliver p := by
  have hget : b.posted[l.length]? = some p := by rw [h, List.getElem?_append_right (Nat.le_refl _), Nat.sub_self]; rfl
  have herase : b.posted.eraseIdx l.length = l := by
    rw [h, List.eraseIdx_append_of_length_le (Nat.le_refl _), Nat.sub_self]
    exact List.append_nil l
  rw [step, hget, Option.bind_some, herase]

/-- One step more. -/
theorem runs_step {i : BridgeInput} {is : List BridgeInput} {r : BridgeResult} (hs : b.step i = some (b', es))
    (hr : b'.runs is = r) : b.runs (i :: is) = r.map fun (b'', es') => (b'', es ++ es') := by
  rw [runs, hs, ← hr]
  rfl

theorem deliver_session {i : Nat} {m : Msg} {t : SessionTable} {events : List SessionEvent} (hm : m.vps ≠ MAX_VPS)
    (h : SessionManagerTask b.session_table ⟨some (i, m), false⟩ = (t, events)) : b.deliver ((SessionManagerTask_id, i), m) =
      some ({ b with session_table := t, posted := b.posted ++ sessionPosts events }, sessionDatagrams events) := by
  have hread : ¬(Option.any (fun p => decide (p.2.vps = MAX_VPS)) (some (i, m))) = true := fun h => hm (of_decide_eq_true h)
  rw [deliver, if_pos rfl, sessionTurn, if_neg hread, h]

theorem deliver_zigBee {i : Nat} {m : Msg} {z : ZigBee} {outs : List ZigBeeOut} (h : ZigBeeTask b.z (i, m) = some (z, outs)) :
    b.deliver ((ZigBeeTask_id, i), m) = some ({ b with z := z, posted := b.posted ++ zigBeePosts outs }, []) := by
  rw [deliver, if_neg (by decide), if_pos rfl, zigBeeTurn, h]
  rfl

theorem deliver_gateway (m : Msg) : b.deliver ((IpStreamSenderTask_id, In1), m) = some (b, [.gateway m]) := rfl

theorem deliver_client {m : Msg} (hv : v < MAX_VPS) (hw : b.waiting v = true) : b.deliver ((IPTask_id v, In1), m) =
    some ({ b with waiting := Function.update b.waiting v false }, [.reply v (IPTaskReply zeroed m)]) := by
  have hne : IPTask_id v ≠ SessionManagerTask_id ∧ IPTask_id v ≠ ZigBeeTask_id ∧ IPTask_id v ≠ IpStreamSenderTask_id ∧
      IPTask_id v - USER_TASKS = v := by
    simp only [MAX_VPS, TOTAL_VPS] at hv
    simp only [IPTask_id, USER_TASKS, SessionManagerTask_id, ZigBeeTask_id, IpStreamSenderTask_id]
    omega
  rw [deliver, if_neg hne.1, if_neg hne.2.1, if_neg hne.2.2.1, hne.2.2.2, ipTask, if_pos hw]

/-- A request that does not start with the keyword opens its session and is passed on as it is. -/
theorem session_plain {t : SessionTable} {m : Msg} {VPS : UInt8} {p : List UInt8} (hc : Carries m VPS p) (hv : VPS.toNat < MAX_VPS)
    (hkw : ¬ascii "0TIME" <+: p) : SessionManagerTask t ⟨some (In1, m), false⟩ =
      (Function.update t VPS.toNat SESSION_TIMEOUT, [.received In1 m, .alarmSet 10, .broadcast Out1 m]) := by
  have hvps : m.vps = VPS.toNat := by rw [Msg.vps, hc.vps]
  have hgt : ¬VPS.toNat > MAX_VPS := Nat.not_lt.mpr (Nat.le_of_lt hv)
  have hcmp : strncmp (m.bytes 2 5) (ascii "0TIME") ≠ 0 := by
    rw [ne_eq, strncmp_eq_zero (by rw [Msg.length_bytes]; rfl) (by decide)]
    exact fun hk => hkw (hc.prefix_of_bytes (by decide) hk)
  have hin1 : sessionIn1 t m = (Function.update t VPS.toNat SESSION_TIMEOUT, [.alarmSet 10, .broadcast Out1 m]) := by
    simp only [sessionIn1, hvps, if_neg hgt, ne_eq, hcmp, not_false_eq_true, if_true]
  simp only [SessionManagerTask, sessionMessage, if_true, hin1, sessionAlarm_false, List.append_nil]

/-- A message from the network. -/
theorem session_network {t : SessionTable} {m : Msg} (hv : m.vps < MAX_VPS) : SessionManagerTask t ⟨some (In2, m), false⟩ =
    if t m.vps = 0 then (t, [.received In2 m, .UDP_broadcast (UDPPORTBASE + m.vps) (udpData m)])
    else (Function.update t m.vps 0, [.received In2 m, .broadcast (m.vps + 2) m]) := by
  have h21 : ¬In2 = In1 := by decide
  simp only [SessionManagerTask, sessionMessage, h21, if_false, if_true, sessionIn2_eq t hv, sessionAlarm_false, List.append_nil]
  split <;> rfl

/-- A line that the session manager passes on as it is, on its way to the gateway as the frame the ZigBee task makes of it. -/
theorem runs_command {VPS : UInt8} {stream p : List UInt8} {closed : Bool} {m f : Msg} {z : ZigBee} (hv : VPS.toNat < MAX_VPS)
    (hidle : b.waiting VPS.toNat = false) (hm : IPTask VPS stream closed = some m) (hc : Carries m VPS p) (hkw : ¬ascii "0TIME" <+: p)
    (hz : ZigBeeTask b.z (In2, m) = some (z, [.broadcast Out2 f])) :
    b.runs [.client VPS stream closed, .deliver b.posted.length, .deliver b.posted.length, .deliver b.posted.length] =
      some ({ b with z := z
                     session_table := Function.update b.session_table VPS.toNat SESSION_TIMEOUT
                     waiting := Function.update b.waiting VPS.toNat true }, [.request VPS.toNat m, .gateway f]) := by
  have hvps : m.vps = VPS.toNat := by rw [Msg.vps, hc.vps]
  have hacc : ¬(b.waiting VPS.toNat = true ∨ MAX_VPS ≤ VPS.toNat) := by
    rw [hidle]
    simp only [Bool.false_eq_true, false_or, Nat.not_le]
    exact hv
  obtain ⟨b₁, hb₁⟩ : ∃ b₁ : Bridge, { b with waiting := Function.update b.waiting VPS.toNat true } = b₁ := ⟨_, rfl⟩
  obtain ⟨b₂, hb₂⟩ : ∃ b₂ : Bridge, { b₁ with session_table := Function.update b.session_table VPS.toNat SESSION_TIMEOUT } = b₂ := ⟨_, rfl⟩
  have hclient : b.step (.client VPS stream closed) =
      some ({ b₁ with posted := b.posted ++ [((SessionManagerTask_id, In1), m)] }, [.request VPS.toNat m]) := by
    simp only [step, if_neg hacc, hm, route_ip_task hv, ← hb₁]
  have hsession : ({ b₁ with posted := b.posted } : Bridge).deliver ((SessionManagerTask_id, In1), m) =
      some ({ b₂ with posted := b.posted ++ [((ZigBeeTask_id, In2), m)] }, []) := by
    rw [deliver_session (hvps ▸ Nat.ne_of_lt hv) (session_plain hc hv hkw), ← hb₂, ← hb₁]
    rfl
  have hzigBee : ({ b₂ with posted := b.posted } : Bridge).deliver ((ZigBeeTask_id, In2), m) =
      some ({ b₂ with z := z, posted := b.posted ++ [((IpStreamSenderTask_id, In1), f)] }, []) := by
    have hb₂z : b₂.z = b.z := by rw [← hb₂, ← hb₁]
    rw [deliver_zigBee (hb₂z ▸ hz)]
    rfl
  rw [runs_step hclient (runs_step ((step_deliver_last rfl).trans hsession)
    (runs_step ((step_deliver_last rfl).trans hzigBee) (runs_step ((step_deliver_last rfl).trans (deliver_gateway f)) rfl))),
    ← hb₂, ← hb₁]
  rfl

/-- A plain request on its way to the gateway. -/
theorem runs_request {VPS : UInt8} {p text : List UInt8} {e : UInt8} (rest : List UInt8) (closed : Bool)
    (hv : 1 ≤ VPS.toNat ∧ VPS.toNat ≤ 5) (hidle : b.waiting VPS.toNat = false) (hused : check_valid_vps b.z.table VPS.toNat = true)
    (hp : 1 ≤ p.length ∧ p.length ≤ 126) (hplain : PlainPayload p) (htext : Spelling text p) (he : EndsLine e) : ∃ req f,
      b.runs [.client VPS (text ++ e :: rest) closed, .deliver b.posted.length, .deliver b.posted.length, .deliver b.posted.length] =
        some ({ b with session_table := Function.update b.session_table VPS.toNat SESSION_TIMEOUT
                       waiting := Function.update b.waiting VPS.toNat true }, [.request VPS.toNat req, .gateway f]) ∧
      f.rd 0 = 0xff ∧ f.payload = requestFrame (vps_vtoa b.z.table VPS.toNat) p := by
  obtain ⟨m, hm, -, hc⟩ := IPTask_spelling VPS rest closed he htext hp.1 hp.2
  have hvps : m.vps = VPS.toNat := by rw [Msg.vps, hc.vps]
  have hmax : VPS.toNat < MAX_VPS := by simp only [MAX_VPS, TOTAL_VPS]; omega
  have hzig := ZigBeeTask_request (z := b.z) hc (by omega) (by simp only [MAXVPS]; omega) (by rwa [hvps]) hp.2 hplain
  obtain ⟨h0, -, hbody⟩ := dataFrame_request b.z.table hc hp.2
  exact ⟨m, _, runs_command hmax hidle hm hc (hplain _ (by simp)) hzig, h0, by rw [hbody, hvps]⟩

/-- What a data frame's bytes are on the line. -/
def dataText (m : Msg) : List UInt8 := hexDigits (m.bytes 22 (m.len - 20))

theorem length_data {m m' : Msg} (h : m'.payload = m.bytes 22 (m.len - 20)) : m'.payload.length = m.len - 20 := by
  rw [h, Msg.length_bytes]

/-- A short message is all of it on the line. -/
theorem IPTaskReply_short {m : Msg} (h : m.len ≤ 127) (output : Mem) : IPTaskReply output m = hexDigits m.payload := by
  rw [IPTaskReply_eq, Msg.length_payload, Nat.mod_eq_of_lt (by omega),
    List.take_of_length_le (by rw [length_hexDigits, Msg.length_payload])]

/-- The client of an open session waits. -/
theorem Inv.waits (hb : b.Inv) (hv : v < MAX_VPS) (hopen : b.session_table v ≠ 0) : b.waiting v = true := by
  have hunder := hb.underWay v hv
  rw [isOpen_of_ne_zero hopen, Bool.toNat_true] at hunder
  cases hw : b.waiting v with
  | true => rfl
  | false =>
    rw [hw, Bool.toNat_false] at hunder
    omega

/-- A frame that the ZigBee task hands up, on its way to the client that waits. -/
theorem runs_answer (hb : b.Inv) {m m' : Msg} {z : ZigBee} (hv : m'.vps < MAX_VPS) (hopen : b.session_table m'.vps ≠ 0)
    (hz : ZigBeeTask b.z (In1, m) = some (z, [.broadcast Out1 m'])) (hlen : m'.len ≤ 127) :
    b.runs [.frame m, .deliver b.posted.length, .deliver b.posted.length, .deliver b.posted.length] =
      some ({ b with z := z
                     session_table := Function.update b.session_table m'.vps 0
                     waiting := Function.update b.waiting m'.vps false }, [.reply m'.vps (hexDigits m'.payload)]) := by
  have hwait := hb.waits hv hopen
  have hframe : b.step (.frame m) = some ({ b with posted := b.posted ++ [((ZigBeeTask_id, In1), m)] }, []) := rfl
  have hzigBee : ({ b with posted := b.posted } : Bridge).deliver ((ZigBeeTask_id, In1), m) =
      some ({ b with z := z, posted := b.posted ++ [((SessionManagerTask_id, In2), m')] }, []) := by
    rw [deliver_zigBee hz]
    rfl
  have hsession : ({ b with z := z, posted := b.posted } : Bridge).deliver ((SessionManagerTask_id, In2), m') =
      some ({ b with z := z, session_table := Function.update b.session_table m'.vps 0
                     posted := b.posted ++ [((IPTask_id m'.vps, In1), m')] }, []) := by
    have he := session_network (t := b.session_table) hv
    rw [if_neg hopen] at he
    rw [deliver_session (b := { b with z := z }) (Nat.ne_of_lt hv) he, ← route_session_port hv]
    rfl
  obtain ⟨b₃, hb₃⟩ : ∃ b₃ : Bridge, { b with z := z, session_table := Function.update b.session_table m'.vps 0 } = b₃ := ⟨_, rfl⟩
  have hclient : b₃.deliver ((IPTask_id m'.vps, In1), m') =
      some ({ b₃ with waiting := Function.update b.waiting m'.vps false }, [.reply m'.vps (hexDigits m'.payload)]) := by
    have hw : b₃.waiting = b.waiting := by rw [← hb₃]
    rw [deliver_client hv (by rw [hw, hwait]), IPTaskReply_short hlen, hw]
  rw [runs_step hframe (runs_step ((step_deliver_last rfl).trans hzigBee) (runs_step ((step_deliver_last rfl).trans hsession)
    (runs_step ((step_deliver_last rfl).trans (hb₃ ▸ hclient)) rfl)))]
  rfl

/-- A data frame on its way to the client that waits. -/
theorem runs_data_open (hb : b.Inv) {m : Msg} (hv : v < MAX_VPS) (hopen : b.session_table v ≠ 0) (hd : Delivered b.z v m)
    (hlen : m.len ≤ 147) : ∃ z, b.runs [.frame m, .deliver b.posted.length, .deliver b.posted.length, .deliver b.posted.length] =
      some ({ b with z := z, session_table := Function.update b.session_table v 0
                     waiting := Function.update b.waiting v false }, [.reply v (dataText m)]) := by
  obtain ⟨z, m', hz, rfl, hpayload⟩ := hd
  have hl := length_data hpayload
  rw [Msg.length_payload] at hl
  have htext : hexDigits m'.payload = dataText m := congrArg hexDigits hpayload
  exact ⟨z, htext ▸ runs_answer hb hv hopen hz (by omega)⟩

/-- A data frame nobody asked for. -/
theorem runs_data_closed {m : Msg} (hv : v < MAX_VPS) (hclosed : b.session_table v = 0) (hd : Delivered b.z v m)
    (hlen : m.len ≤ 105) : ∃ z, b.runs [.frame m, .deliver b.posted.length, .deliver b.posted.length] =
      some ({ b with z := z }, [.datagram (UDPPORTBASE + v) (dataText m)]) := by
  obtain ⟨z, m', hz, rfl, hpayload⟩ := hd
  have htext : udpData m' = dataText m := by
    have hl := length_data hpayload
    rw [udpData_eq, Nat.mod_eq_of_lt (by omega), List.take_of_length_le (by rw [length_hexDigits]), hpayload]
    rfl
  have hframe : b.step (.frame m) = some ({ b with posted := b.posted ++ [((ZigBeeTask_id, In1), m)] }, []) := rfl
  have hzigBee : ({ b with posted := b.posted } : Bridge).deliver ((ZigBeeTask_id, In1), m) =
      some ({ b with z := z, posted := b.posted ++ [((SessionManagerTask_id, In2), m')] }, []) := by
    rw [deliver_zigBee hz]
    rfl
  have hsession : ({ b with z := z, posted := b.posted } : Bridge).deliver ((SessionManagerTask_id, In2), m') =
      some ({ b with z := z }, [.datagram (UDPPORTBASE + m'.vps) (dataText m)]) := by
    have he := session_network (t := b.session_table) hv
    rw [if_pos hclosed] at he
    rw [deliver_session (b := { b with z := z }) (Nat.ne_of_lt hv) he, ← htext]
    have hnil : b.posted ++ sessionPosts [.received In2 m', .UDP_broadcast (UDPPORTBASE + m'.vps) (udpData m')] = b.posted :=
      List.append_nil _
    rw [hnil]
    rfl
  refine ⟨z, ?_⟩
  rw [runs_step hframe (runs_step ((step_deliver_last rfl).trans hzigBee) (runs_step ((step_deliver_last rfl).trans hsession) rfl))]
  rfl

end Bridge

end HomeBridge
