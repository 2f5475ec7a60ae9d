import HomeBridge.Lib.Entries
import HomeBridge.Lib.Ledger
import HomeBridge.Ihaplite.Hex

/-!
# The session manager

`sessionmanager.c`. Every virtual port has a line in `session_table`: a request (`In1`) opens it, a reply (`In2`) or the last of
`SESSION_TIMEOUT` alarms closes it. A reply or a timeout goes to the IP task of its port; a message from the network for a port
with no open session goes out on UDP. One turn of the loop handles the message `receive` returned, if it returned one, then the
alarm, if it has gone off.
-/

namespace HomeBridge

open CMem Runs

/-- The remaining alarms of each virtual port's session; 0 is a closed session. -/
abbrev SessionTable : Type := Nat → Nat

/-- What the task takes in and sends out, in order. -/
inductive SessionEvent where
  | received (InputID : Nat) (m : Msg)
  | alarm
  | alarmSet (time : Nat)
  | broadcast (outport : Nat) (m : Msg)
  | UDP_broadcast (port : Nat) (data : List UInt8)
  | free (m : Msg)

/-- What one turn of the loop finds: the message of `receive` with the input port it came on, and whether the alarm has gone off. -/
structure SessionInput where
  msg : Option (Nat × Msg)
  alarm : Bool

/-- Every message has a VPS byte below `MAX_VPS`. -/
def SessionInput.InRange (i : SessionInput) : Prop := ∀ p m, i.msg = some (p, m) → m.vps < MAX_VPS

/-- `output_port`, an unsigned char. -/
def output_port (VPS : Nat) : Nat := (VPS + 2) % 256

/-- The request behind the keyword `0TIME`: the message starts five bytes on, under a new header. -/
def stripKeyword (m : Msg) : Msg := ((m.adv 5).set 0 (m.rd 0)).set 1 (m.rd 1 - 5)

/-- A request, from an IP task. -/
def sessionIn1 (t : SessionTable) (m : Msg) : SessionTable × List SessionEvent :=
  let VPS := m.vps
  if VPS > MAX_VPS then (t, [.free m])
  else
    let t := Function.update t VPS SESSION_TIMEOUT
    if strncmp (m.bytes 2 5) (ascii "0TIME") ≠ 0 then (t, [.alarmSet 10, .broadcast Out1 m])
    else (t, [.alarmSet 3000, .broadcast Out1 (stripKeyword m)])

/-- The bytes that go out on UDP: what `binary_to_hexbinary` writes, as many as its return value says. `broadcastbuffer` is taken
to be as long as that needs. -/
def udpData (m : Msg) : List UInt8 :=
  let (broadcastbuffer, len) := binary_to_hexbinary zeroed (m.bytes 2 m.len) 0
  bytes broadcastbuffer 0 len.toNat

/-- A message from the network. -/
def sessionIn2 (t : SessionTable) (m : Msg) : SessionTable × List SessionEvent :=
  let VPS := m.vps
  if VPS > MAX_VPS then (t, [.free m])
  else if t VPS ≠ 0 then (Function.update t VPS 0, [.broadcast (output_port VPS) m])
  else (t, [.UDP_broadcast (UDPPORTBASE + VPS) (udpData m)])

/-- The message a session that expires is answered with. -/
def timeoutMessage (i : Nat) : Msg :=
  let m := Msg.wr ⟨zeroed, 0⟩ 2 (ascii "TIMEOUT_SEND")
  (m.set 1 (UInt8.ofNat (m.strlen 2))).set 0 (UInt8.ofNat i)

/-- One entry of the table at an alarm. -/
def sessionExpire (t : SessionTable) (i : Nat) : SessionTable × List SessionEvent :=
  if t i = 0 then (t, [])
  else if t i ≤ 1 then (Function.update t i 0, [.broadcast (output_port i) (timeoutMessage i)])
  else (Function.update t i (t i - 1), [.alarmSet 10])

/-- The message part of a turn. -/
def sessionMessage (t : SessionTable) (msg : Option (Nat × Msg)) : SessionTable × List SessionEvent :=
  match msg with
  | none => (t, [])
  | some (InputID, m) =>
    let r := if InputID = In1 then sessionIn1 t m else if InputID = In2 then sessionIn2 t m else (t, [])
    (r.1, .received InputID m :: r.2)

/-- The alarm part of a turn. -/
def sessionAlarm (t : SessionTable) (alarm : Bool) : SessionTable × List SessionEvent :=
  if alarm then (final sessionExpire t (List.range MAX_VPS), .alarm :: trace sessionExpire t (List.range MAX_VPS)) else (t, [])

theorem sessionAlarm_false (t : SessionTable) : sessionAlarm t false = (t, []) := rfl

theorem sessionAlarm_true (t : SessionTable) : sessionAlarm t true =
    (final sessionExpire t (List.range MAX_VPS), .alarm :: trace sessionExpire t (List.range MAX_VPS)) :=
  if_pos rfl

/-- One turn of the loop of `SessionManagerTask`. -/
def SessionManagerTask (t : SessionTable) (i : SessionInput) : SessionTable × List SessionEvent :=
  let r := sessionMessage t i.msg
  let s := sessionAlarm r.1 i.alarm
  (s.1, r.2 ++ s.2)

/-- Every session closed. -/
def noSession : SessionTable := fun _ => 0

/-! ## The events of one virtual port -/

/-- A request on `v`. -/
def Opens (v : Nat) : SessionEvent → Prop
  | .received InputID m => InputID = In1 ∧ m.vps = v
  | _ => False

/-- A message on the output port of `v`. -/
def Answers (v : Nat) : SessionEvent → Prop
  | .broadcast outport _ => outport = v + 2
  | _ => False

instance (v : Nat) : DecidablePred (Opens v) := fun e => by cases e <;> unfold Opens <;> infer_instance

instance (v : Nat) : DecidablePred (Answers v) := fun e => by cases e <;> unfold Answers <;> infer_instance

/-- Whether the session of `v` is open, read off the table. -/
def isOpen (v : Nat) (t : SessionTable) : Bool := decide (t v ≠ 0)

theorem isOpen_of_ne_zero {v : Nat} {t : SessionTable} (h : t v ≠ 0) : isOpen v t = true := decide_eq_true h

theorem isOpen_of_eq_zero {v : Nat} {t : SessionTable} (h : t v = 0) : isOpen v t = false := decide_eq_false (not_not_intro h)

theorem output_port_of_le {VPS : Nat} (h : VPS ≤ MAX_VPS) : output_port VPS = VPS + 2 :=
  Nat.mod_eq_of_lt (by simp only [MAX_VPS, TOTAL_VPS] at h; omega)

theorem output_port_eq {VPS : Nat} (h : VPS < MAX_VPS) : output_port VPS = VPS + 2 := output_port_of_le (Nat.le_of_lt h)

@[simp] theorem isOpen_update_self (t : SessionTable) (v n : Nat) : isOpen v (Function.update t v n) = decide (n ≠ 0) := by
  simp [isOpen]

theorem isOpen_update_of_ne {t : SessionTable} {v w n : Nat} (h : v ≠ w) : isOpen v (Function.update t w n) = isOpen v t := by
  simp [isOpen, h]

@[simp] theorem vps_timeoutMessage {i : Nat} (h : i < MAX_VPS) : (timeoutMessage i).vps = i := by
  simp only [MAX_VPS, TOTAL_VPS] at h
  simp only [timeoutMessage, Msg.vps, Msg.rd_set, if_true, UInt8.toNat_ofNat']
  omega

/-! ## One lemma for each part of a turn -/

/-- A request opens its session, sets the alarm and is passed on. -/
theorem sessionIn1_eq (t : SessionTable) {m : Msg} (hm : m.vps < MAX_VPS) : ∃ time m',
    sessionIn1 t m = (Function.update t m.vps SESSION_TIMEOUT, [.alarmSet time, .broadcast Out1 m']) := by
  have hgt : ¬m.vps > MAX_VPS := by omega
  unfold sessionIn1
  simp only [hgt, if_false]
  split
  · exact ⟨10, m, rfl⟩
  · exact ⟨3000, stripKeyword m, rfl⟩

/-- A message from the network goes where the table says. -/
theorem sessionIn2_eq (t : SessionTable) {m : Msg} (hm : m.vps < MAX_VPS) : sessionIn2 t m =
    if t m.vps = 0 then (t, [.UDP_broadcast (UDPPORTBASE + m.vps) (udpData m)])
    else (Function.update t m.vps 0, [.broadcast (m.vps + 2) m]) := by
  have hgt : ¬m.vps > MAX_VPS := by omega
  simp only [sessionIn2, hgt, if_false, ne_eq, ite_not, output_port_eq hm]

/-- What comes of the message part of a turn: nothing was received, the message is refused, a request opens its session, a message
from the network answers a session or finds it closed, or the input port is another one. -/
inductive MessageOutcome (t : SessionTable) : Option (Nat × Msg) → Prop
  | idle (he : sessionMessage t none = (t, [])) : MessageOutcome t none
  | refused {InputID : Nat} {m : Msg} (hin : InputID = In1 ∨ InputID = In2) (hgt : m.vps > MAX_VPS)
      (he : sessionMessage t (some (InputID, m)) = (t, [.received InputID m, .free m])) : MessageOutcome t (some (InputID, m))
  | opened {m m' : Msg} {time : Nat} (hle : m.vps ≤ MAX_VPS)
      (hm : strncmp (m.bytes 2 5) (ascii "0TIME") ≠ 0 ∧ time = 10 ∧ m' = m ∨
        strncmp (m.bytes 2 5) (ascii "0TIME") = 0 ∧ time = 3000 ∧ m' = stripKeyword m)
      (he : sessionMessage t (some (In1, m)) =
        (Function.update t m.vps SESSION_TIMEOUT, [.received In1 m, .alarmSet time, .broadcast Out1 m'])) :
      MessageOutcome t (some (In1, m))
  | answered {m : Msg} (hle : m.vps ≤ MAX_VPS) (h0 : t m.vps ≠ 0)
      (he : sessionMessage t (some (In2, m)) = (Function.update t m.vps 0, [.received In2 m, .broadcast (m.vps + 2) m])) :
      MessageOutcome t (some (In2, m))
  | closed {m : Msg} (hle : m.vps ≤ MAX_VPS) (h0 : t m.vps = 0)
      (he : sessionMessage t (some (In2, m)) =
        (t, [.received In2 m, .UDP_broadcast (UDPPORTBASE + m.vps) (udpData m)])) : MessageOutcome t (some (In2, m))
  | other {InputID : Nat} {m : Msg} (h1 : InputID ≠ In1) (h2 : InputID ≠ In2)
      (he : sessionMessage t (some (InputID, m)) = (t, [.received InputID m])) : MessageOutcome t (some (InputID, m))

theorem sessionMessage_outcome (t : SessionTable) (msg : Option (Nat × Msg)) : MessageOutcome t msg := by
  cases msg with
  | none => exact .idle rfl
  | some p =>
    obtain ⟨InputID, m⟩ := p
    by_cases h1 : InputID = In1
    · subst h1
      by_cases hgt : m.vps > MAX_VPS
      · exact .refused (.inl rfl) hgt (by simp only [sessionMessage, if_true, sessionIn1, if_pos hgt])
      by_cases hk : strncmp (m.bytes 2 5) (ascii "0TIME") = 0
      · exact .opened (Nat.not_lt.mp hgt) (.inr ⟨hk, rfl, rfl⟩)
          (by simp only [sessionMessage, if_true, sessionIn1, if_neg hgt, if_neg (not_not_intro hk)])
      · exact .opened (Nat.not_lt.mp hgt) (.inl ⟨hk, rfl, rfl⟩)
          (by simp only [sessionMessage, if_true, sessionIn1, if_neg hgt, if_pos hk])
    by_cases h2 : InputID = In2
    · subst h2
      by_cases hgt : m.vps > MAX_VPS
      · exact .refused (.inr rfl) hgt (by simp only [sessionMessage, if_neg h1, if_true, sessionIn2, if_pos hgt])
      by_cases h0 : t m.vps = 0
      · exact .closed (Nat.not_lt.mp hgt) h0
          (by simp only [sessionMessage, if_neg h1, if_true, sessionIn2, if_neg hgt, if_neg (not_not_intro h0)])
      · exact .answered (Nat.not_lt.mp hgt) h0 (by
          simp only [sessionMessage, if_neg h1, if_true, sessionIn2, if_neg hgt, if_pos h0, output_port_of_le (Nat.not_lt.mp hgt)])
    · exact .other h1 h2 (by simp only [sessionMessage, if_neg h1, if_neg h2])

/-- What an entry sends at an alarm: nothing, its timeout, or the request for another alarm. -/
theorem mem_sessionExpire {t : SessionTable} {i : Nat} (hi : i < MAX_VPS) {e : SessionEvent} (h : e ∈ (sessionExpire t i).2) :
    e = .broadcast (i + 2) (timeoutMessage i) ∨ e = .alarmSet 10 := by
  unfold sessionExpire at h
  split at h
  · cases h
  · split at h
    · exact .inl (by rw [List.mem_singleton.mp h, output_port_eq hi])
    · exact .inr (List.mem_singleton.mp h)

/-- An entry changes no other entry at an alarm. -/
theorem sessionExpire_of_ne {t : SessionTable} {v w : Nat} (h : v ≠ w) : (sessionExpire t w).1 v = t v := by
  unfold sessionExpire
  split
  · rfl
  · split
    · exact Function.update_of_ne h ..
    · exact Function.update_of_ne h ..

/-- Entries the loop does not come to stay as they are. -/
theorem final_sessionExpire_of_not_mem {v : Nat} {vs : List Nat} {t : SessionTable} (h : v ∉ vs) :
    final sessionExpire t vs v = t v := by
  rw [final_eq_foldl]
  exact Entries.foldl_of_not_mem (r := fun t : SessionTable => t v) (fun _ _ hne => sessionExpire_of_ne (Ne.symm hne)) h

/-- What an alarm sends. -/
theorem mem_sessionAlarm {t : SessionTable} {alarm : Bool} {e : SessionEvent} (h : e ∈ (sessionAlarm t alarm).2) :
    e = .alarm ∨ e = .alarmSet 10 ∨ ∃ i < MAX_VPS, e = .broadcast (i + 2) (timeoutMessage i) := by
  cases alarm with
  | false => cases h
  | true =>
    rcases List.mem_cons.mp h with h | h
    · exact .inl h
    · obtain ⟨i, hi, t', h⟩ := exists_step_of_mem_trace h
      have hi : i < MAX_VPS := List.mem_range.mp hi
      rcases mem_sessionExpire hi h with h | h
      · exact .inr (.inr ⟨i, hi, h⟩)
      · exact .inr (.inl h)

/-! ## A turn of the loop, as the ledger of one virtual port sees it -/

section ledger

variable {v : Nat}

/-- An event that is neither a request on `v` nor a message on its output port. -/
theorem ledger_other {s : Bool} {e : SessionEvent} (ho : ¬Opens v e) (ha : ¬Answers v e) :
    run (Ledger.step (Opens v) (Answers v)) s [e] = some s := by
  rw [run_cons, Ledger.step_other ho ha]
  rfl

/-- A message on the output port of an open session closes it. -/
theorem ledger_answer {m : Msg} : run (Ledger.step (Opens v) (Answers v)) true [.broadcast (v + 2) m] = some false := by
  have ho : ¬Opens v (.broadcast (v + 2) m) := id
  have ha : Answers v (.broadcast (v + 2) m) := rfl
  rw [run_cons, Ledger.step_answers ho ha]
  rfl

/-- The entry of `v` expires with an answer; the other entries are nothing to it. -/
theorem ledger_expire (t : SessionTable) (i : Nat) (hi : i < MAX_VPS) :
    run (Ledger.step (Opens v) (Answers v)) (isOpen v t) (sessionExpire t i).2 = some (isOpen v (sessionExpire t i).1) := by
  unfold sessionExpire
  by_cases h0 : t i = 0
  · rw [if_pos h0]
    rfl
  rw [if_neg h0]
  by_cases h1 : t i ≤ 1
  · rw [if_pos h1, output_port_eq hi]
    by_cases hv : v = i
    · subst hv
      rw [isOpen_update_self, isOpen_of_ne_zero h0]
      exact ledger_answer
    · rw [isOpen_update_of_ne hv]
      exact ledger_other id fun ha => hv (Nat.add_right_cancel ha).symm
  · rw [if_neg h1]
    have hopen : isOpen v (Function.update t i (t i - 1)) = isOpen v t := by
      by_cases hv : v = i
      · subst hv
        rw [isOpen_update_self, isOpen, decide_eq_decide]
        omega
      · exact isOpen_update_of_ne hv
    rw [hopen]
    exact ledger_other id id

theorem ledger_alarm (t : SessionTable) (alarm : Bool) :
    run (Ledger.step (Opens v) (Answers v)) (isOpen v t) (sessionAlarm t alarm).2 = some (isOpen v (sessionAlarm t alarm).1) := by
  cases alarm with
  | false => rfl
  | true =>
    have hopens : ¬Opens v .alarm := id
    rw [sessionAlarm_true, ← List.singleton_append, run_append, ledger_other hopens id, Option.bind_some]
    have hrun := run_trace (f := sessionExpire) (C := (· < MAX_VPS)) (s := t) (@ledger_expire v) fun _ hi => List.mem_range.mp hi
    exact hrun

/-- A request on `v` opens it; one on another port is nothing to it. -/
theorem ledger_in1 (t : SessionTable) {m : Msg} (hm : m.vps < MAX_VPS) :
    run (Ledger.step (Opens v) (Answers v)) (isOpen v t) (.received In1 m :: (sessionIn1 t m).2) =
      some (isOpen v (sessionIn1 t m).1) := by
  have hrest : ∀ (s : Bool) time m', run (Ledger.step (Opens v) (Answers v)) s [.alarmSet time, .broadcast Out1 m'] = some s := by
    intro s time m'
    have hout : ¬Answers v (.broadcast Out1 m') := by
      unfold Answers Out1
      omega
    have hopens : ¬Opens v (.alarmSet time) := id
    rw [← List.singleton_append, run_append, ledger_other hopens id, Option.bind_some]
    exact ledger_other id hout
  obtain ⟨time, m', he⟩ := sessionIn1_eq t hm
  rw [he, run_cons]
  by_cases hv : m.vps = v
  · have ho : Opens v (.received In1 m) := ⟨rfl, hv⟩
    rw [Ledger.step_opens ho, Option.bind_some, hrest, ← hv, isOpen_update_self]
    rfl
  · rw [Ledger.step_other (fun ho => hv ho.2) id, Option.bind_some, hrest, isOpen_update_of_ne (Ne.symm hv)]

/-- A message from the network answers an open session on `v` and closes it; with the session closed it is none of its events. -/
theorem ledger_in2 (t : SessionTable) {m : Msg} (hm : m.vps < MAX_VPS) :
    run (Ledger.step (Opens v) (Answers v)) (isOpen v t) (.received In2 m :: (sessionIn2 t m).2) =
      some (isOpen v (sessionIn2 t m).1) := by
  have hrec : ¬Opens v (.received In2 m) := fun ho => absurd ho.1 (by decide)
  rw [run_cons, Ledger.step_other hrec id, Option.bind_some, sessionIn2_eq t hm]
  by_cases h0 : t m.vps = 0
  · rw [if_pos h0]
    exact ledger_other id id
  · rw [if_neg h0]
    by_cases hv : m.vps = v
    · subst hv
      rw [isOpen_update_self, isOpen_of_ne_zero h0]
      exact ledger_answer
    · rw [isOpen_update_of_ne (Ne.symm hv)]
      exact ledger_other id fun ha => hv (Nat.add_right_cancel ha)

/-- A turn of the loop keeps the ledger of every virtual port. -/
theorem ledger_turn (t : SessionTable) (i : SessionInput) (hi : i.InRange) :
    run (Ledger.step (Opens v) (Answers v)) (isOpen v t) (SessionManagerTask t i).2 =
      some (isOpen v (SessionManagerTask t i).1) := by
  unfold SessionManagerTask
  have hmsg : run (Ledger.step (Opens v) (Answers v)) (isOpen v t) (sessionMessage t i.msg).2 =
      some (isOpen v (sessionMessage t i.msg).1) := by
    unfold sessionMessage
    cases hm : i.msg with
    | none => rfl
    | some p =>
      obtain ⟨InputID, m⟩ := p
      have hvps := hi InputID m hm
      by_cases h1 : InputID = In1
      · subst h1
        exact ledger_in1 t hvps
      · by_cases h2 : InputID = In2
        · subst h2
          exact ledger_in2 t hvps
        · simp only [h1, h2, if_false]
          exact ledger_other (fun ho => h1 ho.1) id
  rw [run_append, hmsg, Option.bind_some]
  exact ledger_alarm _ _

end ledger

/-! ## What goes out, and where -/

/-- A message on an output port from 2 on carries the VPS byte of that port. -/
theorem vps_of_broadcast {t : SessionTable} {i : SessionInput} {p : Nat} {m : Msg}
    (h : .broadcast p m ∈ (SessionManagerTask t i).2) (hp : 2 ≤ p) : m.vps + 2 = p := by
  rcases List.mem_append.mp h with h | h
  · have hout := sessionMessage_outcome t i.msg
    generalize i.msg = msg at h hout
    cases hout with
    | opened _ _ he =>
      rw [he] at h
      simp only [List.mem_cons, SessionEvent.broadcast.injEq, Out1, List.not_mem_nil, reduceCtorEq, false_or, or_false] at h
      omega
    | answered _ _ he =>
      rw [he] at h
      simp only [List.mem_cons, SessionEvent.broadcast.injEq, List.not_mem_nil, reduceCtorEq, false_or, or_false] at h
      rw [h.1, h.2]
    | idle he | refused _ _ he | closed _ _ he | other _ _ he =>
      rw [he] at h
      simp at h
  · rcases mem_sessionAlarm h with h | h | ⟨j, hj, h⟩
    · cases h
    · cases h
    · simp only [SessionEvent.broadcast.injEq] at h
      rw [h.1, h.2, vps_timeoutMessage hj]

/-- An alarm answers no closed session. -/
theorem not_answered_of_closed {t : SessionTable} {v : Nat} (hv : t v = 0) (alarm : Bool) (m : Msg) :
    .broadcast (v + 2) m ∉ (sessionAlarm t alarm).2 := by
  intro h
  obtain ⟨l₁, l₂, he⟩ := List.append_of_mem h
  have hl := ledger_alarm (v := v) t alarm
  rw [he, isOpen_of_eq_zero hv] at hl
  obtain ⟨e, hel, ho⟩ := Ledger.opening_before hl id rfl
  have hmem : e ∈ (sessionAlarm t alarm).2 := he ▸ List.mem_append_left _ hel
  rcases mem_sessionAlarm hmem with rfl | rfl | ⟨i, _, rfl⟩ <;> exact ho

/-- A message from the network for a closed session goes out on UDP, and the turn sends nothing on the session's port. -/
theorem in2_closed {t : SessionTable} {m : Msg} (hm : m.vps < MAX_VPS) (h0 : t m.vps = 0) (alarm : Bool) :
    ∃ rest, (SessionManagerTask t ⟨some (In2, m), alarm⟩).2 =
      .received In2 m :: .UDP_broadcast (UDPPORTBASE + m.vps) (udpData m) :: rest ∧
      ∀ m', .broadcast (m.vps + 2) m' ∉ rest := by
  refine ⟨(sessionAlarm t alarm).2, ?_, not_answered_of_closed h0 alarm⟩
  have he := sessionIn2_eq t hm
  rw [if_pos h0] at he
  have h21 : ¬In2 = In1 := by decide
  simp only [SessionManagerTask, sessionMessage, h21, if_false, if_true, he]
  rfl

/-! ## Every run -/

/-- In every run from the empty table and for every virtual port `v`: a message on the output port of `v` has a request on `v`
before it, and between two of them there is another request; a message from the network for `v` with no open session goes out on
UDP and not to that port; and what goes there carries the VPS byte `v` and is routed to the IP task of `v`. -/
theorem sessions_answered (is : List SessionInput) (hvps : ∀ i ∈ is, i.InRange) {v : Nat} (hv : v < MAX_VPS) :
    (∀ l₁ m l₂, trace SessionManagerTask noSession is = l₁ ++ .broadcast (v + 2) m :: l₂ →
      ∃ m', .received In1 m' ∈ l₁ ∧ m'.vps = v) ∧
    (∀ l₁ m l₂ m' l₃, trace SessionManagerTask noSession is = l₁ ++ .broadcast (v + 2) m :: (l₂ ++ .broadcast (v + 2) m' :: l₃) →
      ∃ m'', .received In1 m'' ∈ l₂ ∧ m''.vps = v) ∧
    (∀ pre m alarm post, is = pre ++ ⟨some (In2, m), alarm⟩ :: post → m.vps = v →
      final SessionManagerTask noSession pre v = 0 →
      ∃ rest, (SessionManagerTask (final SessionManagerTask noSession pre) ⟨some (In2, m), alarm⟩).2 =
        .received In2 m :: .UDP_broadcast (UDPPORTBASE + v) (udpData m) :: rest ∧ ∀ m', .broadcast (v + 2) m' ∉ rest) ∧
    (∀ m, .broadcast (v + 2) m ∈ trace SessionManagerTask noSession is →
      m.vps = v ∧ route SessionManagerTask_id (v + 2) = (IPTask_id v, In1) ∧
        ∀ u, (route SessionManagerTask_id (v + 2)).1 = IPTask_id u → u = v) := by
  have hl : run (Ledger.step (Opens v) (Answers v)) (isOpen v noSession) (trace SessionManagerTask noSession is) =
      some (isOpen v (final SessionManagerTask noSession is)) := run_trace ledger_turn hvps
  have hrequest : ∀ {l : List SessionEvent}, (∃ e ∈ l, Opens v e) → ∃ m', .received In1 m' ∈ l ∧ m'.vps = v := by
    rintro l ⟨e, he, ho⟩
    cases e with
    | received InputID m' =>
      obtain ⟨rfl, hm'⟩ := ho
      exact ⟨m', he, hm'⟩
    | _ => exact ho.elim
  refine ⟨fun l₁ m l₂ he => ?_, fun l₁ m l₂ m' l₃ he => ?_, fun pre m alarm post he hm h0 => ?_, fun m hm => ?_⟩
  · rw [he] at hl
    exact hrequest (Ledger.opening_before hl id rfl)
  · rw [he] at hl
    exact hrequest (Ledger.opening_between hl id rfl id rfl)
  · subst hm
    exact in2_closed hv h0 alarm
  · obtain ⟨i, _, t, hmem⟩ := exists_step_of_mem_trace hm
    have hr := route_session_port hv
    refine ⟨Nat.add_right_cancel (vps_of_broadcast hmem (Nat.le_add_left 2 v)), hr, fun u hu => ?_⟩
    rw [hr] at hu
    exact (Nat.add_right_cancel hu).symm

/-- A request on port 1, its reply, and a second reply that finds the session closed. -/
def requestAndTwoReplies : List SessionInput :=
  let m : Msg := ⟨Function.update zeroed 0 1, 0⟩
  [⟨some (In1, m), false⟩, ⟨some (In2, m), true⟩, ⟨some (In2, m), false⟩]

/-- Only one of the two replies can go to the IP task. -/
theorem sessions_answered_requestAndTwoReplies :
    (∀ i ∈ requestAndTwoReplies, i.InRange) ∧ 1 < MAX_VPS ∧
      ∀ l₁ m l₂ m' l₃, trace SessionManagerTask noSession requestAndTwoReplies =
        l₁ ++ .broadcast (1 + 2) m :: (l₂ ++ .broadcast (1 + 2) m' :: l₃) → ∃ m'', .received In1 m'' ∈ l₂ ∧ m''.vps = 1 := by
  have hr : ∀ i ∈ requestAndTwoReplies, i.InRange := by
    intro i hi p m hm
    simp only [requestAndTwoReplies, List.mem_cons, List.not_mem_nil, or_false] at hi
    rcases hi with rfl | rfl | rfl <;> cases hm <;> decide
  exact ⟨hr, by decide, (sessions_answered requestAndTwoReplies hr (by decide)).2.1⟩

end HomeBridge
