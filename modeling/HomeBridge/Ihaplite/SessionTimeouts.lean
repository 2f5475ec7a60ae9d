import HomeBridge.Ihaplite.SessionManager
import HomeBridge.Ihaplite.TimeManager

/-!
# How long a session stays open

The session manager counts its sessions down at its alarm, and there is one alarm for all of them: each request sets the countdown
anew, to 10 ticks or, for the keyword `0TIME`, to 3000, whatever was left of it for the other sessions. A run here is a sequence of
ticks and turns of the session manager in which each alarm is handled before the next tick.
-/

namespace HomeBridge

open CMem Runs

/-! ## Ticks and alarms -/

section tick

variable {a : Alarms} {T : Nat}

theorem tickEntry_of_ne {i : Nat} (h : T ≠ i) : (tickEntry a i).AlarmCountdown T = a.AlarmCountdown T ∧
    (tickEntry a i).AlarmSignal T = a.AlarmSignal T := by
  unfold tickEntry
  split
  · exact ⟨rfl, rfl⟩
  · split
    · exact ⟨Function.update_of_ne h .., Function.update_of_ne h ..⟩
    · exact ⟨Function.update_of_ne h .., rfl⟩

theorem tickEntry_self : (tickEntry a T).AlarmCountdown T = a.AlarmCountdown T - 1 ∧
    (tickEntry a T).AlarmSignal T = (a.AlarmSignal T || decide (a.AlarmCountdown T = 1)) := by
  unfold tickEntry
  split
  · rename_i h0
    exact ⟨by rw [h0], by simp [h0]⟩
  · split
    · rename_i h0 h1
      have h1 : a.AlarmCountdown T = 1 := Nat.le_antisymm h1 (Nat.pos_of_ne_zero h0)
      exact ⟨by simp [h1], by simp [h1]⟩
    · rename_i h0 h1
      exact ⟨Function.update_self .., by simp [Nat.ne_of_gt (Nat.lt_of_not_le h1)]⟩

/-- What a tick does to the countdown and the signal of one task. -/
theorem tick_entry (hT : T < MAX_TASKS) : (tick a).AlarmCountdown T = a.AlarmCountdown T - 1 ∧
    (tick a).AlarmSignal T = (a.AlarmSignal T || decide (a.AlarmCountdown T = 1)) := by
  have h := Entries.foldl_of_mem (f := tickEntry) (s := a) (r := fun a => (a.AlarmCountdown T, a.AlarmSignal T))
    (g := fun p => (p.1 - 1, p.2 || decide (p.1 = 1))) (fun _ => Prod.ext tickEntry_self.1 tickEntry_self.2)
    (fun _ _ hne => Prod.ext (tickEntry_of_ne (Ne.symm hne)).1 (tickEntry_of_ne (Ne.symm hne)).2) List.nodup_range
    (List.mem_range.mpr hT)
  rw [Prod.mk.injEq] at h
  unfold tick
  exact h

end tick

/-! ## One entry at an alarm -/

section alarm

variable {t t' : SessionTable} {v : Nat}

theorem sessionExpire_self : (sessionExpire t v).1 v = t v - 1 := by
  unfold sessionExpire
  split
  · rename_i h0
    exact h0.trans (by rw [h0])
  · split
    · rename_i h1
      exact (Function.update_self ..).trans (Nat.sub_eq_zero_of_le h1).symm
    · exact Function.update_self ..

/-- What an entry sends depends on it alone. -/
theorem sessionExpire_congr (h : t v = t' v) : (sessionExpire t v).2 = (sessionExpire t' v).2 := by
  unfold sessionExpire
  rw [h]
  split
  · rfl
  · split <;> rfl

/-- An alarm counts every session down by one. -/
theorem sessionAlarm_entry (hv : v < MAX_VPS) : (sessionAlarm t true).1 v = t v - 1 := by
  rw [sessionAlarm_true, final_eq_foldl]
  exact Entries.foldl_of_mem (r := fun t : SessionTable => t v) (g := fun n => n - 1) (fun _ => sessionExpire_self)
    (fun _ _ hne => sessionExpire_of_ne (Ne.symm hne)) List.nodup_range (List.mem_range.mpr hv)

/-- What an entry has to send at an alarm, the alarm sends. -/
theorem mem_sessionAlarm_of_mem {e : SessionEvent} (hv : v < MAX_VPS) (h : e ∈ (sessionExpire t v).2) : e ∈ (sessionAlarm t true).2 :=
  List.mem_cons_of_mem _ (Entries.mem_trace_of_mem (r := fun t : SessionTable => t v) (fun _ _ => sessionExpire_congr)
    (fun _ _ hne => sessionExpire_of_ne (Ne.symm hne)) (List.mem_range.mpr hv) h)

end alarm

/-! ## Ticks and turns -/

/-- The session manager's table, the arrays of the alarms, and for how many ticks each session has been open. -/
structure TimedSessions where
  session_table : SessionTable
  alarms : Alarms
  age : Nat → Nat

/-- What happens next: a tick, or a turn of the session manager with the message that `receive` returned, if it returned one. -/
inductive TimedAct where
  | tick
  | turn (msg : Option (Nat × Msg))

/-- What an event of a turn does to the alarms. -/
def applyEvent (a : Alarms) : SessionEvent → Alarms
  | .alarmSet time => alarmSet a SessionManagerTask_id time
  | .alarm => (alarmTestAndReset a SessionManagerTask_id).2
  | _ => a

/-- A request opens its session anew. -/
def ageAfter (age : Nat → Nat) : Option (Nat × Msg) → Nat → Nat
  | some (InputID, m) => if InputID = In1 then Function.update age m.vps 0 else age
  | none => age

namespace TimedSessions

/-- No session is open and no alarm is set. -/
def start : TimedSessions := ⟨noSession, .cleared, fun _ => 0⟩

/-- The session manager's alarm has gone off, and has not been handled. -/
def alarmed (s : TimedSessions) : Bool := s.alarms.AlarmSignal SessionManagerTask_id

/-- The session manager's countdown. -/
def countdown (s : TimedSessions) : Nat := s.alarms.AlarmCountdown SessionManagerTask_id

/-- One step. A tick waits for an alarm to be handled; a message for port `MAX_VPS`, which has no entry, has no defined result. -/
def step (s : TimedSessions) : TimedAct → Option TimedSessions
  | .tick => if s.alarmed then none else some { s with alarms := HomeBridge.tick s.alarms, age := fun v => s.age v + 1 }
  | .turn msg =>
    if ∃ p ∈ msg, p.2.vps = MAX_VPS then none
    else
      let r := SessionManagerTask s.session_table ⟨msg, s.alarmed⟩
      some ⟨r.1, r.2.foldl applyEvent s.alarms, ageAfter s.age msg⟩

/-- How long a session may stay open: `SESSION_TIMEOUT` periods of ten ticks, and one more. -/
@[simp] def LIMIT : Nat := SESSION_TIMEOUT * 10 + 10

/-- No session has been open for longer. -/
def InTime (s : TimedSessions) : Prop := ∀ v < MAX_VPS, s.session_table v ≠ 0 → s.age v ≤ LIMIT

/-- A request that finds no alarm to be handled starts the countdown anew. It is not one that asks for 3000 ticks, and every other session
that is open can still expire in time if its next alarm comes ten ticks from now. -/
def KeepsTime (s : TimedSessions) : TimedAct → Prop
  | .turn (some (InputID, m)) => InputID = In1 → m.vps < MAX_VPS → s.alarmed = false →
      strncmp (m.bytes 2 5) (ascii "0TIME") ≠ 0 ∧
        ∀ v < MAX_VPS, v ≠ m.vps → s.session_table v ≠ 0 → s.age v + 10 * s.session_table v ≤ LIMIT
  | _ => True

instance (s : TimedSessions) : ∀ a, Decidable (s.KeepsTime a)
  | .tick | .turn none => isTrue trivial
  | .turn (some (InputID, _)) => inferInstanceAs (Decidable (InputID = In1 → _))

/-- An open session expires in time if nothing else is received: when its entry comes to 1, the alarm after that closes it. -/
structure Due (s : TimedSessions) (v : Nat) : Prop where
  running : s.alarmed = false → 1 ≤ s.countdown ∧ s.age v + s.countdown + 10 * s.session_table v ≤ LIMIT + 10
  ringing : s.alarmed = true → s.age v + 10 * s.session_table v ≤ LIMIT + 10

/-- Every open session does. -/
def Inv (s : TimedSessions) : Prop := ∀ v < MAX_VPS, s.session_table v ≠ 0 → s.Due v

/-! ## The parts of a turn -/

section turn

variable {t : SessionTable} {msg : Option (Nat × Msg)}

/-- The message part: a request that is let through opens its session and sets the alarm, and nothing else sets an alarm or opens a
session. -/
theorem message_cases (hlimit : ¬∃ p ∈ msg, p.2.vps = MAX_VPS) :
    (∃ m time, msg = some (In1, m) ∧ m.vps < MAX_VPS ∧ (strncmp (m.bytes 2 5) (ascii "0TIME") ≠ 0 → time = 10) ∧
      (sessionMessage t msg).1 = Function.update t m.vps SESSION_TIMEOUT ∧
      ∀ a, (sessionMessage t msg).2.foldl applyEvent a = alarmSet a SessionManagerTask_id time) ∨
    (∀ v, (sessionMessage t msg).1 v = t v ∨ (sessionMessage t msg).1 v = 0) ∧
      (∀ a, (sessionMessage t msg).2.foldl applyEvent a = a) ∧ ∀ age, ∀ v < MAX_VPS, ageAfter age msg v = age v := by
  have hin2 : ∀ {m}, ∀ age, ∀ v < MAX_VPS, ageAfter age (some (In2, m)) v = age v := fun age v _ => by
    rw [ageAfter, if_neg (by decide)]
  cases sessionMessage_outcome t msg with
  | idle he =>
    rw [he]
    exact .inr ⟨fun v => .inl rfl, fun a => rfl, fun age v _ => rfl⟩
  | @refused InputID m hin hgt he =>
    rw [he]
    refine .inr ⟨fun v => .inl rfl, fun a => rfl, fun age v hv => ?_⟩
    rcases hin with rfl | rfl
    · exact Function.update_of_ne (Nat.ne_of_lt (Nat.lt_trans hv hgt)) ..
    · exact hin2 age v hv
  | @opened m m' time hle hm he =>
    have hlt : m.vps < MAX_VPS := Nat.lt_of_le_of_ne hle fun heq => hlimit ⟨_, rfl, heq⟩
    rw [he]
    refine .inl ⟨m, time, rfl, hlt, fun hk => ?_, rfl, fun a => rfl⟩
    rcases hm with ⟨_, h10, _⟩ | ⟨h0, _⟩
    · exact h10
    · exact absurd h0 hk
  | @answered m _ _ he =>
    rw [he]
    refine .inr ⟨fun v => ?_, fun a => rfl, hin2⟩
    by_cases hv : v = m.vps
    · subst hv
      exact .inr (Function.update_self ..)
    · exact .inl (Function.update_of_ne hv ..)
  | closed _ _ he =>
    rw [he]
    exact .inr ⟨fun v => .inl rfl, fun a => rfl, hin2⟩
  | other h1 _ he =>
    rw [he]
    exact .inr ⟨fun v => .inl rfl, fun a => rfl, fun age v _ => by rw [ageAfter, if_neg h1]⟩

/-- Events that set the alarm set it to ten ticks: it is left alone or runs for ten ticks. -/
theorem applyEvents_ten : ∀ {es : List SessionEvent} {a : Alarms}, (∀ e ∈ es, (∃ p m, e = .broadcast p m) ∨ e = .alarmSet 10) →
    (es.foldl applyEvent a).AlarmSignal = a.AlarmSignal ∧ ((es.foldl applyEvent a).AlarmCountdown SessionManagerTask_id = 10 ∨
      .alarmSet 10 ∉ es ∧ (es.foldl applyEvent a).AlarmCountdown = a.AlarmCountdown) := by
  intro es
  induction es with
  | nil =>
    intro a _
    exact ⟨rfl, .inr ⟨nofun, rfl⟩⟩
  | cons e es ih =>
    intro a h
    obtain ⟨hsignal, hcount⟩ := ih (a := applyEvent a e) fun e' he' => h e' (List.mem_cons_of_mem _ he')
    rw [List.foldl_cons, hsignal]
    rcases h e (List.mem_cons_self ..) with ⟨p, m, rfl⟩ | rfl
    · refine ⟨rfl, hcount.imp_right fun ⟨hno, hc⟩ => ⟨?_, hc⟩⟩
      exact fun hmem => hno ((List.mem_cons.mp hmem).resolve_left nofun)
    · refine ⟨rfl, .inl ?_⟩
      rcases hcount with hc | ⟨_, hc⟩
      · exact hc
      · rw [hc]
        exact Function.update_self SessionManagerTask_id 10 a.AlarmCountdown

/-- An alarm is taken back, and where a session stays open there is another one in ten ticks. -/
theorem applyAlarm (a : Alarms) : ((sessionAlarm t true).2.foldl applyEvent a).AlarmSignal SessionManagerTask_id = false ∧
    ∀ v < MAX_VPS, 2 ≤ t v → ((sessionAlarm t true).2.foldl applyEvent a).AlarmCountdown SessionManagerTask_id = 10 := by
  have hreset : (applyEvent a .alarm).AlarmSignal SessionManagerTask_id = false := by
    change (alarmTestAndReset a SessionManagerTask_id).2.AlarmSignal SessionManagerTask_id = false
    by_cases h : a.AlarmSignal SessionManagerTask_id = true
    · rw [alarmTestAndReset, if_pos h]
      exact Function.update_self SessionManagerTask_id false a.AlarmSignal
    · rw [alarmTestAndReset, if_neg h]
      exact Bool.eq_false_iff.mpr h
  have hevents : ∀ e ∈ trace sessionExpire t (List.range MAX_VPS), (∃ p m, e = .broadcast p m) ∨ e = .alarmSet 10 := by
    intro e he
    obtain ⟨i, hi, t', he⟩ := exists_step_of_mem_trace he
    exact (mem_sessionExpire (List.mem_range.mp hi) he).imp_left fun h => ⟨_, _, h⟩
  change ((trace sessionExpire t (List.range MAX_VPS)).foldl applyEvent (applyEvent a .alarm)).AlarmSignal _ = false ∧ ∀ v < MAX_VPS,
    2 ≤ t v → ((trace sessionExpire t (List.range MAX_VPS)).foldl applyEvent (applyEvent a .alarm)).AlarmCountdown _ = 10
  obtain ⟨hsignal, hcount⟩ := applyEvents_ten (a := applyEvent a .alarm) hevents
  refine ⟨hsignal ▸ hreset, fun v hv ht => hcount.resolve_right fun ⟨hno, _⟩ => hno ?_⟩
  have hsent : SessionEvent.alarmSet 10 ∈ (sessionExpire t v).2 := by
    rw [sessionExpire, if_neg (by omega), if_neg (by omega)]
    exact List.mem_singleton_self _
  exact (List.mem_cons.mp (mem_sessionAlarm_of_mem hv hsent)).resolve_left nofun

end turn

/-! ## Every run -/

section run

variable {s s' : TimedSessions}

/-- What a turn comes to. -/
theorem turn_cases {msg : Option (Nat × Msg)} (hs : s.step (.turn msg) = some s') : (¬∃ p ∈ msg, p.2.vps = MAX_VPS) ∧
    s' = ⟨(SessionManagerTask s.session_table ⟨msg, s.alarmed⟩).1,
      (SessionManagerTask s.session_table ⟨msg, s.alarmed⟩).2.foldl applyEvent s.alarms, ageAfter s.age msg⟩ := by
  simp only [TimedSessions.step] at hs
  split at hs
  case isTrue => cases hs
  case isFalse hlimit =>
    cases hs
    exact ⟨hlimit, rfl⟩

/-- Without an alarm to be handled, a message leaves every open session due, if it keeps time. -/
theorem Inv.turn_quiet (hi : s.Inv) {msg : Option (Nat × Msg)} (hal : s.alarmed = false) (hc : s.KeepsTime (.turn msg))
    (hs : s.step (.turn msg) = some s') : s'.Inv := by
  obtain ⟨hlimit, rfl⟩ := turn_cases hs
  intro v hv
  have halarm : SessionManagerTask s.session_table ⟨msg, false⟩ =
      ((sessionMessage s.session_table msg).1, (sessionMessage s.session_table msg).2 ++ []) := rfl
  simp only [hal, halarm, List.append_nil]
  rcases message_cases (t := s.session_table) hlimit with ⟨m, time, rfl, hm, htime, htable, hevents⟩ | ⟨htable, hevents, hage⟩
  · obtain ⟨hk, hothers⟩ := hc rfl hm hal
    simp only [htable, hevents, htime hk]
    intro hopen
    refine ⟨fun _ => ⟨?_, ?_⟩, fun hr => absurd (hal.symm.trans hr) (by decide)⟩
    · simp [countdown, alarmSet]
    · by_cases hvm : v = m.vps
      · subst hvm
        simp [countdown, alarmSet, ageAfter]
      · rw [Function.update_of_ne hvm] at hopen
        have h := hothers v hv hvm hopen
        simp only [countdown, alarmSet, ageAfter, if_true, Function.update_self, Function.update_of_ne hvm] at h ⊢
        omega
  · simp only [hevents]
    intro hopen
    have hsame := (htable v).resolve_right hopen
    rw [hsame] at hopen
    have hdue := hi v hv hopen
    exact ⟨fun hr => by simpa only [countdown, hsame, hage s.age v hv] using hdue.running hr,
      fun hr => by simpa only [hsame, hage s.age v hv] using hdue.ringing hr⟩

/-- With an alarm to be handled, every session that stays open is due after it. -/
theorem Inv.turn_ringing (hi : s.Inv) {msg : Option (Nat × Msg)} (hal : s.alarmed = true) (hs : s.step (.turn msg) = some s') : s'.Inv := by
  obtain ⟨hlimit, rfl⟩ := turn_cases hs
  intro v hv
  have halarm : SessionManagerTask s.session_table ⟨msg, true⟩ = ((sessionAlarm (sessionMessage s.session_table msg).1 true).1,
    (sessionMessage s.session_table msg).2 ++ (sessionAlarm (sessionMessage s.session_table msg).1 true).2) := rfl
  simp only [hal, halarm, List.foldl_append]
  rw [sessionAlarm_entry hv]
  intro hopen
  obtain ⟨hsignal, hten⟩ := applyAlarm (t := (sessionMessage s.session_table msg).1)
    ((sessionMessage s.session_table msg).2.foldl applyEvent s.alarms)
  have hcount := hten v hv (by omega)
  refine ⟨fun _ => ?_, fun hr => absurd (hsignal.symm.trans hr) (by decide)⟩
  simp only [countdown, hcount, sessionAlarm_entry hv]
  refine ⟨by decide, ?_⟩
  rcases message_cases (t := s.session_table) hlimit with ⟨m, time, rfl, hm, _, htable, _⟩ | ⟨htable, _, hage⟩
  · rw [htable] at hopen ⊢
    by_cases hvm : v = m.vps
    · subst hvm
      simp [ageAfter]
    · rw [Function.update_of_ne hvm] at hopen ⊢
      have hdue := (hi v hv (by omega)).ringing hal
      simp only [ageAfter, if_true, Function.update_of_ne hvm]
      omega
  · have hsame := (htable v).resolve_right (by omega)
    rw [hsame] at hopen ⊢
    have hdue := (hi v hv (by omega)).ringing hal
    rw [hage s.age v hv]
    omega

/-- The step lemma of a turn. -/
theorem Inv.turn (hi : s.Inv) {msg : Option (Nat × Msg)} (hc : s.KeepsTime (.turn msg)) (hs : s.step (.turn msg) = some s') : s'.Inv := by
  cases hal : s.alarmed with
  | false => exact hi.turn_quiet hal hc hs
  | true => exact hi.turn_ringing hal hs

theorem Inv.tick (hi : s.Inv) (hs : s.step .tick = some s') : s'.Inv := by
  simp only [TimedSessions.step] at hs
  split at hs
  case isTrue => cases hs
  case isFalse hal =>
    cases hs
    have hal : s.alarmed = false := Bool.eq_false_iff.mpr hal
    have hsignal : s.alarms.AlarmSignal SessionManagerTask_id = false := hal
    obtain ⟨hcount, hring⟩ := tick_entry (a := s.alarms) (T := SessionManagerTask_id) (by decide)
    rw [hsignal, Bool.false_or] at hring
    generalize HomeBridge.tick s.alarms = a' at hcount hring ⊢
    intro v hv hopen
    obtain ⟨h1, h2⟩ := (hi v hv hopen).running hal
    simp only [countdown] at h1 h2
    refine ⟨fun hr => ?_, fun hr => ?_⟩
    · have hne : s.alarms.AlarmCountdown SessionManagerTask_id ≠ 1 := of_decide_eq_false (hring.symm.trans hr)
      simp only [countdown, hcount]
      omega
    · have heq : s.alarms.AlarmCountdown SessionManagerTask_id = 1 := of_decide_eq_true (hring.symm.trans hr)
      simp only
      omega

theorem Inv.inTime (hi : s.Inv) : s.InTime := by
  intro v hv hopen
  cases hal : s.alarmed with
  | false =>
    obtain ⟨h1, h2⟩ := (hi v hv hopen).running hal
    omega
  | true =>
    have h := (hi v hv hopen).ringing hal
    omega

end run

/-- A turn that closes a session without a message from the network for it sends its timeout on its port. -/
theorem closed_with_timeout {t : SessionTable} {i : SessionInput} {v : Nat} (hv : v < MAX_VPS) (hopen : t v ≠ 0)
    (hno : ∀ m, i.msg = some (In2, m) → m.vps ≠ v) (hclosed : (SessionManagerTask t i).1 v = 0) :
    .broadcast (v + 2) (timeoutMessage v) ∈ (SessionManagerTask t i).2 := by
  have hmsg : (sessionMessage t i.msg).1 v ≠ 0 := by
    have hupdate : ∀ w n, (w = v → n ≠ 0) → Function.update t w n v ≠ 0 := by
      intro w n hn
      by_cases hw : v = w
      · subst hw
        rw [Function.update_self]
        exact hn rfl
      · rwa [Function.update_of_ne hw]
    have hout := sessionMessage_outcome t i.msg
    generalize i.msg = msg at hno hout ⊢
    cases hout with
    | opened _ _ he =>
      rw [he]
      exact hupdate _ _ fun _ => by decide
    | answered _ _ he =>
      rw [he]
      exact hupdate _ _ fun hw => absurd hw (hno _ rfl)
    | idle he | refused _ _ he | closed _ _ he | other _ _ he => rwa [he]
  have hclosed : (sessionAlarm (sessionMessage t i.msg).1 i.alarm).1 v = 0 := hclosed
  refine List.mem_append_right _ ?_
  cases hal : i.alarm with
  | false =>
    rw [hal] at hclosed
    exact absurd hclosed hmsg
  | true =>
    rw [hal, sessionAlarm_entry hv] at hclosed
    refine mem_sessionAlarm_of_mem hv ?_
    rw [sessionExpire, if_neg hmsg, if_pos (by omega), output_port_eq hv]
    exact List.mem_singleton_self _

end TimedSessions

open TimedSessions in
/-- In every run whose requests all keep time, no session is ever open for more than `LIMIT` ticks; and whenever a session is closed that
is not answered, its timeout is sent on its port. -/
theorem inTime_always (acts : List TimedAct) (h : Along TimedSessions.step KeepsTime start acts) :
    Always TimedSessions.step InTime start acts ∧
      ∀ (s : TimedSessions) (msg : Option (Nat × Msg)), ∀ v < MAX_VPS, s.session_table v ≠ 0 →
        (∀ m, msg = some (In2, m) → m.vps ≠ v) → (SessionManagerTask s.session_table ⟨msg, s.alarmed⟩).1 v = 0 →
          .broadcast (v + 2) (timeoutMessage v) ∈ (SessionManagerTask s.session_table ⟨msg, s.alarmed⟩).2 := by
  refine ⟨h.always (I := TimedSessions.Inv) (fun _ hi => hi.inTime) (fun s a s' hi hc hs => ?_) (fun v _ h0 => absurd rfl h0),
    fun s msg v hv ho hno hcl => closed_with_timeout hv ho hno hcl⟩
  cases a with
  | tick => exact hi.tick hs
  | turn msg => exact hi.turn hc hs

/-- Ten ticks, and the turn with the alarm. -/
def alarmPeriod : List TimedAct := List.replicate 10 .tick ++ [.turn none]

/-- A request on port 1, and one period later another on port 2; then the ticks until the session of port 1 has its last alarm. -/
def twoRequests : List TimedAct :=
  .turn (some (In1, ⟨Function.update zeroed 0 1, 0⟩)) :: alarmPeriod ++
    .turn (some (In1, ⟨Function.update zeroed 0 2, 0⟩)) :: (List.replicate 13 alarmPeriod).flatten ++ List.replicate 10 .tick

/-- The session of port 1 is closed, with a timeout, while that of port 2 stays open. -/
theorem inTime_always_request : Always TimedSessions.step TimedSessions.InTime .start (twoRequests ++ [.turn none]) ∧
    ∃ s, run TimedSessions.step .start twoRequests = some s ∧
      (SessionManagerTask s.session_table ⟨none, s.alarmed⟩).1 1 = 0 ∧ (SessionManagerTask s.session_table ⟨none, s.alarmed⟩).1 2 = 1 ∧
      .broadcast 3 (timeoutMessage 1) ∈ (SessionManagerTask s.session_table ⟨none, s.alarmed⟩).2 := by
  have h : Along TimedSessions.step TimedSessions.KeepsTime .start (twoRequests ++ [.turn none]) := by decide +kernel
  obtain ⟨halways, htimeout⟩ := inTime_always _ h
  have hsome : (run TimedSessions.step .start twoRequests).map (fun s => (s.alarmed, s.session_table 1, s.session_table 2)) =
      some (true, 1, 2) := by decide +kernel
  obtain ⟨s, hs, he⟩ := Option.map_eq_some_iff.mp hsome
  simp only [Prod.mk.injEq] at he
  obtain ⟨hal, h1, h2⟩ := he
  have hturn : ∀ v < MAX_VPS, (SessionManagerTask s.session_table ⟨none, s.alarmed⟩).1 v = s.session_table v - 1 := fun v hv => by
    rw [hal]
    exact sessionAlarm_entry (t := s.session_table) hv
  have hclosed : (SessionManagerTask s.session_table ⟨none, s.alarmed⟩).1 1 = 0 := by rw [hturn 1 (by decide), h1]
  exact ⟨halways, s, hs, hclosed, by rw [hturn 2 (by decide), h2],
    htimeout s none 1 (by decide) (by rw [h1]; decide) nofun hclosed⟩

/-- Ticks before the alarm: the table stays as it is and every session grows older. -/
theorem run_ticks : ∀ (n : Nat) {s : TimedSessions}, s.alarmed = false → n < s.countdown →
    ∃ s', run TimedSessions.step s (List.replicate n .tick) = some s' ∧ s'.session_table = s.session_table ∧
      ∀ v, s'.age v = s.age v + n := by
  intro n
  induction n with
  | zero =>
    intro s _ _
    exact ⟨s, rfl, rfl, fun _ => rfl⟩
  | succ n ih =>
    intro s hal hn
    have hsignal : s.alarms.AlarmSignal SessionManagerTask_id = false := hal
    have hcount : s.alarms.AlarmCountdown SessionManagerTask_id = s.countdown := rfl
    obtain ⟨hc, hr⟩ := tick_entry (a := s.alarms) (T := SessionManagerTask_id) (by decide)
    rw [hsignal, Bool.false_or, hcount, decide_eq_false (by omega)] at hr
    rw [hcount] at hc
    have hstep : s.step .tick = some { s with alarms := tick s.alarms, age := fun v => s.age v + 1 } := if_neg (by simp [hal])
    generalize tick s.alarms = a' at hc hr hstep
    obtain ⟨s', hrun, htable, hage⟩ := ih (s := { s with alarms := a', age := fun v => s.age v + 1 }) hr
      (by simp only [TimedSessions.countdown, hc] at hn ⊢; omega)
    refine ⟨s', ?_, htable, fun v => ?_⟩
    · rw [List.replicate_succ, run_cons, hstep, Option.bind_some, hrun]
    · rw [hage v]
      exact Nat.add_right_comm ..

/-- A request on port 1, and another on port 2 with the keyword. -/
def keywordBehindRequest : List TimedAct :=
  [.turn (some (In1, ⟨Function.update zeroed 0 1, 0⟩)), .turn (some (In1, ⟨write zeroed 0 (2 :: 7 :: ascii "0TIMEon"), 0⟩))]

/-- The session of port 1 is still open 161 ticks later. -/
theorem not_inTime_always : ¬∀ acts, Always TimedSessions.step TimedSessions.InTime .start acts := by
  intro h
  have hboth : ∃ s, run TimedSessions.step .start keywordBehindRequest = some s ∧ s.alarmed = false ∧ s.countdown = 3000 ∧
      s.session_table 1 = SESSION_TIMEOUT ∧ s.age 1 = 0 := by
    have hsome : (run TimedSessions.step .start keywordBehindRequest).map
        (fun s => (s.alarmed, s.countdown, s.session_table 1, s.age 1)) = some (false, 3000, SESSION_TIMEOUT, 0) := by
      decide +kernel
    obtain ⟨s, hs, he⟩ := Option.map_eq_some_iff.mp hsome
    simp only [Prod.mk.injEq] at he
    exact ⟨s, hs, he⟩
  obtain ⟨s, hs, hal, hcount, htable, hage⟩ := hboth
  obtain ⟨s', hs', htable', hage'⟩ := run_ticks 161 hal (by rw [hcount]; decide)
  have hrun : run TimedSessions.step .start (keywordBehindRequest ++ List.replicate 161 .tick) = some s' := by
    rw [run_append, hs, Option.bind_some, hs']
  have hin := always_iff_beginning.mp (h _) _ [] s' (List.append_nil _).symm hrun 1 (by decide)
    (by rw [htable', htable]; decide)
  rw [hage', hage] at hin
  exact absurd hin (by decide)

end HomeBridge
