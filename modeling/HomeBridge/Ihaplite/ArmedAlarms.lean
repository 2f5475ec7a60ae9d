import HomeBridge.Ihaplite.SessionTimeouts

/-!
# An alarm for every open session

The session manager and the time manager share two arrays without a lock. Here one step is one access to them: the time
manager's update of one countdown, `alarmSet`, `alarmTestAndReset`; between two of its accesses the session manager may
be overtaken by any number of ticks. An alarm is asked for where a session is opened and where one is counted down, and
nowhere else. That is enough: while the session manager is not about to ask for one, an open session has an alarm
coming.
-/

namespace HomeBridge

open CMem Runs

/-- Where the session manager is: in `receive`, behind an entry it has opened, behind the message, in the loop over its
entries with those still to come, or behind an entry it has counted down. -/
inductive SessionPhase where
  | receiving
  | arming (time : Nat)
  | testing
  | expiring (entries : List Nat)
  | rearming (entries : List Nat)

/-- The session manager will come to the entry `v`, or set the alarm, before it receives again. -/
def SessionPhase.Owes (v : Nat) : SessionPhase → Prop
  | .receiving | .testing => False
  | .arming _ | .rearming _ => True
  | .expiring entries => v ∈ entries

/-- The session manager's table and place, and the arrays of the alarms. -/
structure ArmedSessions where
  session_table : SessionTable
  alarms : Alarms
  phase : SessionPhase

/-- What happens next: the time manager's update of one entry, a return from `receive`, with a message or without one,
or the session manager's next access. -/
inductive ArmedAct where
  | tickEntry (i : Nat)
  | receive (msg : Option (Nat × Msg))
  | proceed

/-- The alarm a part of a turn asks for. -/
def alarmAsked (events : List SessionEvent) : Option Nat :=
  events.findSome? fun
    | .alarmSet time => some time
    | _ => none

/-- A tick takes no alarm away: a countdown that ends leaves the signal behind. -/
theorem tickEntry_keeps {a : Alarms} {T : Nat} (h : 0 < a.AlarmCountdown T ∨ a.AlarmSignal T = true) (i : Nat) :
    0 < (tickEntry a i).AlarmCountdown T ∨ (tickEntry a i).AlarmSignal T = true := by
  by_cases hi : T = i
  · subst hi
    obtain ⟨hcount, hsignal⟩ := @tickEntry_self a T
    rw [hcount, hsignal, Bool.or_eq_true, decide_eq_true_eq]
    rcases h with h | h
    · by_cases hone : a.AlarmCountdown T = 1
      · exact .inr (.inr hone)
      · exact .inl (by omega)
    · exact .inr (.inl h)
  · obtain ⟨hcount, hsignal⟩ := @tickEntry_of_ne a T i hi
    rwa [hcount, hsignal]

namespace ArmedSessions

/-- No session is open and no alarm is set. -/
def start : ArmedSessions := ⟨noSession, .cleared, .receiving⟩

/-- The session manager's countdown. -/
def countdown (s : ArmedSessions) : Nat := s.alarms.AlarmCountdown SessionManagerTask_id

/-- The session manager's alarm has gone off, and has not been handled. -/
def alarmed (s : ArmedSessions) : Bool := s.alarms.AlarmSignal SessionManagerTask_id

/-- The next access of the session manager, and what it does up to the one after. -/
def proceed (s : ArmedSessions) : Option ArmedSessions :=
  match s.phase with
  | .receiving => none
  | .arming time => some { s with alarms := alarmSet s.alarms SessionManagerTask_id time, phase := .testing }
  | .testing =>
    let r := alarmTestAndReset s.alarms SessionManagerTask_id
    some { s with alarms := r.2, phase := if r.1 then .expiring (List.range MAX_VPS) else .receiving }
  | .expiring [] => some { s with phase := .receiving }
  | .expiring (i :: entries) =>
    let r := sessionExpire s.session_table i
    some { s with session_table := r.1, phase := if (alarmAsked r.2).isSome then .rearming entries else .expiring entries }
  | .rearming entries => some { s with alarms := alarmSet s.alarms SessionManagerTask_id 10, phase := .expiring entries }

/-- One step. A message for a port without an entry has no defined result. -/
def step (s : ArmedSessions) : ArmedAct → Option ArmedSessions
  | .tickEntry i => some { s with alarms := HomeBridge.tickEntry s.alarms i }
  | .receive msg =>
    match s.phase with
    | .receiving =>
      if ∃ p ∈ msg, MAX_VPS ≤ p.2.vps then none
      else
        let r := sessionMessage s.session_table msg
        some { s with session_table := r.1, phase := ((alarmAsked r.2).map .arming).getD .testing }
    | _ => none
  | .proceed => s.proceed

/-- The session manager has handled its message, or its alarm: it does not owe an alarm to anyone. -/
def Settled (s : ArmedSessions) : Prop := s.phase = .receiving ∨ s.phase = .testing

/-- No session has more alarms left than one that was just opened. Where the message or the alarm has been handled, an
open session has an alarm coming: the countdown runs or the alarm has gone off. While it is being handled, the session
manager may also be about to set it. -/
structure AlarmComing (s : ArmedSessions) : Prop where
  bounded : ∀ v, s.session_table v ≤ SESSION_TIMEOUT
  settled : s.Settled → (∃ v < MAX_VPS, s.session_table v ≠ 0) → 0 < s.countdown ∨ s.alarmed = true
  underway : ∀ v < MAX_VPS, s.session_table v ≠ 0 → 0 < s.countdown ∨ s.alarmed = true ∨ s.phase.Owes v

/-- The invariant: besides, the alarm the session manager is about to set is not 0. -/
structure Inv (s : ArmedSessions) : Prop where
  bounded : ∀ v, s.session_table v ≤ SESSION_TIMEOUT
  armed : ∀ v < MAX_VPS, s.session_table v ≠ 0 → 0 < s.countdown ∨ s.alarmed = true ∨ s.phase.Owes v
  time : ∀ time, s.phase = .arming time → 0 < time

theorem inv_start : Inv start := ⟨fun _ => Nat.zero_le _, fun _ _ h => absurd rfl h, nofun⟩

theorem Inv.coming {s : ArmedSessions} (h : s.Inv) : s.AlarmComing := by
  refine ⟨h.bounded, fun hs ⟨v, hv, ho⟩ => ?_, h.armed⟩
  refine (or_assoc.mpr (h.armed v hv ho)).resolve_right fun howes => ?_
  rcases hs with hp | hp <;> rw [hp] at howes <;> exact howes

section step

variable {s s' : ArmedSessions}

theorem Inv.tickEntry (h : s.Inv) (i : Nat) : Inv { s with alarms := HomeBridge.tickEntry s.alarms i } := by
  refine ⟨h.bounded, fun v hv ho => ?_, h.time⟩
  rcases h.armed v hv ho with hc | hc | hc
  · exact or_assoc.mp (.inl (tickEntry_keeps (.inl hc) i))
  · exact or_assoc.mp (.inl (tickEntry_keeps (.inr hc) i))
  · exact .inr (.inr hc)

/-- Where the alarm is set, every session has one coming. -/
theorem Inv.alarmSet (h : s.Inv) {time : Nat} (ht : 0 < time) {phase : SessionPhase} (hp : ∀ time, phase ≠ .arming time) :
    Inv { s with alarms := HomeBridge.alarmSet s.alarms SessionManagerTask_id time, phase := phase } := by
  refine ⟨h.bounded, fun v _ _ => .inl ?_, fun time he => absurd he (hp time)⟩
  simpa [countdown, HomeBridge.alarmSet] using ht

/-- The message part: it asks for an alarm where it opens a session, and opens none where it does not. -/
theorem message_asks {t : SessionTable} {msg : Option (Nat × Msg)} (hrange : ¬∃ p ∈ msg, MAX_VPS ≤ p.2.vps) :
    (∃ v time, 0 < time ∧ alarmAsked (sessionMessage t msg).2 = some time ∧
      (sessionMessage t msg).1 = Function.update t v SESSION_TIMEOUT) ∨
    alarmAsked (sessionMessage t msg).2 = none ∧ ∀ v, (sessionMessage t msg).1 v = t v ∨
      (sessionMessage t msg).1 v = 0 := by
  cases sessionMessage_outcome t msg with
  | opened _ hm he =>
    rw [he]
    rcases hm with ⟨_, rfl, _⟩ | ⟨_, rfl, _⟩
    · exact .inl ⟨_, 10, by decide, rfl, rfl⟩
    · exact .inl ⟨_, 3000, by decide, rfl, rfl⟩
  | @answered m _ _ he =>
    rw [he]
    refine .inr ⟨rfl, fun v => ?_⟩
    by_cases hv : v = m.vps
    · subst hv
      exact .inr (Function.update_self ..)
    · exact .inl (Function.update_of_ne hv ..)
  | idle he | refused _ _ he | closed _ _ he | other _ _ he =>
    rw [he]
    exact .inr ⟨rfl, fun v => .inl rfl⟩

theorem Inv.receive (h : s.Inv) {msg : Option (Nat × Msg)} (hs : s.step (.receive msg) = some s') : s'.Inv := by
  simp only [ArmedSessions.step] at hs
  split at hs
  case h_2 => cases hs
  case h_1 hp =>
    split at hs
    case isTrue => cases hs
    case isFalse hrange =>
      cases hs
      rcases message_asks (t := s.session_table) hrange with ⟨w, time, htime, hask, htable⟩ | ⟨hask, htable⟩
      · have hbounded : ∀ v, (sessionMessage s.session_table msg).1 v ≤ SESSION_TIMEOUT := by
          intro v
          rw [htable]
          by_cases hv : v = w
          · subst hv
            exact Nat.le_of_eq (Function.update_self ..)
          · rw [Function.update_of_ne hv]
            exact h.bounded v
        rw [hask]
        refine ⟨hbounded, fun _ _ _ => .inr (.inr trivial), fun time' he => ?_⟩
        cases he
        exact htime
      · have hbounded : ∀ v, (sessionMessage s.session_table msg).1 v ≤ SESSION_TIMEOUT := by
          intro v
          rcases htable v with hv | hv
          · rw [hv]
            exact h.bounded v
          · rw [hv]
            exact Nat.zero_le _
        rw [hask]
        refine ⟨hbounded, fun v hv ho => ?_, nofun⟩
        have hc := h.armed v hv ((htable v).resolve_right ho ▸ ho)
        rw [hp] at hc
        exact hc

/-- An entry at an alarm: it is counted down, and closed unless an alarm is asked for. -/
theorem expire_asks (t : SessionTable) (i : Nat) : (sessionExpire t i).1 i ≤ t i ∧
    ((alarmAsked (sessionExpire t i).2).isSome = true ∨ (sessionExpire t i).1 i = 0) := by
  refine ⟨by rw [sessionExpire_self]; exact Nat.sub_le .., ?_⟩
  unfold sessionExpire
  split
  · rename_i h0
    exact .inr h0
  · split
    · exact .inr (Function.update_self ..)
    · exact .inl rfl

theorem Inv.proceed (h : s.Inv) (hs : s.proceed = some s') : s'.Inv := by
  unfold ArmedSessions.proceed at hs
  split at hs
  · cases hs
  · rename_i time hp
    cases hs
    exact h.alarmSet (h.time time hp) nofun
  · rename_i hp
    by_cases hal : s.alarms.AlarmSignal SessionManagerTask_id = true
    · have htest : alarmTestAndReset s.alarms SessionManagerTask_id = _ := if_pos hal
      rw [htest] at hs
      cases hs
      -- every entry is still to come
      exact ⟨h.bounded, fun v hv _ => .inr (.inr (List.mem_range.mpr hv)), nofun⟩
    · have htest : alarmTestAndReset s.alarms SessionManagerTask_id = (false, s.alarms) := if_neg hal
      rw [htest] at hs
      cases hs
      refine ⟨h.bounded, fun v hv ho => ?_, nofun⟩
      have hc := h.armed v hv ho
      rw [hp] at hc
      exact hc
  · rename_i hp
    cases hs
    refine ⟨h.bounded, fun v hv ho => ?_, nofun⟩
    have hc := h.armed v hv ho
    rw [hp] at hc
    exact hc.imp_right fun hc => hc.imp_right fun hmem => absurd hmem List.not_mem_nil
  · rename_i i entries hp
    obtain ⟨hle, hask⟩ := expire_asks s.session_table i
    have hother : ∀ v, v ≠ i → (sessionExpire s.session_table i).1 v = s.session_table v := fun v => sessionExpire_of_ne
    generalize sessionExpire s.session_table i = r at hs hle hask hother
    cases hs
    refine ⟨fun v => ?_, fun v hv ho => ?_, fun time he => ?_⟩
    · by_cases hvi : v = i
      · subst hvi
        exact Nat.le_trans hle (h.bounded v)
      · exact Nat.le_trans (Nat.le_of_eq (hother v hvi)) (h.bounded v)
    · by_cases hsome : (alarmAsked r.2).isSome = true
      · refine .inr (.inr ?_)
        simp only [hsome, if_true]
        trivial
      · have hvi : v ≠ i := fun he => ho (he ▸ hask.resolve_left hsome)
        have hc := h.armed v hv (hother v hvi ▸ ho)
        rw [hp] at hc
        simp only [hsome]
        exact hc.imp_right fun hc => hc.imp_right fun hmem => (List.mem_cons.mp hmem).resolve_left hvi
    · split at he <;> cases he
  · cases hs
    exact h.alarmSet (by decide) nofun

/-- The step lemma. -/
theorem Inv.step (h : s.Inv) {a : ArmedAct} (hs : s.step a = some s') : s'.Inv := by
  cases a with
  | tickEntry i =>
    cases hs
    exact h.tickEntry i
  | receive msg => exact h.receive hs
  | proceed => exact h.proceed hs

end step

/-! ## Left alone, the session manager does a turn of its loop -/

section turn

variable {s s' s'' : ArmedSessions}

/-- Some accesses of the session manager, with nothing in between. -/
def Proceeds (s s' : ArmedSessions) : Prop := ∃ n, run ArmedSessions.step s (List.replicate n .proceed) = some s'

theorem Proceeds.head (h : s.proceed = some s') (h' : Proceeds s' s'') : Proceeds s s'' := by
  obtain ⟨n, hn⟩ := h'
  exact ⟨n + 1, by rw [List.replicate_succ, run_cons_eq_some]; exact ⟨s', h, hn⟩⟩

/-- What an entry asks for at an alarm is what its events do to the arrays. -/
theorem expire_events (t : SessionTable) (i : Nat) (a : Alarms) : (sessionExpire t i).2.foldl applyEvent a =
    if (alarmAsked (sessionExpire t i).2).isSome then alarmSet a SessionManagerTask_id 10 else a := by
  unfold sessionExpire
  split
  · rfl
  · split <;> rfl

/-- The same for the message part. -/
theorem message_events (t : SessionTable) (msg : Option (Nat × Msg)) (a : Alarms) :
    (sessionMessage t msg).2.foldl applyEvent a =
    ((alarmAsked (sessionMessage t msg).2).map (alarmSet a SessionManagerTask_id)).getD a := by
  cases sessionMessage_outcome t msg with
  | idle he | refused _ _ he | opened _ _ he | answered _ _ he | closed _ _ he | other _ _ he =>
    rw [he]
    rfl

/-- The loop over the entries. -/
theorem proceeds_expiring : ∀ {entries : List Nat} {t : SessionTable} {a : Alarms}, Proceeds ⟨t, a, .expiring entries⟩
    ⟨final sessionExpire t entries, (trace sessionExpire t entries).foldl applyEvent a, .receiving⟩ := by
  intro entries
  induction entries with
  | nil =>
    intro t a
    exact ⟨1, rfl⟩
  | cons i entries ih =>
    intro t a
    have hi : proceed ⟨t, a, .expiring (i :: entries)⟩ = some ⟨(sessionExpire t i).1, a,
        if (alarmAsked (sessionExpire t i).2).isSome then .rearming entries else .expiring entries⟩ := rfl
    refine Proceeds.head hi ?_
    rw [final, trace, List.foldl_append, expire_events]
    by_cases hask : (alarmAsked (sessionExpire t i).2).isSome = true
    · rw [if_pos hask, if_pos hask]
      exact Proceeds.head rfl ih
    · rw [if_neg hask, if_neg hask]
      exact ih

/-- The alarm part. -/
theorem proceeds_testing (t : SessionTable) (a : Alarms) : Proceeds ⟨t, a, .testing⟩
    ⟨(sessionAlarm t (a.AlarmSignal SessionManagerTask_id)).1,
      (sessionAlarm t (a.AlarmSignal SessionManagerTask_id)).2.foldl applyEvent a, .receiving⟩ := by
  by_cases hal : a.AlarmSignal SessionManagerTask_id = true
  · have htest : alarmTestAndReset a SessionManagerTask_id = _ := if_pos hal
    have hproceed : proceed ⟨t, a, .testing⟩ =
        some ⟨t, (alarmTestAndReset a SessionManagerTask_id).2, .expiring (List.range MAX_VPS)⟩ := by
      simp only [ArmedSessions.proceed, htest, if_true]
    refine Proceeds.head hproceed ?_
    rw [hal, sessionAlarm_true]
    exact proceeds_expiring
  · have htest : alarmTestAndReset a SessionManagerTask_id = (false, a) := if_neg hal
    rw [Bool.eq_false_iff.mpr hal, sessionAlarm_false]
    have hproceed : proceed ⟨t, a, .testing⟩ = some ⟨t, a, .receiving⟩ := by
      simp only [ArmedSessions.proceed, htest]
      rfl
    exact Proceeds.head hproceed ⟨0, rfl⟩

/-- A message and what follows it, with no tick in between, is the turn that `SessionManagerTask` says. -/
theorem proceeds_turn {msg : Option (Nat × Msg)} (hrange : ∀ p ∈ msg, p.2.vps < MAX_VPS) (t : SessionTable) (a : Alarms) :
    ∃ s, step ⟨t, a, .receiving⟩ (.receive msg) = some s ∧ Proceeds s
      ⟨(SessionManagerTask t ⟨msg, a.AlarmSignal SessionManagerTask_id⟩).1,
        (SessionManagerTask t ⟨msg, a.AlarmSignal SessionManagerTask_id⟩).2.foldl applyEvent a, .receiving⟩ := by
  have hno : ¬∃ p ∈ msg, MAX_VPS ≤ p.2.vps := fun ⟨p, hp, hle⟩ => Nat.not_lt.mpr hle (hrange p hp)
  refine ⟨_, if_neg hno, ?_⟩
  unfold SessionManagerTask
  rw [List.foldl_append, message_events]
  cases hask : alarmAsked (sessionMessage t msg).2 with
  | none => exact proceeds_testing _ a
  | some time => exact Proceeds.head rfl (proceeds_testing _ (alarmSet a SessionManagerTask_id time))

end turn

end ArmedSessions

open ArmedSessions in
/-- In every state of every run, the entries are bounded and every open session has an alarm coming. -/
theorem alarmComing_always (acts : List ArmedAct) : Always ArmedSessions.step AlarmComing start acts :=
  always_of_invariant (I := ArmedSessions.Inv) (fun _ h => h.coming) (fun _ _ _ h hs => h.step hs) inv_start

end HomeBridge
