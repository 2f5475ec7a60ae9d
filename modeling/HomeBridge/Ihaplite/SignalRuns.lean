import HomeBridge.Lib.Entries
import HomeBridge.Ihaplite.DeliveryRuns

/-!
# Whose message flag a receive takes

A delivery sets the flag of its receiver, and the receiver's `receive` takes it. `IPTask`, though, hands its VPS to `receive` where its
task number belongs, and so takes the flag of another task: that of the session manager, if its VPS is 2. The runs are those of the
handler and the tasks, with a record of who was delivered a message since its last `receive`.
-/

namespace HomeBridge

open Runs

/-- The handler and the tasks, and which tasks have a delivery behind them that they have not received yet. -/
structure Signals where
  net : Net
  owed : Nat → Bool

namespace Signals

/-- The start: any queue, nothing delivered, every task running or waiting. -/
def start (front : Nat → Nat × Nat) (queue : Nat → Bool) (queue_struct : Nat → Context) (waits : Nat → Bool) : Signals :=
  ⟨Net.start front queue queue_struct waits, fun _ => false⟩

/-- The numbers of tasks; the IP tasks are the last of them. -/
def IsTask (T : Nat) : Prop := T < IPTask_id MAX_VPS

instance (T : Nat) : Decidable (IsTask T) := by
  unfold IsTask
  infer_instance

/-- A step is one of the handler or of a task. -/
def Taken : NetAct → Prop
  | .wait T | .wake T | .read T => IsTask T
  | _ => True

instance : (a : NetAct) → Decidable (Taken a)
  | .queue _ | .next => isTrue trivial
  | .wait T | .wake T | .read T => inferInstanceAs (Decidable (IsTask T))

/-- A delivery is owed to its receiver until the receiver's own `receive` returns. -/
def owedAfter (s : Signals) : NetAct → Nat → Bool
  | .next =>
    let r := queue_nextmsg s.net.g
    if r.1 = true ∧ s.net.phase (receiver_taskid r.2) ≠ .running then Function.update s.owed (receiver_taskid r.2) true else s.owed
  | .read T => Function.update s.owed T false
  | _ => s.owed

/-- One step. -/
def step (s : Signals) (a : NetAct) : Option Signals :=
  if Taken a then (s.net.step a).map fun n => ⟨n, s.owedAfter a⟩ else none

/-- What is delivered stays signalled until its receiver takes it; so the session manager's own `receive` returns true after a
delivery. -/
structure Owned (s : Signals) : Prop where
  flag : ∀ T, s.owed T = true → s.net.g.MessageSignal T = true
  processed : s.owed SessionManagerTask_id = true → (msgTestAndReset s.net.g (receive_id SessionManagerTask_id)).1 = true

/-- A task that hands another task's number to `receive` finds that task's flag clear. -/
def LeavesFlags (s : Signals) : NetAct → Prop
  | .read T => receive_id T ≠ T → s.net.g.MessageSignal (receive_id T) = false
  | _ => True

/-! ## The invariant -/

/-- The flags are set for what is owed and, of the tasks that hand over their own number, for nothing else. -/
structure Inv (s : Signals) : Prop where
  flag : ∀ T, s.owed T = true → s.net.g.MessageSignal T = true
  owed : ∀ T < USER_TASKS, s.net.g.MessageSignal T = true → s.owed T = true

theorem inv_start (front : Nat → Nat × Nat) (queue : Nat → Bool) (queue_struct : Nat → Context) (waits : Nat → Bool) :
    Inv (start front queue queue_struct waits) :=
  ⟨nofun, nofun⟩

theorem owned_of_flag {s : Signals} (h : ∀ T, s.owed T = true → s.net.g.MessageSignal T = true) : Owned s :=
  ⟨h, fun ho => (msgTestAndReset_fst _ _).trans (h _ ho)⟩

/-- A task hands over its own number, or it is an IP task and hands over one that is not an IP task's. -/
theorem receive_id_cases {T : Nat} (hT : IsTask T) :
    T < USER_TASKS ∧ receive_id T = T ∨ receive_id T ≠ T ∧ receive_id T < USER_TASKS := by
  simp only [IsTask, IPTask_id, MAX_VPS, TOTAL_VPS, USER_TASKS] at hT
  by_cases h : USER_TASKS ≤ T
  · rw [receive_id, if_pos h]
    simp only [USER_TASKS] at h ⊢
    exact .inr ⟨by omega, by omega⟩
  · exact .inl ⟨Nat.lt_of_not_le h, if_neg h⟩

section step

variable {s s' : Signals}

/-- A delivery sets the flag of its receiver, and nothing else happens to a flag or to what is owed in the handler's turn. -/
theorem next_effect : s.net.next.g.MessageSignal = s.net.g.MessageSignal ∧ s.owedAfter .next = s.owed ∨
    ∃ T, s.net.next.g.MessageSignal = Function.update s.net.g.MessageSignal T true ∧ s.owedAfter .next = Function.update s.owed T true := by
  obtain ⟨_, hm⟩ := queue_nextmsg_frame s.net.g
  unfold Net.next owedAfter
  rcases hq : queue_nextmsg s.net.g with ⟨_ | _, g⟩
  · rw [hq] at hm
    exact .inl ⟨hm, if_neg fun hc => Bool.false_ne_true hc.1⟩
  · rw [hq] at hm
    by_cases hp : s.net.phase (receiver_taskid g) = .running
    · simp only [hp, if_true]
      exact .inl ⟨(deliver_MessageSignal false g).trans hm, if_neg fun hc => hc.2 rfl⟩
    · simp only [hp, if_false]
      refine .inr ⟨receiver_taskid g, (deliver_MessageSignal true g).trans ?_, if_pos ⟨trivial, hp⟩⟩
      rw [← hm]
      rfl

/-- What the other steps of a run do to the flags and to what is owed. -/
theorem step_effect {a : NetAct} (hs : s.step a = some s') :
    (∃ T, a = .read T ∧ IsTask T ∧ s'.net.g.MessageSignal = Function.update s.net.g.MessageSignal (receive_id T) false ∧
      s'.owed = Function.update s.owed T false) ∨
    (s.LeavesFlags a ∧ (s'.net.g.MessageSignal = s.net.g.MessageSignal ∧ s'.owed = s.owed ∨
      ∃ T, s'.net.g.MessageSignal = Function.update s.net.g.MessageSignal T true ∧ s'.owed = Function.update s.owed T true)) := by
  simp only [Signals.step, Option.ite_none_right_eq_some, Option.map_eq_some_iff] at hs
  obtain ⟨htaken, n, hn, rfl⟩ := hs
  cases a with
  | queue context =>
    simp only [Net.step, Option.ite_none_right_eq_some, Option.some.injEq] at hn
    obtain ⟨_, rfl⟩ := hn
    exact .inr ⟨trivial, .inl ⟨(queue_add_frame { s.net.g with msg_context := context }).2, rfl⟩⟩
  | next =>
    cases hn
    exact .inr ⟨trivial, next_effect⟩
  | wait T =>
    simp only [Net.step, Option.ite_none_right_eq_some, Option.some.injEq] at hn
    obtain ⟨_, rfl⟩ := hn
    exact .inr ⟨trivial, .inl ⟨rfl, rfl⟩⟩
  | wake T =>
    simp only [Net.step, Option.ite_none_right_eq_some, Option.some.injEq] at hn
    obtain ⟨_, rfl⟩ := hn
    exact .inr ⟨trivial, .inl ⟨rfl, rfl⟩⟩
  | read T =>
    simp only [Net.step, Option.ite_none_right_eq_some, Option.some.injEq] at hn
    obtain ⟨_, rfl⟩ := hn
    exact .inl ⟨T, rfl, htaken, msgTestAndReset_MessageSignal s.net.g _, rfl⟩

/-- The step lemma. -/
theorem Inv.step (h : s.Inv) {a : NetAct} (hc : s.LeavesFlags a) (hs : s.step a = some s') : s'.Inv := by
  rcases step_effect hs with ⟨T, rfl, hT, hm, ho⟩ | ⟨_, ⟨hm, ho⟩ | ⟨T, hm, ho⟩⟩
  · rcases receive_id_cases hT with ⟨_, hid⟩ | ⟨hid, _⟩
    · rw [hid] at hm
      refine ⟨fun U => ?_, fun U hlt => ?_⟩
      · rw [hm, ho]
        exact Entries.update_imp (h.flag U)
      · rw [hm, ho]
        exact Entries.update_imp (h.owed U hlt)
    · -- the flag it takes is clear, and an IP task is no task that hands over its own number
      have hclear : s.net.g.MessageSignal (receive_id T) = false := hc hid
      have hm : s'.net.g.MessageSignal = s.net.g.MessageSignal := by
        rw [hm, ← hclear, Function.update_eq_self]
      have hge : USER_TASKS ≤ T := by
        by_contra hlt
        exact hid (if_neg hlt)
      refine ⟨fun U hU => ?_, fun U hlt hU => ?_⟩
      · rw [ho] at hU
        exact hm ▸ h.flag U (Entries.update_false hU).2
      · rw [ho, Function.update_of_ne (Nat.ne_of_lt (Nat.lt_of_lt_of_le hlt hge))]
        exact h.owed U hlt (hm ▸ hU)
  · exact ⟨fun U hU => hm ▸ h.flag U (ho ▸ hU), fun U hlt hU => ho ▸ h.owed U hlt (hm ▸ hU)⟩
  · refine ⟨fun U => ?_, fun U hlt => ?_⟩
    · rw [hm, ho]
      exact Entries.update_imp (h.flag U)
    · rw [hm, ho]
      exact Entries.update_imp (h.owed U hlt)

/-- A step that takes a flag it does not own takes one that is still owed. -/
theorem Inv.leavesFlags (h : s.Inv) {a : NetAct} (hs : s.step a = some s') (ho' : Owned s') : s.LeavesFlags a := by
  rcases step_effect hs with ⟨T, rfl, hT, hm, ho⟩ | ⟨hc, _⟩
  · intro hid
    by_contra hset
    obtain ⟨_, hlt⟩ := (receive_id_cases hT).resolve_left fun hc => hid hc.2
    have howed : s'.owed (receive_id T) = true := by
      rw [ho, Function.update_of_ne hid]
      exact h.owed _ hlt (eq_true_of_ne_false hset)
    have hflag := ho'.flag _ howed
    rw [hm, Function.update_self] at hflag
    cases hflag
  · exact hc

end step

end Signals

open Signals in
/-- Over any interleaving of the handler's turns with the steps of the tasks, from any queue: the flags of all deliveries are kept for
their receivers exactly if every IP task that returns from `receive` finds the flag of the task with its VPS for a number clear. -/
theorem owned_always_iff (front : Nat → Nat × Nat) (queue : Nat → Bool) (queue_struct : Nat → Context) (waits : Nat → Bool)
    (acts : List NetAct) : Always Signals.step Owned (Signals.start front queue queue_struct waits) acts ↔
      Along Signals.step LeavesFlags (Signals.start front queue queue_struct waits) acts :=
  always_iff_along (I := Signals.Inv) (fun _ h => owned_of_flag h.flag) (fun _ _ _ h hc hs => h.step hc hs)
    (fun _ _ _ h hs ho => h.leavesFlags hs ho) (inv_start front queue queue_struct waits)

/-- A request for the session manager and a reply for the IP task of port 2 are delivered in one pass, and the IP task has its mutex back
first. -/
def replyOvertakes : List NetAct :=
  [.queue ⟨1, ⟨IPTask_id 1, UNUSED, Out1⟩, true⟩, .queue ⟨2, ⟨SessionManagerTask_id, UNUSED, 4⟩, true⟩, .next, .next, .next,
    .read (IPTask_id 2)]

/-- The session manager's `receive` will return false. -/
theorem not_owned_always :
    ¬∀ acts, Always Signals.step Signals.Owned (Signals.start (fun _ => (0, 0)) (fun _ => false) (fun _ => .zero) (fun _ => true)) acts := by
  intro h
  have hrun : (run Signals.step (Signals.start (fun _ => (0, 0)) (fun _ => false) (fun _ => .zero) (fun _ => true)) replyOvertakes).map
      (fun s => (s.owed SessionManagerTask_id, s.net.g.MessageSignal SessionManagerTask_id)) = some (true, false) := by
    rfl
  obtain ⟨s, hs, he⟩ := Option.map_eq_some_iff.mp hrun
  obtain ⟨ho, hm⟩ := Prod.mk.inj he
  have howned := always_iff_beginning.mp (h replyOvertakes) replyOvertakes [] s (List.append_nil _).symm hs
  exact absurd (hm.symm.trans (howned.flag _ ho)) Bool.false_ne_true

end HomeBridge
