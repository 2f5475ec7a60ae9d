import HomeBridge.Ihaplite.SessionTimeouts

/-!
# When an alarm goes off

`TimeManagerTask` goes through the countdowns of all tasks, again and again, and the tasks set their alarms and ask for them while it
does. One step here is its turn at one entry or a call of another task. An alarm that was set to `n` goes off at the `n`-th tick that
comes to its entry, whatever is called for other tasks, and however often the task asks.
-/

namespace HomeBridge

/-- The two arrays, and the entry the loop of `TimeManagerTask` is at. -/
structure TimeManager where
  alarms : Alarms
  i : Nat

/-- The turn of the loop at its entry, or a call of a task. -/
inductive AlarmAct where
  | turn
  | alarmSet (Task_id time : Nat)
  | alarmTestAndReset (Task_id : Nat)
deriving DecidableEq

namespace TimeManager

/-- One step. Behind the last entry the loop sleeps and begins again. -/
def step (s : TimeManager) : AlarmAct → TimeManager
  | .turn => ⟨tickEntry s.alarms s.i, if s.i + 1 < MAX_TASKS then s.i + 1 else 0⟩
  | .alarmSet Task_id time => { s with alarms := HomeBridge.alarmSet s.alarms Task_id time }
  | .alarmTestAndReset Task_id => { s with alarms := (HomeBridge.alarmTestAndReset s.alarms Task_id).2 }

/-- Steps one after the other. -/
def run (s : TimeManager) (acts : List AlarmAct) : TimeManager := acts.foldl step s

/-- The step is a tick that comes to the entry of `T`. -/
def TicksAt (s : TimeManager) (act : AlarmAct) (T : Nat) : Prop := act = .turn ∧ s.i = T

instance (s : TimeManager) (act : AlarmAct) (T : Nat) : Decidable (s.TicksAt act T) := inferInstanceAs (Decidable (_ ∧ _))

/-- How many ticks come to the entry of `T`. -/
def ticks (T : Nat) : TimeManager → List AlarmAct → Nat
  | _, [] => 0
  | s, act :: acts => (if s.TicksAt act T then 1 else 0) + ticks T (s.step act) acts

/-- The step raises the flag of `T`: were it down before, it would be up after it. -/
def Raises (s : TimeManager) (act : AlarmAct) (T : Nat) : Prop :=
  (step { s with alarms := { s.alarms with AlarmSignal := Function.update s.alarms.AlarmSignal T false } } act).alarms.AlarmSignal T = true

/-- The step is about another task. -/
def Elsewhere (s : TimeManager) (T : Nat) : AlarmAct → Prop
  | .turn => s.i ≠ T
  | .alarmSet Task_id _ | .alarmTestAndReset Task_id => Task_id ≠ T

section

variable {s : TimeManager} {T : Nat} {act : AlarmAct} {acts : List AlarmAct}

/-- Undisturbed, the loop goes through a tick. -/
theorem run_turns (a : Alarms) : run ⟨a, 0⟩ (List.replicate MAX_TASKS .turn) = ⟨tick a, 0⟩ := by
  have hturns : ∀ k ≤ MAX_TASKS, run ⟨a, 0⟩ (List.replicate k .turn) =
      ⟨(List.range k).foldl tickEntry a, if k < MAX_TASKS then k else 0⟩ := by
    intro k
    induction k with
    | zero => exact fun _ => rfl
    | succ k ih =>
      intro hk
      have hlt : k < MAX_TASKS := hk
      have ih := ih (Nat.le_of_lt hlt)
      rw [if_pos hlt, run] at ih
      rw [run, List.replicate_succ', List.foldl_append, ih, List.range_succ, List.foldl_append]
      rfl
  exact hturns MAX_TASKS (Nat.le_refl _)

/-- What is about another task leaves the countdown and the flag alone. -/
theorem elsewhere_leaves (h : s.Elsewhere T act) : (s.step act).alarms.AlarmCountdown T = s.alarms.AlarmCountdown T ∧
    (s.step act).alarms.AlarmSignal T = s.alarms.AlarmSignal T := by
  cases act with
  | turn => exact tickEntry_of_ne (Ne.symm h)
  | alarmSet Task_id time => exact ⟨Function.update_of_ne (Ne.symm h) .., rfl⟩
  | alarmTestAndReset Task_id =>
    rw [step, HomeBridge.alarmTestAndReset]
    split
    · exact ⟨rfl, Function.update_of_ne (Ne.symm h) ..⟩
    · exact ⟨rfl, rfl⟩

/-- A step that sets no alarm for `T` counts it down exactly if it is a tick that comes to `T`. -/
theorem countdown_step (hno : ∀ time, act ≠ .alarmSet T time) : (s.step act).alarms.AlarmCountdown T =
    s.alarms.AlarmCountdown T - if s.TicksAt act T then 1 else 0 := by
  by_cases he : s.Elsewhere T act
  · have hnot : ¬s.TicksAt act T := by
      rintro ⟨rfl, hi⟩
      exact he hi
    rw [if_neg hnot]
    exact (elsewhere_leaves he).1
  · cases act with
    | turn =>
      have hi : s.i = T := not_not.mp he
      rw [if_pos ⟨rfl, hi⟩, step, hi]
      exact tickEntry_self.1
    | alarmSet Task_id time => exact absurd (not_not.mp he ▸ rfl) (hno time)
    | alarmTestAndReset Task_id =>
      have hnot : ¬s.TicksAt (.alarmTestAndReset Task_id) T := fun h => AlarmAct.noConfusion h.1
      rw [if_neg hnot, step, HomeBridge.alarmTestAndReset]
      split
      · rfl
      · rfl

/-- So do the steps of a run. -/
theorem countdown_run : ∀ {acts : List AlarmAct} {s : TimeManager}, (∀ time, .alarmSet T time ∉ acts) →
    (s.run acts).alarms.AlarmCountdown T = s.alarms.AlarmCountdown T - ticks T s acts := by
  intro acts
  induction acts with
  | nil => exact fun _ => rfl
  | cons act acts ih =>
    intro s hno
    have hact : ∀ time, act ≠ .alarmSet T time := fun time he => hno time (he ▸ List.mem_cons_self ..)
    have hrest : ∀ time, .alarmSet T time ∉ acts := fun time hmem => hno time (List.mem_cons_of_mem _ hmem)
    rw [run, List.foldl_cons, ← run, ih hrest, countdown_step hact, ticks, Nat.sub_sub]

/-- The flag is raised by a tick that comes to the entry when the countdown is at its last. -/
theorem raises_iff : s.Raises act T ↔ s.TicksAt act T ∧ s.alarms.AlarmCountdown T = 1 := by
  by_cases he : s.Elsewhere T act
  · have hnot : ¬s.TicksAt act T := by
      rintro ⟨rfl, hi⟩
      exact he hi
    have hleaves := @elsewhere_leaves
      { s with alarms := { s.alarms with AlarmSignal := Function.update s.alarms.AlarmSignal T false } } T act (by cases act <;> exact he)
    rw [Raises, hleaves.2]
    simp [hnot]
  · cases act with
    | turn =>
      have hi : s.i = T := not_not.mp he
      subst hi
      rw [Raises, step, tickEntry_self.2]
      simp [TicksAt]
    | alarmSet Task_id time =>
      simp [Raises, step, HomeBridge.alarmSet, TicksAt]
    | alarmTestAndReset Task_id =>
      have hid : Task_id = T := not_not.mp he
      subst hid
      simp [Raises, step, HomeBridge.alarmTestAndReset, TicksAt]

end

/-- An alarm that was set to `n`, and is not set again, goes off at the `n`-th tick that comes to its task and at no other step; and what
is done for other tasks does not touch it. -/
theorem alarm_on_time (s : TimeManager) (T n : Nat) :
    (∀ acts act, (∀ time, .alarmSet T time ∉ acts) → (((s.step (.alarmSet T n)).run acts).Raises act T ↔
      ((s.step (.alarmSet T n)).run acts).TicksAt act T ∧ ticks T (s.step (.alarmSet T n)) acts + 1 = n)) ∧
    ∀ s' act, Elsewhere s' T act → (s'.step act).alarms.AlarmCountdown T = s'.alarms.AlarmCountdown T ∧
      (s'.step act).alarms.AlarmSignal T = s'.alarms.AlarmSignal T := by
  refine ⟨fun acts act hno => ?_, fun s' act => elsewhere_leaves⟩
  have hset : (s.step (.alarmSet T n)).alarms.AlarmCountdown T = n := Function.update_self ..
  rw [raises_iff, countdown_run hno, hset]
  exact and_congr_right fun _ => by omega

/-- The alarm of task 2 is set to 1 when the loop is at the entry before; another task sets its own. -/
theorem alarm_on_time_next : Raises (run (step ⟨.cleared, 1⟩ (.alarmSet 2 1)) [.alarmSet 4 1, .turn]) .turn 2 := by
  refine ((alarm_on_time ⟨.cleared, 1⟩ 2 1).1 [.alarmSet 4 1, .turn] .turn (fun time h => ?_)).mpr (by decide)
  simp at h

end TimeManager

end HomeBridge
