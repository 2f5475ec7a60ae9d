import HomeBridge.Ihaplite.Framework

/-!
# The time manager: countdowns and alarm signals

`timemanager.c`. Every task has a countdown and a signal flag; a tick counts every running countdown down and raises the flag
of those that run out. That the tick also signals the task's condition needs no step of its own here: a task may wake at any
time, for a signal or without one.
-/

namespace HomeBridge

/-- The two arrays every thread may read and write. -/
structure Alarms where
  AlarmCountdown : Nat → Nat
  AlarmSignal : Nat → Bool

/-- The arrays as `main` clears them. -/
def Alarms.cleared : Alarms := ⟨fun _ => 0, fun _ => false⟩

/-- One turn of the loop of `TimeManagerTask`. -/
def tickEntry (a : Alarms) (i : Nat) : Alarms :=
  if a.AlarmCountdown i = 0 then a
  else if a.AlarmCountdown i ≤ 1 then
    { AlarmSignal := Function.update a.AlarmSignal i true, AlarmCountdown := Function.update a.AlarmCountdown i 0 }
  else { a with AlarmCountdown := Function.update a.AlarmCountdown i (a.AlarmCountdown i - 1) }

/-- One tick of `TimeManagerTask`. -/
def tick (a : Alarms) : Alarms := (List.range MAX_TASKS).foldl tickEntry a

/-- `alarmSet`: start a countdown, in tenths of a second. -/
def alarmSet (a : Alarms) (Task_id time : Nat) : Alarms :=
  { a with AlarmCountdown := Function.update a.AlarmCountdown Task_id time }

/-- `alarmTestAndReset`: whether the alarm has occurred; asking clears it. -/
def alarmTestAndReset (a : Alarms) (Task_id : Nat) : Bool × Alarms :=
  if a.AlarmSignal Task_id then (true, { a with AlarmSignal := Function.update a.AlarmSignal Task_id false })
  else (false, a)

/-- The alarm number of the message handler, which is not a task. -/
@[simp] def handlerAlarm : Nat := MAX_TASKS - 1

end HomeBridge
