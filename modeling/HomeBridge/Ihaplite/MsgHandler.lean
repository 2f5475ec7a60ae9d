import HomeBridge.Ihaplite.TimeManager

/-!
# The message handler: its queue, its loop body and what a task calls

`msghandler.c` over its globals. A task hands a message over in `msg_context` (`broadcast_msg`); the handler copies it into the
first free slot of its queue (`queue_add`), then presents every queued message in slot order (`queue_nextmsg`), each copied back
into `msg_context`, readdressed by the routing table and stored in its receiver's context when that context's mutex can be
taken. A holder is the pointer the tasks pass on; the handler never looks behind it.
-/

namespace HomeBridge

/-- The sender field of a context: `[TaskID, InputID, OutputID]`. -/
structure Sender where
  TaskID : Nat
  InputID : Nat
  OutputID : Nat
  deriving DecidableEq, Repr

/-- A context: a message pointer, its address, and whether the context is taken. -/
structure Context where
  holder : Nat
  sender : Sender
  occupied : Bool
  deriving DecidableEq, Repr

/-- A context nobody has written. -/
def Context.zero : Context := ⟨0, ⟨0, 0, 0⟩, false⟩

/-- The globals the message handler reads and writes, and what lies in front of each row of `msg_table`. -/
structure Globals where
  msg_context : Context
  queue : Nat → Bool
  queue_struct : Nat → Context
  currentmsg : Int
  alarms : Alarms
  Context_array : Nat → Context
  MessageSignal : Nat → Bool
  front : Nat → Nat × Nat

/-- The globals when the threads start: every slot free, nothing signalled. -/
def Globals.init (front : Nat → Nat × Nat) : Globals :=
  ⟨.zero, fun _ => false, fun _ => .zero, -1, .cleared, fun _ => .zero, fun _ => false, front⟩

/-- The errno a full queue is reported with. -/
@[simp] def EOVERFLOW : Int := 75

/-! ## The queue -/

/-- The first occupied slot after `currentmsg`. -/
def nextOccupied (g : Globals) : Option Nat :=
  (List.range' (g.currentmsg + 1).toNat (QUEUESIZE - (g.currentmsg + 1).toNat)).find? g.queue

/-- `queue_nextmsg`: the next queued message is copied into `msg_context`; after the last one `currentmsg` is set back. -/
def queue_nextmsg (g : Globals) : Bool × Globals :=
  match nextOccupied g with
  | some i => (true, { g with currentmsg := i, msg_context := g.queue_struct i })
  | none => (false, { g with currentmsg := -1 })

/-- The first free slot. -/
def firstFree (g : Globals) : Option Nat := (List.range QUEUESIZE).find? (fun counter => !g.queue counter)

/-- `queue_add`: `msg_context` is copied into the first free slot. -/
def queue_add (g : Globals) : Int × Globals :=
  match firstFree g with
  | some counter =>
    (0, { g with
      queue_struct := Function.update g.queue_struct counter g.msg_context
      queue := Function.update g.queue counter true })
  | none => (EOVERFLOW, g)

/-- `queue_remove`: the slot presented last is freed. -/
def queue_remove (g : Globals) : Globals := { g with queue := Function.update g.queue g.currentmsg.toNat false }

/-! ## The loop body -/

/-- `msgSignalAndRelease`. -/
def msgSignalAndRelease (g : Globals) (Task_id : Nat) : Globals :=
  { g with MessageSignal := Function.update g.MessageSignal Task_id true }

/-- `msgTestAndReset`. -/
def msgTestAndReset (g : Globals) (Task_id : Nat) : Bool × Globals :=
  if g.MessageSignal Task_id then (true, { g with MessageSignal := Function.update g.MessageSignal Task_id false })
  else (false, g)

/-- `msg_table[sender_taskid][sender_outputid - 1]`. A context that was delivered before has no output id any more; its index is -1, which
is no cell of the table. -/
def cell (g : Globals) (sender : Sender) : Nat × Nat :=
  if sender.OutputID = UNUSED then g.front sender.TaskID else route sender.TaskID sender.OutputID

/-- The task the presented message is for. -/
def receiver_taskid (g : Globals) : Nat := (cell g g.msg_context.sender).1

/-- The presented message's address, rewritten to its receiver. -/
def readdress (g : Globals) : Globals :=
  let r := cell g g.msg_context.sender
  { g with msg_context := { g.msg_context with sender := ⟨r.1, r.2, UNUSED⟩ } }

/-- What the handler does with a presented message once `pthread_mutex_trylock` on its receiver's context has answered:
deliver it and free its slot, or leave it and request an alarm in 200 ms. -/
def deliver (locked : Bool) (g : Globals) : Globals :=
  let receiver := receiver_taskid g
  let g := readdress g
  if locked then
    let context : Context :=
      { g.Context_array receiver with holder := g.msg_context.holder, sender := g.msg_context.sender }
    let g := { g with Context_array := Function.update g.Context_array receiver context }
    queue_remove (msgSignalAndRelease g g.msg_context.sender.TaskID)
  else { g with alarms := alarmSet g.alarms handlerAlarm 2 }

/-- `while( queue_nextmsg() )`: every queued message is presented. `trylock` answers for each slot; the first argument bounds
the number of turns (`deliveryPass_currentmsg`: one more than there are slots is enough). -/
def deliveryPass (trylock : Nat → Bool) : Nat → Globals → Globals
  | 0, g => g
  | n + 1, g =>
    match queue_nextmsg g with
    | (true, g) => deliveryPass trylock n (deliver (trylock g.currentmsg.toNat) g)
    | (false, g) => g

/-- The loop body of `msgHandler`, from a wake-up to the next wait. -/
def msgHandler (trylock : Nat → Bool) (g : Globals) : Globals :=
  let (alarm, alarms) := alarmTestAndReset g.alarms handlerAlarm
  let g := { g with alarms := alarms }
  let g := if alarm then g else (queue_add g).2
  let g := deliveryPass trylock (QUEUESIZE + 1) g
  { g with msg_context := { g.msg_context with occupied := false } }

/-! ## What a task calls -/

/-- `broadcast_msg`: a task leaves its message in `msg_context`. Refused (the task tries again) while it is occupied. -/
def broadcast_msg (g : Globals) (sender outport dataPtr : Nat) : Option Globals :=
  if g.msg_context.occupied then none
  else some { g with msg_context := ⟨dataPtr, ⟨sender, UNUSED, outport⟩, true⟩ }

/-! ## Lemmas: the queue -/

/-- The slot presented next is the first occupied one behind the current one. -/
theorem nextOccupied_eq_some {g : Globals} {i : Nat} (h : nextOccupied g = some i) :
    g.queue i = true ∧ (g.currentmsg + 1).toNat ≤ i ∧ i < QUEUESIZE ∧
      ∀ j, (g.currentmsg + 1).toNat ≤ j → j < i → g.queue j = false := by
  obtain ⟨h1, h2, h3⟩ := List.find?_range'_eq_some.mp h
  rw [List.mem_range'_1] at h2
  exact ⟨h1, h2.1, by omega, fun j hj hji => by simpa using h3 j hj hji⟩

/-- At the end of a pass there is none behind it. -/
theorem nextOccupied_eq_none {g : Globals} (h : nextOccupied g = none) :
    ∀ j, (g.currentmsg + 1).toNat ≤ j → j < QUEUESIZE → g.queue j = false := by
  intro j h1 h2
  simpa using List.find?_range'_eq_none.mp h j h1 (by omega)

/-- `queue_add` fails exactly when every slot is occupied, and then changes nothing. -/
theorem firstFree_eq_none {g : Globals} : firstFree g = none ↔ ∀ c < QUEUESIZE, g.queue c = true := by
  unfold firstFree
  rw [List.find?_range_eq_none]
  simp

/-- The queue's operations change no context of a task and no flag. -/
theorem queue_nextmsg_frame (g : Globals) :
    (queue_nextmsg g).2.Context_array = g.Context_array ∧ (queue_nextmsg g).2.MessageSignal = g.MessageSignal := by
  unfold queue_nextmsg
  split <;> exact ⟨rfl, rfl⟩

/-- Nor does `queue_add`. -/
theorem queue_add_frame (g : Globals) :
    (queue_add g).2.Context_array = g.Context_array ∧ (queue_add g).2.MessageSignal = g.MessageSignal := by
  unfold queue_add
  split <;> exact ⟨rfl, rfl⟩

/-! ## Lemmas: the message flags -/

/-- Asking for a flag clears it and no other. -/
theorem msgTestAndReset_MessageSignal (g : Globals) (i : Nat) :
    (msgTestAndReset g i).2.MessageSignal = Function.update g.MessageSignal i false := by
  unfold msgTestAndReset
  split
  · rfl
  · rename_i hi
    exact (Function.update_eq_self_iff.mpr (Bool.eq_false_iff.mpr hi).symm).symm

/-- The contexts are left as they are. -/
theorem msgTestAndReset_Context_array (g : Globals) (i : Nat) : (msgTestAndReset g i).2.Context_array = g.Context_array := by
  unfold msgTestAndReset
  split <;> rfl

/-- The answer is the flag as it was. -/
theorem msgTestAndReset_fst (g : Globals) (i : Nat) : (msgTestAndReset g i).1 = g.MessageSignal i := by
  unfold msgTestAndReset
  cases g.MessageSignal i <;> rfl

/-! ## Lemmas: a pass over the queue -/

section deliver

variable (locked : Bool) (g : Globals)

@[simp] theorem deliver_queue_struct : (deliver locked g).queue_struct = g.queue_struct := by
  cases locked <;> rfl

@[simp] theorem deliver_currentmsg : (deliver locked g).currentmsg = g.currentmsg := by
  cases locked <;> rfl

@[simp] theorem deliver_holder : (deliver locked g).msg_context.holder = g.msg_context.holder := by
  cases locked <;> rfl

@[simp] theorem deliver_MessageSignal : (deliver locked g).MessageSignal =
    if locked then Function.update g.MessageSignal (receiver_taskid g) true else g.MessageSignal := by
  cases locked <;> rfl

/-- A delivery reaches the context of the receiver and no other. -/
theorem deliver_Context_array_of_ne {T : Nat} (h : T ≠ receiver_taskid g) :
    (deliver locked g).Context_array T = g.Context_array T := by
  cases locked with
  | false => rfl
  | true => exact Function.update_of_ne h _ _

end deliver

/-- Delivering fills no slot. -/
theorem deliver_queue_le {locked : Bool} {g : Globals} {i : Nat} (h : (deliver locked g).queue i = true) : g.queue i = true := by
  cases locked with
  | false => exact h
  | true =>
    by_cases hi : i = g.currentmsg.toNat
    · subst hi
      simp [deliver, readdress, queue_remove, msgSignalAndRelease] at h
    · simpa [deliver, readdress, queue_remove, msgSignalAndRelease, hi] using h

/-- What presenting a message preserves, and setting `currentmsg` back, a whole pass preserves. -/
theorem deliveryPass_induction {P : Globals → Prop} {trylock : Nat → Bool}
    (hnext : ∀ g i locked, nextOccupied g = some i → P g →
      P (deliver locked { g with currentmsg := i, msg_context := g.queue_struct i }))
    (hdone : ∀ g, P g → P { g with currentmsg := -1 }) : ∀ (n : Nat) {g : Globals}, P g → P (deliveryPass trylock n g) := by
  intro n
  induction n with
  | zero => intro g hg; exact hg
  | succ n ih =>
    intro g hg
    unfold deliveryPass queue_nextmsg
    cases hn : nextOccupied g with
    | some i => exact ih (hnext g i _ hn hg)
    | none => exact hdone g hg

/-- What a pass can do to the queue and to the message in `msg_context`: slots are freed and never filled, and the message is
replaced by queued ones only. -/
structure Presents (g g' : Globals) : Prop where
  queue_struct : g'.queue_struct = g.queue_struct
  queue_le : ∀ i, g'.queue i = true → g.queue i = true
  holder : g'.msg_context.holder = g.msg_context.holder ∨
    ∃ i < QUEUESIZE, g.queue i = true ∧ g'.msg_context.holder = (g.queue_struct i).holder

/-- One message presented. -/
theorem Presents.deliver {g g' : Globals} (h : Presents g g') {i : Nat} (hn : nextOccupied g' = some i) (locked : Bool) :
    Presents g (deliver locked { g' with currentmsg := i, msg_context := g'.queue_struct i }) := by
  obtain ⟨hq, _, hi, _⟩ := nextOccupied_eq_some hn
  refine ⟨?_, fun j hj => ?_, .inr ⟨i, hi, h.queue_le i hq, ?_⟩⟩
  · rw [deliver_queue_struct, h.queue_struct]
  · have hj' := deliver_queue_le hj
    exact h.queue_le j hj'
  · rw [deliver_holder, h.queue_struct]

/-- A pass presents queued messages and does nothing else to the queue. -/
theorem deliveryPass_presents (trylock : Nat → Bool) (n : Nat) (g : Globals) : Presents g (deliveryPass trylock n g) := by
  refine deliveryPass_induction (P := Presents g) (fun g' i locked hn h => h.deliver hn locked) ?_ n ?_
  · intro g' h
    exact ⟨h.queue_struct, h.queue_le, h.holder⟩
  · exact ⟨rfl, fun _ h => h, .inl rfl⟩

/-- A pass over a queue that holds a message ends with a queued message in `msg_context`. -/
theorem deliveryPass_holder {trylock : Nat → Bool} {n : Nat} {g : Globals} (hc : g.currentmsg = -1)
    (h : ∃ i < QUEUESIZE, g.queue i = true) :
    ∃ i < QUEUESIZE, g.queue i = true ∧ (deliveryPass trylock (n + 1) g).msg_context.holder = (g.queue_struct i).holder := by
  unfold deliveryPass queue_nextmsg
  cases hn : nextOccupied g with
  | none =>
    obtain ⟨i, hi, hq⟩ := h
    rw [nextOccupied_eq_none hn i (by simp [hc]) hi] at hq
    exact absurd hq (by decide)
  | some i =>
    obtain ⟨hq, _, hi, _⟩ := nextOccupied_eq_some hn
    obtain ⟨hs, hle, hh⟩ := deliveryPass_presents trylock n
      (deliver (trylock i) { g with currentmsg := i, msg_context := g.queue_struct i })
    rcases hh with hh | ⟨j, hj, hqj, hh⟩
    · exact ⟨i, hi, hq, hh.trans (deliver_holder _ _)⟩
    · have hqj' := deliver_queue_le hqj
      exact ⟨j, hj, hqj', hh.trans (by rw [deliver_queue_struct])⟩

/-- With one turn more than there are slots left, a pass ends with `currentmsg` set back: the bound cuts no pass short. -/
theorem deliveryPass_currentmsg (trylock : Nat → Bool) : ∀ (n : Nat) {g : Globals}, g.currentmsg < QUEUESIZE →
    QUEUESIZE < n + (g.currentmsg + 1).toNat → (deliveryPass trylock n g).currentmsg = -1 := by
  intro n
  induction n with
  | zero =>
    intro g h1 h2
    simp only [QUEUESIZE] at h1 h2
    omega
  | succ n ih =>
    intro g h1 h2
    unfold deliveryPass queue_nextmsg
    cases hn : nextOccupied g with
    | none => rfl
    | some i =>
      obtain ⟨_, h3, h4, _⟩ := nextOccupied_eq_some hn
      refine ih ?_ ?_
      · rw [deliver_currentmsg]
        exact Int.ofNat_lt.mpr h4
      · rw [deliver_currentmsg, show ((i : Int) + 1).toNat = i + 1 from rfl]
        omega

end HomeBridge
