import HomeBridge.Lib.Mailbox
import HomeBridge.Ihaplite.MsgHandler

/-!
# From the queue to the receiving tasks

A context of `Context_array` is a mailbox with one place. Its task holds the context's mutex except while it waits in `receive`,
so the handler's `pthread_mutex_trylock` succeeds exactly while the task waits, and also after the wait was signalled and before
the task has the mutex again. The handler presents one queued message after another; between any two of its steps the tasks
go on.
-/

namespace HomeBridge

open Runs Mailbox

/-- Where a task stands with its context's mutex: it holds it, it waits in `pthread_cond_wait`, or the wait is over and the
task has not got the mutex back yet. -/
inductive Phase where
  | running
  | waiting
  | woken
  deriving DecidableEq, Repr

/-- A message as a context holds it. -/
abbrev Held : Type := Nat × Sender

/-- The globals, where each task stands, and a history: what was put into each context and what its task read there. -/
structure Net where
  g : Globals
  phase : Nat → Phase
  history : List (Nat × Event Held)

/-- The steps: a message enters the queue, the handler's loop `while( queue_nextmsg() )` goes one turn on, a task calls `receive`,
a wait ends without a delivery (TimeManagerTask's signal, or spuriously), a task gets its mutex back and reads. -/
inductive NetAct where
  | queue (context : Context)
  | next
  | wait (T : Nat)
  | wake (T : Nat)
  | read (T : Nat)

/-- The number a task hands to `receive`: its own, except that `IPTask` hands over its VPS. -/
def receive_id (T : Nat) : Nat := if USER_TASKS ≤ T then T - USER_TASKS else T

namespace Net

/-- What a context holds. -/
def held (n : Net) (T : Nat) : Held := ((n.g.Context_array T).holder, (n.g.Context_array T).sender)

/-- The start: any queue, nothing signalled, every task running or waiting. -/
def start (front : Nat → Nat × Nat) (queue : Nat → Bool) (queue_struct : Nat → Context) (waits : Nat → Bool) : Net :=
  ⟨{ Globals.init front with queue := queue, queue_struct := queue_struct }, fun T => if waits T then .waiting else .running, []⟩

/-- The presented message is delivered; its receiver, if it waits, is signalled. -/
def delivered (n : Net) (g : Globals) : Net :=
  let T := receiver_taskid g
  let n' : Net := { n with g := deliver true g, phase := Function.update n.phase T .woken }
  { n' with history := n.history ++ [(T, .put (n'.held T))] }

/-- One turn of the handler's loop: the next queued message is presented, and delivered if the mutex of its receiver is free. -/
def next (n : Net) : Net :=
  match queue_nextmsg n.g with
  | (false, g) => { n with g := g }
  | (true, g) => if n.phase (receiver_taskid g) = .running then { n with g := deliver false g } else n.delivered g

/-- The return from `receive`. The session manager uses what it finds only when its message flag was set; the other tasks use it
in any case. -/
def read (n : Net) (T : Nat) : Net :=
  let r := msgTestAndReset n.g (receive_id T)
  { g := r.2
    phase := Function.update n.phase T .running
    history := if T = SessionManagerTask_id ∧ r.1 = false then n.history else n.history ++ [(T, .take (n.held T))] }

/-- One step. A message enters the queue only between the handler's passes. -/
def step (n : Net) : NetAct → Option Net
  | .queue context =>
    if n.g.currentmsg = -1 then some { n with g := (queue_add { n.g with msg_context := context }).2 } else none
  | .next => some n.next
  | .wait T => if n.phase T = .running then some { n with phase := Function.update n.phase T .waiting } else none
  | .wake T => if n.phase T = .waiting then some { n with phase := Function.update n.phase T .woken } else none
  | .read T => if n.phase T = .woken then some (n.read T) else none

/-- The history of one context. -/
def historyOf (n : Net) (T : Nat) : List (Event Held) := (n.history.filter (fun e => e.1 = T)).map Prod.snd

/-- Every message delivered to a task is read by it exactly once before the next one is delivered, and none is read that was
not delivered. -/
structure ReadOnce (n : Net) : Prop where
  between : ∀ T l₁ a l₂ b l₃, n.historyOf T = l₁ ++ .put a :: (l₂ ++ .put b :: l₃) → (∀ c, .put c ∉ l₂) → l₂ = [.take a]
  last : ∀ T l₁ a l₂, n.historyOf T = l₁ ++ .put a :: l₂ → (∀ c, .put c ∉ l₂) → l₂ = [] ∨ l₂ = [.take a]
  first : ∀ T, (∀ c, .put c ∉ n.historyOf T) → n.historyOf T = []

/-- The task's wait is over and it has not read yet. For the session manager, which can be woken by its alarm, that there is
something to read is what its message flag says. -/
def Unread (n : Net) (T : Nat) : Prop :=
  if T = SessionManagerTask_id then n.g.MessageSignal SessionManagerTask_id = true else n.phase T = .woken

instance (n : Net) (T : Nat) : Decidable (n.Unread T) := by unfold Unread; infer_instance

/-- The task the next presented message is for. -/
def receiver (n : Net) : Nat := receiver_taskid (queue_nextmsg n.g).2

/-- The steps that lose and repeat nothing: no delivery into a context with an unread message; the IP task whose number `receive`
takes for the session manager's does not return while the session manager has one; no task but the session manager is woken
without a delivery. -/
def InTurn (n : Net) : NetAct → Prop
  | .next => (queue_nextmsg n.g).1 = true → n.phase n.receiver ≠ .running → ¬n.Unread n.receiver
  | .wake T => T = SessionManagerTask_id
  | .read T => T ≠ SessionManagerTask_id → receive_id T = SessionManagerTask_id →
      n.g.MessageSignal SessionManagerTask_id = false
  | _ => True

instance (n : Net) (a : NetAct) : Decidable (n.InTurn a) := by
  cases a <;> unfold InTurn <;> infer_instance

/-! ## The invariant -/

/-- Every context is a mailbox: its history is one a mailbox can run through, to what the context holds if that is unread. -/
def Inv (n : Net) : Prop := ∀ T, run Mailbox.step none (n.historyOf T) = some (if n.Unread T then some (n.held T) else none)

theorem inv_start (front : Nat → Nat × Nat) (queue : Nat → Bool) (queue_struct : Nat → Context) (waits : Nat → Bool) :
    Inv (start front queue queue_struct waits) := by
  intro T
  have hu : ¬(start front queue queue_struct waits).Unread T := by
    unfold Unread start Globals.init
    split
    · exact Bool.false_ne_true
    · cases hw : waits T <;> simp [hw]
  rw [if_neg hu]
  rfl

/-- The invariant gives the property. -/
theorem Inv.readOnce {n : Net} (h : n.Inv) : ReadOnce n where
  between := fun T _ _ _ _ _ he hno => between_puts (he ▸ h T) hno
  last := fun T _ _ _ he hno => after_put (he ▸ h T) hno
  first := fun T hno => before_put (h T) hno

/-- A step that adds nothing to the history has to keep what is unread. -/
theorem Inv.silent {n n' : Net} (h : n.Inv) (hh : n'.history = n.history) (hu : ∀ T, n'.Unread T ↔ n.Unread T)
    (hc : n'.g.Context_array = n.g.Context_array) : n'.Inv := by
  intro T
  have hhT : n'.historyOf T = n.historyOf T := by rw [historyOf, hh, historyOf]
  have hcT : n'.held T = n.held T := by rw [held, hc, held]
  rw [hhT, hcT, h T]
  simp only [hu]

/-- A step that adds one event at one context has to be a step of that mailbox and leave the others alone. -/
theorem Inv.event {n n' : Net} (h : n.Inv) {T : Nat} {e : Event Held} (hh : n'.history = n.history ++ [(T, e)])
    (hT : Mailbox.step (if n.Unread T then some (n.held T) else none) e = some (if n'.Unread T then some (n'.held T) else none))
    (hu : ∀ U, U ≠ T → (n'.Unread U ↔ n.Unread U)) (hc : ∀ U, U ≠ T → n'.g.Context_array U = n.g.Context_array U) : n'.Inv := by
  intro U
  have hhU : n'.historyOf U = n.historyOf U ++ ([(T, e)].filter (fun e => e.1 = U)).map Prod.snd := by
    rw [historyOf, hh, List.filter_append, List.map_append, historyOf]
  by_cases hUT : U = T
  · subst hUT
    rw [hhU, List.filter_cons_of_pos (by simp), List.filter_nil]
    exact (run_concat (h U)).trans hT
  · have hcU : n'.held U = n.held U := by rw [held, hc U hUT, held]
    rw [hhU, List.filter_cons_of_neg (by simpa using fun he => hUT he.symm), List.filter_nil, List.map_nil,
      List.append_nil, hcU, h U]
    simp only [hu U hUT]

/-! ## The steps -/

theorem unread_of_ne {n : Net} {T : Nat} (h : T ≠ SessionManagerTask_id) : n.Unread T ↔ n.phase T = .woken := by
  rw [Unread, if_neg h]

theorem unread_sessionManager {n : Net} :
    n.Unread SessionManagerTask_id ↔ n.g.MessageSignal SessionManagerTask_id = true := by
  rw [Unread, if_pos rfl]

/-- The flags and the phases say what is unread. -/
theorem unread_congr {n n' : Net} {T : Nat}
    (hm : T = SessionManagerTask_id → n'.g.MessageSignal T = n.g.MessageSignal T)
    (hp : T ≠ SessionManagerTask_id → (n'.phase T = .woken ↔ n.phase T = .woken)) : n'.Unread T ↔ n.Unread T := by
  by_cases hT : T = SessionManagerTask_id
  · subst hT
    rw [unread_sessionManager, unread_sessionManager, hm rfl]
  · rw [unread_of_ne hT, unread_of_ne hT, hp hT]

/-- Moving one task from one phase to another changes what is unread only if one of the two is `woken`. -/
theorem unread_phase {n : Net} {T : Nat} {p : Phase} (h : T ≠ SessionManagerTask_id → (p = .woken ↔ n.phase T = .woken))
    (U : Nat) : Unread { n with phase := Function.update n.phase T p } U ↔ n.Unread U := by
  refine unread_congr (fun _ => rfl) fun hU => ?_
  by_cases hUT : U = T
  · subst hUT
    simpa using h hU
  · simp [hUT]

/-- A delivery fills the context of the receiver and leaves the others alone. -/
theorem Inv.delivered {n : Net} (h : n.Inv) {g : Globals} (hc : g.Context_array = n.g.Context_array)
    (hm : g.MessageSignal = n.g.MessageSignal) (hu : ¬n.Unread (receiver_taskid g)) : (n.delivered g).Inv := by
  have hm' : (n.delivered g).g.MessageSignal = Function.update n.g.MessageSignal (receiver_taskid g) true := by
    rw [← hm]
    exact deliver_MessageSignal true g
  have hu' : (n.delivered g).Unread (receiver_taskid g) := by
    unfold Unread
    split
    · rename_i hT
      rw [hm', hT, Function.update_self]
    · exact Function.update_self ..
  refine h.event rfl ?_ (fun U hU => unread_congr (fun _ => ?_) fun _ => ?_) (fun U hU => ?_)
  · rw [if_neg hu, if_pos hu']
    rfl
  · rw [hm', Function.update_of_ne hU]
  · change Function.update n.phase _ _ U = _ ↔ _
    rw [Function.update_of_ne hU]
  · rw [← hc]
    exact deliver_Context_array_of_ne true g hU

/-- One turn of the handler's loop. -/
theorem Inv.next {n : Net} (h : n.Inv) (hc : n.InTurn .next) : n.next.Inv := by
  obtain ⟨hq1, hq2⟩ := queue_nextmsg_frame n.g
  unfold Net.next
  unfold InTurn receiver at hc
  rcases hn : queue_nextmsg n.g with ⟨_ | _, g⟩
  · rw [hn] at hq1 hq2
    exact h.silent rfl (fun T => unread_congr (fun _ => congrFun hq2 T) fun _ => Iff.rfl) hq1
  · rw [hn] at hq1 hq2 hc
    by_cases hp : n.phase (receiver_taskid g) = .running
    · simp only [hp, if_true]
      refine h.silent rfl (fun T => unread_congr (fun _ => ?_) fun _ => Iff.rfl) hq1
      exact (congrFun (deliver_MessageSignal false g) T).trans (congrFun hq2 T)
    · simp only [hp, if_false]
      exact h.delivered hq1 hq2 (hc rfl hp)

/-- A return from `receive`: the session manager without a message reads nothing, any other task empties its context. -/
theorem Inv.read {n : Net} (h : n.Inv) {T : Nat} (hp : n.phase T = .woken) (hc : n.InTurn (.read T)) : (n.read T).Inv := by
  have hm : (n.read T).g.MessageSignal = Function.update n.g.MessageSignal (receive_id T) false :=
    msgTestAndReset_MessageSignal n.g _
  have hctx : (n.read T).g.Context_array = n.g.Context_array := msgTestAndReset_Context_array n.g _
  have hself : receive_id SessionManagerTask_id = SessionManagerTask_id := rfl
  by_cases hr : T = SessionManagerTask_id ∧ n.g.MessageSignal (receive_id T) = false
  · have hhist : (n.read T).history = n.history := if_pos (by rwa [msgTestAndReset_fst])
    obtain ⟨rfl, hf⟩ := hr
    refine h.silent hhist (fun U => unread_congr (fun hU => ?_) fun hU => ?_) hctx
    · rw [hm, hU, hself, Function.update_self, ← hf, hself]
    · change Function.update n.phase _ _ U = _ ↔ _
      rw [Function.update_of_ne hU]
  · have hhist : (n.read T).history = n.history ++ [(T, .take (n.held T))] := if_neg (by rwa [msgTestAndReset_fst])
    have hu : n.Unread T := by
      unfold Unread
      split
      · rename_i hT
        subst hT
        exact eq_true_of_ne_false fun hf => hr ⟨rfl, hf⟩
      · exact hp
    have hu' : ¬(n.read T).Unread T := by
      unfold Unread
      split
      · rename_i hT
        rw [hm, hT, hself, Function.update_self]
        exact Bool.false_ne_true
      · change Function.update n.phase _ _ T ≠ _
        rw [Function.update_self]
        exact nofun
    refine h.event hhist ?_ (fun U hU => unread_congr (fun hSM => ?_) fun _ => ?_) (fun U _ => congrFun hctx U)
    · rw [if_pos hu, if_neg hu', step_take]
    · -- only the IP task that hands over the session manager's number reaches its flag
      rw [hm]
      by_cases hid : U = receive_id T
      · rw [hid, Function.update_self, ← hid, hSM]
        exact (hc (hSM ▸ hU.symm) (hid.symm.trans hSM)).symm
      · rw [Function.update_of_ne hid]
    · change Function.update n.phase _ _ U = _ ↔ _
      rw [Function.update_of_ne hU]

/-- A step in turn keeps the invariant. -/
theorem Inv.step {n n' : Net} {a : NetAct} (h : n.Inv) (hc : n.InTurn a) (hs : n.step a = some n') : n'.Inv := by
  cases a with
  | queue context =>
    simp only [Net.step, Option.ite_none_right_eq_some, Option.some.injEq] at hs
    obtain ⟨_, rfl⟩ := hs
    obtain ⟨h1, h2⟩ := queue_add_frame { n.g with msg_context := context }
    exact h.silent rfl (fun U => unread_congr (fun _ => congrFun h2 U) fun _ => Iff.rfl) h1
  | next =>
    cases hs
    exact h.next hc
  | wait T =>
    simp only [Net.step, Option.ite_none_right_eq_some, Option.some.injEq] at hs
    obtain ⟨hp, rfl⟩ := hs
    exact h.silent rfl (unread_phase fun _ => by simp [hp]) rfl
  | wake T =>
    simp only [Net.step, Option.ite_none_right_eq_some, Option.some.injEq] at hs
    obtain ⟨hp, rfl⟩ := hs
    exact h.silent rfl (unread_phase fun hT => absurd hc hT) rfl
  | read T =>
    simp only [Net.step, Option.ite_none_right_eq_some, Option.some.injEq] at hs
    obtain ⟨hp, rfl⟩ := hs
    exact h.read hp hc

end Net

/-! ## Every run -/

/-- Over any interleaving of the handler's turns with the steps of the tasks, from any queue: while every step is in turn, every
message delivered to a task is read by it exactly once before the next one overwrites it. -/
theorem delivered_read_once (front : Nat → Nat × Nat) (queue : Nat → Bool) (queue_struct : Nat → Context) (waits : Nat → Bool)
    (acts : List NetAct) (h : Along Net.step Net.InTurn (Net.start front queue queue_struct waits) acts) :
    Always Net.step Net.ReadOnce (Net.start front queue queue_struct waits) acts :=
  Along.always (I := Net.Inv) (fun _ hi => hi.readOnce) (fun _ _ _ hi hc hs => hi.step hc hs)
    (Net.inv_start front queue queue_struct waits) h

/-- Two requests for the session manager, queued while it waits; the second is presented after the first was read. -/
theorem delivered_read_once_in_turn :
    Along Net.step Net.InTurn (Net.start (fun _ => (0, 0)) (fun _ => false) (fun _ => .zero) (fun _ => true))
      [.queue ⟨1, ⟨IPTask_id 1, UNUSED, Out1⟩, true⟩, .next, .next, .read SessionManagerTask_id, .wait SessionManagerTask_id,
        .queue ⟨2, ⟨IPTask_id 2, UNUSED, Out1⟩, true⟩, .next, .next, .read SessionManagerTask_id] ∧
    Always Net.step Net.ReadOnce (Net.start (fun _ => (0, 0)) (fun _ => false) (fun _ => .zero) (fun _ => true))
      [.queue ⟨1, ⟨IPTask_id 1, UNUSED, Out1⟩, true⟩, .next, .next, .read SessionManagerTask_id, .wait SessionManagerTask_id,
        .queue ⟨2, ⟨IPTask_id 2, UNUSED, Out1⟩, true⟩, .next, .next, .read SessionManagerTask_id] :=
  ⟨by decide, delivered_read_once _ _ _ _ _ (by decide)⟩

/-- Two requests wait in the queue while the session manager is busy; both are presented in the handler's next pass, before the
session manager, woken by the first, has its mutex back. -/
def bothInOnePass : List NetAct :=
  [.queue ⟨1, ⟨IPTask_id 1, UNUSED, Out1⟩, true⟩, .next, .next, .queue ⟨2, ⟨IPTask_id 2, UNUSED, Out1⟩, true⟩, .next, .next,
    .next, .wait SessionManagerTask_id, .next, .next, .next, .read SessionManagerTask_id]

/-- The first request is overwritten unread. -/
theorem not_delivered_read_once :
    ¬∀ acts, Always Net.step Net.ReadOnce (Net.start (fun _ => (0, 0)) (fun _ => false) (fun _ => .zero) (fun _ => false)) acts := by
  intro h
  have hrun : (run Net.step (Net.start (fun _ => (0, 0)) (fun _ => false) (fun _ => .zero) (fun _ => false)) bothInOnePass).map Net.history =
      some [(SessionManagerTask_id, .put (1, ⟨SessionManagerTask_id, In1, UNUSED⟩)),
        (SessionManagerTask_id, .put (2, ⟨SessionManagerTask_id, In1, UNUSED⟩)),
        (SessionManagerTask_id, .take (2, ⟨SessionManagerTask_id, In1, UNUSED⟩))] := by
    rfl
  obtain ⟨n, hn, hh⟩ := Option.map_eq_some_iff.mp hrun
  have hn' := always_iff_beginning.mp (h bothInOnePass) bothInOnePass [] n (by simp) hn
  have hl := hn'.between SessionManagerTask_id [] _ [] _ _ (by rw [Net.historyOf, hh]; rfl) (by simp)
  cases hl

end HomeBridge
