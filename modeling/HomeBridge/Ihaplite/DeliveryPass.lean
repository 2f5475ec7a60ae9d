import HomeBridge.Lib.Loop
import HomeBridge.Lib.Run
import HomeBridge.Ihaplite.MsgHandler

/-!
# A pass over the queue

`queue_nextmsg`, `queue_remove` and the loop between them share a cursor and a buffer, and the buffer is what the loop rewrites: the sender
in `msg_context` is replaced by the receiver before it is known whether the receiver can be locked. The queue keeps its own copy, so that a
message left there is presented in the next pass as it was stored.
-/

namespace HomeBridge

open Runs

/-- The body of the loop, with what `trylock` answers for the slot that is presented. -/
def present (trylock : Nat → Bool) (g : Globals) : Globals := deliver (trylock g.currentmsg.toNat) g

theorem deliveryPass_eq_turns (trylock : Nat → Bool) : ∀ (n : Nat) (g : Globals),
    deliveryPass trylock n g = Loop.turns queue_nextmsg (present trylock) n g := by
  intro n
  induction n with
  | zero => intro g; rfl
  | succ n ih =>
    intro g
    rw [deliveryPass, Loop.turns]
    rcases queue_nextmsg g with ⟨_ | _, g₁⟩
    · rfl
    · exact ih _

/-- A pass from `g` to `g'` that has let the states `l` into the body: each message queued is presented once, in the order of the slots, as
it is in `stored`; the slots whose receiver was locked are freed and the others left; the cursor is set back. -/
structure Delivers (trylock : Nat → Bool) (stored : Nat → Context) (g : Globals) (l : List Globals) (g' : Globals) : Prop where
  presented : l.map (fun g => (g.currentmsg, g.msg_context)) =
    ((List.range QUEUESIZE).filter g.queue).map fun (i : Nat) => ((i : Int), stored i)
  queue : ∀ i < QUEUESIZE, g'.queue i = (g.queue i && !trylock i)
  queue_struct : g'.queue_struct = g.queue_struct
  currentmsg : g'.currentmsg = -1

/-- `queue_add` stores into the lowest free slot, or reports that there is none, and changes nothing else. -/
structure AddsLowest (g : Globals) : Prop where
  free : ∀ c < QUEUESIZE, g.queue c = false → (∀ j < c, g.queue j = true) → queue_add g = (0, { g with
    queue_struct := Function.update g.queue_struct c g.msg_context
    queue := Function.update g.queue c true })
  full : (∀ c < QUEUESIZE, g.queue c = true) → queue_add g = (EOVERFLOW, g)

theorem addsLowest (g : Globals) : AddsLowest g where
  free := fun c hc hfree hlow => by
    have hf : firstFree g = some c :=
      List.find?_range_eq_some.mpr ⟨by simp [hfree], List.mem_range.mpr hc, fun j hj => by simp [hlow j hj]⟩
    rw [queue_add, hf]
  full := fun h => by rw [queue_add, firstFree_eq_none.mpr h]

/-! ## One pass -/

/-- What delivering does to the slots. -/
theorem deliver_queue (locked : Bool) (g : Globals) : (deliver locked g).queue =
    if locked then Function.update g.queue g.currentmsg.toNat false else g.queue := by
  cases locked <;> rfl

section pass

variable {trylock : Nat → Bool} {g g' : Globals} {l : List Globals}

/-- The slots from `k` on that are occupied: the next one, and those behind it. -/
theorem filter_nextOccupied {k i : Nat} (hk : (g.currentmsg + 1).toNat = k) (h : nextOccupied g = some i) :
    (List.range' k (QUEUESIZE - k)).filter g.queue = i :: (List.range' (i + 1) (QUEUESIZE - (i + 1))).filter g.queue := by
  obtain ⟨hq, hki, hi, hlow⟩ := nextOccupied_eq_some h
  rw [hk] at hki hlow
  have hsplit : List.range' k (QUEUESIZE - k) = List.range' k (i - k) ++ i :: List.range' (i + 1) (QUEUESIZE - (i + 1)) := by
    have happ := List.range'_append_1 (s := k) (m := i - k) (n := QUEUESIZE - i)
    rw [show k + (i - k) = i by omega, show QUEUESIZE - i = QUEUESIZE - (i + 1) + 1 by omega, List.range'_succ] at happ
    rw [happ]
    congr 1
    omega
  have hnil : (List.range' k (i - k)).filter g.queue = [] := by
    refine List.filter_eq_nil_iff.mpr fun j hj => ?_
    rw [List.mem_range'_1] at hj
    rw [hlow j hj.1 (by omega)]
    exact Bool.false_ne_true
  rw [hsplit, List.filter_append, hnil, List.nil_append, List.filter_cons_of_pos hq]

/-- The last turn finds no slot. -/
theorem queue_nextmsg_false (h : queue_nextmsg g = (false, g')) : nextOccupied g = none ∧ g' = { g with currentmsg := -1 } := by
  unfold queue_nextmsg at h
  cases hn : nextOccupied g with
  | none =>
    rw [hn] at h
    exact ⟨rfl, (Prod.mk.inj h).2.symm⟩
  | some i =>
    rw [hn] at h
    exact absurd (Prod.mk.inj h).1.symm Bool.false_ne_true

theorem queue_nextmsg_true (h : queue_nextmsg g = (true, g')) :
    ∃ i, nextOccupied g = some i ∧ g' = { g with currentmsg := i, msg_context := g.queue_struct i } := by
  unfold queue_nextmsg at h
  cases hn : nextOccupied g with
  | none =>
    rw [hn] at h
    exact absurd (Prod.mk.inj h).1 Bool.false_ne_true
  | some i =>
    rw [hn] at h
    exact ⟨i, rfl, (Prod.mk.inj h).2.symm⟩

/-- The turn at slot `i` empties this slot, if it is not locked, and no other. -/
theorem present_queue {i : Nat} (j : Nat) :
    (present trylock { g with currentmsg := i, msg_context := g.queue_struct i }).queue j = (g.queue j && !(decide (j = i) && trylock j)) := by
  rw [present, deliver_queue]
  change (if trylock i = true then Function.update g.queue i false else g.queue) j = _
  by_cases hji : j = i
  · subst hji
    split
    · rename_i ht
      rw [Function.update_self, ht]
      simp
    · rename_i ht
      rw [Bool.eq_false_iff.mpr ht]
      simp
  · rw [decide_eq_false hji, Bool.false_and, Bool.not_false, Bool.and_true]
    split
    · exact Function.update_of_ne hji ..
    · rfl

/-- A pass from slot `k` on. -/
theorem delivers_from (h : Loop.Ends queue_nextmsg (present trylock) g l g') : ∀ {k : Nat}, g.currentmsg + 1 = k → k ≤ QUEUESIZE →
    l.map (fun g => (g.currentmsg, g.msg_context)) =
      ((List.range' k (QUEUESIZE - k)).filter g.queue).map (fun (i : Nat) => ((i : Int), g.queue_struct i)) ∧
    (∀ i < QUEUESIZE, g'.queue i = (g.queue i && !(decide (k ≤ i) && trylock i))) ∧
    g'.queue_struct = g.queue_struct ∧ g'.currentmsg = -1 := by
  induction h with
  | @done g g' hn =>
    intro k hk hle
    obtain ⟨hnone, rfl⟩ := queue_nextmsg_false hn
    have hfree : ∀ j, k ≤ j → j < QUEUESIZE → g.queue j = false := fun j hj =>
      nextOccupied_eq_none hnone j (by rw [hk]; exact hj)
    refine ⟨?_, fun i hi => ?_, rfl, rfl⟩
    · rw [List.filter_eq_nil_iff.mpr fun j hj => ?_]
      · rfl
      · rw [List.mem_range'_1] at hj
        rw [hfree j hj.1 (by omega)]
        exact Bool.false_ne_true
    · by_cases hki : k ≤ i
      · rw [hfree i hki hi, Bool.false_and]
      · rw [decide_eq_false hki, Bool.false_and, Bool.not_false, Bool.and_true]
  | @turn g g₁ g' l hn _ ih =>
    intro k hk hle
    obtain ⟨i, hsome, rfl⟩ := queue_nextmsg_true hn
    have hk' : (g.currentmsg + 1).toNat = k := by rw [hk]; rfl
    obtain ⟨-, hki, hi, hlow⟩ := nextOccupied_eq_some hsome
    rw [hk'] at hki hlow
    obtain ⟨hp, hf, hs, hc⟩ := @ih (i + 1) (by rw [present, deliver_currentmsg]; rfl) hi
    have hstruct : (present trylock { g with currentmsg := i, msg_context := g.queue_struct i }).queue_struct = g.queue_struct :=
      deliver_queue_struct ..
    rw [hstruct] at hp hs
    refine ⟨?_, fun j hj => ?_, hs, hc⟩
    · rw [List.map_cons, hp, filter_nextOccupied hk' hsome, List.map_cons]
      congr 2
      -- the slots behind `i` are as they were
      refine List.filter_congr fun j hj => ?_
      rw [List.mem_range'_1] at hj
      rw [present_queue, decide_eq_false (show ¬j = i by omega), Bool.false_and, Bool.not_false, Bool.and_true]
    · rw [hf j hj, present_queue]
      by_cases hkj : k ≤ j
      · by_cases hlt : j < i
        · rw [hlow j hkj hlt, Bool.false_and, Bool.false_and, Bool.false_and]
        · rw [decide_eq_true hkj]
          by_cases hji : j = i
          · rw [decide_eq_true hji, decide_eq_false (show ¬i + 1 ≤ j by omega), Bool.false_and, Bool.not_false, Bool.and_true]
          · rw [decide_eq_false hji, decide_eq_true (show i + 1 ≤ j by omega), Bool.false_and, Bool.not_false, Bool.and_true]
      · rw [decide_eq_false hkj, decide_eq_false (show ¬j = i by omega), decide_eq_false (show ¬i + 1 ≤ j by omega), Bool.false_and,
          Bool.not_false, Bool.and_true, Bool.and_true]

/-- A pass ends: the cursor moves on in every turn. -/
theorem pass_ends (trylock : Nat → Bool) (g : Globals) :
    ∃ l g', Loop.Ends queue_nextmsg (present trylock) g l g' ∧ l.length ≤ QUEUESIZE := by
  refine Loop.ends_of_variant (fun g => QUEUESIZE - (g.currentmsg + 1).toNat) (fun g g₁ hn => ?_) (Nat.sub_le ..)
  obtain ⟨i, hsome, rfl⟩ := queue_nextmsg_true hn
  obtain ⟨_, hki, hi, _⟩ := nextOccupied_eq_some hsome
  rw [present, deliver_currentmsg]
  change QUEUESIZE - (i + 1) < _
  omega

/-- A pass with the cursor before the first slot. -/
theorem pass_delivers {stored : Nat → Context} (hc : g.currentmsg = -1) (hs : ∀ i < QUEUESIZE, g.queue_struct i = stored i)
    (h : Loop.Ends queue_nextmsg (present trylock) g l g') : Delivers trylock stored g l g' := by
  obtain ⟨hp, hf, hstruct, hcur⟩ := delivers_from h (k := 0) (by rw [hc]; rfl) (Nat.zero_le _)
  refine ⟨?_, fun i hi => ?_, hstruct, hcur⟩
  · rw [hp, Nat.sub_zero, List.range_eq_range']
    refine List.map_congr_left fun i hi => ?_
    rw [hs i (List.mem_range'_1.mp (List.mem_filter.mp hi).1).2]
  · rw [hf i hi, decide_eq_true (Nat.zero_le i), Bool.true_and]

end pass

/-! ## Every pass of every run -/

/-- The handler's globals, with a record of what `queue_add` stored last in each slot. -/
structure Handler where
  g : Globals
  stored : Nat → Context

/-- The steps: a task leaves a message in `msg_context`; `queue_add`; a pass, with what `trylock` answers for each slot. -/
inductive HandlerAct where
  | leave (context : Context)
  | add
  | pass (trylock : Nat → Bool)

namespace Handler

/-- Any queue, with the cursor before the first slot. -/
def start (g : Globals) : Handler := ⟨{ g with currentmsg := -1 }, g.queue_struct⟩

def step (h : Handler) : HandlerAct → Option Handler
  | .leave context => some { h with g := { h.g with msg_context := context } }
  | .add => some ⟨(queue_add h.g).2, (firstFree h.g).elim h.stored fun c => Function.update h.stored c h.g.msg_context⟩
  | .pass trylock => some { h with g := deliveryPass trylock (QUEUESIZE + 1) h.g }

/-- A pass ends and delivers, and the bound its model has does not cut it short; `queue_add` takes the lowest free slot. -/
def Sound (h : Handler) : HandlerAct → Prop
  | .leave _ => True
  | .add => AddsLowest h.g
  | .pass trylock => ∃ l g', Loop.Ends queue_nextmsg (present trylock) h.g l g' ∧ deliveryPass trylock (QUEUESIZE + 1) h.g = g' ∧
      Delivers trylock h.stored h.g l g'

/-- The cursor stands before the first slot, and every slot holds what was stored in it. -/
structure Inv (h : Handler) : Prop where
  currentmsg : h.g.currentmsg = -1
  stored : h.g.queue_struct = h.stored

/-- A pass from where the invariant holds. -/
theorem Inv.sound {h : Handler} (hi : h.Inv) (a : HandlerAct) : h.Sound a := by
  cases a with
  | leave context => trivial
  | add => exact addsLowest h.g
  | pass trylock =>
    obtain ⟨l, g', hends, hl⟩ := pass_ends trylock h.g
    refine ⟨l, g', hends, ?_, pass_delivers hi.currentmsg (fun i _ => congrFun hi.stored i) hends⟩
    rw [deliveryPass_eq_turns, hends.turns_eq (Nat.lt_succ_of_le hl)]

theorem Inv.step {h h' : Handler} (hi : h.Inv) {a : HandlerAct} (hs : h.step a = some h') : h'.Inv := by
  cases a with
  | leave context =>
    cases hs
    exact ⟨hi.currentmsg, hi.stored⟩
  | add =>
    cases hs
    cases hf : firstFree h.g with
    | none =>
      rw [queue_add, hf]
      exact ⟨hi.currentmsg, hi.stored⟩
    | some c =>
      rw [queue_add, hf]
      exact ⟨hi.currentmsg, by rw [← hi.stored]; rfl⟩
  | pass trylock =>
    cases hs
    obtain ⟨l, g', _, he, hd⟩ := hi.sound (.pass trylock)
    rw [he]
    exact ⟨hd.currentmsg, hd.queue_struct.trans hi.stored⟩

end Handler

/-- For every queue and every run of messages left, messages queued and passes, with every outcome of the trylocks. -/
theorem handler_sound (g : Globals) (acts : List HandlerAct) : AtEach Handler.step Handler.Sound (Handler.start g) acts := by
  intro pre a post h _ hrun
  have hi : h.Inv := run_invariant (P := Handler.Inv) (fun _ _ _ hi hs => hi.step hs) ⟨rfl, rfl⟩ hrun
  exact hi.sound a

end HomeBridge
