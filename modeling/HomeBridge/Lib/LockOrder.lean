import Mathlib.Logic.Hydra
import HomeBridge.Lib.Locks

/-!
# Mutexes taken in an order

Code is `Upward` if it takes each mutex above all it holds, for some ranking of the mutexes, and holds none at its end. Threads
that run such code never wait for one another in a circle: whoever waits does so, through holders that wait themselves, for one
that can run or is where nothing defined follows, and the threads there are can all be brought to their ends. A release by who
does not hold the mutex does no harm to this: it only makes a mutex free.
-/

namespace Locks

open Runs

variable {ν μ μ' σ ι : Type}

section upward

variable [DecidableEq μ]

/-- Code that from where it is on, holding `held` inside `depth` functions, takes mutexes upwards only, and is done with `last`
held. -/
def Code.Upward (rank : μ → Nat) (last : Finset μ) : Code ν μ σ → Finset μ → Nat → Prop
  | .done, held, depth => held = last ∧ depth = 0
  | .halt, _, _ => True
  | .lock m k, held, depth => (∀ h ∈ held, rank h < rank m) ∧ k.Upward rank last (insert m held) depth
  | .unlock m k, held, depth => k.Upward rank last (held.erase m) depth
  | .act _ k, held, depth => ∀ s, (k s).Upward rank last held depth
  | .choose k, held, depth => ∀ b, (k b).Upward rank last held depth
  | .call _ k, held, depth => k.Upward rank last held (depth + 1)
  | .ret _, _, 0 => False
  | .ret k, held, depth + 1 => k.Upward rank last held depth

variable {rank : μ → Nat} {last : Finset μ}

/-- A function is inside one more. -/
theorem Code.upward_call {n : ν} {k : Code ν μ σ} {held : Finset μ} {depth : Nat} (h : k.Upward rank last held (depth + 1)) :
    (Code.call n k).Upward rank last held depth := h

theorem Code.upward_done : (Code.done : Code ν μ σ).Upward rank last last 0 := ⟨rfl, rfl⟩

end upward

/-! ## Code put together -/

/-- The same code with other names for its mutexes. -/
def Code.rename (g : μ → μ') : Code ν μ σ → Code ν μ' σ
  | .done => .done
  | .halt => .halt
  | .lock m k => .lock (g m) (k.rename g)
  | .unlock m k => .unlock (g m) (k.rename g)
  | .act f k => .act f fun s => (k s).rename g
  | .choose k => .choose fun b => (k b).rename g
  | .call n k => .call n (k.rename g)
  | .ret k => .ret (k.rename g)

/-- Where the code is done it goes on with `next`. -/
def Code.andThen : Code ν μ σ → Code ν μ σ → Code ν μ σ
  | .done, next => next
  | .halt, _ => .halt
  | .lock m k, next => .lock m (k.andThen next)
  | .unlock m k, next => .unlock m (k.andThen next)
  | .act f k, next => .act f fun s => (k s).andThen next
  | .choose k, next => .choose fun b => (k b).andThen next
  | .call n k, next => .call n (k.andThen next)
  | .ret k, next => .ret (k.andThen next)

section compose

variable [DecidableEq μ] [DecidableEq μ'] {rank : μ → Nat} {last : Finset μ}

theorem Code.Upward.rename {rank' : μ' → Nat} {g : μ → μ'} (hg : Function.Injective g)
    (hrank : ∀ m n, rank m < rank n → rank' (g m) < rank' (g n)) {code : Code ν μ σ} :
    ∀ {held depth}, code.Upward rank last held depth → (code.rename g).Upward rank' (last.image g) (held.image g) depth := by
  induction code with
  | done =>
    rintro held depth ⟨rfl, rfl⟩
    exact ⟨rfl, rfl⟩
  | halt => exact fun _ => trivial
  | lock m k ih =>
    rintro held depth ⟨habove, hk⟩
    refine ⟨fun h' hh' => ?_, ?_⟩
    · obtain ⟨h, hh, rfl⟩ := Finset.mem_image.mp hh'
      exact hrank h m (habove h hh)
    · rw [← Finset.image_insert]
      exact ih hk
  | unlock m k ih =>
    intro held depth hk
    change (k.rename g).Upward rank' (last.image g) ((held.image g).erase (g m)) depth
    rw [← Finset.image_erase hg]
    exact ih hk
  | act f k ih => exact fun hk s => ih s (hk s)
  | choose k ih => exact fun hk b => ih b (hk b)
  | call n k ih => exact fun hk => ih hk
  | ret k ih =>
    intro held depth hk
    cases depth with
    | zero => exact hk
    | succ depth => exact ih hk

/-- A piece of code that is entered and left inside some functions, and what follows it there. -/
theorem Code.Upward.andThen {code next : Code ν μ σ} {last' : Finset μ} {outer : Nat}
    (hnext : next.Upward rank last' last outer) :
    ∀ {held depth}, code.Upward rank last held depth → (code.andThen next).Upward rank last' held (depth + outer) := by
  induction code with
  | done =>
    rintro held depth ⟨rfl, rfl⟩
    rw [Nat.zero_add]
    exact hnext
  | halt => exact fun _ => trivial
  | lock m k ih => exact fun h => ⟨h.1, ih h.2⟩
  | unlock m k ih => exact fun h => ih h
  | act f k ih => exact fun h s => ih s (h s)
  | choose k ih => exact fun h b => ih b (h b)
  | call n k ih =>
    intro held depth h
    change (k.andThen next).Upward rank last' held (depth + outer + 1)
    rw [Nat.add_right_comm]
    exact ih h
  | ret k ih =>
    intro held depth h
    cases depth with
    | zero => exact h.elim
    | succ depth =>
      rw [Nat.add_right_comm]
      exact ih h

end compose

/-! ## What threads wait for and have to run -/

/-- The rank of the mutex a thread is at. -/
def Thread.waitRank (rank : μ → Nat) (t : Thread ν μ σ) : Nat :=
  match t.code with
  | .lock m _ => rank m
  | _ => 0

/-- No thread of a system is at a higher mutex. -/
def topRank (rank : μ → Nat) (threads : List (Thread ν μ σ)) : Nat := (threads.map (Thread.waitRank rank)).foldr max 0

theorem rank_le_topRank {rank : μ → Nat} {t : Thread ν μ σ} {threads : List (Thread ν μ σ)} (ht : t ∈ threads) :
    t.waitRank rank ≤ topRank rank threads := by
  induction threads with
  | nil => cases ht
  | cons v threads ih =>
    change t.waitRank rank ≤ max (v.waitRank rank) (topRank rank threads)
    rcases List.mem_cons.mp ht with rfl | ht
    · exact Nat.le_max_left ..
    · exact (ih ht).trans (Nat.le_max_right ..)

/-- What a piece of code can go on with. -/
def Code.Next (next : Code ν μ σ) : Code ν μ σ → Prop
  | .done | .halt => False
  | .lock _ k | .unlock _ k | .call _ k | .ret k => next = k
  | .act _ k => ∃ s, next = k s
  | .choose k => ∃ b, next = k b

theorem wellFounded_next : WellFounded (Code.Next : Code ν μ σ → Code ν μ σ → Prop) := by
  refine ⟨fun code => ?_⟩
  induction code with
  | done => exact ⟨_, fun _ h => h.elim⟩
  | halt => exact ⟨_, fun _ h => h.elim⟩
  | lock m k ih | unlock m k ih | call n k ih | ret k ih => exact ⟨_, fun _ h => h ▸ ih⟩
  | act f k ih => exact ⟨_, fun _ ⟨s, h⟩ => h ▸ ih s⟩
  | choose k ih => exact ⟨_, fun _ ⟨b, h⟩ => h ▸ ih b⟩

instance irrefl_next : Std.Irrefl (Code.Next : Code ν μ σ → Code ν μ σ → Prop) :=
  ⟨fun code h => wellFounded_next.irrefl.irrefl code h⟩

/-- What the threads still have to run. -/
def remaining (threads : List (Thread ν μ σ)) : Multiset (Code ν μ σ) := ↑(threads.map Thread.code)

theorem remaining_middle (pre post : List (Thread ν μ σ)) (t : Thread ν μ σ) :
    remaining (pre ++ t :: post) = {t.code} + remaining (pre ++ post) := by
  rw [remaining, remaining, Multiset.singleton_add, Multiset.cons_coe, Multiset.coe_eq_coe, ← List.map_cons]
  exact List.perm_middle.map _

/-! ## Waiting -/

section system

variable [DecidableEq μ]

/-- Thread `i` is at a mutex that is taken. -/
def Waiting (s : Sys ν μ σ) (i : Nat) : Prop :=
  ∃ t m k, s.threads[i]? = some t ∧ t.code = .lock m k ∧ s.taken m = true

/-- Thread `i` is at a mutex that is taken, and `j` took it and has not released it. -/
def WaitsFor (s : Sys ν μ σ) (i j : Nat) : Prop :=
  ∃ t m k u, s.threads[i]? = some t ∧ t.code = .lock m k ∧ s.taken m = true ∧ s.threads[j]? = some u ∧ m ∈ u.held

/-- The next operation of thread `j` has a result, however it is told. -/
def Runnable (s : Sys ν μ σ) (j : Nat) : Prop :=
  ∃ t, s.threads[j]? = some t ∧ ∀ choice, (exec s j choice t).isSome

/-- Thread `j` is where nothing defined follows. -/
def Crashed (s : Sys ν μ σ) (j : Nat) : Prop := ∃ t, s.threads[j]? = some t ∧ t.code = .halt

/-- Every thread is at its end, and every mutex is free. -/
def Finished (s : Sys ν μ σ) : Prop := (∀ t ∈ s.threads, t.code = .done) ∧ ∀ m, s.taken m = false

/-- No thread waits in vain: every one that waits does so, through others that do, for one that can run or is where nothing
defined follows; and the threads there are can be run until one of them is there or all are finished. -/
structure DeadlockFree (body : ι → Code ν μ σ) (s : Sys ν μ σ) : Prop where
  chain : ∀ i, Waiting s i → ∃ j, Relation.TransGen (WaitsFor s) i j ∧ (Runnable s j ∨ Crashed s j)
  finish : ∃ acts s', (∀ a ∈ acts, ∃ i choice, a = .run i choice) ∧ run (step body) s acts = some s' ∧
    ((∃ j, Crashed s' j) ∨ Finished s')

/-- The code of every thread takes mutexes upwards, and a mutex that is taken was taken by one of them. -/
structure Ordered (rank : μ → Nat) (s : Sys ν μ σ) : Prop where
  upward : ∀ t ∈ s.threads, t.code.Upward rank ∅ t.held t.frames.length
  owned : ∀ m, s.taken m = true → ∃ t ∈ s.threads, m ∈ t.held

variable {rank : μ → Nat} {s s' : Sys ν μ σ} {i : Nat} {t : Thread ν μ σ}

theorem ordered_start (s₀ : σ) : Ordered rank (start s₀ : Sys ν μ σ) := ⟨nofun, nofun⟩

/-- A thread goes on, and every mutex that is taken then is its own or was another's before. -/
theorem Ordered.put (h : Ordered rank s) (ht : s.threads[i]? = some t) {u : Thread ν μ σ}
    (hcode : u.code.Upward rank ∅ u.held u.frames.length) {taken : μ → Bool} (shared : σ) (stray : List μ) (unbalanced : List ν)
    (howned : ∀ m, taken m = true → m ∈ u.held ∨ s.taken m = true ∧ m ∉ t.held) :
    Ordered rank (⟨shared, taken, s.threads.set i u, stray, unbalanced⟩ : Sys ν μ σ) := by
  have hi : i < s.threads.length := (List.getElem?_eq_some_iff.mp ht).1
  refine ⟨fun v hv => ?_, fun m hm => ?_⟩
  · rcases List.mem_or_eq_of_mem_set hv with hv | rfl
    · exact h.upward v hv
    · exact hcode
  · rcases howned m hm with hu | ⟨hm, hmt⟩
    · exact ⟨u, List.mem_set hi u, hu⟩
    · obtain ⟨v, hv, hmv⟩ := h.owned m hm
      obtain ⟨j, hj⟩ := List.mem_iff_getElem?.mp hv
      have hji : i ≠ j := by
        rintro rfl
        cases hj.symm.trans ht
        exact hmt hmv
      exact ⟨v, List.mem_of_getElem? ((List.getElem?_set_ne hji).trans hj), hmv⟩

/-- What the thread keeps it had, and what it had not is not its to lose. -/
theorem Ordered.go (h : Ordered rank s) (ht : s.threads[i]? = some t) {u : Thread ν μ σ}
    (hcode : u.code.Upward rank ∅ u.held u.frames.length) (hheld : u.held = t.held) (shared : σ) (unbalanced : List ν) :
    Ordered rank (⟨shared, s.taken, s.threads.set i u, s.stray, unbalanced⟩ : Sys ν μ σ) := by
  refine h.put ht hcode shared s.stray unbalanced fun m hm => ?_
  rw [hheld]
  by_cases hmt : m ∈ t.held
  · exact .inl hmt
  · exact .inr ⟨hm, hmt⟩

/-- One operation, whether the thread holds what it releases or not. -/
theorem Ordered.exec (h : Ordered rank s) (ht : s.threads[i]? = some t) {choice : Bool}
    (hs : Locks.exec s i choice t = some s') : Ordered rank s' := by
  have hup := h.upward t (List.mem_of_getElem? ht)
  obtain ⟨code, held, frames⟩ := t
  cases code with
  | done => cases hs
  | halt => cases hs
  | lock m k =>
    simp only [Locks.exec] at hs
    split at hs
    · cases hs
    · cases hs
      refine h.put ht hup.2 s.shared s.stray s.unbalanced fun m' hm' => ?_
      by_cases hmm : m' = m
      · exact .inl (hmm ▸ Finset.mem_insert_self m held)
      · rw [Function.update_of_ne hmm] at hm'
        by_cases hmt : m' ∈ held
        · exact .inl (Finset.mem_insert_of_mem hmt)
        · exact .inr ⟨hm', hmt⟩
  | unlock m k =>
    cases hs
    refine h.put (u := ⟨k, held.erase m, frames⟩) ht hup s.shared _ s.unbalanced fun m' hm' => ?_
    have hmm : m' ≠ m := by
      rintro rfl
      rw [Function.update_self] at hm'
      cases hm'
    rw [Function.update_of_ne hmm] at hm'
    by_cases hmt : m' ∈ held
    · exact .inl (Finset.mem_erase_of_ne_of_mem hmm hmt)
    · exact .inr ⟨hm', hmt⟩
  | act f k =>
    cases hs
    exact h.go (u := ⟨k s.shared, held, frames⟩) ht (hup s.shared) rfl _ _
  | choose k =>
    cases hs
    exact h.go (u := ⟨k choice, held, frames⟩) ht (hup choice) rfl _ _
  | call n k =>
    cases hs
    exact h.go (u := ⟨k, held, (n, held) :: frames⟩) ht hup rfl _ _
  | ret k =>
    cases frames with
    | nil => cases hs
    | cons frame frames =>
      cases hs
      exact h.go (u := ⟨k, held, frames⟩) ht hup rfl _ _

/-- One step of a program whose pieces of code take mutexes upwards. -/
theorem Ordered.step {body : ι → Code ν μ σ} (hbody : ∀ c, (body c).Upward rank ∅ ∅ 0) (h : Ordered rank s) {a : Act ι}
    (hs : Locks.step body s a = some s') : Ordered rank s' := by
  cases a with
  | run i choice =>
    obtain ⟨t, ht, hexec⟩ := Option.bind_eq_some_iff.mp hs
    exact h.exec ht hexec
  | start c =>
    cases hs
    refine ⟨fun v hv => ?_, fun m hm => ?_⟩
    · rcases List.mem_append.mp hv with hv | hv
      · exact h.upward v hv
      · rw [List.mem_singleton.mp hv]
        exact hbody c
    · obtain ⟨v, hv, hmv⟩ := h.owned m hm
      exact ⟨v, List.mem_append_left _ hv, hmv⟩

/-! ## The end of a chain -/

/-- A thread that is neither done nor crashed nor waiting can run. -/
theorem Ordered.runnable (h : Ordered rank s) (ht : s.threads[i]? = some t) (hdone : t.code ≠ .done) (hhalt : t.code ≠ .halt)
    (hwait : ¬Waiting s i) : Runnable s i := by
  refine ⟨t, ht, fun choice => ?_⟩
  have hup := h.upward t (List.mem_of_getElem? ht)
  obtain ⟨code, held, frames⟩ := t
  cases code with
  | done => exact absurd rfl hdone
  | halt => exact absurd rfl hhalt
  | lock m k =>
    have hfree : s.taken m ≠ true := fun hm => hwait ⟨_, m, k, ht, rfl, hm⟩
    simp only [Locks.exec, if_neg hfree, Option.isSome_some]
  | unlock m k => rfl
  | act f k => rfl
  | choose k => rfl
  | call n k => rfl
  | ret k =>
    cases frames with
    | nil => exact hup.elim
    | cons frame frames => rfl

/-- Along a chain of waiting threads the ranks of their mutexes grow, so that it ends at one that does not wait. -/
theorem Ordered.chain (h : Ordered rank s) :
    ∀ (n : Nat) (i : Nat) (t : Thread ν μ σ) (m : μ) (k : Code ν μ σ), topRank rank s.threads - rank m = n →
      s.threads[i]? = some t → t.code = .lock m k → s.taken m = true →
      ∃ j, Relation.TransGen (WaitsFor s) i j ∧ (Runnable s j ∨ Crashed s j) := by
  intro n
  induction n using Nat.strong_induction_on with
  | _ n ih =>
    intro i t m k hn ht hcode hm
    obtain ⟨u, hu, hmu⟩ := h.owned m hm
    obtain ⟨j, hj⟩ := List.mem_iff_getElem?.mp hu
    have hij : WaitsFor s i j := ⟨t, m, k, u, ht, hcode, hm, hj, hmu⟩
    have hup := h.upward u hu
    by_cases hhalt : u.code = .halt
    · exact ⟨j, .single hij, .inr ⟨u, hj, hhalt⟩⟩
    by_cases hwait : Waiting s j
    · obtain ⟨u', m', k', hj', hcode', hm'⟩ := hwait
      cases hj.symm.trans hj'
      have hle : rank m' ≤ topRank rank s.threads := by
        have hle : u.waitRank rank ≤ topRank rank s.threads := rank_le_topRank hu
        rwa [Thread.waitRank, hcode'] at hle
      rw [hcode'] at hup
      have hlt : rank m < rank m' := hup.1 m hmu
      obtain ⟨l, hl, hend⟩ := ih (topRank rank s.threads - rank m') (by omega) j u m' k' rfl hj hcode' hm'
      exact ⟨l, .head hij hl, hend⟩
    · have hdone : u.code ≠ .done := by
        intro hd
        rw [hd] at hup
        rw [hup.1] at hmu
        exact Finset.notMem_empty m hmu
      exact ⟨j, .single hij, .inl (h.runnable hj hdone hhalt hwait)⟩

/-! ## Running to the end -/

/-- One operation: the thread goes on with what its code can go on with, the others where they were. -/
theorem exec_threads {choice : Bool} (hs : exec s i choice t = some s') :
    ∃ u, s'.threads = s.threads.set i u ∧ u.code.Next t.code := by
  obtain ⟨code, held, frames⟩ := t
  cases code with
  | done => cases hs
  | halt => cases hs
  | lock m k =>
    simp only [exec] at hs
    split at hs
    · cases hs
    · cases hs
      exact ⟨_, rfl, rfl⟩
  | unlock m k =>
    cases hs
    exact ⟨_, rfl, rfl⟩
  | act f k =>
    cases hs
    exact ⟨_, rfl, s.shared, rfl⟩
  | choose k =>
    cases hs
    exact ⟨_, rfl, choice, rfl⟩
  | call n k =>
    cases hs
    exact ⟨_, rfl, rfl⟩
  | ret k =>
    cases frames with
    | nil => cases hs
    | cons frame frames =>
      cases hs
      exact ⟨_, rfl, rfl⟩

/-- It gets less with each operation. -/
theorem remaining_exec (ht : s.threads[i]? = some t) {choice : Bool} (hs : exec s i choice t = some s') :
    Relation.CutExpand Code.Next (remaining s'.threads) (remaining s.threads) := by
  obtain ⟨u, hu, hnext⟩ := exec_threads hs
  obtain ⟨hi, hget⟩ := List.getElem?_eq_some_iff.mp ht
  have hset : s'.threads = s.threads.take i ++ u :: s.threads.drop (i + 1) := by
    rw [hu, List.set_eq_take_append_cons_drop, if_pos hi]
  have hold : s.threads = s.threads.take i ++ t :: s.threads.drop (i + 1) := by
    rw [← hget, List.cons_getElem_drop_succ, List.take_append_drop]
  have hless := remaining_middle (s.threads.take i) (s.threads.drop (i + 1)) t
  rw [← hold] at hless
  rw [hset, hless, remaining_middle]
  exact Relation.cutExpand_single_add hnext _

/-- While a thread is not at its end and none has crashed, one can run. -/
theorem Ordered.progress (h : Ordered rank s) (hcrash : ¬∃ j, Crashed s j) (hs : ∃ t ∈ s.threads, t.code ≠ .done) :
    ∃ j, Runnable s j := by
  obtain ⟨t, ht, hdone⟩ := hs
  obtain ⟨i, hi⟩ := List.mem_iff_getElem?.mp ht
  by_cases hwait : Waiting s i
  · obtain ⟨t, m, k, hi, hcode, hm⟩ := hwait
    obtain ⟨j, -, hj | hj⟩ := h.chain _ i t m k rfl hi hcode hm
    · exact ⟨j, hj⟩
    · exact absurd ⟨j, hj⟩ hcrash
  · exact ⟨i, h.runnable hi hdone (fun hhalt => hcrash ⟨i, t, hi, hhalt⟩) hwait⟩

/-- Where all threads are at their ends no mutex is taken. -/
theorem Ordered.finished (h : Ordered rank s) (hs : ∀ t ∈ s.threads, t.code = .done) : Finished s := by
  refine ⟨hs, fun m => Bool.eq_false_iff.mpr fun hm => ?_⟩
  obtain ⟨t, ht, hmt⟩ := h.owned m hm
  have hup := h.upward t ht
  rw [hs t ht] at hup
  rw [hup.1] at hmt
  exact Finset.notMem_empty m hmt

/-- The threads there are can be run until all are at their ends, or one has crashed. -/
theorem Ordered.finish (body : ι → Code ν μ σ) (h : Ordered rank s) :
    ∃ acts s', (∀ a ∈ acts, ∃ i choice, a = .run i choice) ∧ run (Locks.step body) s acts = some s' ∧
      ((∃ j, Crashed s' j) ∨ Finished s') := by
  have hwf := (@wellFounded_next ν μ σ).cutExpand
  generalize hl : remaining s.threads = left
  induction left using hwf.induction generalizing s with
  | _ left ih =>
    by_cases hcrash : ∃ j, Crashed s j
    · exact ⟨[], s, nofun, rfl, .inl hcrash⟩
    by_cases hs : ∃ t ∈ s.threads, t.code ≠ .done
    · obtain ⟨j, t, ht, hrun⟩ := h.progress hcrash hs
      obtain ⟨s₁, hs₁⟩ := Option.isSome_iff_exists.mp (hrun false)
      obtain ⟨acts, s', hacts, hrest, hend⟩ := ih _ (hl ▸ remaining_exec ht hs₁) (h.exec ht hs₁) rfl
      refine ⟨.run j false :: acts, s', fun a ha => ?_, ?_, hend⟩
      · rcases List.mem_cons.mp ha with rfl | ha
        · exact ⟨j, false, rfl⟩
        · exact hacts a ha
      · refine run_cons_eq_some.mpr ⟨s₁, ?_, hrest⟩
        simp only [Locks.step, ht, Option.bind_some, hs₁]
    · refine ⟨[], s, nofun, rfl, .inr (h.finished fun t ht => ?_)⟩
      exact Classical.not_not.mp fun hdone => hs ⟨t, ht, hdone⟩

end system

/-- Threads whose code takes mutexes upwards are free of deadlocks in every run. -/
theorem deadlockFree_always [DecidableEq μ] {rank : μ → Nat} {body : ι → Code ν μ σ}
    (hbody : ∀ c, (body c).Upward rank ∅ ∅ 0) (s₀ : σ) (acts : List (Act ι)) :
    Always (step body) (DeadlockFree body) (start s₀) acts := by
  refine always_of_invariant (I := Ordered rank) (fun s h => ⟨?_, h.finish body⟩) (fun s a s' h hs => h.step hbody hs)
    (ordered_start s₀)
  rintro i ⟨t, m, k, hi, hcode, hm⟩
  exact h.chain _ i t m k rfl hi hcode hm

end Locks
