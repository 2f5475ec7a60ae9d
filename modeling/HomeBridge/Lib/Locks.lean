import Mathlib.Data.Finset.Basic
import HomeBridge.Lib.Run

/-!
# Threads that take and release mutexes

The code of a thread is a tree of operations: it takes a mutex, releases one, reads and writes what the threads share,
is told how something outside came out, enters a function and returns from it. `WellLocked` is read off the code alone,
whatever the threads read: no mutex is taken twice or released by who does not hold it, and every function returns with
the mutexes it was entered with. A program may have a set of releases `X` that are not like that. `disciplined_iff` then
says of every run of any number of threads that the discipline is kept exactly as long as none of `X` is come to.

A mutex does not know its owner: a release makes it free, whoever made it.
-/

namespace Locks

open Runs

variable {ν μ σ ι : Type}

/-- Code over functions named by `ν`, mutexes `μ` and a shared state `σ`. `halt` is where nothing defined follows. -/
inductive Code (ν μ σ : Type) where
  | done
  | halt
  | lock (m : μ) (k : Code ν μ σ)
  | unlock (m : μ) (k : Code ν μ σ)
  | act (f : σ → σ) (k : σ → Code ν μ σ)
  | choose (k : Bool → Code ν μ σ)
  | call (n : ν) (k : Code ν μ σ)
  | ret (k : Code ν μ σ)

/-- A thread: the code to come, the mutexes it took and has not released, and the functions it is in, each with those it
had on entry. -/
structure Thread (ν μ σ : Type) where
  code : Code ν μ σ
  held : Finset μ
  frames : List (ν × Finset μ)

/-- The function that runs. -/
def top (frames : List (ν × Finset μ)) : Option ν := frames.head?.map Prod.fst

/-- The threads and the mutexes. `stray` and `unbalanced` are a history: the mutexes released by a thread that did not
hold them, and the functions that did not return with the mutexes they were entered with. -/
structure Sys (ν μ σ : Type) where
  shared : σ
  taken : μ → Bool
  threads : List (Thread ν μ σ)
  stray : List μ
  unbalanced : List ν

/-- A thread is started on a piece of code, or runs its next operation; `choice` is what it is told if it asks. -/
inductive Act (ι : Type) where
  | start (c : ι)
  | run (thread : Nat) (choice : Bool)

def start (s₀ : σ) : Sys ν μ σ := ⟨s₀, fun _ => false, [], [], []⟩

section step

variable [DecidableEq μ]

/-- The next operation of thread `i`. A mutex that is taken is waited for. -/
def exec (s : Sys ν μ σ) (i : Nat) (choice : Bool) (t : Thread ν μ σ) : Option (Sys ν μ σ) :=
  match t.code with
  | .done | .halt => none
  | .lock m k =>
    if s.taken m then none
    else some { s with taken := Function.update s.taken m true, threads := s.threads.set i ⟨k, insert m t.held, t.frames⟩ }
  | .unlock m k => some { s with
      taken := Function.update s.taken m false
      threads := s.threads.set i ⟨k, t.held.erase m, t.frames⟩
      stray := if m ∈ t.held then s.stray else m :: s.stray }
  | .act f k => some { s with shared := f s.shared, threads := s.threads.set i ⟨k s.shared, t.held, t.frames⟩ }
  | .choose k => some { s with threads := s.threads.set i ⟨k choice, t.held, t.frames⟩ }
  | .call n k => some { s with threads := s.threads.set i ⟨k, t.held, (n, t.held) :: t.frames⟩ }
  | .ret k =>
    match t.frames with
    | [] => none
    | (n, entry) :: frames => some { s with
        threads := s.threads.set i ⟨k, t.held, frames⟩
        unbalanced := if t.held = entry then s.unbalanced else n :: s.unbalanced }

/-- One step of the threads of a program, whose pieces of code are `body`. -/
def step (body : ι → Code ν μ σ) (s : Sys ν μ σ) : Act ι → Option (Sys ν μ σ)
  | .start c => some { s with threads := s.threads ++ [⟨body c, ∅, []⟩] }
  | .run i choice => s.threads[i]?.bind (exec s i choice)

end step

/-- The discipline: so far every mutex was released by a thread that held it, every function returned with the mutexes
it was entered with, and now at most one thread is between taking a mutex and releasing it. -/
structure Disciplined (s : Sys ν μ σ) : Prop where
  stray : s.stray = []
  unbalanced : s.unbalanced = []
  exclusive : ∀ (m : μ) (i j : Nat) (t u : Thread ν μ σ), s.threads[i]? = some t → s.threads[j]? = some u →
    m ∈ t.held → m ∈ u.held → i = j

/-- The next operation of the thread that runs is none of the releases `X`, named by their function and their mutex. -/
def KeepsOut (X : Option ν → μ → Prop) (s : Sys ν μ σ) : Act ι → Prop
  | .start _ => True
  | .run i _ => ∀ t, s.threads[i]? = some t → ∀ m k, t.code = .unlock m k → ¬X (top t.frames) m

section code

variable [DecidableEq μ] (X : Option ν → μ → Prop)

/-- Code that keeps the discipline from where it is on, but for the releases `X`: those it makes without holding the
mutex. -/
def Code.WellLocked : Code ν μ σ → Finset μ → List (ν × Finset μ) → Prop
  | .done, _, _ | .halt, _, _ => True
  | .lock m k, held, frames => m ∉ held ∧ k.WellLocked (insert m held) frames
  | .unlock m k, held, frames =>
    (X (top frames) m → m ∉ held) ∧ (¬X (top frames) m → m ∈ held ∧ k.WellLocked (held.erase m) frames)
  | .act _ k, held, frames => ∀ s, (k s).WellLocked held frames
  | .choose k, held, frames => ∀ b, (k b).WellLocked held frames
  | .call n k, held, frames => k.WellLocked held ((n, held) :: frames)
  | .ret _, _, [] => False
  | .ret k, held, (_, entry) :: frames => held = entry ∧ k.WellLocked held frames

/-- A function may be entered from anywhere. -/
theorem Code.wellLocked_call {X : Option ν → μ → Prop} {n : ν} {k : Code ν μ σ} {held : Finset μ}
    {frames : List (ν × Finset μ)}
    (h : k.WellLocked X held ((n, held) :: frames)) : (Code.call n k).WellLocked X held frames := h

end code

/-! ## The invariant -/

section invariant

variable [DecidableEq μ] {X : Option ν → μ → Prop}

/-- The discipline so far, with the code of every thread well locked, and no mutex free that a thread holds. -/
structure Inv (X : Option ν → μ → Prop) (s : Sys ν μ σ) : Prop where
  disciplined : Disciplined s
  code : ∀ t ∈ s.threads, t.code.WellLocked X t.held t.frames
  taken : ∀ t ∈ s.threads, ∀ m ∈ t.held, s.taken m = true

theorem inv_start (s₀ : σ) : Inv X (start s₀ : Sys ν μ σ) := ⟨⟨rfl, rfl, nofun⟩, nofun, nofun⟩

variable {s : Sys ν μ σ} {i : Nat} {t : Thread ν μ σ}

/-- A thread goes on with the mutexes it had and those that were free, and only its own become free. -/
theorem Inv.put (h : Inv X s) (ht : s.threads[i]? = some t) {u : Thread ν μ σ} (shared : σ) {taken : μ → Bool}
    (hcode : u.code.WellLocked X u.held u.frames) (hown : ∀ m ∈ u.held, m ∈ t.held ∨ s.taken m = false)
    (htaken : ∀ m ∈ u.held, taken m = true) (hfree : ∀ m, s.taken m = true → m ∈ t.held ∨ taken m = true) :
    Inv X { s with shared := shared, taken := taken, threads := s.threads.set i u } := by
  have hother : ∀ j v, j ≠ i → s.threads[j]? = some v → ∀ m ∈ v.held, m ∉ t.held := fun j v hj hv m hm htm =>
    hj (h.disciplined.exclusive m j i v t hv ht hm htm)
  have hat : ∀ j v, (s.threads.set i u)[j]? = some v → j = i ∧ v = u ∨ j ≠ i ∧ s.threads[j]? = some v := by
    intro j v hv
    by_cases hj : i = j
    · subst hj
      rw [List.getElem?_set_self'] at hv
      obtain ⟨_, -, rfl⟩ := Option.map_eq_some_iff.mp hv
      exact .inl ⟨rfl, rfl⟩
    · rw [List.getElem?_set_ne hj] at hv
      exact .inr ⟨Ne.symm hj, hv⟩
  have hnew : ∀ j v, j ≠ i → s.threads[j]? = some v → ∀ m ∈ v.held, m ∉ u.held := by
    intro j v hj hv m hm hum
    rcases hown m hum with htm | hfr
    · exact hother j v hj hv m hm htm
    · exact Bool.false_ne_true (hfr.symm.trans (h.taken v (List.mem_of_getElem? hv) m hm))
  refine ⟨⟨h.disciplined.stray, h.disciplined.unbalanced, ?_⟩, ?_, ?_⟩
  · intro m j l v w hv hw hmv hmw
    rcases hat j v hv with ⟨hj, rfl⟩ | ⟨hj, hv'⟩ <;> rcases hat l w hw with ⟨hl, rfl⟩ | ⟨hl, hw'⟩
    · exact hj.trans hl.symm
    · exact absurd hmv (hnew l w hl hw' m hmw)
    · exact absurd hmw (hnew j v hj hv' m hmv)
    · exact h.disciplined.exclusive m j l v w hv' hw' hmv hmw
  · intro v hv
    rcases List.mem_or_eq_of_mem_set hv with hv | rfl
    · exact h.code v hv
    · exact hcode
  · intro v hv m hm
    obtain ⟨j, hj⟩ := List.mem_iff_getElem?.mp hv
    rcases hat j v hj with ⟨rfl, rfl⟩ | ⟨hji, hj⟩
    · exact htaken m hm
    · rcases hfree m (h.taken v (List.mem_of_getElem? hj) m hm) with htm | htk
      · exact absurd htm (hother j v hji hj m hm)
      · exact htk

/-- A thread goes on with the mutexes it had. -/
theorem Inv.go (h : Inv X s) (ht : s.threads[i]? = some t) {u : Thread ν μ σ} (shared : σ) (hheld : u.held = t.held)
    (hcode : u.code.WellLocked X u.held u.frames) : Inv X { s with shared := shared, threads := s.threads.set i u } :=
  h.put ht shared hcode (fun _ hm => .inl (hheld ▸ hm))
    (fun m hm => h.taken t (List.mem_of_getElem? ht) m (hheld ▸ hm)) fun _ hm => .inr hm

/-- A new thread holds nothing. -/
theorem Inv.spawn (h : Inv X s) {code : Code ν μ σ} (hcode : code.WellLocked X ∅ []) :
    Inv X { s with threads := s.threads ++ [⟨code, ∅, []⟩] } := by
  have hat : ∀ (j : Nat) (v : Thread ν μ σ) (m : μ),
      (s.threads ++ [⟨code, ∅, []⟩])[j]? = some v → m ∈ v.held → s.threads[j]? = some v := by
    intro j v m hv hm
    rw [List.getElem?_append] at hv
    split at hv
    · exact hv
    · rw [List.mem_singleton.mp (List.mem_of_getElem? hv)] at hm
      exact absurd hm (Finset.notMem_empty m)
  refine ⟨⟨h.disciplined.stray, h.disciplined.unbalanced, ?_⟩, ?_, ?_⟩
  · intro m j l v w hv hw hmv hmw
    exact h.disciplined.exclusive m j l v w (hat j v m hv hmv) (hat l w m hw hmw) hmv hmw
  · intro v hv
    rcases List.mem_append.mp hv with hv | hv
    · exact h.code v hv
    · rw [List.mem_singleton.mp hv]
      exact hcode
  · intro v hv m hm
    obtain ⟨j, hj⟩ := List.mem_iff_getElem?.mp hv
    exact h.taken v (List.mem_of_getElem? (hat j v m hj hm)) m hm

/-- One operation keeps the discipline, if it is none of the releases `X`. -/
theorem Inv.exec (h : Inv X s) (ht : s.threads[i]? = some t) {choice : Bool} {s' : Sys ν μ σ}
    (hc : ∀ m k, t.code = .unlock m k → ¬X (top t.frames) m) (hs : Locks.exec s i choice t = some s') : Inv X s' := by
  have hmem : t ∈ s.threads := List.mem_of_getElem? ht
  have htaken : ∀ m ∈ t.held, s.taken m = true := h.taken t hmem
  have hwell := h.code t hmem
  obtain ⟨code, held, frames⟩ := t
  cases code with
  | done => cases hs
  | halt => cases hs
  | lock m k =>
    simp only [Locks.exec] at hs
    split at hs
    · cases hs
    · rename_i hfree
      cases hs
      refine h.put ht s.shared hwell.2 (fun m' hm' => ?_) (fun m' hm' => ?_) fun m' hm' => .inr ?_
      · rcases Finset.mem_insert.mp hm' with rfl | hm'
        · exact .inr (Bool.eq_false_iff.mpr hfree)
        · exact .inl hm'
      · rcases Finset.mem_insert.mp hm' with rfl | hm'
        · exact Function.update_self ..
        · simp [Function.update_apply, htaken m' hm']
      · simp [Function.update_apply, hm']
  | unlock m k =>
    obtain ⟨hheld, hrest⟩ := hwell.2 (hc m k rfl)
    simp only [Locks.exec, if_pos hheld] at hs
    cases hs
    refine h.put ht s.shared hrest (fun m' hm' => .inl (Finset.mem_of_mem_erase hm')) (fun m' hm' => ?_) fun m' hm' => ?_
    · rw [Function.update_of_ne (Finset.ne_of_mem_erase hm')]
      exact htaken m' (Finset.mem_of_mem_erase hm')
    · by_cases hmm : m' = m
      · exact .inl (hmm ▸ hheld)
      · rw [Function.update_of_ne hmm]
        exact .inr hm'
  | act f k =>
    cases hs
    exact h.go ht (f s.shared) rfl (hwell s.shared)
  | choose k =>
    cases hs
    exact h.go ht s.shared rfl (hwell choice)
  | call n k =>
    cases hs
    exact h.go ht s.shared rfl hwell
  | ret k =>
    cases frames with
    | nil => cases hs
    | cons frame frames =>
      obtain ⟨hentry, hrest⟩ := hwell
      simp only [Locks.exec, if_pos hentry] at hs
      cases hs
      exact h.go ht s.shared rfl hrest

/-- One of the releases `X` breaks it. -/
theorem Inv.stray (h : Inv X s) (ht : s.threads[i]? = some t) {choice : Bool} {s' : Sys ν μ σ} {m : μ} {k : Code ν μ σ}
    (hcode : t.code = .unlock m k) (hX : X (top t.frames) m) (hs : Locks.exec s i choice t = some s') :
    ¬Disciplined s' := by
  have hwell := h.code t (List.mem_of_getElem? ht)
  rw [hcode] at hwell
  simp only [Locks.exec, hcode, if_neg (hwell.1 hX)] at hs
  cases hs
  exact fun hd => nomatch hd.stray

end invariant

/-- Every run of threads whose code is well locked keeps the discipline exactly as long as none of the releases `X` is
come to. -/
theorem disciplined_iff [DecidableEq μ] {X : Option ν → μ → Prop} {body : ι → Code ν μ σ}
    (hbody : ∀ c, (body c).WellLocked X ∅ []) (s₀ : σ) (acts : List (Act ι)) :
    Always (step body) Disciplined (start s₀) acts ↔ Along (step body) (KeepsOut X) (start s₀) acts := by
  refine always_iff_along (I := Inv X) (fun _ h => h.disciplined) ?_ ?_ (inv_start s₀)
  · intro s a s' h hc hs
    cases a with
    | start c =>
      cases hs
      exact h.spawn (hbody c)
    | run i choice =>
      obtain ⟨t, ht, hexec⟩ := Option.bind_eq_some_iff.mp hs
      exact h.exec ht (hc t ht) hexec
  · intro s a s' h hs hd
    cases a with
    | start c => trivial
    | run i choice =>
      intro t ht m k hcode hX
      obtain ⟨t', ht', hexec⟩ := Option.bind_eq_some_iff.mp hs
      cases ht.symm.trans ht'
      exact h.stray ht hcode hX hexec hd

end Locks
