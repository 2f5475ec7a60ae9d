import HomeBridge.Lib.Run

/-!
# Requests and answers

A ledger with one line: an opening event opens it, an answering event needs it open and closes it. A history the ledger can run
through (`run (step opens answers)`) is one where each answer has an opening of its own, since the answer before.
-/

namespace Ledger

open Runs

variable {ε : Type*} (opens answers : ε → Prop) [DecidablePred opens] [DecidablePred answers]

/-- One event of a history; an answer without an opening has no result. -/
def step (isOpen : Bool) (e : ε) : Option Bool :=
  if opens e then some true
  else if answers e then (if isOpen then some false else none)
  else some isOpen

variable {opens answers}

@[simp] theorem step_opens {s : Bool} {e : ε} (h : opens e) : step opens answers s e = some true := if_pos h

/-- An answer closes an open ledger, and has no result on a closed one. -/
theorem step_answers {s : Bool} {e : ε} (ho : ¬opens e) (h : answers e) :
    step opens answers s e = if s then some false else none := by
  rw [step, if_neg ho, if_pos h]

/-- Any other event leaves it as it is. -/
theorem step_other {s : Bool} {e : ε} (ho : ¬opens e) (h : ¬answers e) : step opens answers s e = some s := by
  rw [step, if_neg ho, if_neg h]

/-- Nothing opens a closed ledger but an opening. -/
theorem closed_of_no_opening : ∀ {es : List ε} {t : Bool}, run (step opens answers) false es = some t →
    (∀ e ∈ es, ¬opens e) → t = false
  | [], _, h, _ => (Option.some.inj h).symm
  | e :: es, t, h, hno => by
    obtain ⟨s', h1, h2⟩ := run_cons_eq_some.mp h
    have hs' : s' = false := by
      simp only [step, hno e (List.mem_cons_self ..), if_false, Bool.false_eq_true] at h1
      split at h1
      · cases h1
      · exact (Option.some.inj h1).symm
    exact closed_of_no_opening (hs' ▸ h2) fun e' he' => hno e' (List.mem_cons_of_mem _ he')

/-- Where an answer stands, the ledger was open before it and is closed after it. -/
theorem run_answer {s t : Bool} {a : ε} {l₁ l₂ : List ε} (h : run (step opens answers) s (l₁ ++ a :: l₂) = some t)
    (ho : ¬opens a) (ha : answers a) :
    run (step opens answers) s l₁ = some true ∧ run (step opens answers) false l₂ = some t := by
  obtain ⟨s', s'', h1, h3, h4⟩ := run_split h
  rw [step_answers ho ha] at h3
  cases s' with
  | false => cases h3
  | true =>
    cases h3
    exact ⟨h1, h4⟩

/-- An answer comes after an opening. -/
theorem opening_before {t : Bool} {a : ε} {l₁ l₂ : List ε} (h : run (step opens answers) false (l₁ ++ a :: l₂) = some t)
    (ho : ¬opens a) (ha : answers a) : ∃ e ∈ l₁, opens e := by
  by_contra hno
  have := closed_of_no_opening (run_answer h ho ha).1 fun e he hoe => hno ⟨e, he, hoe⟩
  cases this

/-- Between two answers there is an opening. -/
theorem opening_between {s t : Bool} {a b : ε} {l₁ l₂ l₃ : List ε}
    (h : run (step opens answers) s (l₁ ++ a :: (l₂ ++ b :: l₃)) = some t) (hoa : ¬opens a) (ha : answers a)
    (hob : ¬opens b) (hb : answers b) : ∃ e ∈ l₂, opens e :=
  opening_before (run_answer h hoa ha).2 hob hb

/-! ## Openings and answers in turn -/

section turns

variable (opens answers)

/-- The same, where nothing is opened that is open. -/
def turn (isOpen : Bool) (e : ε) : Option Bool :=
  if opens e then (if isOpen then none else some true)
  else if answers e then (if isOpen then some false else none)
  else some isOpen

end turns

/-- An opening opens a closed ledger. -/
theorem turn_opens {e : ε} (h : opens e) : turn opens answers false e = some true := if_pos h

/-- An answer closes an open one. -/
theorem turn_answers {e : ε} (ho : ¬opens e) (h : answers e) : turn opens answers true e = some false := by
  rw [turn, if_neg ho, if_pos h]
  rfl

/-- Any other event leaves it as it is. -/
theorem turn_other {s : Bool} {e : ε} (ho : ¬opens e) (h : ¬answers e) : turn opens answers s e = some s := by
  rw [turn, if_neg ho, if_neg h]

/-- A history in which openings and answers take turns has as many of the ones as of the others, but for what was open before and what
is open after. -/
theorem turn_count (hdisj : ∀ e, opens e → ¬answers e) : ∀ {es : List ε} {s t : Bool}, run (turn opens answers) s es = some t →
    s.toNat + es.countP (fun e => decide (opens e)) = es.countP (fun e => decide (answers e)) + t.toNat := by
  intro es
  induction es with
  | nil =>
    intro s t h
    cases h
    exact Nat.add_comm _ _
  | cons e es ih =>
    intro s t h
    obtain ⟨s', h1, h2⟩ := run_cons_eq_some.mp h
    have hrest := ih h2
    rw [List.countP_cons, List.countP_cons]
    by_cases ho : opens e
    · rw [turn, if_pos ho] at h1
      split at h1
      · cases h1
      · rename_i hs
        cases h1
        rw [Bool.eq_false_iff.mpr hs, decide_eq_true ho, decide_eq_false (hdisj e ho)]
        simp only [Bool.toNat_true, Bool.toNat_false, if_true, Bool.false_eq_true, if_false] at hrest ⊢
        omega
    · by_cases ha : answers e
      · rw [turn, if_neg ho, if_pos ha] at h1
        split at h1
        · rename_i hs
          cases h1
          rw [hs, decide_eq_false ho, decide_eq_true ha]
          simp only [Bool.toNat_true, Bool.toNat_false, if_true, Bool.false_eq_true, if_false] at hrest ⊢
          omega
        · cases h1
      · rw [turn_other ho ha] at h1
        cases h1
        rw [decide_eq_false ho, decide_eq_false ha]
        simp only [Bool.false_eq_true, if_false]
        omega

end Ledger
