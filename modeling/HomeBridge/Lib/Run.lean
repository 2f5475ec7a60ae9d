import Mathlib.Data.List.Basic

/-!
# Runs of a partial step function

A system is a step function `σ → ι → Option σ`: the input (an event, a request, the choice of a scheduler) resolves every
choice, and `none` says the step is refused or has no defined result. A run is a list of inputs. Nothing here is about one
program: `Along` says that every step taken meets a condition on the state before it and the input, `AtEach` that every input come
to does, `Always` that every state visited has a property, and `always_iff_along` is the rule that trades one for the other when a
single step does.
-/

namespace Runs

variable {σ ι : Type*} (step : σ → ι → Option σ)

/-- The state a list of inputs leads to, `none` when some step has no result. -/
def run : σ → List ι → Option σ
  | s, [] => some s
  | s, i :: is => (step s i).bind (fun s' => run s' is)

/-- A state some run leads to. -/
def Reachable (s₀ s : σ) : Prop := ∃ is, run step s₀ is = some s

/-- Every step taken along the inputs meets the condition `C` on the state before it and its input. -/
def Along (C : σ → ι → Prop) : σ → List ι → Prop
  | _, [] => True
  | s, i :: is => ∀ s', step s i = some s' → C s i ∧ Along C s' is

/-- Every state visited along the inputs, the first and the last included, has the property `P`. -/
def Always (P : σ → Prop) : σ → List ι → Prop
  | s, [] => P s
  | s, i :: is => P s ∧ ∀ s', step s i = some s' → Always P s' is

/-- Every input the run comes to, whether its step has a result or not, meets the condition `C` with the state before it. -/
def AtEach (C : σ → ι → Prop) (s : σ) (is : List ι) : Prop :=
  ∀ pre i post t, is = pre ++ i :: post → run step s pre = some t → C t i

variable {step}

theorem run_cons (s : σ) (i : ι) (is : List ι) : run step s (i :: is) = (step s i).bind (fun s' => run step s' is) := rfl

/-- A run that goes through has a first step and a rest that go through. -/
theorem run_cons_eq_some {s t : σ} {i : ι} {is : List ι} :
    run step s (i :: is) = some t ↔ ∃ s', step s i = some s' ∧ run step s' is = some t := by
  rw [run_cons, Option.bind_eq_some_iff]

/-- Runs compose. -/
theorem run_append (s : σ) (is js : List ι) : run step s (is ++ js) = (run step s is).bind (fun s' => run step s' js) := by
  induction is generalizing s with
  | nil => rfl
  | cons i is ih =>
    rw [List.cons_append, run_cons, run_cons, Option.bind_assoc]
    exact congrArg _ (funext ih)

/-- A run that goes through does so up to each of its steps, through the step, and from there on. -/
theorem run_split {s t : σ} {l₁ l₂ : List ι} {i : ι} (h : run step s (l₁ ++ i :: l₂) = some t) :
    ∃ s₁ s₂, run step s l₁ = some s₁ ∧ step s₁ i = some s₂ ∧ run step s₂ l₂ = some t := by
  rw [run_append, Option.bind_eq_some_iff] at h
  obtain ⟨s₁, h1, h2⟩ := h
  obtain ⟨s₂, h3, h4⟩ := run_cons_eq_some.mp h2
  exact ⟨s₁, s₂, h1, h3, h4⟩

/-- A state is reachable from itself, and a step from a reachable state reaches a state. -/
theorem Reachable.refl (s : σ) : Reachable step s s := ⟨[], rfl⟩

theorem Reachable.next {s₀ s s' : σ} (h : Reachable step s₀ s) {i : ι} (hs : step s i = some s') :
    Reachable step s₀ s' := by
  obtain ⟨is, his⟩ := h
  exact ⟨is ++ [i], by rw [run_append, his, Option.bind_some, run_cons, hs]; rfl⟩

/-! ## The induction rules -/

/-- A condition may be weakened. -/
theorem Along.mono {C D : σ → ι → Prop} (h : ∀ s i, C s i → D s i) :
    ∀ {is : List ι} {s : σ}, Along step C s is → Along step D s is := by
  intro is
  induction is with
  | nil =>
    intro s _
    trivial
  | cons i is ih =>
    intro s ha s' hs
    exact ⟨h s i (ha s' hs).1, ih (ha s' hs).2⟩

theorem atEach_nil (C : σ → ι → Prop) (s : σ) : AtEach step C s [] :=
  fun _ _ _ _ h _ => absurd h.symm (List.append_ne_nil_of_right_ne_nil _ (List.cons_ne_nil _ _))

/-- The first input, and the others where its step has a result. -/
theorem atEach_cons {C : σ → ι → Prop} {s : σ} {i : ι} {is : List ι} :
    AtEach step C s (i :: is) ↔ C s i ∧ ∀ s', step s i = some s' → AtEach step C s' is := by
  constructor
  · intro h
    refine ⟨h [] i is s rfl rfl, fun s' hs pre j post t his hr => h (i :: pre) j post t (by rw [his]; rfl) ?_⟩
    rw [run_cons, hs]
    exact hr
  · rintro ⟨hi, hrest⟩ pre j post t his hr
    cases pre with
    | nil =>
      cases his
      cases hr
      exact hi
    | cons k pre =>
      obtain ⟨rfl, rfl⟩ := List.cons.inj his
      obtain ⟨s', hs, hr⟩ := run_cons_eq_some.mp hr
      exact hrest s' hs pre j post t rfl hr

/-- Two conditions that agree where an invariant holds, which the steps that meet the second preserve, are met by the same runs. -/
theorem atEach_iff {C D : σ → ι → Prop} {I : σ → Prop} (hiff : ∀ s i, I s → (C s i ↔ D s i))
    (hstep : ∀ s i s', I s → D s i → step s i = some s' → I s') :
    ∀ {is : List ι} {s : σ}, I s → (AtEach step C s is ↔ AtEach step D s is) := by
  intro is
  induction is with
  | nil => exact fun _ => iff_of_true (atEach_nil _ _) (atEach_nil _ _)
  | cons i is ih =>
    intro s hs
    rw [atEach_cons, atEach_cons, hiff s i hs]
    exact and_congr_right fun hd => forall_congr' fun s' => imp_congr_right fun hs' => ih (hstep s i s' hs hd hs')

/-- A condition on inputs may be replaced by an equivalent one. -/
theorem atEach_congr {C D : σ → ι → Prop} (h : ∀ s i, C s i ↔ D s i) (s : σ) (is : List ι) :
    AtEach step C s is ↔ AtEach step D s is :=
  atEach_iff (I := fun _ => True) (fun s i _ => h s i) (fun _ _ _ _ _ _ => trivial) trivial

/-- What every step meeting `C` preserves holds at the end of every run whose steps meet `C`. -/
theorem Along.invariant {C : σ → ι → Prop} {P : σ → Prop}
    (hstep : ∀ s i s', P s → C s i → step s i = some s' → P s') :
    ∀ {is : List ι} {s t : σ}, P s → Along step C s is → run step s is = some t → P t := by
  intro is
  induction is with
  | nil =>
    intro s t hs _ hr
    cases hr
    exact hs
  | cons i is ih =>
    intro s t hs ha hr
    obtain ⟨s', h1, h2⟩ := run_cons_eq_some.mp hr
    obtain ⟨hc, ha'⟩ := ha s' h1
    exact ih (hstep s i s' hs hc h1) ha' h2

/-- What every step preserves holds at the end of every run. -/
theorem run_invariant {P : σ → Prop} (hstep : ∀ s i s', P s → step s i = some s' → P s') :
    ∀ {is : List ι} {s t : σ}, P s → run step s is = some t → P t := by
  intro is
  induction is with
  | nil =>
    intro s t hs hr
    cases hr
    exact hs
  | cons i is ih =>
    intro s t hs hr
    obtain ⟨s', h1, h2⟩ := run_cons_eq_some.mp hr
    exact ih (hstep s i s' hs h1) h2

/-- What holds at the start and is preserved by every step holds of every reachable state. -/
theorem Reachable.invariant {P : σ → Prop} {s₀ s : σ} (h : Reachable step s₀ s) (h0 : P s₀)
    (hstep : ∀ s i s', P s → step s i = some s' → P s') : P s :=
  h.elim fun _ his => run_invariant hstep h0 his

/-- The first state visited. -/
theorem Always.head {P : σ → Prop} {s : σ} {is : List ι} (h : Always step P s is) : P s := by
  cases is with
  | nil => exact h
  | cons i is => exact h.1

/-- `Always` speaks of exactly the states that the beginnings of the run lead to. -/
theorem always_iff_beginning {P : σ → Prop} {is : List ι} :
    ∀ {s : σ}, Always step P s is ↔ ∀ pre post t, is = pre ++ post → run step s pre = some t → P t := by
  induction is with
  | nil =>
    intro s
    constructor
    · intro h pre post t hp hr
      obtain ⟨rfl, rfl⟩ := List.append_eq_nil_iff.mp hp.symm
      cases hr
      exact h
    · intro h
      exact h [] [] s rfl rfl
  | cons i is ih =>
    intro s
    constructor
    · intro h pre post t hp hr
      cases pre with
      | nil =>
        cases hr
        exact h.1
      | cons j pre =>
        rw [List.cons_append, List.cons.injEq] at hp
        obtain ⟨rfl, hp⟩ := hp
        obtain ⟨s', h1, h2⟩ := run_cons_eq_some.mp hr
        exact ih.mp (h.2 s' h1) pre post t hp h2
    · intro h
      refine ⟨h [] (i :: is) s rfl rfl, fun s' hs => ih.mpr ?_⟩
      intro pre post t hp hr
      exact h (i :: pre) post t (by rw [hp]; rfl) (run_cons_eq_some.mpr ⟨s', hs, hr⟩)

/-- What every step meeting `C` preserves holds of every state of every run whose steps meet `C`. -/
theorem Along.always {C : σ → ι → Prop} {I P : σ → Prop} (himp : ∀ s, I s → P s)
    (hstep : ∀ s i s', I s → C s i → step s i = some s' → I s') :
    ∀ {is : List ι} {s : σ}, I s → Along step C s is → Always step P s is := by
  intro is
  induction is with
  | nil => intro s hs _; exact himp s hs
  | cons i is ih =>
    intro s hs ha
    refine ⟨himp s hs, fun s' h1 => ?_⟩
    obtain ⟨hc, ha'⟩ := ha s' h1
    exact ih (hstep s i s' hs hc h1) ha'

/-- Where an invariant `I` is kept by the steps that meet the condition, and a step that does not meet it breaks `P`, a run whose states all
have `P` has only steps that meet the condition. -/
theorem Always.along {C : σ → ι → Prop} {I P : σ → Prop} (hgood : ∀ s i s', I s → C s i → step s i = some s' → I s')
    (hbad : ∀ s i s', I s → step s i = some s' → P s' → C s i) :
    ∀ {is : List ι} {s : σ}, I s → Always step P s is → Along step C s is := by
  intro is
  induction is with
  | nil =>
    intro s _ _
    trivial
  | cons i is ih =>
    intro s hs h s' h1
    have hc : C s i := hbad s i s' hs h1 (h.2 s' h1).head
    exact ⟨hc, ih (hgood s i s' hs hc h1) (h.2 s' h1)⟩

/-- Where an invariant `I` stronger than `P` is kept by exactly the steps that meet the condition, and a step that does
not meet it breaks `P`, the states of a run all have `P` exactly when its steps all meet the condition. -/
theorem always_iff_along {C : σ → ι → Prop} {I P : σ → Prop} (himp : ∀ s, I s → P s)
    (hgood : ∀ s i s', I s → C s i → step s i = some s' → I s')
    (hbad : ∀ s i s', I s → step s i = some s' → P s' → C s i) {is : List ι} {s : σ} (hs : I s) :
    Always step P s is ↔ Along step C s is :=
  ⟨fun h => h.along hgood hbad hs, fun h => h.always himp hgood hs⟩

/-- What an invariant says of every step from a state with it is true of every step of a run. -/
theorem along_of_invariant {C D : σ → ι → Prop} {I : σ → Prop} (himp : ∀ s i, I s → D s i)
    (hstep : ∀ s i s', I s → C s i → step s i = some s' → I s') :
    ∀ {is : List ι} {s : σ}, I s → Along step C s is → Along step D s is := by
  intro is
  induction is with
  | nil =>
    intro s _ _
    trivial
  | cons i is ih =>
    intro s hs ha s' h1
    obtain ⟨hc, ha'⟩ := ha s' h1
    exact ⟨himp s i hs, ih (hstep s i s' hs hc h1) ha'⟩

/-- What every step preserves holds of every state of every run. -/
theorem always_of_invariant {I P : σ → Prop} (himp : ∀ s, I s → P s) (hstep : ∀ s i s', I s → step s i = some s' → I s') :
    ∀ {is : List ι} {s : σ}, I s → Always step P s is := by
  intro is
  induction is with
  | nil =>
    intro s hs
    exact himp s hs
  | cons i is ih =>
    intro s hs
    exact ⟨himp s hs, fun s' h1 => ih (hstep s i s' hs h1)⟩

/-- A step with a result is one conjunct of `Along`. -/
theorem along_cons_some {C : σ → ι → Prop} {s s' : σ} {i : ι} {is : List ι} (h : step s i = some s') :
    Along step C s (i :: is) ↔ C s i ∧ Along step C s' is := by
  constructor
  · intro ha
    exact ha s' h
  · intro ha t ht
    rw [h, Option.some.injEq] at ht
    exact ht ▸ ha

/-- Where a property holds at the end of a run, it has held all along, through steps of one kind, or a step of another
kind has opened it and only steps of the first kind were taken since. -/
theorem held_or_opened {P : σ → Prop} {O Q : σ → ι → Prop}
    (hstep : ∀ s i s', step s i = some s' → P s' → O s i ∨ P s ∧ Q s i) :
    ∀ {is : List ι} {s t : σ}, run step s is = some t → P t → P s ∧ Along step Q s is ∨
      ∃ l₁ i l₂ s₁ s₂, is = l₁ ++ i :: l₂ ∧ run step s l₁ = some s₁ ∧ O s₁ i ∧ step s₁ i = some s₂ ∧
        Along step Q s₂ l₂ := by
  intro is
  induction is with
  | nil =>
    intro s t hr ht
    cases hr
    exact .inl ⟨ht, trivial⟩
  | cons i is ih =>
    intro s t hr ht
    obtain ⟨s', hs, hr⟩ := run_cons_eq_some.mp hr
    rcases ih hr ht with ⟨hP, ha⟩ | ⟨l₁, j, l₂, s₁, s₂, rfl, h₁, hO, h₂, ha⟩
    · rcases hstep s i s' hs hP with hO | ⟨hP, hQ⟩
      · exact .inr ⟨[], i, is, s, s', rfl, rfl, hO, hs, ha⟩
      · exact .inl ⟨hP, (along_cons_some hs).mpr ⟨hQ, ha⟩⟩
    · exact .inr ⟨i :: l₁, j, l₂, s₁, s₂, rfl, run_cons_eq_some.mpr ⟨s', hs, h₁⟩, hO, h₂, ha⟩

/-- A condition on steps that can be decided can be decided along a run. -/
instance Along.decidable {C : σ → ι → Prop} [∀ s i, Decidable (C s i)] : ∀ s is, Decidable (Along step C s is)
  | _, [] => isTrue trivial
  | s, i :: is =>
    match h : step s i with
    | none => isTrue fun _ hs => nomatch h.symm.trans hs
    | some s' => @decidable_of_iff _ _ (along_cons_some h).symm (@instDecidableAnd _ _ _ (Along.decidable s' is))

/-! ## Traces -/

variable {ε : Type*}

/-- The events a total step function with outputs emits along a list of inputs. -/
def trace (f : σ → ι → σ × List ε) : σ → List ι → List ε
  | _, [] => []
  | s, i :: is => (f s i).2 ++ trace f (f s i).1 is

/-- The state it is left in. -/
def final (f : σ → ι → σ × List ε) : σ → List ι → σ
  | s, [] => s
  | s, i :: is => final f (f s i).1 is

theorem final_eq_foldl {f : σ → ι → σ × List ε} :
    ∀ {is : List ι} {s : σ}, final f s is = is.foldl (fun s i => (f s i).1) s := by
  intro is
  induction is with
  | nil => intro s; rfl
  | cons i is ih => intro s; exact ih

/-- Where each step's events are a run of another system, from what the state before stands for to what the state after
does, so are the events of every run. -/
theorem run_trace {τ : Type*} {g : τ → ε → Option τ} {f : σ → ι → σ × List ε} {abs : σ → τ} {C : ι → Prop}
    (hstep : ∀ s i, C i → run g (abs s) (f s i).2 = some (abs (f s i).1)) :
    ∀ {is : List ι} {s : σ}, (∀ i ∈ is, C i) → run g (abs s) (trace f s is) = some (abs (final f s is)) := by
  intro is
  induction is with
  | nil => intro s _; rfl
  | cons i is ih =>
    intro s hC
    rw [trace, final, run_append, hstep s i (hC i (List.mem_cons_self ..)), Option.bind_some]
    exact ih fun j hj => hC j (List.mem_cons_of_mem _ hj)

/-- An event of a run is an event of one of its steps. -/
theorem exists_step_of_mem_trace {f : σ → ι → σ × List ε} {e : ε} :
    ∀ {is : List ι} {s : σ}, e ∈ trace f s is → ∃ i ∈ is, ∃ s', e ∈ (f s' i).2 := by
  intro is
  induction is with
  | nil => intro s h; cases h
  | cons i is ih =>
    intro s h
    rcases List.mem_append.mp h with h | h
    · exact ⟨i, List.mem_cons_self .., s, h⟩
    · obtain ⟨j, hj, s', he⟩ := ih h
      exact ⟨j, List.mem_cons_of_mem _ hj, s', he⟩

end Runs
