import Mathlib.Logic.Function.Basic
import HomeBridge.Lib.Memory
import HomeBridge.Lib.Run
import HomeBridge.Hpd.EventQueue

/-!
# The events of value changes

The GET and PUT branches of `answer_to_connection` in `hpd_http_web_server.c`, for one service, and the event they lead to
(`send_event_of_value_change`, `create_event`). The call of `get_function` or `put_function` and the text of the answer are made
under the service's mutex, and are one step here. The event is built after the mutex is released, from the buffer that all
requests for the service share: its length is taken byte by byte, then it is copied byte by byte, and another request's call may
come between any two of these steps. Memory for the event is taken to be there.
-/

namespace HomeBridge.Hpd

open CMem Runs

@[simp] def MHD_MAX_BUFFER_SIZE : Nat := 255

/-- The string in a service's buffer. -/
def bufferString (get_function_buffer : Mem) : List UInt8 :=
  bytes get_function_buffer 0 (strlen get_function_buffer 0 MHD_MAX_BUFFER_SIZE)

/-- The buffer after `get_function` or `put_function` has left `content` in it and returned `ret`, and the string has been ended
there. A string that fills the buffer would be ended behind it. -/
def afterCall (content : Mem) (ret : Nat) : Option Mem :=
  if ret = 0 then some content else if ret < MHD_MAX_BUFFER_SIZE then some (write content ret [0]) else none

/-- How far a PUT request has come. `value` is what its own call left in the buffer, and what its client is told. -/
inductive PutPhase where
  | waiting
  | refused
  /-- Inside `strlen(data)`, with `n` bytes seen. -/
  | measuring (value : List UInt8) (n : Nat)
  /-- Inside `strcpy` to a block of `n + 1` bytes. -/
  | copying (value : List UInt8) (n : Nat) (copied : List UInt8)
  | created (value data : List UInt8)
  | answered (value : List UInt8)

/-- The buffer of a service, the PUT requests for it by number, and the events queued so far, each with the request it is for. -/
structure ServiceRun where
  get_function_buffer : Mem
  request : Nat → PutPhase
  published : List (Nat × Event)

/-- What happens next: the section of a GET or PUT under the mutex, with what the service's function does; a PUT that is answered
without a call; a step of a PUT that has released the mutex. -/
inductive ServiceStep where
  | get (content : Mem) (ret : Nat)
  | put (request : Nat) (content : Mem) (ret : Nat)
  | badRequest (request : Nat)
  | advance (request : Nat)

def ServiceRun.setRequest (s : ServiceRun) (t : Nat) (p : PutPhase) : ServiceRun :=
  { s with request := Function.update s.request t p }

@[simp] theorem ServiceRun.request_setRequest_self (s : ServiceRun) (t : Nat) (p : PutPhase) : (s.setRequest t p).request t = p :=
  Function.update_self ..

theorem ServiceRun.request_setRequest_of_ne (s : ServiceRun) {t t' : Nat} (p : PutPhase) (h : t' ≠ t) :
    (s.setRequest t p).request t' = s.request t' := Function.update_of_ne h ..

/-- The section of a PUT. A call that returns 0 is answered with an error. -/
def putSection (s : ServiceRun) (t : Nat) (content : Mem) (ret : Nat) : Option ServiceRun :=
  (afterCall content ret).map fun m =>
    ServiceRun.setRequest { s with get_function_buffer := m } t (if ret = 0 then .refused else .measuring (bufferString m) 0)

/-- A step behind the mutex. Reading or storing outside the buffer or the event's block has no result. -/
def advance (value_url : String) (s : ServiceRun) (t : Nat) : Option ServiceRun :=
  match s.request t with
  | .measuring value n =>
    if n < MHD_MAX_BUFFER_SIZE then
      some (s.setRequest t (if s.get_function_buffer n = 0 then .copying value n [] else .measuring value (n + 1)))
    else none
  | .copying value n copied =>
    if copied.length ≤ n then
      let b := s.get_function_buffer copied.length
      some (s.setRequest t (if b = 0 then .created value copied else .copying value n (copied ++ [b])))
    else none
  | .created value data => some { s.setRequest t (.answered value) with published := s.published ++ [(t, ⟨value_url, data⟩)] }
  | _ => none

/-- One step of the service whose URL is `value_url`. -/
def serviceStep (value_url : String) (s : ServiceRun) : ServiceStep → Option ServiceRun
  | .get content ret => (afterCall content ret).map fun m => { s with get_function_buffer := m }
  | .put t content ret =>
    match s.request t with
    | .waiting => putSection s t content ret
    | _ => none
  | .badRequest t =>
    match s.request t with
    | .waiting => some (s.setRequest t .refused)
    | _ => none
  | .advance t => advance value_url s t

/-- No request has come yet; the buffer holds anything. -/
def ServiceRun.start (get_function_buffer : Mem) : ServiceRun := ⟨get_function_buffer, fun _ => .waiting, []⟩

/-! ## What subscribers should see -/

/-- The event a request should have led to so far. -/
def PutPhase.events (value_url : String) : PutPhase → List Event
  | .answered value => [⟨value_url, value⟩]
  | _ => []

/-- The value of a request that has released the mutex and is not answered yet. -/
def PutPhase.unanswered : PutPhase → Option (List UInt8)
  | .measuring value _ | .copying value _ _ | .created value _ => some value
  | _ => none

/-- The events queued for a request. -/
def ServiceRun.eventsOf (s : ServiceRun) (t : Nat) : List Event := (s.published.filter fun e => e.1 == t).map Prod.snd

/-- Every request that is answered with its value has one event, which carries that value, and no other request has one; and a request
on its way to that comes there when it is left alone. -/
structure OwnEvents (value_url : String) (s : ServiceRun) : Prop where
  events : ∀ t, s.eventsOf t = (s.request t).events value_url
  answers : ∀ t value, (s.request t).unanswered = some value →
    ∃ n s', run (serviceStep value_url) s (List.replicate n (.advance t)) = some s' ∧ s'.request t = .answered value

/-- The value of a request whose event is still being read from the buffer. -/
def PutPhase.reading : PutPhase → Option (List UInt8)
  | .measuring value _ | .copying value _ _ => some value
  | _ => none

/-- The condition on a step and the state before it: a call of `get_function` or `put_function` leaves in the buffer the value of every
request whose event is still being read from there. -/
def LeavesValues (s : ServiceRun) : ServiceStep → Prop
  | .get content ret | .put _ content ret =>
    ∀ t value m, (s.request t).reading = some value → afterCall content ret = some m → bufferString m = value
  | _ => True

/-! ## The string in the buffer -/

/-- The buffer holds the string `value`, with its NUL. -/
structure HoldsString (m : Mem) (value : List UInt8) : Prop where
  string : bufferString m = value
  fits : value.length < MHD_MAX_BUFFER_SIZE

section

variable {m : Mem} {value : List UInt8}

theorem length_bufferString (m : Mem) : (bufferString m).length = strlen m 0 MHD_MAX_BUFFER_SIZE := length_bytes ..

/-- The byte at a position of the string, the one behind its end being the NUL. -/
theorem HoldsString.byte (h : HoldsString m value) {copied rest : List UInt8} (hv : value = copied ++ rest) :
    m copied.length = rest.headD 0 ∧ (m copied.length = 0 ↔ rest = []) := by
  have hlen : value.length = strlen m 0 MHD_MAX_BUFFER_SIZE := by rw [← h.string, length_bufferString]
  have hfits := h.fits
  obtain ⟨hno, hnul⟩ := @strlen_spec m MHD_MAX_BUFFER_SIZE 0
  cases rest with
  | nil =>
    rw [List.append_nil] at hv
    have h0 : m copied.length = 0 := by
      have := hnul (by omega)
      rwa [Nat.zero_add, ← hlen, hv] at this
    exact ⟨h0, iff_of_true h0 rfl⟩
  | cons b rest =>
    have hk : copied.length < strlen m 0 MHD_MAX_BUFFER_SIZE := by
      rw [← hlen, hv, List.length_append, List.length_cons]
      omega
    have hb : m copied.length = b := by
      have hget : (bufferString m)[copied.length]? = some b := by
        rw [h.string, hv, List.getElem?_append_right (Nat.le_refl _), Nat.sub_self]
        rfl
      obtain ⟨hi, he⟩ := List.getElem?_eq_some_iff.mp hget
      rw [← he]
      simp only [bufferString, getElem_bytes, Nat.zero_add]
    have hne : m copied.length ≠ 0 := by
      have := hno _ hk
      rwa [Nat.zero_add] at this
    exact ⟨hb, iff_of_false hne (List.cons_ne_nil _ _)⟩

/-- While the string is measured, the NUL is found at its end. -/
theorem HoldsString.nul_iff (h : HoldsString m value) {n : Nat} (hn : n ≤ value.length) : m n = 0 ↔ n = value.length := by
  have hb := (h.byte (List.take_append_drop n value).symm).2
  rw [List.length_take_of_le hn, List.drop_eq_nil_iff] at hb
  exact hb.trans ⟨fun hle => Nat.le_antisymm hn hle, fun he => Nat.le_of_eq he.symm⟩

/-- A call that does not fail leaves a string. -/
theorem holdsString_afterCall {content : Mem} {ret : Nat} (h : afterCall content ret = some m) (h0 : ret ≠ 0) :
    HoldsString m (bufferString m) := by
  rw [afterCall, if_neg h0, Option.ite_none_right_eq_some, Option.some.injEq] at h
  obtain ⟨hret, rfl⟩ := h
  refine ⟨rfl, Nat.lt_of_le_of_lt ?_ hret⟩
  rw [length_bufferString]
  refine strlen_le_of_zero ?_
  rw [Nat.zero_add, write_singleton]

end

/-! ## The invariant -/

/-- What holds of a request while the buffer is `m`: what it has read so far is its value, and so is what it will read. -/
def PhaseHolds (m : Mem) : PutPhase → Prop
  | .measuring value n => HoldsString m value ∧ n ≤ value.length
  | .copying value n copied => HoldsString m value ∧ n = value.length ∧ ∃ rest, value = copied ++ rest
  | .created value data => data = value
  | _ => True

/-- Every request has read its own value, and the events are those of the requests that are answered. -/
structure ServiceInv (value_url : String) (s : ServiceRun) : Prop where
  phases : ∀ t, PhaseHolds s.get_function_buffer (s.request t)
  events : ∀ t, s.eventsOf t = (s.request t).events value_url

/-- A buffer that holds the string a request is reading will do for another. -/
theorem PhaseHolds.of_buffer {m m' : Mem} {p : PutPhase} (h : PhaseHolds m p)
    (hm : ∀ value, p.reading = some value → bufferString m' = value) : PhaseHolds m' p := by
  cases p with
  | measuring v n => exact ⟨⟨hm v rfl, h.1.fits⟩, h.2⟩
  | copying v n copied => exact ⟨⟨hm v rfl, h.1.fits⟩, h.2⟩
  | created v data => exact h
  | waiting | refused | answered => trivial

section

variable {value_url : String} {s s' : ServiceRun} {t : Nat}

/-- One request comes further; the buffer and the events stay. -/
theorem ServiceInv.setRequest (h : ServiceInv value_url s) {p : PutPhase} (hp : PhaseHolds s.get_function_buffer p)
    (he : p.events value_url = (s.request t).events value_url) : ServiceInv value_url (s.setRequest t p) := by
  refine ⟨fun t' => ?_, fun t' => ?_⟩
  · by_cases ht : t' = t
    · subst ht
      rw [ServiceRun.request_setRequest_self]
      exact hp
    · rw [ServiceRun.request_setRequest_of_ne _ _ ht]
      exact h.phases t'
  · have hsame : (s.setRequest t p).eventsOf t' = s.eventsOf t' := rfl
    rw [hsame, h.events]
    by_cases ht : t' = t
    · subst ht
      rw [ServiceRun.request_setRequest_self, he]
    · rw [ServiceRun.request_setRequest_of_ne _ _ ht]

/-- A call changes the buffer to one that all who read from it can go on with. -/
theorem ServiceInv.setBuffer (h : ServiceInv value_url s) {m : Mem}
    (hm : ∀ t value, (s.request t).reading = some value → bufferString m = value) :
    ServiceInv value_url { s with get_function_buffer := m } :=
  ⟨fun t => (h.phases t).of_buffer (hm t), h.events⟩

/-- The event of a request is queued. -/
theorem ServiceInv.publish (h : ServiceInv value_url s) {value : List UInt8} (hp : (s.request t).events value_url = []) :
    ServiceInv value_url { s.setRequest t (.answered value) with published := s.published ++ [(t, ⟨value_url, value⟩)] } := by
  refine ⟨fun t' => ?_, fun t' => ?_⟩
  · change PhaseHolds s.get_function_buffer ((s.setRequest t (.answered value)).request t')
    by_cases ht : t' = t
    · subst ht
      rw [ServiceRun.request_setRequest_self]
      trivial
    · rw [ServiceRun.request_setRequest_of_ne _ _ ht]
      exact h.phases t'
  · change List.map Prod.snd (List.filter (fun e : Nat × Event => e.1 == t') (s.published ++ [(t, Event.mk value_url value)])) =
      ((s.setRequest t (.answered value)).request t').events value_url
    rw [List.filter_append, List.map_append]
    change s.eventsOf t' ++ _ = _
    by_cases ht : t' = t
    · subst ht
      rw [h.events, hp, ServiceRun.request_setRequest_self]
      simp [PutPhase.events]
    · have hne : (t == t') = false := beq_eq_false_iff_ne.mpr (Ne.symm ht)
      rw [h.events, ServiceRun.request_setRequest_of_ne _ _ ht]
      simp [hne]

/-- How many steps a request is away from its answer at most. -/
def PutPhase.remaining : PutPhase → Nat
  | .measuring value n => (value.length - n) + value.length + 3
  | .copying value _ copied => value.length - copied.length + 2
  | .created _ _ => 1
  | _ => 0

/-- The request makes a step that keeps the invariant, and comes to its answer with it or nearer to it. -/
def Advances (value_url : String) (s : ServiceRun) (t : Nat) (value : List UInt8) : Prop :=
  ∃ s', advance value_url s t = some s' ∧ ServiceInv value_url s' ∧ (s'.request t = .answered value ∨
    (s'.request t).unanswered = some value ∧ (s'.request t).remaining < (s.request t).remaining)

/-- One more byte is measured, or the NUL is found. -/
theorem advances_measuring (h : ServiceInv value_url s) {value : List UInt8} {n : Nat} (hp : s.request t = .measuring value n) :
    Advances value_url s t value := by
  have hphase := h.phases t
  rw [hp] at hphase
  obtain ⟨hstr, hn⟩ := hphase
  have hfits := hstr.fits
  have hadv : advance value_url s t = some (s.setRequest t
      (if s.get_function_buffer n = 0 then .copying value n [] else .measuring value (n + 1))) := by
    rw [advance, hp]
    exact if_pos (by omega)
  refine ⟨_, hadv, ?_, ?_⟩
  · refine h.setRequest ?_ ?_
    · split
      · rename_i h0
        exact ⟨hstr, (hstr.nul_iff hn).mp h0, value, rfl⟩
      · rename_i h0
        have hne : n ≠ value.length := fun he => h0 ((hstr.nul_iff hn).mpr he)
        exact ⟨hstr, by omega⟩
    · rw [hp]
      split <;> rfl
  · rw [ServiceRun.request_setRequest_self, hp]
    split
    · refine .inr ⟨rfl, ?_⟩
      simp only [PutPhase.remaining, List.length_nil]
      omega
    · rename_i h0
      have hne : n ≠ value.length := fun he => h0 ((hstr.nul_iff hn).mpr he)
      refine .inr ⟨rfl, ?_⟩
      simp only [PutPhase.remaining]
      omega

/-- One more byte is copied, or the NUL is found. -/
theorem advances_copying (h : ServiceInv value_url s) {value copied : List UInt8} {n : Nat}
    (hp : s.request t = .copying value n copied) : Advances value_url s t value := by
  have hphase := h.phases t
  rw [hp] at hphase
  obtain ⟨hstr, hn, rest, hrest⟩ := hphase
  obtain ⟨hb, hnul⟩ := hstr.byte hrest
  have hlen : value.length = copied.length + rest.length := by rw [hrest, List.length_append]
  have hadv : advance value_url s t = some (s.setRequest t (if s.get_function_buffer copied.length = 0 then .created value copied
      else .copying value n (copied ++ [s.get_function_buffer copied.length]))) := by
    rw [advance, hp]
    exact if_pos (by omega)
  refine ⟨_, hadv, ?_, ?_⟩
  · refine h.setRequest ?_ ?_
    · split
      · rename_i h0
        rw [hnul.mp h0, List.append_nil] at hrest
        exact hrest.symm
      · rename_i h0
        refine ⟨hstr, hn, rest.tail, ?_⟩
        cases rest with
        | nil => exact absurd (hnul.mpr rfl) h0
        | cons b rest =>
          rw [hb, hrest]
          simp
    · rw [hp]
      split <;> rfl
  · rw [ServiceRun.request_setRequest_self, hp]
    split
    · refine .inr ⟨rfl, ?_⟩
      simp only [PutPhase.remaining]
      omega
    · rename_i h0
      have hne : rest ≠ [] := fun he => h0 (hnul.mpr he)
      have hpos := List.length_pos_iff.mpr hne
      refine .inr ⟨rfl, ?_⟩
      simp only [PutPhase.remaining, List.length_append, List.length_singleton]
      omega

/-- The event is queued. -/
theorem advances_created (h : ServiceInv value_url s) {value data : List UInt8} (hp : s.request t = .created value data) :
    Advances value_url s t value := by
  have hdata := h.phases t
  rw [hp] at hdata
  have hadv : advance value_url s t =
      some { s.setRequest t (.answered value) with published := s.published ++ [(t, ⟨value_url, value⟩)] } := by
    rw [advance, hp, show data = value from hdata]
  exact ⟨_, hadv, h.publish (by rw [hp]; rfl), .inl (ServiceRun.request_setRequest_self ..)⟩

/-- A request that has released the mutex comes a step further with its value, and with the last step to its answer. -/
theorem advance_spec (h : ServiceInv value_url s) {value : List UInt8} (hv : (s.request t).unanswered = some value) :
    Advances value_url s t value := by
  cases hp : s.request t with
  | waiting | refused | answered =>
    rw [hp] at hv
    cases hv
  | measuring v n =>
    rw [hp] at hv
    cases hv
    exact advances_measuring h hp
  | copying v n copied =>
    rw [hp] at hv
    cases hv
    exact advances_copying h hp
  | created v data =>
    rw [hp] at hv
    cases hv
    exact advances_created h hp

/-! ## Runs -/

/-- A step that meets the condition keeps the invariant. -/
theorem serviceStep_inv (s : ServiceRun) (i : ServiceStep) (s' : ServiceRun) (h : ServiceInv value_url s) (hc : LeavesValues s i)
    (hs : serviceStep value_url s i = some s') : ServiceInv value_url s' := by
  cases i with
  | get content ret =>
    obtain ⟨m, hm, rfl⟩ := Option.map_eq_some_iff.mp hs
    exact h.setBuffer fun t value hv => hc t value m hv hm
  | put t content ret =>
    cases hp : s.request t with
    | waiting =>
      simp only [serviceStep, hp] at hs
      obtain ⟨m, hm, rfl⟩ := Option.map_eq_some_iff.mp hs
      have hbuf : ServiceInv value_url { s with get_function_buffer := m } :=
        h.setBuffer fun t value hv => hc t value m hv hm
      refine hbuf.setRequest ?_ ?_
      · split
        · trivial
        · rename_i h0
          exact ⟨holdsString_afterCall hm h0, Nat.zero_le _⟩
      · change _ = (s.request t).events value_url
        rw [hp]
        split <;> rfl
    | refused | measuring | copying | created | answered =>
      simp only [serviceStep, hp] at hs
      cases hs
  | badRequest t =>
    cases hp : s.request t with
    | waiting =>
      simp only [serviceStep, hp, Option.some.injEq] at hs
      rw [← hs]
      exact h.setRequest trivial (by rw [hp]; rfl)
    | refused | measuring | copying | created | answered =>
      simp only [serviceStep, hp] at hs
      cases hs
  | advance t =>
    cases hv : (s.request t).unanswered with
    | some value =>
      obtain ⟨s'', hs'', hinv, _⟩ := advance_spec h hv
      cases hs''.symm.trans hs
      exact hinv
    | none =>
      have hnone : advance value_url s t = none := by
        rw [advance]
        cases hp : s.request t with
        | waiting | refused | answered => rfl
        | measuring | copying | created =>
          rw [hp] at hv
          cases hv
      cases hnone.symm.trans hs

/-- A request that has released the mutex comes to its answer when it is left alone. -/
theorem ServiceInv.answers : ∀ {k : Nat} {s : ServiceRun}, ServiceInv value_url s → ∀ {value : List UInt8},
    (s.request t).unanswered = some value → (s.request t).remaining ≤ k →
      ∃ n s', run (serviceStep value_url) s (List.replicate n (.advance t)) = some s' ∧ s'.request t = .answered value := by
  intro k
  induction k with
  | zero =>
    intro s h value hv hk
    cases hp : s.request t <;> rw [hp] at hv hk
    · cases hv
    · cases hv
    · simp only [PutPhase.remaining] at hk
      omega
    · simp only [PutPhase.remaining] at hk
      omega
    · simp only [PutPhase.remaining] at hk
      omega
    · cases hv
  | succ k ih =>
    intro s h value hv hk
    obtain ⟨s₁, hs₁, hinv, hanswered | ⟨hv₁, hlt⟩⟩ := advance_spec h hv
    · exact ⟨1, s₁, by rw [List.replicate_one, run_cons, serviceStep, hs₁]; rfl, hanswered⟩
    · obtain ⟨n, s', hrun, hend⟩ := ih hinv hv₁ (by omega)
      exact ⟨n + 1, s', by rw [List.replicate_succ, run_cons, serviceStep, hs₁, Option.bind_some, hrun], hend⟩

end

/-- In every run in which each call of the service's functions leaves the values of the requests whose events are still being read,
every request that is answered with a value has one event, which carries it, in every state of the run. -/
theorem ownEvents_always (value_url : String) (get_function_buffer : Mem) (is : List ServiceStep)
    (h : Along (serviceStep value_url) LeavesValues (.start get_function_buffer) is) :
    Always (serviceStep value_url) (OwnEvents value_url) (.start get_function_buffer) is := by
  have hstart : ServiceInv value_url (.start get_function_buffer) := ⟨fun _ => trivial, fun _ => rfl⟩
  have himp : ∀ s, ServiceInv value_url s → OwnEvents value_url s := fun s hs =>
    ⟨hs.events, fun t value hv => hs.answers hv (Nat.le_refl _)⟩
  exact h.always himp serviceStep_inv hstart

/-- A lamp is switched on, and read by another client before the event is built: the call for the second leaves the value of the
first. -/
theorem leavesValues_lamp : Along (serviceStep "/lamp") LeavesValues (.start zeroed)
    [.put 1 (write zeroed 0 (ascii "on")) 2, .get (write zeroed 0 (ascii "on")) 2, .advance 1, .advance 1] := by
  intro s₁ h₁
  refine ⟨fun _ _ _ hv => (nomatch hv), ?_⟩
  cases h₁
  intro s₂ _
  refine ⟨fun t value m hv hm => ?_, fun _ _ => ⟨trivial, fun _ _ => ⟨trivial, trivial⟩⟩⟩
  by_cases ht : t = 1
  · subst ht
    cases hv
    cases hm
    rfl
  · rw [ServiceRun.request_setRequest_of_ne _ _ ht] at hv
    cases hv

theorem ownEvents_always_lamp : Always (serviceStep "/lamp") (OwnEvents "/lamp") (.start zeroed)
    [.put 1 (write zeroed 0 (ascii "on")) 2, .get (write zeroed 0 (ascii "on")) 2, .advance 1, .advance 1] :=
  ownEvents_always "/lamp" zeroed _ leavesValues_lamp

/-- A lamp is switched on, then off by another client before the event of the first request is built: the event says it is off. -/
theorem not_ownEvents_always : ¬∀ value_url m is, Always (serviceStep value_url) (OwnEvents value_url) (.start m) is := by
  intro h
  have hrun : (run (serviceStep "/lamp") (.start zeroed)
      ([.put 1 (write zeroed 0 (ascii "1")) 1, .put 2 (write zeroed 0 (ascii "0")) 1] ++ List.replicate 5 (.advance 1))).map
        (fun s => ((s.eventsOf 1).map Event.data, ((s.request 1).events "/lamp").map Event.data)) =
      some ([ascii "0"], [ascii "1"]) := by
    decide +kernel
  obtain ⟨s, hs, he⟩ := Option.map_eq_some_iff.mp hrun
  obtain ⟨h0, h1⟩ := Prod.mk.inj he
  have hown := always_iff_beginning.mp (h "/lamp" zeroed _) _ [] s (List.append_nil _).symm hs
  rw [hown.events, h1] at h0
  exact absurd h0 (by decide)

end HomeBridge.Hpd
