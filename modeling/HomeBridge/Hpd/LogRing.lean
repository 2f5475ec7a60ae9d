import Mathlib.Algebra.Group.Nat.Defs
import HomeBridge.Hpd.Log

/-!
# What the log holds

The log as its reader sees it: the header, the messages of this round in the order they came, and behind them what is left of the
rounds before. A message that does not fit behind the last one begins a round.
-/

namespace HomeBridge.Hpd

open CMem

/-- The lines written since the last time the position went back, and what was behind the header then. -/
structure Ring where
  header : List UInt8
  round : List (List UInt8)
  under : List UInt8

namespace Ring

/-- What is behind the header: this round over the ones before. -/
def content (r : Ring) : List UInt8 := r.round.flatten ++ r.under.drop r.round.flatten.length

/-- How much of it, with the header, is of this round. -/
def reached (r : Ring) : Nat := r.header.length + r.round.flatten.length

/-- A message, which goes into this round if it fits, its line break not counted. -/
def put (limit : Int) (r : Ring) (log_message : List UInt8) : Ring :=
  if limit < (r.reached + log_message.length : Int) then
    { r with round := [log_message ++ ascii "\n"], under := r.content }
  else { r with round := r.round ++ [log_message ++ ascii "\n"] }

/-- The log as it is found. -/
def found (l : HPD_Log) : Ring := ⟨l.file.take l.initial_pos, [], l.file.drop l.initial_pos⟩

end Ring

/-- The call's message is logged. -/
def LogCall.Recorded (log_level : Nat) (c : LogCall) : Prop :=
  log_level ≠ HPD_LOG_NO_LOG ∧ c.opened = true ∧ c.log_level ≤ log_level

instance (log_level : Nat) (c : LogCall) : Decidable (c.Recorded log_level) := inferInstanceAs (Decidable (_ ∧ _ ∧ _))

/-- The messages logged by a number of calls. -/
def recorded (log_level : Nat) (calls : List LogCall) : List (List UInt8) :=
  (calls.filter fun c => decide (c.Recorded log_level)).map get_allocated_log_message

namespace HPD_Log

/-- The log after a number of calls. -/
def after (l : HPD_Log) (calls : List LogCall) : HPD_Log := calls.foldl (fun l c => (l.Log c).2) l

/-- The file is what the ring says, and the position is at the end of its round. -/
structure Holds (l : HPD_Log) (r : Ring) : Prop where
  file : l.file = r.header ++ r.content
  pos : l.pos = r.reached
  initial_pos : l.initial_pos = r.header.length

/-! ## Writing over -/

/-- What is written behind a part of the file that is there. -/
theorem writeAt_append (pre rest bs : List UInt8) : writeAt (pre ++ rest) pre.length bs = pre ++ bs ++ rest.drop bs.length := by
  have hpre : pre.length ≤ (pre ++ rest).length := by
    rw [List.length_append]
    exact Nat.le_add_right ..
  rw [writeAt, List.takeD_eq_take 0 hpre, List.take_left, ← List.drop_drop, List.drop_left]

/-- A line behind the last one of the round. -/
theorem writeAt_reached (r : Ring) (line : List UInt8) :
    writeAt (r.header ++ r.content) r.reached line = r.header ++ Ring.content { r with round := r.round ++ [line] } := by
  have h := writeAt_append (r.header ++ r.round.flatten) (r.under.drop r.round.flatten.length) line
  rw [List.length_append, List.append_assoc] at h
  simp only [Ring.content, Ring.reached, h, List.flatten_append, List.flatten_cons, List.flatten_nil, List.append_nil,
    List.append_assoc, List.drop_drop, List.length_append]

/-- A line behind the header. -/
theorem writeAt_header (r : Ring) (line : List UInt8) :
    writeAt (r.header ++ r.content) r.header.length line = r.header ++ Ring.content { r with round := [line], under := r.content } := by
  rw [writeAt_append]
  simp only [Ring.content, List.flatten_cons, List.flatten_nil, List.append_nil, List.append_assoc]

/-! ## One call -/

/-- What the test for room is made with: a limit behind the header, and sizes whose sum does not pass 2^64. -/
structure Sized (l : HPD_Log) : Prop where
  initial_pos : (l.initial_pos : Int) ≤ l.max_log_size.toInt
  pos : l.pos ≤ 2 ^ 31 + 2 ^ 62

/-- A message that its memory could hold. -/
def Short (log_message : List UInt8) : Prop := log_message.length < 2 ^ 62

theorem set_position_eq {l : HPD_Log} (hl : l.Sized) {log_message : List UInt8} (hm : Short log_message) :
    l.set_position_for_new_message log_message.length =
      if l.max_log_size.toInt < (l.pos + log_message.length : Int) then l.initial_pos else l.pos := by
  have hlt := Int32.toInt_lt l.max_log_size
  have h0 := hl.initial_pos
  have hpos := hl.pos
  unfold Short at hm
  have hmax : (sizeT l.max_log_size.toInt : Int) = l.max_log_size.toInt := by
    rw [sizeT]
    omega
  have hsum : (sizeT (l.pos + log_message.length) : Int) = l.pos + log_message.length := by
    rw [sizeT]
    omega
  rw [set_position_for_new_message]
  by_cases h : l.max_log_size.toInt < (l.pos + log_message.length : Int)
  · rw [if_pos h, if_pos (by omega)]
  · rw [if_neg h, if_neg (by omega)]

/-- A call that is not recorded changes nothing. -/
theorem log_eq_self {l : HPD_Log} {c : LogCall} (hc : ¬c.Recorded l.log_level) : (l.Log c).2 = l := by
  rcases log_cases l c with ⟨-, h⟩ | ⟨_, _, -, -, hw, -⟩
  · exact h
  · rw [LogCall.Recorded] at hc
    rw [written, if_neg hc] at hw
    cases hw

/-- One that is writes its message, with a line break, at the position set for it. -/
theorem log_eq {l : HPD_Log} {c : LogCall} (hc : c.Recorded l.log_level) :
    (l.Log c).2 = { l with
      pos := l.set_position_for_new_message (get_allocated_log_message c).length + (get_allocated_log_message c ++ ascii "\n").length
      file := writeAt l.file (l.set_position_for_new_message (get_allocated_log_message c).length)
        (get_allocated_log_message c ++ ascii "\n") } := by
  obtain ⟨hno, hopen, hlevel⟩ := hc
  rw [Log, if_neg hno, if_neg (by rw [hopen]; exact Bool.noConfusion), if_pos hlevel]

/-- What no call changes. -/
theorem log_fixed (l : HPD_Log) (c : LogCall) :
    (l.Log c).2.log_level = l.log_level ∧ (l.Log c).2.max_log_size = l.max_log_size ∧ (l.Log c).2.initial_pos = l.initial_pos := by
  by_cases hc : c.Recorded l.log_level
  · rw [log_eq hc]
    exact ⟨rfl, rfl, rfl⟩
  · rw [log_eq_self hc]
    exact ⟨rfl, rfl, rfl⟩

/-- The message goes where the ring has it. -/
theorem Holds.put {l : HPD_Log} {r : Ring} {c : LogCall} (h : l.Holds r) (hl : l.Sized) (hc : c.Recorded l.log_level)
    (hm : Short (get_allocated_log_message c)) :
    (l.Log c).2.Holds (r.put l.max_log_size.toInt (get_allocated_log_message c)) ∧ (l.Log c).2.Sized := by
  have hset := set_position_eq hl hm
  have h0 := hl.initial_pos
  have hlt := Int32.toInt_lt l.max_log_size
  have hline : (get_allocated_log_message c ++ ascii "\n").length = (get_allocated_log_message c).length + 1 := List.length_append
  rw [h.pos, h.initial_pos] at hset
  rw [h.initial_pos] at h0
  rw [log_eq hc, Ring.put, hset]
  unfold Short at hm
  split
  · rw [h.file, h.initial_pos, writeAt_header]
    refine ⟨⟨rfl, ?_, rfl⟩, h0, ?_⟩
    · simp only [Ring.reached, List.flatten_cons, List.flatten_nil, List.append_nil]
    · simp only
      omega
  · rw [h.file, writeAt_reached]
    refine ⟨⟨rfl, ?_, h.initial_pos⟩, hl.initial_pos, ?_⟩
    · simp only [Ring.reached, List.flatten_append, List.flatten_cons, List.flatten_nil, List.append_nil, List.length_append]
      omega
    · simp only
      omega

/-! ## Runs -/

/-- From a log that holds a ring on, the messages of the calls are put into the ring. -/
theorem Holds.after {calls : List LogCall} :
    ∀ {l : HPD_Log} {r : Ring}, l.Holds r → l.Sized → (∀ c ∈ calls, Short (get_allocated_log_message c)) →
      (l.after calls).Holds ((recorded l.log_level calls).foldl (Ring.put l.max_log_size.toInt) r) := by
  induction calls with
  | nil => exact fun h _ _ => h
  | cons c calls ih =>
    intro l r h hl hm
    obtain ⟨hlevel, hmax, -⟩ := log_fixed l c
    have hrest : ∀ c ∈ calls, Short (get_allocated_log_message c) := fun c' hc' => hm c' (List.mem_cons_of_mem c hc')
    by_cases hc : c.Recorded l.log_level
    · obtain ⟨hput, hsized⟩ := h.put hl hc (hm c (List.mem_cons_self ..))
      have hrec : recorded l.log_level (c :: calls) = get_allocated_log_message c :: recorded l.log_level calls := by
        rw [recorded, List.filter_cons, if_pos (decide_eq_true hc), List.map_cons, recorded]
      have hih := ih hput hsized hrest
      rw [hlevel, hmax] at hih
      rw [hrec, List.foldl_cons]
      exact hih
    · have hrec : recorded l.log_level (c :: calls) = recorded l.log_level calls := by
        rw [recorded, List.filter_cons, if_neg (by rw [decide_eq_true_eq]; exact hc), recorded]
      have hself : l.after (c :: calls) = l.after calls := by
        rw [HPD_Log.after, List.foldl_cons, log_eq_self hc, HPD_Log.after]
      rw [hrec, hself]
      exact ih h hl hrest

/-- The log as it is created holds what it found, with no round begun. -/
theorem holds_found (max_log_size : Int32) (log_level : Nat) (date : List UInt8) (found : Option (List UInt8)) :
    Holds (create_hpd_log max_log_size log_level date found) (.found (create_hpd_log max_log_size log_level date found)) := by
  have hplaced := placed_create max_log_size log_level date found
  have hlen : (Ring.found (create_hpd_log max_log_size log_level date found)).header.length =
      (create_hpd_log max_log_size log_level date found).initial_pos := by
    rw [Ring.found, List.length_take, Nat.min_eq_left hplaced.file]
  refine ⟨?_, ?_, hlen.symm⟩
  · exact (List.take_append_drop _ _).symm
  · rw [create_pos, ← hlen]
    rfl

@[simp] theorem create_log_level (max_log_size : Int32) (log_level : Nat) (date : List UInt8) (found : Option (List UInt8)) :
    (create_hpd_log max_log_size log_level date found).log_level = log_level := by
  cases found <;> rfl

/-- The lines of a round are the last ones that were put. -/
theorem round_suffix (limit : Int) (messages : List (List UInt8)) :
    ∀ r : Ring, (messages.foldl (Ring.put limit) r).round <:+ r.round ++ messages.map (· ++ ascii "\n") := by
  induction messages with
  | nil =>
    intro r
    rw [List.map_nil, List.append_nil]
    exact List.suffix_refl _
  | cons m messages ih =>
    intro r
    have h := ih (r.put limit m)
    rw [List.foldl_cons, List.map_cons]
    rw [Ring.put] at h ⊢
    split at h
    · rename_i hwrap
      rw [if_pos hwrap]
      exact h.trans (List.suffix_append _ _)
    · rename_i hfits
      rw [if_neg hfits]
      rwa [List.append_assoc, List.singleton_append] at h

/-- After any calls the file is the header as it was found, the lines of this round whole and in order, and what the rounds before left
behind them; the round is the end of what was logged, and it began with the last message that passed the limit. -/
theorem log_ring (max_log_size : Int32) (log_level : Nat) (date : List UInt8) (found : Option (List UInt8)) (calls : List LogCall)
    (hmax : ((create_hpd_log max_log_size log_level date found).initial_pos : Int) ≤ max_log_size.toInt)
    (hshort : ∀ c ∈ calls, Short (get_allocated_log_message c)) :
    ((create_hpd_log max_log_size log_level date found).after calls).Holds
        ((recorded log_level calls).foldl (Ring.put max_log_size.toInt)
          (.found (create_hpd_log max_log_size log_level date found))) ∧
      ((recorded log_level calls).foldl (Ring.put max_log_size.toInt)
          (.found (create_hpd_log max_log_size log_level date found))).round <:+
        (recorded log_level calls).map (· ++ ascii "\n") := by
  have hlt := Int32.toInt_lt max_log_size
  have hsized : Sized (create_hpd_log max_log_size log_level date found) := by
    refine ⟨?_, ?_⟩
    · rw [create_max_log_size]
      exact hmax
    · rw [create_pos]
      omega
  have h := (holds_found max_log_size log_level date found).after hsized hshort
  rw [create_log_level, create_max_log_size] at h
  exact ⟨h, round_suffix _ _ _⟩

/-- Two requests in a new log that has room for one. -/
theorem log_ring_sample :
    ((create_hpd_log 160 HPD_LOG_ALL (ascii "2013-04-08") none).after [sampleCall, sampleCall]).Holds
        ((recorded HPD_LOG_ALL [sampleCall, sampleCall]).foldl (Ring.put (160 : Int32).toInt)
          (.found (create_hpd_log 160 HPD_LOG_ALL (ascii "2013-04-08") none))) ∧
      ((recorded HPD_LOG_ALL [sampleCall, sampleCall]).foldl (Ring.put (160 : Int32).toInt)
          (.found (create_hpd_log 160 HPD_LOG_ALL (ascii "2013-04-08") none))).round <:+
        (recorded HPD_LOG_ALL [sampleCall, sampleCall]).map (· ++ ascii "\n") := by
  have hmax : ((create_hpd_log 160 HPD_LOG_ALL (ascii "2013-04-08") none).initial_pos : Int) ≤ (160 : Int32).toInt := by
    rw [create_hpd_log, length_sampleHeader]
    decide
  have hshort : ∀ c ∈ [sampleCall, sampleCall], Short (get_allocated_log_message c) := by
    intro c hc
    have hc : c = sampleCall := by simpa using hc
    rw [hc, Short, length_sampleMessage]
    decide
  exact log_ring 160 HPD_LOG_ALL (ascii "2013-04-08") none [sampleCall, sampleCall] hmax hshort

end HPD_Log

end HomeBridge.Hpd
