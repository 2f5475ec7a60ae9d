import Mathlib.Data.List.TakeDrop
import HomeBridge.Lib.Memory
import HomeBridge.Lib.Run
import HomeBridge.Hpd.Services

/-!
# The log file

`hpd_log.c`. The log is one file with a header of three lines. A message is written behind the last one, or, where the limit would be
passed, behind the header again, over the oldest ones. The test asks for room for the message, and the line break that is written with
it is not counted; nor is it asked whether the message fits behind the header.
-/

namespace HomeBridge.Hpd

open CMem Runs

@[simp] def HPD_E_FAILED_TO_OPEN_FILE : Int := -28
@[simp] def HPD_E_LOG_FAILED : Int := -29

@[simp] def HPD_LOG_NO_LOG : Nat := 0
@[simp] def HPD_LOG_ONLY_REQUESTS : Nat := 1
@[simp] def HPD_LOG_ALL : Nat := 2

/-- The log, with the content of its file. -/
structure HPD_Log where
  max_log_size : Int32
  log_level : Nat
  initial_pos : Nat
  pos : Nat
  file : List UInt8

/-- A call of `Log`: its arguments, the date and the time, and whether the file can be opened. -/
structure LogCall where
  log_level : Nat
  error_string : Option (List UInt8)
  client_IP : Option (List UInt8)
  method : Option (List UInt8)
  uri_stem : Option (List UInt8)
  uri_query : Option (List UInt8)
  date : List UInt8
  new_time : List UInt8
  opened : Bool

/-- The header of a new file. -/
def logHeader (date : List UInt8) : List UInt8 :=
  ascii "#Version: 1.0\n" ++ ascii "#Date: " ++ date ++ ascii "\n" ++
    ascii "#Fields: date time x-error-string c-ip cs-method cs-uri-stem cs-uri-query\n"

/-- How much `fgets` reads with a buffer for `n` bytes and a NUL: a line, if it is not too long. -/
def fgets : Nat → List UInt8 → Nat
  | 0, _ | _, [] => 0
  | n + 1, b :: bs => if b = 0x0A then 1 else fgets n bs + 1

/-- The position behind three lines. -/
def skipHeader (file : List UInt8) : Nat :=
  let first := fgets 255 file
  let second := fgets 255 (file.drop first)
  first + second + fgets 255 (file.drop (first + second))

/-- `create_hpd_log`: a file that is there is taken as it is, another one is begun. -/
def create_hpd_log (max_log_size : Int32) (log_level : Nat) (date : List UInt8) : Option (List UInt8) → HPD_Log
  | none => ⟨max_log_size, log_level, (logHeader date).length, (logHeader date).length, logHeader date⟩
  | some file => ⟨max_log_size, log_level, skipHeader file, skipHeader file, file⟩

/-- A number converted to `size_t`. -/
def sizeT (z : Int) : Nat := (z % 0x10000000000000000).toNat

/-- What is written in place of a missing part. -/
def orDash (part : Option (List UInt8)) : List UInt8 := part.getD (ascii "-")

/-- `get_allocated_log_message`. -/
def get_allocated_log_message (c : LogCall) : List UInt8 :=
  c.date ++ ascii " " ++ c.new_time ++ ascii " " ++ orDash c.error_string ++ ascii " " ++ orDash c.client_IP ++ ascii " " ++
    orDash c.method ++ ascii " " ++ orDash c.uri_stem ++ ascii " " ++ orDash c.uri_query

/-- A file written at a position; what lies between its end and the position is filled with zeros. -/
def writeAt (file : List UInt8) (pos : Nat) (bs : List UInt8) : List UInt8 :=
  file.takeD pos 0 ++ bs ++ file.drop (pos + bs.length)

namespace HPD_Log

/-- `set_position_for_new_message`: where the message is going to be written. -/
def set_position_for_new_message (l : HPD_Log) (size_of_log_message : Nat) : Nat :=
  if sizeT (l.pos + size_of_log_message) > sizeT l.max_log_size.toInt then l.initial_pos else l.pos

/-- What a call writes, with its line break, and where. -/
def written (l : HPD_Log) (c : LogCall) : Option (Nat × List UInt8) :=
  if l.log_level ≠ HPD_LOG_NO_LOG ∧ c.opened = true ∧ c.log_level ≤ l.log_level then
    let log_message := get_allocated_log_message c
    some (l.set_position_for_new_message log_message.length, log_message ++ ascii "\n")
  else none

/-- `Log`. -/
def Log (l : HPD_Log) (c : LogCall) : Int × HPD_Log :=
  if l.log_level = HPD_LOG_NO_LOG then (HPD_E_SUCCESS, l)
  else if c.opened = false then (HPD_E_FAILED_TO_OPEN_FILE, l)
  else if c.log_level ≤ l.log_level then
    let log_message := get_allocated_log_message c
    let pos := l.set_position_for_new_message log_message.length
    let line := log_message ++ ascii "\n"
    (HPD_E_SUCCESS, { l with pos := pos + line.length, file := writeAt l.file pos line })
  else (HPD_E_LOG_FAILED, l)

/-- A call, as a step. -/
def step (l : HPD_Log) (c : LogCall) : Option HPD_Log := some (l.Log c).2

/-- The position, and the file, are within the limit. -/
structure Within (l : HPD_Log) : Prop where
  pos : (l.pos : Int) ≤ l.max_log_size.toInt
  file : (l.file.length : Int) ≤ l.max_log_size.toInt

/-- After a call the log is within its limit; it has been written behind the header, which is as it was; and what was written is in the
file whole. -/
structure Bounded (l : HPD_Log) (c : LogCall) : Prop where
  within : (l.Log c).2.Within
  start : ∀ w, l.written c = some w → l.initial_pos ≤ w.1
  header : (l.Log c).2.file.take l.initial_pos = l.file.take l.initial_pos
  whole : ∀ w, l.written c = some w → ((l.Log c).2.file.drop w.1).take w.2.length = w.2

/-- The file is not too long before the call, and there is room for the message and its line break: behind the last message, or behind
the header where the message alone has no room behind the last one. -/
structure Room (l : HPD_Log) (c : LogCall) : Prop where
  file : (l.file.length : Int) ≤ l.max_log_size.toInt
  message : l.written c ≠ none →
    let size := (get_allocated_log_message c).length
    (l.pos + size + 1 : Int) ≤ l.max_log_size.toInt ∨
      l.max_log_size.toInt < (l.pos + size : Int) ∧ (l.initial_pos + size + 1 : Int) ≤ l.max_log_size.toInt

instance (l : HPD_Log) (c : LogCall) : Decidable (l.Room c) :=
  decidable_of_iff ((l.file.length : Int) ≤ l.max_log_size.toInt ∧ (l.written c ≠ none →
      let size := (get_allocated_log_message c).length
      (l.pos + size + 1 : Int) ≤ l.max_log_size.toInt ∨
        l.max_log_size.toInt < (l.pos + size : Int) ∧ (l.initial_pos + size + 1 : Int) ≤ l.max_log_size.toInt))
    ⟨fun h => ⟨h.1, h.2⟩, fun h => ⟨h.file, h.message⟩⟩

/-- What every call keeps: the file has a header, and the position is behind it. -/
structure Placed (l : HPD_Log) : Prop where
  pos : l.initial_pos ≤ l.pos
  file : l.initial_pos ≤ l.file.length

/-! ## The file -/

theorem length_writeAt (file : List UInt8) (pos : Nat) (bs : List UInt8) :
    (writeAt file pos bs).length = max (pos + bs.length) file.length := by
  rw [writeAt, List.length_append, List.length_append, List.takeD_length, List.length_drop]
  omega

/-- What is written is there. -/
theorem writeAt_self (file : List UInt8) (pos : Nat) (bs : List UInt8) : ((writeAt file pos bs).drop pos).take bs.length = bs := by
  have hlen : (file.takeD pos 0).length = pos := List.takeD_length ..
  rw [writeAt, List.append_assoc, List.drop_left' hlen, List.take_left]

theorem take_takeD {n : Nat} : ∀ {pos : Nat} {file : List UInt8}, n ≤ pos → n ≤ file.length →
    (file.takeD pos 0).take n = file.take n := by
  induction n with
  | zero => exact fun _ _ => rfl
  | succ n ih =>
    intro pos file hpos hfile
    cases pos with
    | zero => omega
    | succ pos =>
      cases file with
      | nil => exact absurd hfile (Nat.not_succ_le_zero n)
      | cons b bs =>
        rw [List.takeD, List.take_succ_cons, List.take_succ_cons, List.headD_cons, List.tail_cons,
          ih (Nat.le_of_succ_le_succ hpos) (Nat.le_of_succ_le_succ hfile)]

/-- What lies in front of it stays. -/
theorem writeAt_before {file : List UInt8} {n pos : Nat} (bs : List UInt8) (hpos : n ≤ pos) (hfile : n ≤ file.length) :
    (writeAt file pos bs).take n = file.take n := by
  have hlen : n ≤ (file.takeD pos 0).length := Nat.le_trans hpos (Nat.le_of_eq (List.takeD_length ..).symm)
  rw [writeAt, List.append_assoc, List.take_append_of_le_length hlen, take_takeD hpos hfile]

/-- A line is read from the file. -/
theorem fgets_le : ∀ (n : Nat) (file : List UInt8), fgets n file ≤ file.length
  | 0, _ => Nat.zero_le _
  | _ + 1, [] => Nat.zero_le _
  | n + 1, b :: bs => by
    rw [fgets, List.length_cons]
    split
    · exact Nat.le_add_left ..
    · exact Nat.add_le_add_right (fgets_le n bs) 1

theorem skipHeader_le (file : List UInt8) : skipHeader file ≤ file.length := by
  have h1 := fgets_le 255 file
  have h2 := fgets_le 255 (file.drop (fgets 255 file))
  have h3 := fgets_le 255 (file.drop (fgets 255 file + fgets 255 (file.drop (fgets 255 file))))
  rw [List.length_drop] at h2 h3
  rw [skipHeader]
  omega

/-- The log as it is created is placed. -/
theorem placed_create (max_log_size : Int32) (log_level : Nat) (date : List UInt8) (found : Option (List UInt8)) :
    Placed (create_hpd_log max_log_size log_level date found) := by
  cases found with
  | none => exact ⟨Nat.le_refl _, Nat.le_refl _⟩
  | some file => exact ⟨Nat.le_refl _, skipHeader_le file⟩

theorem create_pos (max_log_size : Int32) (log_level : Nat) (date : List UInt8) (found : Option (List UInt8)) :
    (create_hpd_log max_log_size log_level date found).pos = (create_hpd_log max_log_size log_level date found).initial_pos := by
  cases found <;> rfl

@[simp] theorem create_max_log_size (max_log_size : Int32) (log_level : Nat) (date : List UInt8) (found : Option (List UInt8)) :
    (create_hpd_log max_log_size log_level date found).max_log_size = max_log_size := by
  cases found <;> rfl

/-! ## One call -/

/-- A call writes nothing and leaves the log as it is, or writes the message and its line break at the position set for the message. -/
theorem log_cases (l : HPD_Log) (c : LogCall) :
    l.written c = none ∧ (l.Log c).2 = l ∨
      ∃ line pos, line.length = (get_allocated_log_message c).length + 1 ∧
        pos = l.set_position_for_new_message (get_allocated_log_message c).length ∧ l.written c = some (pos, line) ∧
        (l.Log c).2 = { l with pos := pos + line.length, file := writeAt l.file pos line } := by
  rw [written, Log]
  by_cases hno : l.log_level = HPD_LOG_NO_LOG
  · rw [if_neg fun h => h.1 hno, if_pos hno]
    exact .inl ⟨rfl, rfl⟩
  · by_cases hopen : c.opened = false
    · rw [if_neg fun h => Bool.false_ne_true (hopen.symm.trans h.2.1), if_neg hno, if_pos hopen]
      exact .inl ⟨rfl, rfl⟩
    · by_cases hlevel : c.log_level ≤ l.log_level
      · rw [if_pos ⟨hno, (Bool.not_eq_false _).mp hopen, hlevel⟩, if_neg hno, if_neg hopen, if_pos hlevel]
        have hlen : (get_allocated_log_message c ++ ascii "\n").length = (get_allocated_log_message c).length + 1 := List.length_append
        exact .inr ⟨_, _, hlen, rfl, rfl, rfl⟩
      · rw [if_neg fun h => hlevel h.2.2, if_neg hno, if_neg hopen, if_neg hlevel]
        exact .inl ⟨rfl, rfl⟩

/-- The position set is the one behind the header or the one behind the last message. -/
theorem initial_le_set_position {l : HPD_Log} (hl : l.Placed) (size : Nat) : l.initial_pos ≤ l.set_position_for_new_message size := by
  rw [set_position_for_new_message]
  split
  · exact Nat.le_refl _
  · exact hl.pos

/-- The sizes are compared as unsigned numbers of 64 bits, so that the limit is the one meant as long as it is not negative. -/
theorem set_position_add_le_iff {l : HPD_Log} (hpos : (l.pos : Int) ≤ l.max_log_size.toInt) (size : Nat) :
    (l.set_position_for_new_message size + size + 1 : Int) ≤ l.max_log_size.toInt ↔
      (l.pos + size + 1 : Int) ≤ l.max_log_size.toInt ∨
        l.max_log_size.toInt < (l.pos + size : Int) ∧ (l.initial_pos + size + 1 : Int) ≤ l.max_log_size.toInt := by
  have hlt := Int32.toInt_lt l.max_log_size
  have hmax : (sizeT l.max_log_size.toInt : Int) = l.max_log_size.toInt := by
    rw [sizeT]
    omega
  rw [set_position_for_new_message]
  by_cases hwrap : sizeT (l.pos + size) > sizeT l.max_log_size.toInt
  · rw [if_pos hwrap]
    have hfull : l.max_log_size.toInt < (l.pos + size : Int) := by
      unfold sizeT at hwrap hmax
      omega
    exact ⟨fun h => .inr ⟨hfull, h⟩, fun h => h.elim (fun h => absurd hfull (by omega)) And.right⟩
  · rw [if_neg hwrap]
    refine ⟨.inl, fun h => h.elim id fun h => absurd hwrap ?_⟩
    -- a message that has room behind the header is too short for the sum to reach 2^64
    unfold sizeT at hmax ⊢
    omega

/-- After a call the log is within its limit when it had room. -/
theorem within_iff_room {l : HPD_Log} (hpos : (l.pos : Int) ≤ l.max_log_size.toInt) (c : LogCall) :
    (l.Log c).2.Within ↔ l.Room c := by
  rcases log_cases l c with ⟨hw, hl⟩ | ⟨line, pos, hlen, hset, hw, hl⟩
  · rw [hl]
    exact ⟨fun h => ⟨h.file, fun hne => absurd hw hne⟩, fun h => ⟨hpos, h.file⟩⟩
  · have hiff := set_position_add_le_iff hpos (get_allocated_log_message c).length
    rw [hl]
    constructor
    · rintro ⟨hp, hf⟩
      simp only [length_writeAt, hlen] at hp hf
      exact ⟨by omega, fun _ => hiff.mp (by omega)⟩
    · rintro ⟨hf, hm⟩
      have hm := hiff.mpr (hm (by rw [hw]; exact Option.some_ne_none _))
      refine ⟨?_, ?_⟩ <;> simp only [length_writeAt, hlen] <;> omega

/-- In a log that is placed only the limit is at stake. -/
theorem bounded_iff_room {l : HPD_Log} (hl : l.Placed) (hpos : (l.pos : Int) ≤ l.max_log_size.toInt) (c : LogCall) :
    l.Bounded c ↔ l.Room c := by
  rw [← within_iff_room hpos c]
  refine ⟨Bounded.within, fun hin => ?_⟩
  rcases log_cases l c with ⟨hw, hc⟩ | ⟨line, pos, _, hset, hw, hc⟩
  · refine ⟨hin, fun w h => ?_, by rw [hc], fun w h => ?_⟩ <;> exact absurd (hw.symm.trans h).symm (Option.some_ne_none _)
  · have hstart : l.initial_pos ≤ pos := hset ▸ initial_le_set_position hl _
    refine ⟨hin, fun w h => ?_, ?_, fun w h => ?_⟩
    · obtain rfl := Option.some.inj (hw.symm.trans h)
      exact hstart
    · rw [hc]
      exact writeAt_before _ hstart hl.file
    · obtain rfl := Option.some.inj (hw.symm.trans h)
      rw [hc]
      exact writeAt_self l.file pos line

/-- A call keeps the log placed, and keeps the limit. -/
theorem placed_log {l : HPD_Log} (hl : l.Placed) (c : LogCall) :
    (l.Log c).2.Placed ∧ (l.Log c).2.max_log_size = l.max_log_size := by
  rcases log_cases l c with ⟨_, hc⟩ | ⟨line, pos, _, hset, _, hc⟩
  · rw [hc]
    exact ⟨hl, rfl⟩
  · have hstart : l.initial_pos ≤ pos := hset ▸ initial_le_set_position hl _
    rw [hc]
    refine ⟨⟨Nat.le_add_right_of_le hstart, ?_⟩, rfl⟩
    have hfile := hl.file
    simp only [length_writeAt]
    omega

/-! ## Runs -/

/-- From a log that is placed within its limit. -/
theorem atEach_bounded_iff {l : HPD_Log} (hl : l.Placed) (hpos : (l.pos : Int) ≤ l.max_log_size.toInt) (calls : List LogCall) :
    AtEach step Bounded l calls ↔ AtEach step Room l calls := by
  refine atEach_iff (I := fun l => l.Placed ∧ (l.pos : Int) ≤ l.max_log_size.toInt) (fun l c hl => bounded_iff_room hl.1 hl.2 c) ?_
    ⟨hl, hpos⟩
  rintro l c l' ⟨hl, hpos⟩ hroom hstep
  obtain rfl := Option.some.inj hstep
  exact ⟨(placed_log hl c).1, ((within_iff_room hpos c).mpr hroom).pos⟩

/-- Over any sequence of calls the log stays within its limit, and what is written stands whole behind the header, exactly if at each
call there is room. -/
theorem log_bounded_iff (max_log_size : Int32) (log_level : Nat) (date : List UInt8) (found : Option (List UInt8))
    (hmax : ((create_hpd_log max_log_size log_level date found).initial_pos : Int) ≤ max_log_size.toInt) (calls : List LogCall) :
    AtEach step Bounded (create_hpd_log max_log_size log_level date found) calls ↔
      AtEach step Room (create_hpd_log max_log_size log_level date found) calls := by
  refine atEach_bounded_iff (placed_create ..) ?_ calls
  rw [create_pos, create_max_log_size]
  exact hmax

/-- A request that is logged. -/
def sampleCall : LogCall :=
  ⟨HPD_LOG_ONLY_REQUESTS, none, some (ascii "10.0.0.2"), some (ascii "GET"), some (ascii "/devices"), none,
    ascii "2013-04-08", ascii "12:30:05", true⟩

theorem length_sampleHeader : (logHeader (ascii "2013-04-08")).length = 106 := by decide +kernel

theorem length_sampleMessage : (get_allocated_log_message sampleCall).length = 45 := by decide +kernel

/-- A new log that has room for three of them. -/
def sampleLog : HPD_Log := create_hpd_log 250 HPD_LOG_ALL (ascii "2013-04-08") none

/-- There is room for the fourth behind the header, where it is written over the first. -/
theorem log_bounded_iff_sample : (sampleLog.initial_pos : Int) ≤ (250 : Int32).toInt ∧
    AtEach step Bounded sampleLog (List.replicate 4 sampleCall) ∧
      (run step sampleLog (List.replicate 4 sampleCall)).map HPD_Log.pos = some 152 := by
  have hmax : (sampleLog.initial_pos : Int) ≤ (250 : Int32).toInt := by decide +kernel
  have hroom : AtEach step Room sampleLog (List.replicate 4 sampleCall) := by
    refine atEach_cons.mpr ⟨by decide +kernel, ?_⟩
    rintro _ ⟨⟩
    refine atEach_cons.mpr ⟨by decide +kernel, ?_⟩
    rintro _ ⟨⟩
    refine atEach_cons.mpr ⟨by decide +kernel, ?_⟩
    rintro _ ⟨⟩
    refine atEach_cons.mpr ⟨by decide +kernel, ?_⟩
    rintro _ ⟨⟩
    exact atEach_nil Room _
  exact ⟨hmax, (log_bounded_iff 250 HPD_LOG_ALL (ascii "2013-04-08") none hmax _).mpr hroom, by decide +kernel⟩

/-- A message that meets the limit exactly is written with its line break behind it. -/
theorem not_log_bounded :
    ¬ ∀ (max_log_size : Int32) (log_level : Nat) (date : List UInt8) (found : Option (List UInt8)) (calls : List LogCall),
      ((create_hpd_log max_log_size log_level date found).initial_pos : Int) ≤ max_log_size.toInt →
        AtEach step Bounded (create_hpd_log max_log_size log_level date found) calls := by
  intro h
  have hpos : (create_hpd_log 151 HPD_LOG_ALL (ascii "2013-04-08") none).pos = 106 := length_sampleHeader
  have hlimit : (151 : Int32).toInt = 151 := by decide
  have hb := h 151 HPD_LOG_ALL (ascii "2013-04-08") none [sampleCall] (by rw [← create_pos, hpos, hlimit]; decide)
  have hroom := (within_iff_room (by rw [hpos, create_max_log_size, hlimit]; decide) sampleCall).mp (atEach_cons.mp hb).1.within
  have hm := hroom.message (by rw [written, if_pos (by decide)]; exact Option.some_ne_none _)
  rw [← create_pos, hpos, create_max_log_size, hlimit, length_sampleMessage] at hm
  omega

end HPD_Log

end HomeBridge.Hpd
