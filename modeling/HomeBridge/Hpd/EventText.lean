import HomeBridge.Lib.Memory
import HomeBridge.Lib.Text

/-!
# The text of an event

The server writes an event as `data: D<br>id: I<br><br>` (`server_sent_events_callback` in `hpd_server_sent_events.c`), and its client
reads it back (`parse_event` in `HP_client.c`): it cuts the text at every `<`, not at `<br>`, and skips the length of what should stand
in front. Nothing is escaped.
-/

namespace HomeBridge.Hpd

open CMem Text

/-- A C string, without the zero at its end. -/
abbrev CString : Type := { bs : List UInt8 // (0 : UInt8) ∉ bs }

/-- `"<"`. -/
@[simp] def LT : UInt8 := 0x3C

/-- What `sprintf` makes of an event. -/
def eventText (id data : CString) : List UInt8 :=
  ascii "data: " ++ data.1 ++ ascii "<br>id: " ++ id.1 ++ ascii "<br><br>"

/-- The text `server_sent_events_callback` leaves in its buffer of `max` bytes for the event it has dequeued. One that does not fit with
its zero is written behind the end. -/
def server_sent_events_callback (max : Nat) (id data : CString) : Option (List UInt8) :=
  if (eventText id data).length < max then some (eventText id data) else none

/-- The string `n` characters behind the start of a token. In a shorter token that is behind its end, and the block the string is copied
to is too short for what stands there. -/
def skip (n : Nat) (pch : List UInt8) : Option (List UInt8) := if n ≤ pch.length then some (pch.drop n) else none

/-- `parse_event`: the data and the ID. `strtok` returns no string where no token is left. -/
def parse_event (data_in : List UInt8) : Option (List UInt8 × List UInt8) :=
  (strtok LT data_in).bind fun first =>
    (skip (ascii "data: ").length first.1).bind fun data_out =>
      (strtok LT first.2).bind fun second =>
        (skip (ascii "br>id: ").length second.1).map fun id_out => (data_out, id_out)

section parse

variable {id data : CString}

theorem skip_append (p s : List UInt8) : skip p.length (p ++ s) = some s := by
  rw [skip, if_pos (by simp), List.drop_left]

/-- What is cut off first is the data up to its first `<`. -/
theorem parse_data {a rest : List UInt8} (ha : LT ∉ a) :
    parse_event (ascii "data: " ++ a ++ LT :: rest) = (strtok LT rest).bind fun second =>
      (skip (ascii "br>id: ").length second.1).map fun id_out => (a, id_out) := by
  have hpre : ascii "data: " = 0x64 :: [0x61, 0x74, 0x61, 0x3a, 0x20] := by decide
  have hno : LT ∉ ascii "data: " ++ a := fun h => (List.mem_append.mp h).elim (by decide) ha
  have htok : strtok LT (ascii "data: " ++ a ++ LT :: rest) = some (ascii "data: " ++ a, rest) := by
    rw [hpre] at hno ⊢
    exact strtok_append hno
  rw [parse_event, htok, Option.bind_some]
  simp only [skip_append, Option.bind_some]

/-- What is cut off next is the ID up to its first `<`. -/
theorem parse_id {a rest : List UInt8} (ha : LT ∉ a) :
    ((strtok LT (ascii "br>id: " ++ a ++ LT :: rest)).bind fun second =>
      (skip (ascii "br>id: ").length second.1).map fun id_out => (data.1, id_out)) = some (data.1, a) := by
  have hpre : ascii "br>id: " = 0x62 :: [0x72, 0x3e, 0x69, 0x64, 0x3a, 0x20] := by decide
  have hno : LT ∉ ascii "br>id: " ++ a := fun h => (List.mem_append.mp h).elim (by decide) ha
  have htok : strtok LT (ascii "br>id: " ++ a ++ LT :: rest) = some (ascii "br>id: " ++ a, rest) := by
    rw [hpre] at hno ⊢
    exact strtok_append hno
  rw [htok, Option.bind_some]
  simp only [skip_append, Option.map_some]

/-- The text, cut behind the data. -/
theorem eventText_data : eventText id data =
    ascii "data: " ++ data.1 ++ LT :: (ascii "br>id: " ++ id.1 ++ LT :: ascii "br><br>") := by
  have h1 : ascii "<br>id: " = LT :: ascii "br>id: " := by decide
  have h2 : ascii "<br><br>" = LT :: ascii "br><br>" := by decide
  rw [eventText, h1, h2]
  simp only [List.append_assoc, List.cons_append]

/-- A first `<` inside a string cuts it short. -/
theorem ne_of_cut {a b s : List UInt8} (h : s = a ++ LT :: b) : a ≠ s := by
  intro he
  have hl := congrArg List.length (he.trans h)
  rw [List.length_append, List.length_cons] at hl
  omega

theorem parse_eventText : parse_event (eventText id data) = some (data.1, id.1) ↔ LT ∉ data.1 ∧ LT ∉ id.1 := by
  constructor
  · intro h
    have hdata : LT ∉ data.1 := by
      intro hmem
      obtain ⟨a, b, hab, ha⟩ := List.eq_append_cons_of_mem hmem
      rw [eventText_data, hab, List.append_assoc, List.append_assoc, List.cons_append, ← List.append_assoc, parse_data ha] at h
      obtain ⟨second, _, h⟩ := Option.bind_eq_some_iff.mp h
      obtain ⟨id_out, _, h⟩ := Option.map_eq_some_iff.mp h
      exact ne_of_cut hab ((Prod.mk.inj h).1.trans hab.symm)
    refine ⟨hdata, fun hmem => ?_⟩
    obtain ⟨a, b, hab, ha⟩ := List.eq_append_cons_of_mem hmem
    rw [eventText_data, parse_data hdata, hab, List.append_assoc, List.append_assoc, List.cons_append, ← List.append_assoc,
      parse_id ha] at h
    exact ne_of_cut hab ((Prod.mk.inj (Option.some.inj h)).2.trans hab.symm)
  · rintro ⟨hdata, hid⟩
    rw [eventText_data, parse_data hdata, parse_id hid]

end parse

/-- The client gets back the data and the ID of an event exactly if neither has a `<` in it and the text fits in the buffer. -/
theorem parsed_iff (max : Nat) (id data : CString) :
    (server_sent_events_callback max id data).bind parse_event = some (data.1, id.1) ↔
      LT ∉ data.1 ∧ LT ∉ id.1 ∧ (eventText id data).length < max := by
  unfold server_sent_events_callback
  by_cases hfit : (eventText id data).length < max
  · rw [if_pos hfit, Option.bind_some, parse_eventText]
    simp only [hfit, and_true]
  · rw [if_neg hfit]
    exact ⟨nofun, fun h => absurd h.2.2 hfit⟩

/-- The value `<5` of a lamp. -/
theorem not_parsed : ¬∀ id data : CString, (server_sent_events_callback (32 * 1024) id data).bind parse_event = some (data.1, id.1) := by
  intro h
  have hp := h ⟨ascii "/lamp", by decide⟩ ⟨ascii "<5", by decide⟩
  have hlt : LT ∈ ascii "<5" := by decide
  have hfits : (eventText ⟨ascii "/lamp", by decide⟩ ⟨ascii "<5", by decide⟩).length < 32 * 1024 := by decide
  rw [server_sent_events_callback, if_pos hfits, Option.bind_some, parse_eventText] at hp
  exact hp.1 hlt

end HomeBridge.Hpd
