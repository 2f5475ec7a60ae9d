import HomeBridge.Lib.Loop
import HomeBridge.Lib.Memory

/-!
# The client's exchange with a server

`IP_send_String` of `tcpclient.c`. It writes the request and then reads until `read` returns 0. What a read returns is added to the
offset whatever it is, so an error that persists takes the offset down for ever; and the NUL goes one index behind the byte that follows
the reply.
-/

namespace HomeBridge.TcpClient

open CMem

@[simp] def DATASIZE : Nat := 8192

/-- What `read` returns once the server has nothing more to send: 0, or -1 whenever it is asked again. -/
inductive Ending where
  | eof
  | error
  deriving DecidableEq

/-- What the server sends, as the reads deliver it. No chunk is empty, and none is longer than what is asked for: all of them together
fit in what the first read asks for. -/
structure Stream where
  chunks : List (List UInt8)
  ending : Ending
  nonempty : ∀ chunk ∈ chunks, chunk ≠ []
  within : chunks.flatten.length ≤ DATASIZE - 1

/-- The bytes received. -/
def Stream.received (t : Stream) : List UInt8 := t.chunks.flatten

/-- The variables of the loop, what has been stored in `reply`, each block with its index, and what the server still sends. -/
structure Receive where
  len : Int
  offset : Int
  stores : List (Int × List UInt8)
  chunks : List (List UInt8)
  ending : Ending

namespace Receive

/-- `len = read(server, reply + offset, DATASIZE - 1 - offset)`, as the condition of the loop. -/
def read (s : Receive) : Bool × Receive :=
  match s.chunks, s.ending with
  | chunk :: chunks, _ =>
    (decide (chunk.length ≠ 0), { s with len := chunk.length, stores := s.stores ++ [(s.offset, chunk)], chunks := chunks })
  | [], .eof => (false, { s with len := 0 })
  | [], .error => (true, { s with len := -1 })

/-- `offset = offset + len`. -/
def advance (s : Receive) : Receive := { s with offset := s.offset + s.len }

/-- Before the loop. -/
def start (t : Stream) : Receive := ⟨0, 0, [], t.chunks, t.ending⟩

end Receive

/-- What a call does: what it returns, the blocks it writes to the server, and those it stores in `reply`. -/
structure Exchange where
  len : Int
  written : List (List UInt8)
  stores : List (Int × List UInt8)

/-- The blocks written: as much of `binary_data` as `length` says, if that is not 0, and a line end. -/
def request (binary_data : List UInt8) (length : UInt8) : List (List UInt8) :=
  (if 0 < length then [binary_data.take length.toNat] else []) ++ [ascii "\r\n"]

/-- `IP_send_String`, of a server that cannot be reached or that sends `t`: the calls that return. -/
def IP_send_String (binary_data : List UInt8) (length : UInt8) : Option Stream → Exchange → Prop
  | none, x => x = ⟨-1, [], [(0, ascii "CONN_FAILED" ++ [0])]⟩
  | some t, x => ∃ l s, Loop.Ends Receive.read Receive.advance (.start t) l s ∧
      x = ⟨s.offset + 1, request binary_data length, s.stores ++ [(s.offset + 1, [0])]⟩

/-- The stores lie in the first `size` bytes. -/
def Exchange.Inside (x : Exchange) (size : Nat) : Prop := ∀ s ∈ x.stores, 0 ≤ s.1 ∧ s.1 + s.2.length ≤ size

instance (x : Exchange) (size : Nat) : Decidable (x.Inside size) := inferInstanceAs (Decidable (∀ s ∈ x.stores, _))

/-- What the stores leave of `reply`. -/
def Exchange.reply (x : Exchange) (reply : Mem) : Mem := writes reply (x.stores.map fun s => (s.1.toNat, s.2))

/-- The string at the start of `m` is `bs`. -/
structure IsString (m : Mem) (bs : List UInt8) : Prop where
  bytes : bytes m 0 bs.length = bs
  no_nul : 0 ∉ bs
  nul : m bs.length = 0

/-- The call returns, stores in `reply` only, and leaves the bytes received there as a string. -/
def Receives (binary_data : List UInt8) (length : UInt8) (t : Stream) (reply : Mem) : Prop :=
  ∃ x, IP_send_String binary_data length (some t) x ∧ x.Inside DATASIZE ∧ IsString (x.reply reply) t.received

/-- Data with its own length are written whole if the length fits in a byte. -/
theorem request_flatten_iff {binary_data : List UInt8} :
    (request binary_data (UInt8.ofNat binary_data.length)).flatten = binary_data ++ ascii "\r\n" ↔ binary_data.length ≤ 255 := by
  have hflat : (request binary_data (UInt8.ofNat binary_data.length)).flatten =
      binary_data.take (binary_data.length % 256) ++ ascii "\r\n" := by
    have hlen : (UInt8.ofNat binary_data.length).toNat = binary_data.length % 256 := UInt8.toNat_ofNat'
    rw [request, List.flatten_append, List.flatten_singleton]
    split
    · rw [List.flatten_singleton, hlen]
    · rename_i h0
      rw [UInt8.lt_iff_toNat_lt, hlen] at h0
      rw [Nat.eq_zero_of_not_pos h0, List.take_zero, List.flatten_nil]
  rw [hflat, List.append_left_inj]
  constructor
  · intro h
    have := congrArg List.length h
    rw [List.length_take] at this
    omega
  · intro h
    exact List.take_of_length_le (by omega)

/-! ## The loop -/

/-- The chunks one after the other, the first at `o`. -/
def placed : Nat → List (List UInt8) → List (Nat × List UInt8)
  | _, [] => []
  | o, chunk :: chunks => (o, chunk) :: placed (o + chunk.length) chunks

/-- A block, with its index as the loop has it. -/
def block (s : Nat × List UInt8) : Int × List UInt8 := (s.1, s.2)

theorem placed_adjacent : ∀ (chunks : List (List UInt8)) (o : Nat), Adjacent o (placed o chunks)
  | [], _ => trivial
  | _ :: chunks, _ => ⟨rfl, placed_adjacent chunks _⟩

theorem placed_flatMap (chunks : List (List UInt8)) : ∀ o, (placed o chunks).flatMap Prod.snd = chunks.flatten := by
  induction chunks with
  | nil => exact fun _ => rfl
  | cons chunk chunks ih =>
    intro o
    rw [placed, List.flatMap_cons, List.flatten_cons, ih]

/-- No block ends behind the last byte. -/
theorem placed_end {chunks : List (List UInt8)} : ∀ {o : Nat}, ∀ s ∈ placed o chunks,
    s.1 + s.2.length ≤ o + chunks.flatten.length := by
  induction chunks with
  | nil => exact fun s hs => absurd hs List.not_mem_nil
  | cons chunk chunks ih =>
    intro o s hs
    rw [List.flatten_cons, List.length_append]
    rcases List.mem_cons.mp hs with rfl | hs
    · dsimp only
      omega
    · have := ih s hs
      omega

/-- Where the server closes the stream, the loop ends with the offset behind the last byte, and the chunks one after the other. -/
theorem ends_eof {chunks : List (List UInt8)} : ∀ (len : Int) (o : Nat) (stores : List (Int × List UInt8)),
    (∀ chunk ∈ chunks, chunk ≠ []) → ∃ l, Loop.Ends Receive.read Receive.advance ⟨len, o, stores, chunks, .eof⟩ l
      ⟨0, (o + chunks.flatten.length : Nat), stores ++ (placed o chunks).map block, [], .eof⟩ := by
  induction chunks with
  | nil =>
    intro len o stores _
    refine ⟨[], .done ?_⟩
    rw [placed, List.map_nil, List.append_nil]
    rfl
  | cons chunk chunks ih =>
    intro len o stores hne
    have hlen : decide (chunk.length ≠ 0) = true :=
      decide_eq_true fun h0 => hne chunk (List.mem_cons_self ..) (List.length_eq_zero_iff.mp h0)
    obtain ⟨l, hl⟩ := ih chunk.length (o + chunk.length) (stores ++ [((o : Int), chunk)])
      fun c hc => hne c (List.mem_cons_of_mem _ hc)
    rw [List.append_assoc, Nat.add_assoc, ← List.length_append, ← List.flatten_cons] at hl
    have hread : Receive.read ⟨len, o, stores, chunk :: chunks, .eof⟩ =
        (true, ⟨chunk.length, o, stores ++ [((o : Int), chunk)], chunks, .eof⟩) := by
      rw [← hlen]
      rfl
    exact ⟨_, .turn hread hl⟩

/-- Where an error persists, it does not end. -/
theorem not_ends_error {s s' : Receive} {l : List Receive} (h : Loop.Ends Receive.read Receive.advance s l s')
    (hne : ∀ chunk ∈ s.chunks, chunk ≠ []) : s.ending ≠ .error := by
  induction h with
  | @done s s' hread =>
    intro herr
    obtain ⟨len, o, stores, chunks, ending⟩ := s
    cases herr
    cases chunks with
    | nil => exact absurd (Prod.mk.inj hread).1 (by decide)
    | cons chunk chunks =>
      have h0 := of_decide_eq_false (Prod.mk.inj hread).1
      exact hne chunk (List.mem_cons_self ..) (List.length_eq_zero_iff.mp (not_not.mp h0))
  | @turn s s₁ s' l hread _ ih =>
    intro herr
    obtain ⟨len, o, stores, chunks, ending⟩ := s
    cases herr
    cases chunks with
    | nil =>
      cases hread
      exact ih (fun _ hc => absurd hc List.not_mem_nil) rfl
    | cons chunk chunks =>
      obtain ⟨_, rfl⟩ := Prod.mk.inj hread
      exact ih (fun c hc => hne c (List.mem_cons_of_mem _ hc)) rfl

section exchange

variable {binary_data : List UInt8} {length : UInt8} {t : Stream} {x : Exchange}

/-- The call, where it returns. -/
def answered (binary_data : List UInt8) (length : UInt8) (t : Stream) : Exchange :=
  ⟨(t.received.length : Int) + 1, request binary_data length,
    (placed 0 t.chunks).map block ++ [((t.received.length : Int) + 1, [0])]⟩

/-- It returns where the server closes the stream. -/
theorem returns_iff : IP_send_String binary_data length (some t) x ↔ t.ending = .eof ∧ x = answered binary_data length t := by
  have heof (he : t.ending = .eof) : ∃ l, Loop.Ends Receive.read Receive.advance (.start t) l
      ⟨0, (t.received.length : Int), (placed 0 t.chunks).map block, [], .eof⟩ := by
    have := ends_eof 0 0 [] t.nonempty
    rw [Nat.zero_add, List.nil_append] at this
    rwa [Receive.start, he]
  constructor
  · rintro ⟨l, s, hends, rfl⟩
    have he : t.ending = .eof := by
      cases hending : t.ending with
      | eof => rfl
      | error => exact absurd hending (not_ends_error hends t.nonempty)
    obtain ⟨l', hl'⟩ := heof he
    obtain ⟨_, rfl⟩ := hends.unique hl'
    exact ⟨he, rfl⟩
  · rintro ⟨he, rfl⟩
    obtain ⟨l, hl⟩ := heof he
    exact ⟨l, _, hl, rfl⟩

/-- The stores lie in as many bytes as were received, and two. -/
theorem answered_inside {size : Nat} : (answered binary_data length t).Inside size ↔ t.received.length + 2 ≤ size := by
  constructor
  · intro h
    have := (h _ (List.mem_append_right _ (List.mem_singleton_self _))).2
    simp only [List.length_singleton] at this
    omega
  · intro h s hs
    rcases List.mem_append.mp hs with hs | hs
    · obtain ⟨p, hp, rfl⟩ := List.mem_map.mp hs
      have := placed_end p hp
      simp only [block, Stream.received] at h ⊢
      omega
    · rw [List.mem_singleton.mp hs]
      simp only [List.length_singleton]
      omega

/-- What is received is stored, and a NUL behind the byte that follows. -/
theorem answered_reply (reply : Mem) : (answered binary_data length t).reply reply =
    write (write reply 0 t.received) (t.received.length + 1) [0] := by
  have hmap : ((placed 0 t.chunks).map block).map (fun s => (s.1.toNat, s.2)) = placed 0 t.chunks := by
    rw [List.map_map]
    exact List.map_id _
  have hwrites (l : List (Nat × List UInt8)) (s : Nat × List UInt8) :
      writes reply (l ++ [s]) = write (writes reply l) s.1 s.2 := List.foldl_append
  rw [Exchange.reply, answered, List.map_append, hmap, List.map_singleton, hwrites,
    writes_eq_write (placed_adjacent _ _), placed_flatMap]
  rfl

/-- What is received is followed by the byte that was there before. -/
theorem answered_isString {reply : Mem} : IsString ((answered binary_data length t).reply reply) t.received ↔
    0 ∉ t.received ∧ reply t.received.length = 0 := by
  have hbyte : (answered binary_data length t).reply reply t.received.length = reply t.received.length := by
    rw [answered_reply, write_of_lt _ _ (Nat.lt_succ_self _), write_of_ge _ _ (Nat.le_of_eq (Nat.zero_add _))]
  have hbytes : bytes ((answered binary_data length t).reply reply) 0 t.received.length = t.received := by
    rw [answered_reply, bytes_write_disjoint _ _ (.inl (by omega)), bytes_write_self]
  constructor
  · rintro ⟨_, hno, hnul⟩
    exact ⟨hno, hbyte ▸ hnul⟩
  · rintro ⟨hno, hnul⟩
    exact ⟨hbytes, hno, hbyte.trans hnul⟩

end exchange

/-- The call returns, stores in `reply` only and leaves the bytes received there as a string, exactly if the server closes the stream,
sends fewer bytes than a read may ask for and no NUL, and the byte behind them was 0 before. -/
theorem receives_iff (binary_data : List UInt8) (length : UInt8) (t : Stream) (reply : Mem) :
    Receives binary_data length t reply ↔
      t.ending = .eof ∧ t.received.length < DATASIZE - 1 ∧ 0 ∉ t.received ∧ reply t.received.length = 0 := by
  constructor
  · rintro ⟨x, hx, hinside, hstring⟩
    obtain ⟨he, rfl⟩ := returns_iff.mp hx
    have := answered_inside.mp hinside
    refine ⟨he, ?_, answered_isString.mp hstring⟩
    simp only [DATASIZE] at this ⊢
    omega
  · rintro ⟨he, hlen, hstring⟩
    refine ⟨_, returns_iff.mpr ⟨he, rfl⟩, answered_inside.mpr ?_, answered_isString.mpr hstring⟩
    simp only [DATASIZE] at hlen ⊢
    omega

/-- A server sends `OK` and closes. -/
def okStream : Stream := ⟨[[79, 75]], .eof, by decide, by decide⟩

/-- Behind it stands what stood there before. -/
theorem not_receives : ¬∀ (binary_data : List UInt8) (length : UInt8) (t : Stream) (reply : Mem),
    Receives binary_data length t reply := by
  intro h
  obtain ⟨x, hx, _, hstring⟩ := h [71] 1 okStream fun _ => 88
  obtain ⟨_, rfl⟩ := returns_iff.mp hx
  exact absurd (answered_isString.mp hstring).2 (by decide)

end HomeBridge.TcpClient
