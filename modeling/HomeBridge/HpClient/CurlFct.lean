import Mathlib.Algebra.GroupWithZero.Nat
import HomeBridge.Lib.Run
import HomeBridge.Hpd.EventText

/-!
# Transfers with libcurl

`curl_fct.c`. libcurl takes the data of a PUT from `putBuffer` and gives the response of a GET or of a PUT to `copyBuffer`; both go
along a buffer with a cursor, and there is one buffer for the responses. What `http_put_function` returns is made from the other one: the
data it was called with. And the buffer for the responses is only set up by `http_get_function`.
-/

namespace HomeBridge.CurlFct

open CMem Runs
open Hpd (CString)

/-- The size of the buffer for the responses. -/
@[simp] def BUFSIZE : Nat := 2048

/-- A `size_t` as an `int`. -/
def int (n : Nat) : Int :=
  if n % 4294967296 < 2147483648 then (n % 4294967296 : Nat) else ((n % 4294967296 : Nat) : Int) - 4294967296

/-- An `int` as a `size_t`. -/
def size_t (z : Int) : Nat := (z % 18446744073709551616).toNat

/-- A buffer with its size and a cursor; `none` where the pointer was never set. -/
structure CBC where
  buf : Option Mem
  pos : Nat
  size : Nat

/-- `putBuffer`, for `size * nmemb` bytes: what it copies, as many bytes as it returns. A negative number of bytes has no result. -/
def putBuffer (cbc : CBC) (capacity : Nat) : Option (List UInt8 × CBC) :=
  let length := int (cbc.size - cbc.pos)
  let length := if capacity < size_t length then int capacity else length
  if length < 0 then none
  else cbc.buf.map fun buf => (bytes buf cbc.pos length.toNat, { cbc with pos := cbc.pos + length.toNat })

/-- `copyBuffer`: what it returns. -/
def copyBuffer (cbc : CBC) (ptr : List UInt8) : Option (Nat × CBC) :=
  if cbc.size < cbc.pos + ptr.length then some (0, cbc)
  else cbc.buf.map fun buf => (ptr.length, { cbc with buf := some (write buf cbc.pos ptr), pos := cbc.pos + ptr.length })

/-- The two cursors, and what is in the block for the responses before `get_cbc` leads to it. -/
structure Curl where
  get_buf : Mem
  get_cbc : CBC
  put_cbc : CBC

/-- `init_curl`. The block for the responses is from malloc. -/
def init_curl (get_buf : Mem) : Curl := ⟨get_buf, ⟨none, 0, BUFSIZE⟩, ⟨none, 0, 0⟩⟩

/-- What libcurl calls in a transfer: `putBuffer` for as many bytes as it has room for, `copyBuffer` with what has arrived. -/
inductive Callback where
  | offer (capacity : Nat)
  | chunk (ptr : List UInt8)

/-- The calls of a transfer. When `copyBuffer` does not take all it is given, libcurl gives up. -/
def perform : List Callback → Curl → Option (Bool × Curl)
  | [], s => some (true, s)
  | .offer capacity :: callbacks, s =>
    (putBuffer s.put_cbc capacity).bind fun r => perform callbacks { s with put_cbc := r.2 }
  | .chunk ptr :: callbacks, s =>
    (copyBuffer s.get_cbc ptr).bind fun r =>
      if r.1 = ptr.length then perform callbacks { s with get_cbc := r.2 } else some (false, { s with get_cbc := r.2 })

/-- A block from malloc: its size, and what is in it. -/
abbrev Block : Type := Nat × Mem

/-- What `strncpy` copies: the string, and NULs behind it. -/
def strncpy (m : Mem) (n : Nat) : List UInt8 :=
  let s := bytes m 0 (strlen m 0 n)
  s ++ List.replicate (n - s.length) 0x00

/-- `http_get_function`, where libcurl does these calls and returns `ok`. -/
def http_get_function (s : Curl) (chunks : List (List UInt8)) (ok : Bool) (malloc : Mem) : Option (Option Block × Curl) :=
  let buf := s.get_cbc.buf.getD s.get_buf
  (perform (chunks.map .chunk) { s with get_cbc := { s.get_cbc with buf := some buf, pos := 0 } }).bind fun (taken, s) =>
    if taken && ok then
      s.get_cbc.buf.map fun buf =>
        (some (s.get_cbc.pos + 1, write malloc 0 (strncpy buf s.get_cbc.pos ++ [0x00])), s)
    else some (none, s)

/-- `http_put_function`. -/
def http_put_function (s : Curl) (_data : CString) (callbacks : List Callback) (ok : Bool) (malloc : Mem) :
    Option (Option Block × Curl) :=
  let put_cbc : CBC := ⟨some (write zeroed 0 (_data.1 ++ [0x00])), 0, _data.1.length⟩
  (perform callbacks { s with get_cbc := { s.get_cbc with pos := 0 }, put_cbc }).bind fun (taken, s) =>
    if taken && ok then
      s.put_cbc.buf.map fun buf =>
        (some (s.put_cbc.pos + 1, write malloc 0 (strncpy buf s.put_cbc.pos)), { s with put_cbc := { s.put_cbc with pos := 0 } })
    else some (none, s)

/-- A request, with the calls of its transfer. -/
inductive Request where
  | get (chunks : List (List UInt8)) (ok : Bool)
  | put (_data : CString) (callbacks : List Callback) (ok : Bool)

/-- A request; what is in the block that is returned does not matter afterwards. -/
def request (s : Curl) : Request → Option Curl
  | .get chunks ok => (http_get_function s chunks ok zeroed).map Prod.snd
  | .put _data callbacks ok => (http_put_function s _data callbacks ok zeroed).map Prod.snd

/-- The response, and how much of the data libcurl has room for. -/
def response (callbacks : List Callback) : List UInt8 :=
  callbacks.flatMap fun
    | .chunk ptr => ptr
    | .offer _ => []

def offered (callbacks : List Callback) : Nat :=
  (callbacks.map fun
    | .offer capacity => capacity
    | .chunk _ => 0).sum

/-- A number of bytes that libcurl may have room for. -/
def Capacity (capacity : Nat) : Prop := 0 < capacity ∧ capacity < 18446744073709551616

/-- `putBuffer` called again and again: the chunks. -/
def uploads : CBC → List Nat → Option (List (List UInt8) × CBC)
  | cbc, [] => some ([], cbc)
  | cbc, capacity :: capacities =>
    (putBuffer cbc capacity).bind fun r => (uploads r.2 capacities).map fun rs => (r.1 :: rs.1, rs.2)

/-- `copyBuffer` called again and again. -/
def copies : CBC → List (List UInt8) → Option CBC
  | cbc, [] => some cbc
  | cbc, ptr :: ptrs => (copyBuffer cbc ptr).bind fun r => copies r.2 ptrs

/-- Whatever the capacities, the chunks are the data up to what there is room for, and behind the end of the data there are no more. -/
def UploadExact (_data : CString) : Prop :=
  ∀ capacities, (∀ c ∈ capacities, Capacity c) →
    ∃ chunks cbc, uploads ⟨some (write zeroed 0 (_data.1 ++ [0x00])), 0, _data.1.length⟩ capacities = some (chunks, cbc) ∧
      chunks.flatten = _data.1.take capacities.sum ∧
      (_data.1.length ≤ capacities.sum → ∀ c, Capacity c → putBuffer cbc c = some ([], cbc))

/-- Whatever the chunks, as long as they fit, they are in the buffer one behind the other, and one that does not fit is refused. -/
def CopyExact (s : Curl) : Prop :=
  ∀ chunks : List (List UInt8), chunks.flatten.length ≤ BUFSIZE →
    ∃ cbc buf, copies { s.get_cbc with pos := 0 } chunks = some cbc ∧ cbc.buf = some buf ∧ cbc.pos = chunks.flatten.length ∧
      bytes buf 0 chunks.flatten.length = chunks.flatten ∧
      ∀ ptr : List UInt8, BUFSIZE < cbc.pos + ptr.length → copyBuffer cbc ptr = some (0, cbc)

/-- The text and a NUL are in the block. -/
def Holds (block : Block) (text : List UInt8) : Prop :=
  text.length < block.1 ∧ bytes block.2 0 (text.length + 1) = text ++ [0x00]

/-- Uploads and copies are exact, and a PUT with these calls returns the response. -/
structure TransfersExact (s : Curl) (_data : CString) (callbacks : List Callback) (malloc : Mem) : Prop where
  upload : UploadExact _data
  copy : CopyExact s
  returned : ∃ block s', http_put_function s _data callbacks true malloc = some (some block, s') ∧ Holds block (response callbacks)

/-! ## Uploads -/

section upload

variable {cbc : CBC} {m : Mem} {capacity : Nat}

theorem int_of_lt {n : Nat} (h : n < 2147483648) : int n = n := by
  have hmod : n % 4294967296 = n := Nat.mod_eq_of_lt (by omega)
  rw [int, hmod, if_pos h]

theorem size_t_of_nat {n : Nat} (h : n < 18446744073709551616) : size_t n = n := by
  rw [size_t]
  omega

/-- With less than 2 GiB left, as much is copied as there is left and there is room for. -/
theorem putBuffer_eq (hbuf : cbc.buf = some m) (hleft : cbc.size - cbc.pos < 2147483648) :
    putBuffer cbc capacity = some (bytes m cbc.pos (min capacity (cbc.size - cbc.pos)),
      { cbc with pos := cbc.pos + min capacity (cbc.size - cbc.pos) }) := by
  have hlength : (if capacity < size_t (int (cbc.size - cbc.pos)) then int capacity else int (cbc.size - cbc.pos)) =
      (min capacity (cbc.size - cbc.pos) : Nat) := by
    rw [int_of_lt hleft, size_t_of_nat (by omega)]
    split
    · rename_i hlt
      rw [int_of_lt (by omega), Nat.min_eq_left (Nat.le_of_lt hlt)]
    · rename_i hge
      rw [Nat.min_eq_right (Nat.le_of_not_lt hge)]
  unfold putBuffer
  dsimp only
  rw [hlength, if_neg (by omega), hbuf, Option.map_some, Int.toNat_natCast]

/-- So the chunks are one behind the other. -/
theorem uploads_eq : ∀ {capacities : List Nat} {cbc : CBC}, cbc.buf = some m → cbc.size - cbc.pos < 2147483648 →
    ∃ chunks, uploads cbc capacities = some (chunks, { cbc with pos := cbc.pos + min capacities.sum (cbc.size - cbc.pos) }) ∧
      chunks.flatten = bytes m cbc.pos (min capacities.sum (cbc.size - cbc.pos)) := by
  intro capacities
  induction capacities with
  | nil =>
    intro cbc _ _
    refine ⟨[], ?_, ?_⟩
    · rw [uploads, List.sum_nil, Nat.zero_min, Nat.add_zero]
    · rw [List.sum_nil, Nat.zero_min]
      rfl
  | cons capacity capacities ih =>
    intro cbc hbuf hleft
    obtain ⟨chunks, hup, hflat⟩ := @ih { cbc with pos := cbc.pos + min capacity (cbc.size - cbc.pos) } hbuf
      (Nat.lt_of_le_of_lt (by dsimp only; omega) hleft)
    have hmin : min (capacity :: capacities).sum (cbc.size - cbc.pos) = min capacity (cbc.size - cbc.pos) +
        min capacities.sum (cbc.size - (cbc.pos + min capacity (cbc.size - cbc.pos))) := by
      rw [List.sum_cons]
      omega
    refine ⟨bytes m cbc.pos (min capacity (cbc.size - cbc.pos)) :: chunks, ?_, ?_⟩
    · rw [uploads, putBuffer_eq hbuf hleft, Option.bind_some, hup, Option.map_some, hmin, Nat.add_assoc]
    · rw [List.flatten_cons, hflat, hmin, bytes_add]

/-- What is read of a string in memory. -/
theorem bytes_string {text : List UInt8} {k : Nat} (hk : k ≤ text.length) :
    bytes (write zeroed 0 (text ++ [0x00])) 0 k = text.take k := by
  rw [bytes_write_take _ _ (by rw [List.length_append]; omega), List.take_append_of_le_length hk]

/-- A number of bytes that a call copies is not negative, and there is room for them. -/
theorem length_putBuffer {r : List UInt8 × CBC} (h : putBuffer cbc capacity = some r) :
    (r.1.length : Int) = int capacity ∨ (r.1.length : Int) = int (cbc.size - cbc.pos) := by
  generalize hz : (if capacity < size_t (int (cbc.size - cbc.pos)) then int capacity else int (cbc.size - cbc.pos)) = z
  have hput : (if z < 0 then none
      else cbc.buf.map fun buf => (bytes buf cbc.pos z.toNat, { cbc with pos := cbc.pos + z.toNat })) = some r := hz ▸ h
  have hlen : (r.1.length : Int) = z := by
    split at hput
    · cases hput
    · rename_i hnonneg
      obtain ⟨buf, -, rfl⟩ := Option.map_eq_some_iff.mp hput
      rw [length_bytes, Int.toNat_of_nonneg (Int.not_lt.mp hnonneg)]
  rw [hlen, ← hz]
  split
  · exact .inl rfl
  · exact .inr rfl

theorem int_lt (n : Nat) : int n < 2147483648 := by
  unfold int
  split <;> omega

/-- All data of less than 2 GiB is uploaded exactly, and no other. -/
theorem uploadExact_iff {_data : CString} : UploadExact _data ↔ _data.1.length < 2147483648 := by
  constructor
  · intro h
    by_contra hge
    -- room for 2 GiB is a negative number
    obtain ⟨chunks, cbc, hup, hflat, -⟩ := h [2147483648] fun c hc => by
      rw [List.mem_singleton.mp hc]
      exact ⟨by decide, by decide⟩
    obtain ⟨r, hput, hup⟩ := Option.bind_eq_some_iff.mp hup
    cases hup
    have hlen : r.1.length = 2147483648 := by
      have := congrArg List.length hflat
      rw [List.flatten_singleton, List.length_take, List.sum_singleton] at this
      omega
    have hcap : int 2147483648 = -2147483648 := by decide
    have hleft := int_lt (_data.1.length - 0)
    rcases length_putBuffer hput with heq | heq
    · omega
    · dsimp only at heq
      omega
  · intro hlt capacities _
    obtain ⟨chunks, hup, hflat⟩ := @uploads_eq (write zeroed 0 (_data.1 ++ [0x00])) capacities
      ⟨some (write zeroed 0 (_data.1 ++ [0x00])), 0, _data.1.length⟩ rfl hlt
    dsimp only at hup hflat
    rw [Nat.sub_zero, Nat.zero_add] at hup
    rw [Nat.sub_zero, bytes_string (Nat.min_le_right ..), ← List.take_eq_take_min] at hflat
    refine ⟨chunks, _, hup, hflat, fun hle c _ => ?_⟩
    rw [Nat.min_eq_right hle, putBuffer_eq rfl (by dsimp only; omega)]
    dsimp only
    rw [Nat.sub_self, Nat.min_zero]
    rfl

end upload

/-! ## Responses -/

section response

variable {cbc : CBC} {m : Mem} {ptr : List UInt8}

theorem copyBuffer_fits (hbuf : cbc.buf = some m) (hfits : cbc.pos + ptr.length ≤ cbc.size) :
    copyBuffer cbc ptr = some (ptr.length, { cbc with buf := some (write m cbc.pos ptr), pos := cbc.pos + ptr.length }) := by
  rw [copyBuffer, if_neg (Nat.not_lt.mpr hfits), hbuf, Option.map_some]

/-- Chunks that fit are stored as one. -/
theorem copies_eq : ∀ {chunks : List (List UInt8)} {cbc : CBC} {m : Mem}, cbc.buf = some m →
    cbc.pos + chunks.flatten.length ≤ cbc.size → copies cbc chunks =
      some { cbc with buf := some (write m cbc.pos chunks.flatten), pos := cbc.pos + chunks.flatten.length } := by
  intro chunks
  induction chunks with
  | nil =>
    intro cbc m hbuf _
    rw [copies, List.flatten_nil, write_nil, ← hbuf]
    rfl
  | cons ptr chunks ih =>
    intro cbc m hbuf hfits
    rw [List.flatten_cons, List.length_append, ← Nat.add_assoc] at hfits
    rw [copies, copyBuffer_fits hbuf (by omega), Option.bind_some]
    dsimp only
    rw [ih rfl hfits, List.flatten_cons, write_append, List.length_append, Nat.add_assoc]

/-- Once `get_cbc` leads to the block, the copies are exact. -/
theorem copyExact_iff {s : Curl} (hsize : s.get_cbc.size = BUFSIZE) : CopyExact s ↔ s.get_cbc.buf.isSome := by
  constructor
  · intro h
    obtain ⟨cbc, buf, hcopies, hbuf, -⟩ := h [] (Nat.zero_le _)
    cases hcopies
    exact Option.isSome_of_eq_some hbuf
  · intro hsome chunks hfits
    obtain ⟨m, hm⟩ := Option.isSome_iff_exists.mp hsome
    have hcopies := @copies_eq chunks { s.get_cbc with pos := 0 } m hm (by dsimp only; rw [hsize, Nat.zero_add]; exact hfits)
    dsimp only at hcopies
    rw [Nat.zero_add] at hcopies
    refine ⟨_, _, hcopies, rfl, rfl, bytes_write_self .., fun ptr hptr => ?_⟩
    rw [copyBuffer, if_pos (hsize.symm ▸ hptr)]

theorem copyBuffer_frame {r : Nat × CBC} (h : copyBuffer cbc ptr = some r) :
    r.2.size = cbc.size ∧ r.2.buf.isSome = cbc.buf.isSome := by
  unfold copyBuffer at h
  split at h
  · cases h
    exact ⟨rfl, rfl⟩
  · obtain ⟨m, hm, rfl⟩ := Option.map_eq_some_iff.mp h
    exact ⟨rfl, by rw [hm]; rfl⟩

end response

/-! ## Requests -/

section requests

variable {s s' : Curl} {callbacks : List Callback}

/-- No transfer sets up the buffer for the responses, or changes its size. -/
theorem perform_frame : ∀ {callbacks : List Callback} {s : Curl} {r : Bool × Curl}, perform callbacks s = some r →
    r.2.get_cbc.size = s.get_cbc.size ∧ r.2.get_cbc.buf.isSome = s.get_cbc.buf.isSome := by
  intro callbacks
  induction callbacks with
  | nil =>
    intro s r h
    cases h
    exact ⟨rfl, rfl⟩
  | cons c callbacks ih =>
    intro s r h
    cases c with
    | offer capacity =>
      obtain ⟨put, -, h⟩ := Option.bind_eq_some_iff.mp h
      exact @ih { s with put_cbc := put.2 } r h
    | chunk ptr =>
      obtain ⟨copied, hcopy, h⟩ := Option.bind_eq_some_iff.mp h
      obtain ⟨hsize, hbuf⟩ := copyBuffer_frame hcopy
      split at h
      · obtain ⟨hsize', hbuf'⟩ := ih h
        exact ⟨hsize'.trans hsize, hbuf'.trans hbuf⟩
      · cases h
        exact ⟨hsize, hbuf⟩

/-- A request for a GET. -/
def Request.isGet : Request → Bool
  | .get .. => true
  | .put .. => false

/-- Nor does a request, if it does not behind its transfer. -/
theorem perform_bind_frame {finish : Bool × Curl → Option (Option Block × Curl)} {r : Option Block × Curl}
    (h : (perform callbacks s).bind finish = some r) (hfinish : ∀ taken t, finish (taken, t) = some r → r.2.get_cbc = t.get_cbc) :
    r.2.get_cbc.size = s.get_cbc.size ∧ r.2.get_cbc.buf.isSome = s.get_cbc.buf.isSome := by
  obtain ⟨⟨taken, t⟩, hperform, hr⟩ := Option.bind_eq_some_iff.mp h
  rw [hfinish taken t hr]
  exact perform_frame hperform

/-- A block is made of the buffer, or none is returned: the state is the one that each of them leaves. -/
theorem result_keeps {ok : Bool} {buf : Option Mem} {result : Mem → Option Block × Curl} {failed r : Option Block × Curl} {get_cbc : CBC}
    (h : (if ok then buf.map result else some failed) = some r) (hresult : ∀ m, (result m).2.get_cbc = get_cbc)
    (hfailed : failed.2.get_cbc = get_cbc) : r.2.get_cbc = get_cbc := by
  split at h
  · obtain ⟨m, -, rfl⟩ := Option.map_eq_some_iff.mp h
    exact hresult m
  · cases h
    exact hfailed

/-- Only a GET sets up the buffer for the responses. -/
theorem request_frame {q : Request} (h : request s q = some s') :
    s'.get_cbc.size = s.get_cbc.size ∧ s'.get_cbc.buf.isSome = (q.isGet || s.get_cbc.buf.isSome) := by
  cases q with
  | get chunks ok =>
    obtain ⟨r, hget, rfl⟩ := Option.map_eq_some_iff.mp h
    have hframe := perform_bind_frame hget fun taken t hr => result_keeps hr (fun _ => rfl) rfl
    exact hframe
  | put _data callbacks ok =>
    obtain ⟨r, hput, rfl⟩ := Option.map_eq_some_iff.mp h
    have hframe := perform_bind_frame hput fun taken t hr => result_keeps hr (fun _ => rfl) rfl
    exact hframe

/-- So it is set up exactly behind the first GET. -/
theorem run_frame : ∀ {earlier : List Request} {s s' : Curl}, run request s earlier = some s' →
    s'.get_cbc.size = s.get_cbc.size ∧ s'.get_cbc.buf.isSome = (earlier.any Request.isGet || s.get_cbc.buf.isSome) := by
  intro earlier
  induction earlier with
  | nil =>
    intro s s' h
    cases h
    exact ⟨rfl, rfl⟩
  | cons q earlier ih =>
    intro s s' h
    obtain ⟨t, hq, ht⟩ := run_cons_eq_some.mp h
    obtain ⟨hsize, hbuf⟩ := request_frame hq
    obtain ⟨hsize', hbuf'⟩ := ih ht
    refine ⟨hsize'.trans hsize, ?_⟩
    rw [hbuf', hbuf, List.any_cons, ← Bool.or_assoc, Bool.or_comm (earlier.any _)]

/-- A transfer goes through, if the cursors have their buffers, less than 2 GiB are left and the response fits: the response is
stored, and the other cursor stands behind what there was room for. -/
theorem perform_eq : ∀ {callbacks : List Callback} {s : Curl} {m m' : Mem}, s.put_cbc.buf = some m →
    s.put_cbc.size - s.put_cbc.pos < 2147483648 → s.get_cbc.buf = some m' →
    s.get_cbc.pos + (response callbacks).length ≤ s.get_cbc.size →
    ∃ get_cbc, perform callbacks s = some (true, ⟨s.get_buf, get_cbc,
      { s.put_cbc with pos := s.put_cbc.pos + min (offered callbacks) (s.put_cbc.size - s.put_cbc.pos) }⟩) := by
  intro callbacks
  induction callbacks with
  | nil =>
    intro s _ _ _ _ _ _
    refine ⟨s.get_cbc, ?_⟩
    rw [perform, show offered [] = 0 from rfl, Nat.zero_min, Nat.add_zero]
  | cons c callbacks ih =>
    intro s m m' hput hleft hget hfits
    cases c with
    | offer capacity =>
      obtain ⟨get_cbc, hperform⟩ := @ih { s with put_cbc := { s.put_cbc with
        pos := s.put_cbc.pos + min capacity (s.put_cbc.size - s.put_cbc.pos) } } m m' hput
        (Nat.lt_of_le_of_lt (by dsimp only; omega) hleft) hget hfits
      have hoffered : offered (.offer capacity :: callbacks) = capacity + offered callbacks := List.sum_cons
      refine ⟨get_cbc, ?_⟩
      rw [perform, putBuffer_eq hput hleft, Option.bind_some]
      dsimp only at hperform ⊢
      rw [hperform, hoffered, Nat.add_assoc]
      congr 6
      omega
    | chunk ptr =>
      have hresponse : response (.chunk ptr :: callbacks) = ptr ++ response callbacks := List.flatMap_cons
      rw [hresponse, List.length_append, ← Nat.add_assoc] at hfits
      obtain ⟨get_cbc, hperform⟩ := @ih { s with get_cbc := { s.get_cbc with
        buf := some (write m' s.get_cbc.pos ptr), pos := s.get_cbc.pos + ptr.length } } m (write m' s.get_cbc.pos ptr) hput hleft rfl hfits
      have hoffered : offered (.chunk ptr :: callbacks) = offered callbacks := by
        rw [offered, List.map_cons, List.sum_cons, Nat.zero_add]
        rfl
      refine ⟨get_cbc, ?_⟩
      rw [perform, copyBuffer_fits hget (by omega), Option.bind_some, if_pos rfl, hperform, hoffered]

/-- The beginning of a string is copied as it is. -/
theorem strncpy_string (text : CString) {n : Nat} (hn : n ≤ text.1.length) :
    strncpy (write zeroed 0 (text.1 ++ [0x00])) n = text.1.take n := by
  have hne : ∀ i < n, write zeroed 0 (text.1 ++ [0x00]) (0 + i) ≠ 0 := by
    intro i hi h0
    rw [write_in zeroed _ (by rw [List.length_append]; omega), List.getElem_append_left (by omega)] at h0
    exact text.2 (List.mem_of_getElem h0)
  have hstrlen : strlen (write zeroed 0 (text.1 ++ [0x00])) 0 n = n :=
    strlen_eq (Nat.le_refl n) hne fun hlt => absurd hlt (Nat.lt_irrefl n)
  rw [strncpy, hstrlen, length_bytes, Nat.sub_self, List.replicate_zero, List.append_nil, bytes_string hn]

/-- What a PUT returns: as much of the data as there was room for. -/
theorem http_put_function_eq {_data : CString} {malloc m : Mem} (hlt : _data.1.length < 2147483648) (hbuf : s.get_cbc.buf = some m)
    (hfits : (response callbacks).length ≤ s.get_cbc.size) : ∃ s', http_put_function s _data callbacks true malloc =
      some (some (min (offered callbacks) _data.1.length + 1,
        write malloc 0 (_data.1.take (min (offered callbacks) _data.1.length))), s') := by
  obtain ⟨get_cbc, hperform⟩ := @perform_eq callbacks ⟨s.get_buf, { s.get_cbc with pos := 0 },
    ⟨some (write zeroed 0 (_data.1 ++ [0x00])), 0, _data.1.length⟩⟩ _ m rfl hlt hbuf (by rw [Nat.zero_add]; exact hfits)
  dsimp only at hperform
  rw [Nat.sub_zero, Nat.zero_add] at hperform
  refine ⟨⟨s.get_buf, get_cbc, ⟨some (write zeroed 0 (_data.1 ++ [0x00])), 0, _data.1.length⟩⟩, ?_⟩
  rw [http_put_function]
  dsimp only
  rw [hperform, Option.bind_some]
  dsimp only
  rw [Bool.and_self, if_pos rfl, Option.map_some]
  rw [strncpy_string _ (Nat.min_le_right ..)]

/-- In a block for a string with its NUL, there is this string and no other, if the byte behind it is a NUL. -/
theorem holds_iff {text R : List UInt8} {malloc : Mem} (hnul : 0x00 ∉ text) :
    Holds (text.length + 1, write malloc 0 text) R ↔ R = text ∧ malloc text.length = 0x00 := by
  have hself : bytes (write malloc 0 text) 0 (text.length + 1) = text ++ [malloc text.length] := by
    rw [bytes_add, bytes_write_self, Nat.zero_add, bytes_succ, write_of_ge _ _ (by omega)]
    rfl
  constructor
  · rintro ⟨hlt, hbytes⟩
    dsimp only at hlt hbytes
    have hlen : R.length = text.length := by
      by_contra hne
      rw [bytes_write_take _ _ (by omega)] at hbytes
      exact hnul (List.mem_of_mem_take (hbytes ▸ List.mem_append_right _ (List.mem_singleton_self _)))
    rw [hlen, hself] at hbytes
    obtain ⟨htext, hbyte⟩ := List.append_inj' hbytes rfl
    exact ⟨htext.symm, List.singleton_inj.mp hbyte⟩
  · rintro ⟨rfl, hbyte⟩
    exact ⟨Nat.lt_succ_self _, by rw [hself, hbyte]⟩

end requests

/-- Behind any requests, transfers are exact, if there was a GET among them, the data has less than 2 GiB, and the response is just what
there was room for of the data; it is a string in its block, if the byte behind it was a NUL by chance. -/
theorem transfers_exact_iff {get_buf malloc : Mem} {earlier : List Request} {s : Curl} {_data : CString} {callbacks : List Callback}
    (hs : run request (init_curl get_buf) earlier = some s) (hfits : (response callbacks).length ≤ BUFSIZE) :
    TransfersExact s _data callbacks malloc ↔ _data.1.length < 2147483648 ∧ earlier.any Request.isGet ∧
      response callbacks = _data.1.take (offered callbacks) ∧ malloc (min (offered callbacks) _data.1.length) = 0x00 := by
  obtain ⟨hsize, hbuf⟩ := run_frame hs
  have hcopy : CopyExact s ↔ earlier.any Request.isGet := by
    rw [copyExact_iff hsize, hbuf]
    exact iff_of_eq (congrArg (· = true) (Bool.or_false _))
  have hnul : 0x00 ∉ _data.1.take (min (offered callbacks) _data.1.length) := fun h => _data.2 (List.mem_of_mem_take h)
  have hlen : (_data.1.take (min (offered callbacks) _data.1.length)).length = min (offered callbacks) _data.1.length := by
    rw [List.length_take]
    omega
  have hreturned (hlt : _data.1.length < 2147483648) (hget : earlier.any Request.isGet) :
      (∃ block s', http_put_function s _data callbacks true malloc = some (some block, s') ∧ Holds block (response callbacks)) ↔
        response callbacks = _data.1.take (offered callbacks) ∧ malloc (min (offered callbacks) _data.1.length) = 0x00 := by
    obtain ⟨m, hm⟩ := Option.isSome_iff_exists.mp ((copyExact_iff hsize).mp (hcopy.mpr hget))
    obtain ⟨s', hput⟩ := @http_put_function_eq s callbacks _data malloc m hlt hm (hsize.symm ▸ hfits)
    have hholds := @holds_iff _ (response callbacks) malloc hnul
    rw [hlen, ← List.take_eq_take_min] at hholds
    rw [hput, ← List.take_eq_take_min, ← hholds]
    constructor
    · rintro ⟨block, s'', heq, h⟩
      cases heq
      exact h
    · exact fun h => ⟨_, s', rfl, h⟩
  constructor
  · intro h
    have hlt := uploadExact_iff.mp h.upload
    have hget := hcopy.mp h.copy
    exact ⟨hlt, hget, (hreturned hlt hget).mp h.returned⟩
  · rintro ⟨hlt, hget, h⟩
    exact ⟨uploadExact_iff.mpr hlt, hcopy.mpr hget, (hreturned hlt hget).mpr h⟩

/-- The state behind a GET with an empty response. -/
def afterGet : Curl := ⟨zeroed, ⟨some zeroed, 0, BUFSIZE⟩, ⟨none, 0, 0⟩⟩

def level : CString := ⟨[0x61], by decide⟩

/-- The server sends back what it was sent. -/
theorem transfers_exact_echo : TransfersExact afterGet level [.offer 10, .chunk [0x61]] zeroed :=
  (@transfers_exact_iff zeroed zeroed [.get [] true] afterGet level [.offer 10, .chunk [0x61]] rfl (by decide)).mpr
    ⟨by decide, by decide, by decide, rfl⟩

/-- The server answers `OK`. -/
theorem not_transfers_exact : ¬∀ (get_buf malloc : Mem) (earlier : List Request) (s : Curl) (_data : CString) (callbacks : List Callback),
    run request (init_curl get_buf) earlier = some s → (response callbacks).length ≤ BUFSIZE →
      TransfersExact s _data callbacks malloc := by
  intro h
  obtain ⟨block, s', hreturned, hholds⟩ :=
    (h zeroed zeroed [.get [] true] afterGet level [.offer 10, .chunk (ascii "OK")] rfl (by decide)).returned
  obtain ⟨s'', hput⟩ := @http_put_function_eq afterGet [.offer 10, .chunk (ascii "OK")] level zeroed zeroed (by decide) rfl (by decide)
  rw [hput] at hreturned
  cases hreturned
  exact absurd hholds.1 (by decide)

end HomeBridge.CurlFct
