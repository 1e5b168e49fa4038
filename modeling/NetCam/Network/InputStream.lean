import NetCam.Semantics.Memory

/-! Reading from a socket, and the accumulation loop of the receivers.

The network decides how many bytes a read returns. Its decisions are part of the stream,
so everything here is a function and holds for every way of cutting the bytes up.
-/

set_option autoImplicit false

namespace NetCam.Network

open Semantics

/-- Why a method of a receiver stops early. `unfinished` is no exception: a loop of the
model was allowed too few turns. -/
inductive Failure where
  | ioException
  | indexOutOfBounds
  | nullPointer
  | unfinished
  deriving DecidableEq, Repr

/-- The bytes still to come, a size for each coming read, and what follows the last
byte: an end of stream, or a connection reset. -/
structure InputStream where
  pending : List UInt8
  cuts : List Nat
  reset : Bool
  deriving DecidableEq, Repr

/-- The size of the next chunk when at most `limit` bytes can be returned. It is at
least one, and as large as possible when the network made no decision. -/
def InputStream.chunk (cuts : List Nat) (limit : Nat) : Nat := min (max (cuts.headD limit) 1) limit

variable {size : Nat}

/-- `read(buffer, off, len)`: the number of bytes stored, `-1` at the end of the stream. -/
def InputStream.read (buffer : Memory size) (off len : Nat) :
    EStateM Failure InputStream (Int × Memory size) := fun is =>
  if size < off + len then .error .indexOutOfBounds is
  else if len = 0 then .ok (0, buffer) is
  else if is.pending = [] then
    if is.reset then .error .ioException is else .ok (-1, buffer) is
  else
    let n := chunk is.cuts (min len is.pending.length)
    match buffer.store off (is.pending.take n) with
    | none => .error .indexOutOfBounds is
    | some buffer =>
      .ok (n, buffer) { is with pending := is.pending.drop n, cuts := is.cuts.tail }

/-- `while ((n = is.read(buffer, off, len)) > 0) len -= n`, with at most `turns` reads.
The offset of the next read is computed from the last offset and the last count. -/
def readLoop (next : Nat → Nat → Nat) :
    Nat → Memory size → Nat → Nat → EStateM Failure InputStream (Nat × Memory size)
  | 0, _, _, _ => throw .unfinished
  | turns + 1, buffer, off, len => do
    let (n, buffer) ← InputStream.read buffer off len
    if n > 0 then readLoop next turns buffer (next off n.toNat) (len - n.toNat)
    else return (len, buffer)

def divide : List Nat → Nat → List Nat × List Nat
  | cuts, 0 => ([], cuts)
  | [], total + 1 => ([total + 1], [])
  | cut :: cuts, total + 1 =>
    let n := min (max cut 1) (total + 1)
    let (chunks, left) := divide cuts (total + 1 - n)
    (n :: chunks, left)

def lay (next : Nat → Nat → Nat) : List UInt8 → Nat → List Nat → List UInt8 → List UInt8
  | cells, _, [], _ => cells
  | cells, off, n :: chunks, bytes =>
    lay next (Memory.splice cells off (bytes.take n)) (next off n) chunks (bytes.drop n)

/-- The offsets never run ahead of the bytes stored. -/
def Steady (next : Nat → Nat → Nat) : Prop := ∀ off n left, next off n + left ≤ off + (n + left)

theorem divide_succ (cuts : List Nat) {total : Nat} (more : 0 < total) :
    divide cuts total =
      let n := InputStream.chunk cuts total
      (n :: (divide cuts.tail (total - n)).1, (divide cuts.tail (total - n)).2) := by
  obtain ⟨total, rfl⟩ := Nat.exists_eq_succ_of_ne_zero (Nat.ne_of_gt more)
  cases cuts with
  | nil =>
    have all : InputStream.chunk [] (total + 1) = total + 1 := by
      simp [InputStream.chunk]
    simp [divide, all]
  | cons cut cuts => rfl

theorem divide_sum (cuts : List Nat) (total : Nat) : (divide cuts total).1.sum = total := by
  induction total using Nat.strongRecOn generalizing cuts with
  | ind total ih =>
    rcases Nat.eq_zero_or_pos total with rfl | more
    · cases cuts <;> rfl
    · have size : 1 ≤ InputStream.chunk cuts total ∧ InputStream.chunk cuts total ≤ total := by
        unfold InputStream.chunk
        omega
      rw [divide_succ cuts more, List.sum_cons, ih _ (by omega)]
      omega

section Reads

variable {buffer : Memory size} {off len : Nat} {is : InputStream}

theorem read_chunk (inside : off + len ≤ size) (asked : 0 < len) (some_left : is.pending ≠ []) :
    ∃ stored, buffer.store off (is.pending.take (InputStream.chunk is.cuts (min len is.pending.length))) =
        some stored ∧
      InputStream.read buffer off len is =
        .ok ((InputStream.chunk is.cuts (min len is.pending.length) : Nat), stored)
          { is with
            pending := is.pending.drop (InputStream.chunk is.cuts (min len is.pending.length))
            cuts := is.cuts.tail } := by
  obtain ⟨stored, done⟩ := Memory.store_isSome buffer off
    (is.pending.take (InputStream.chunk is.cuts (min len is.pending.length)))
    (by rw [List.length_take]; unfold InputStream.chunk; omega)
  refine ⟨stored, done, ?_⟩
  unfold InputStream.read
  rw [if_neg (by omega), if_neg (by omega), if_neg some_left]
  simp only [done]

theorem read_nothing (inside : off ≤ size) :
    InputStream.read buffer off 0 is = .ok (0, buffer) is := by
  unfold InputStream.read
  rw [if_neg (by omega), if_pos rfl]

theorem read_end (inside : off + len ≤ size) (asked : 0 < len) (ended : is.pending = []) :
    InputStream.read buffer off len is =
      if is.reset then .error .ioException is else .ok (-1, buffer) is := by
  unfold InputStream.read
  rw [if_neg (by omega), if_neg (by omega), if_pos ended]

inductive Reads (buffer : Memory size) (off len : Nat) (is : InputStream) :
    EStateM.Result Failure InputStream (Int × Memory size) → Prop where
  | outside (outside : size < off + len) : Reads buffer off len is (.error .indexOutOfBounds is)
  | nothing (nothing : len = 0) : Reads buffer off len is (.ok (0, buffer) is)
  | reset (asked : len ≠ 0) : Reads buffer off len is (.error .ioException is)
  | ended (asked : len ≠ 0) : Reads buffer off len is (.ok (-1, buffer) is)
  | chunk {n : Nat} {stored : Memory size} {bytes : List UInt8} {last : InputStream} (some_read : 0 < n)
      (count : n ≤ len) (store : buffer.store off bytes = some stored) :
    Reads buffer off len is (.ok (n, stored) last)

theorem read_cases {result : EStateM.Result Failure InputStream (Int × Memory size)}
    (read : InputStream.read buffer off len is = result) : Reads buffer off len is result := by
  by_cases inside : off + len ≤ size
  · by_cases nothing : len = 0
    · subst nothing
      rw [read_nothing (by omega)] at read
      subst read
      exact .nothing rfl
    · by_cases ended : is.pending = []
      · rw [read_end inside (Nat.pos_of_ne_zero nothing) ended] at read
        subst read
        cases is.reset with
        | true => exact .reset nothing
        | false => exact .ended nothing
      · obtain ⟨stored, store, chunk⟩ :=
          @read_chunk size buffer off len is inside (Nat.pos_of_ne_zero nothing) ended
        have held : 0 < is.pending.length := List.length_pos_iff.mpr ended
        rw [chunk] at read
        subst read
        refine .chunk ?_ ?_ store
        · unfold InputStream.chunk
          omega
        · unfold InputStream.chunk
          omega
  · unfold InputStream.read at read
    rw [if_pos (by omega)] at read
    subst read
    exact .outside (Nat.lt_of_not_le inside)

/-- A read returns `-1` at the end of the stream, and zero only when asked for nothing. -/
theorem read_count {last : InputStream} {n : Int} {filled : Memory size}
    (read : InputStream.read buffer off len is = .ok (n, filled) last) :
    len = 0 ∧ n = 0 ∧ filled = buffer ∨ len ≠ 0 ∧ (n = -1 ∧ filled = buffer ∨ 0 < n) := by
  cases read_cases read with
  | nothing nothing => exact .inl ⟨nothing, rfl, rfl⟩
  | ended asked => exact .inr ⟨asked, .inl ⟨rfl, rfl⟩⟩
  | chunk some_read count => exact .inr ⟨by omega, .inr (by omega)⟩

theorem read_front {front : Nat} {n : Int} {filled : Memory size} {last : InputStream}
    (behind : front ≤ off) (read : InputStream.read buffer off len is = .ok (n, filled) last) :
    filled.load 0 front = buffer.load 0 front := by
  cases read_cases read with
  | nothing | ended => rfl
  | chunk _ _ store => exact Memory.load_store_disjoint store (.inl (by omega))

theorem read_behind {first count : Nat} {n : Int} {filled : Memory size} {last : InputStream}
    (before : off + len ≤ first) (read : InputStream.read buffer off len is = .ok (n, filled) last) :
    filled.load first count = buffer.load first count := by
  by_cases some_left : 0 < len ∧ is.pending ≠ [] ∧ off + len ≤ size
  · obtain ⟨asked, some_left, inside⟩ := some_left
    obtain ⟨stored, store, chunk⟩ := @read_chunk size buffer off len is inside asked some_left
    cases chunk.symm.trans read
    apply Memory.load_store_disjoint store
    right
    rw [List.length_take]
    unfold InputStream.chunk
    omega
  · unfold InputStream.read at read
    split at read
    · cases read
    split at read
    · cases read
      rfl
    split at read
    · split at read <;> cases read
      rfl
    · exact absurd ⟨by omega, by assumption, by omega⟩ some_left

end Reads

section Loop

variable {next : Nat → Nat → Nat}

theorem readLoop_succ (turns : Nat) (buffer : Memory size) (off len : Nat) (is : InputStream) :
    readLoop next (turns + 1) buffer off len is =
      match InputStream.read buffer off len is with
      | .ok (n, buffer) is =>
        if n > 0 then readLoop next turns buffer (next off n.toNat) (len - n.toNat) is
        else .ok (len, buffer) is
      | .error failure is => .error failure is := by
  simp only [readLoop, bind, EStateM.bind]
  cases InputStream.read buffer off len is with
  | ok result is =>
    dsimp only
    split <;> rfl
  | error failure is => rfl

/-- When the bytes asked for are there, the loop takes exactly these, and lays them into
the window of the buffer it writes to. -/
theorem readLoop_complete (steady : Steady next) {window turns off len : Nat} {buffer : Memory size}
    {is : InputStream} {cells : List UInt8} (inside : off + len ≤ window)
    (there : len ≤ is.pending.length) (enough : len < turns)
    (loaded : buffer.load 0 window = some cells) :
    ∃ filled, readLoop next turns buffer off len is =
        .ok (0, filled)
          { is with pending := is.pending.drop len, cuts := (divide is.cuts len).2 } ∧
      filled.load 0 window =
        some (lay next cells off (divide is.cuts len).1 (is.pending.take len)) := by
  induction turns generalizing off len buffer is cells with
  | zero => omega
  | succ turns ih =>
    have bound := (Memory.load_eq_some_iff.mp loaded).1
    rw [readLoop_succ]
    rcases Nat.eq_zero_or_pos len with rfl | more
    -- the loop is left by the read for no bytes that follows the last chunk
    · rw [read_nothing (by omega)]
      refine ⟨buffer, ?_, ?_⟩
      · cases is
        simp [divide]
      · simpa [divide, lay] using loaded
    · have some_left : is.pending ≠ [] := by
        intro none_left
        rw [none_left, List.length_nil] at there
        omega
      obtain ⟨stored, store, read⟩ := @read_chunk size buffer off len is (by omega) more some_left
      rw [Nat.min_eq_left there] at store read
      generalize counted : InputStream.chunk is.cuts len = n at store read
      have count : 1 ≤ n ∧ n ≤ len := by
        unfold InputStream.chunk at counted
        omega
      -- the next read stays inside the window, wherever its offset puts it
      have pace := steady off n (len - n)
      have short : (is.pending.take n).length = n := by
        rw [List.length_take]
        omega
      have window_stored : stored.load 0 window =
          some (Memory.splice cells off (is.pending.take n)) := by
        rw [← Nat.zero_add off] at store
        exact Memory.load_store_within loaded store (by omega)
      obtain ⟨filled, rest, laid⟩ := @ih (next off n) (len - n) stored
        { is with pending := is.pending.drop n, cuts := is.cuts.tail } _ (by omega)
        (by rw [List.length_drop]; omega) (by omega) window_stored
      refine ⟨filled, ?_, ?_⟩
      · simp only [read, Int.toNat_natCast]
        rw [if_pos (by omega), rest, divide_succ is.cuts more]
        simp only [counted, List.drop_drop]
        rw [Nat.add_sub_cancel' count.2]
      · rw [laid, divide_succ is.cuts more]
        simp only [counted, lay]
        rw [List.take_take, Nat.min_eq_left count.2, List.drop_take]

theorem readLoop_short (steady : Steady next) {turns off len : Nat} {buffer : Memory size}
    {is : InputStream} (inside : off + len ≤ size) (missing : is.pending.length < len)
    (enough : len < turns) :
    ∃ last : InputStream, last.pending = [] ∧ last.reset = is.reset ∧
      ((is.reset = true ∧ readLoop next turns buffer off len is = .error .ioException last) ∨
        (is.reset = false ∧ ∃ left filled, left ≠ 0 ∧
          readLoop next turns buffer off len is = .ok (left, filled) last)) := by
  induction turns generalizing off len buffer is with
  | zero => omega
  | succ turns ih =>
    rw [readLoop_succ]
    by_cases ended : is.pending = []
    · refine ⟨is, ended, rfl, ?_⟩
      rw [read_end inside (by omega) ended]
      cases is.reset with
      | true => exact .inl ⟨rfl, rfl⟩
      | false => exact .inr ⟨rfl, len, buffer, by omega, rfl⟩
    · obtain ⟨stored, _, read⟩ := @read_chunk size buffer off len is inside (by omega) ended
      rw [Nat.min_eq_right (by omega)] at read
      have held : 0 < is.pending.length := List.length_pos_iff.mpr ended
      generalize counted : InputStream.chunk is.cuts is.pending.length = n at read
      have count : 1 ≤ n ∧ n ≤ is.pending.length := by
        unfold InputStream.chunk at counted
        omega
      have pace := steady off n (len - n)
      obtain ⟨last, none_left, same, outcome⟩ := @ih (next off n) (len - n) stored
        { is with pending := is.pending.drop n, cuts := is.cuts.tail } (by omega)
        (by rw [List.length_drop]; omega) (by omega)
      refine ⟨last, none_left, same, ?_⟩
      simp only [read, Int.toNat_natCast]
      rw [if_pos (by omega)]
      exact outcome

theorem readLoop_outside {turns off len : Nat} {buffer : Memory size} {is : InputStream}
    (outside : size < off + len) :
    readLoop next (turns + 1) buffer off len is = .error .indexOutOfBounds is := by
  rw [readLoop_succ]
  unfold InputStream.read
  rw [if_pos outside]

end Loop

end NetCam.Network
