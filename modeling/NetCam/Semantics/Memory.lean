import Mathlib.Data.Nat.Digits.Defs

/-! Byte buffers of a fixed size, and integers laid out in them.

An access names its first cell and its length. It happens only when it stays inside
the buffer; what an access outside means is up to the language that makes it.
-/

set_option autoImplicit false

namespace NetCam.Semantics

structure Memory (size : Nat) where
  cell : Fin size → UInt8

namespace Memory

variable {size : Nat}

def filled (size : Nat) (byte : UInt8) : Memory size := ⟨fun _ => byte⟩

def get? (mem : Memory size) (i : Nat) : Option UInt8 :=
  if inside : i < size then some (mem.cell ⟨i, inside⟩) else none

def load (mem : Memory size) (start length : Nat) : Option (List UInt8) :=
  if inside : start + length ≤ size then
    some (List.ofFn fun i : Fin length => mem.cell ⟨start + i, by omega⟩)
  else none

def store (mem : Memory size) (start : Nat) (bytes : List UInt8) : Option (Memory size) :=
  if start + bytes.length ≤ size then
    some ⟨fun i =>
      if own : start ≤ i ∧ i < start + bytes.length then bytes.get ⟨i - start, by omega⟩
      else mem.cell i⟩
  else none

def splice (cells : List UInt8) (start : Nat) (bytes : List UInt8) : List UInt8 :=
  cells.take start ++ bytes ++ cells.drop (start + bytes.length)

variable {mem next : Memory size} {start length : Nat} {bytes : List UInt8}

theorem load_eq_some_iff :
    mem.load start length = some bytes ↔
      start + length ≤ size ∧ bytes.length = length ∧
        ∀ i, i < length → bytes[i]? = mem.get? (start + i) := by
  unfold load
  constructor
  · intro loaded
    split at loaded
    · next inside =>
      cases loaded
      refine ⟨inside, List.length_ofFn, ?_⟩
      intro i below
      have within : start + i < size := by omega
      simp [get?, below, within]
    · cases loaded
  · rintro ⟨inside, long, same⟩
    rw [dif_pos inside]
    congr 1
    apply List.ext_getElem?
    intro i
    by_cases below : i < length
    · have within : start + i < size := by omega
      rw [same i below]
      simp [get?, below, within]
    · rw [List.getElem?_eq_none (by rw [List.length_ofFn]; omega),
        List.getElem?_eq_none (by omega)]

theorem load_isSome (mem : Memory size) {start length : Nat} (inside : start + length ≤ size) :
    ∃ bytes, mem.load start length = some bytes := by
  unfold load
  exact ⟨_, dif_pos inside⟩

theorem store_isSome (mem : Memory size) (start : Nat) (bytes : List UInt8)
    (inside : start + bytes.length ≤ size) : ∃ next, mem.store start bytes = some next := by
  unfold store
  exact ⟨_, if_pos inside⟩

theorem store_inside (stored : mem.store start bytes = some next) : start + bytes.length ≤ size := by
  unfold store at stored
  split at stored
  · assumption
  · cases stored

theorem store_get? (stored : mem.store start bytes = some next) (i : Nat) :
    next.get? i =
      if start ≤ i ∧ i < start + bytes.length then bytes[i - start]? else mem.get? i := by
  have inside := store_inside stored
  unfold store at stored
  rw [if_pos inside] at stored
  cases stored
  unfold get?
  by_cases own : start ≤ i ∧ i < start + bytes.length
  · have below : i < size := by omega
    have short : i - start < bytes.length := by omega
    simp [own, below, short]
  · simp [own]

theorem load_store_self (stored : mem.store start bytes = some next) :
    next.load start bytes.length = some bytes := by
  apply load_eq_some_iff.mpr
  refine ⟨store_inside stored, rfl, ?_⟩
  intro i below
  rw [store_get? stored, if_pos (by omega), Nat.add_sub_cancel_left]

theorem load_store_disjoint {first count : Nat} (stored : mem.store start bytes = some next)
    (apart : first + count ≤ start ∨ start + bytes.length ≤ first) :
    next.load first count = mem.load first count := by
  have frame : ∀ i, i < count → next.get? (first + i) = mem.get? (first + i) := by
    intro i below
    rw [store_get? stored, if_neg (by omega)]
  by_cases inside : first + count ≤ size
  · obtain ⟨cells, loaded⟩ := load_isSome mem inside
    obtain ⟨_, long, same⟩ := load_eq_some_iff.mp loaded
    rw [loaded]
    apply load_eq_some_iff.mpr
    refine ⟨inside, long, ?_⟩
    intro i below
    rw [frame i below, same i below]
  · unfold load
    rw [dif_neg inside, dif_neg inside]

theorem load_store_within {first offset : Nat} {cells : List UInt8}
    (loaded : mem.load first length = some cells)
    (stored : mem.store (first + offset) bytes = some next)
    (within : offset + bytes.length ≤ length) :
    next.load first length = some (splice cells offset bytes) := by
  obtain ⟨inside, long, same⟩ := load_eq_some_iff.mp loaded
  apply load_eq_some_iff.mpr
  unfold splice
  refine ⟨inside, ?_, ?_⟩
  · simp only [List.length_append, List.length_take, List.length_drop, long]
    omega
  intro i below
  rw [store_get? stored]
  have taken : (cells.take offset).length = offset := by
    rw [List.length_take]
    omega
  by_cases before : i < offset
  · rw [if_neg (by omega), ← same i below, List.append_assoc,
      List.getElem?_append_left (by omega), List.getElem?_take_of_lt before]
  · by_cases own : i < offset + bytes.length
    · rw [if_pos (by omega), List.append_assoc, List.getElem?_append_right (by omega), taken,
        List.getElem?_append_left (by omega)]
      congr 1
      omega
    · rw [if_neg (by omega), ← same i below,
        List.getElem?_append_right (by rw [List.length_append]; omega), List.length_append, taken,
        List.getElem?_drop]
      congr 1
      omega

theorem splice_all {cells : List UInt8} (same : bytes.length = cells.length) :
    splice cells 0 bytes = bytes := by
  simp [splice, same]

theorem splice_append {cells more : List UInt8} (inside : start ≤ cells.length) :
    splice (splice cells start bytes) (start + bytes.length) more =
      splice cells start (bytes ++ more) := by
  have front : (cells.take start ++ bytes).length = start + bytes.length := by
    rw [List.length_append, List.length_take, Nat.min_eq_left inside]
  unfold splice
  rw [List.take_left' front, ← front, List.drop_length_add_append, List.drop_drop, front,
    List.length_append, List.append_assoc (cells.take start), Nat.add_assoc]

theorem load_append {count : Nat} {more : List UInt8} (loaded : mem.load start length = some bytes)
    (later : mem.load (start + length) count = some more) :
    mem.load start (length + count) = some (bytes ++ more) := by
  obtain ⟨_, long, same⟩ := load_eq_some_iff.mp loaded
  obtain ⟨inside, more_long, more_same⟩ := load_eq_some_iff.mp later
  apply load_eq_some_iff.mpr
  refine ⟨by omega, by rw [List.length_append, long, more_long], ?_⟩
  intro i below
  by_cases first : i < length
  · rw [List.getElem?_append_left (by omega), same i first]
  · rw [List.getElem?_append_right (by omega), long, more_same (i - length) (by omega)]
    congr 1
    omega

theorem load_part (offset count : Nat) (loaded : mem.load start length = some bytes)
    (within : offset + count ≤ length) :
    mem.load (start + offset) count = some ((bytes.drop offset).take count) := by
  obtain ⟨inside, long, same⟩ := load_eq_some_iff.mp loaded
  apply load_eq_some_iff.mpr
  refine ⟨by omega, ?_, ?_⟩
  · rw [List.length_take, List.length_drop]
    omega
  intro i below
  rw [List.getElem?_take_of_lt below, List.getElem?_drop, same _ (by omega), Nat.add_assoc]

theorem load_within (offset count : Nat) (loaded : mem.load 0 length = some bytes)
    (within : offset + count ≤ length) :
    mem.load offset count = some ((bytes.drop offset).take count) := by
  have part := load_part offset count loaded within
  rw [Nat.zero_add] at part
  exact part

theorem load_filled {byte : UInt8} (inside : start + length ≤ size) :
    (filled size byte).load start length = some (List.replicate length byte) := by
  apply load_eq_some_iff.mpr
  refine ⟨inside, List.length_replicate, ?_⟩
  intro i below
  have within : start + i < size := by omega
  simp [filled, get?, below, within]

end Memory

section LittleEndian

/-- The low `count` bytes of a number, least significant first. -/
def littleEndian : Nat → Nat → List UInt8
  | 0, _ => []
  | count + 1, value => UInt8.ofNat value :: littleEndian count (value / 256)

def fromLittleEndian (bytes : List UInt8) : Nat := Nat.ofDigits 256 (bytes.map UInt8.toNat)

@[simp] theorem littleEndian_length (count value : Nat) : (littleEndian count value).length = count := by
  induction count generalizing value with
  | zero => rfl
  | succ count ih => simp [littleEndian, ih]

theorem littleEndian_take (count more value : Nat) :
    (littleEndian (count + more) value).take count = littleEndian count value := by
  induction count generalizing value with
  | zero => rfl
  | succ count ih =>
    rw [Nat.succ_add]
    simp [littleEndian, ih]

theorem fromLittleEndian_cons (byte : UInt8) (bytes : List UInt8) :
    fromLittleEndian (byte :: bytes) = byte.toNat + 256 * fromLittleEndian bytes := by
  simp [fromLittleEndian, Nat.ofDigits_cons]

theorem fromLittleEndian_littleEndian (count value : Nat) :
    fromLittleEndian (littleEndian count value) = value % 256 ^ count := by
  induction count generalizing value with
  | zero => simp [littleEndian, fromLittleEndian, Nat.mod_one]
  | succ count ih =>
    rw [littleEndian, fromLittleEndian_cons, ih, Nat.pow_succ', Nat.mod_mul]
    simp

theorem fromLittleEndian_lt (bytes : List UInt8) : fromLittleEndian bytes < 256 ^ bytes.length := by
  have digits : ∀ digit ∈ bytes.map UInt8.toNat, digit < 256 := by
    intro digit member
    obtain ⟨byte, _, rfl⟩ := List.mem_map.mp member
    exact byte.toNat_lt
  have bound := Nat.ofDigits_lt_base_pow_length (by decide) digits
  rw [List.length_map] at bound
  exact bound

theorem fromLittleEndian_padded (bytes : List UInt8) (count : Nat) :
    fromLittleEndian (bytes ++ List.replicate count 0) = fromLittleEndian bytes := by
  unfold fromLittleEndian
  rw [List.map_append, List.map_replicate]
  exact Nat.ofDigits_append_replicate_zero _

end LittleEndian

end NetCam.Semantics
