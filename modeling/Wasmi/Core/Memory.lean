import Wasmi.Core.Num
/-! The untyped register cell of `wasmi_core` and the linear-memory store primitives that the
`store[N]` handlers of the executor are instantiated with. Neither is among the sources: both
are modelled from the spec and from the Wasm semantics of `store` (little-endian,
bounds-checked, nothing written on a trap). A host `usize` is unbounded here: an address
past `usize::MAX` is also past the end of every slice, so the trap is the same. -/

namespace Wasmi.Core

/-- Modelled from the spec: `TrapCode`. The store primitives raise only
`MemoryOutOfBounds`; the other codes are left out. -/
inductive TrapCode where
  | memoryOutOfBounds
deriving DecidableEq, Repr

/-- Modelled from the spec: `UntypedVal`, a 64-bit cell for scalars, widened by a second
half so that a register can also hold a `v128`. -/
structure UntypedVal where
  lo64 : BitVec 64
  hi64 : BitVec 64
deriving DecidableEq, Repr

namespace UntypedVal

/-- `UntypedVal::from` on an integer of at most 64 bits. A signed value goes through its
unsigned counterpart, so the upper bits are zero, as the spec has it for `i32`. -/
def ofBits (x : BitVec n) : UntypedVal := ⟨x.setWidth 64, 0⟩

/-- `u64::from(UntypedVal)`; the narrower reads of the primitives take its low bits. -/
def toU64 (v : UntypedVal) : BitVec 64 := v.lo64

/-- The `u128` of the `V128` a register holds. -/
def toV128 (v : UntypedVal) : BitVec 128 := v.hi64 ++ v.lo64

/-- A `V128` written into a register. -/
def ofV128 (x : BitVec 128) : UntypedVal := ⟨x.setWidth 64, (x >>> 64).setWidth 64⟩

@[simp] theorem toU64_ofBits (x : BitVec n) : (ofBits x).toU64 = x.setWidth 64 := rfl

@[simp] theorem toV128_ofV128 (x : BitVec 128) : (ofV128 x).toV128 = x := by
  apply BitVec.eq_of_getLsbD_eq
  intro i
  simp only [toV128, ofV128, BitVec.getLsbD_append, BitVec.getLsbD_setWidth,
    BitVec.getLsbD_ushiftRight]
  by_cases hLow : i.val < 64
  · simp [hLow]
  · have hHigh : 64 + (i.val - 64) = i.val := by omega
    have hLt : i.val - 64 < 64 := by omega
    simp only [hLow, decide_False, cond_false, hHigh, hLt, decide_True, Bool.true_and]

end UntypedVal

/-! ### The store primitives of `wasmi_core` -/

/-- The `n` little-endian bytes of the low `8 * n` bits of `x`: `to_le_bytes` of the value
wrapped to the store's width. -/
def leBytes : Nat → BitVec 64 → List (BitVec 8)
  | 0, _ => []
  | n + 1, x => x.setWidth 8 :: leBytes n (x >>> 8)

@[simp] theorem length_leBytes (n : Nat) (x : BitVec 64) : (leBytes n x).length = n := by
  induction n generalizing x with
  | zero => rfl
  | succ n ih => simp only [leBytes, List.length_cons, ih]

/-- Modelled from the spec: `effective_address`, the address `ptr + offset`, trapping when
the `u64` sum overflows. -/
def effectiveAddress (ptr offset : BitVec 64) : Except TrapCode Nat :=
  if ptr.toNat + offset.toNat < 2 ^ 64 then .ok (ptr.toNat + offset.toNat)
  else .error .memoryOutOfBounds

/-- Modelled from the spec: `store_wrap_at` for an `n`-byte store. The bytes replace
`memory[address..address + n]`; when that range is not inside the memory the store traps
and writes nothing. -/
def storeWrapAt (n : Nat) (memory : List (BitVec 8)) (address : Nat) (value : BitVec 64) :
    Except TrapCode (List (BitVec 8)) :=
  if address + n ≤ memory.length then
    .ok (memory.take address ++ leBytes n value ++ memory.drop (address + n))
  else .error .memoryOutOfBounds

/-- Modelled from the spec: `store_wrap`, the store at the effective address. -/
def storeWrap (n : Nat) (memory : List (BitVec 8)) (ptr offset value : BitVec 64) :
    Except TrapCode (List (BitVec 8)) := do
  let address ← effectiveAddress ptr offset
  storeWrapAt n memory address value

/-- `WasmStoreOp` of `store.rs`. -/
abbrev WasmStoreOp :=
  List (BitVec 8) → UntypedVal → BitVec 64 → UntypedVal → Except TrapCode (List (BitVec 8))

/-- `WasmStoreAtOp` of `store.rs`. -/
abbrev WasmStoreAtOp := List (BitVec 8) → Nat → UntypedVal → Except TrapCode (List (BitVec 8))

/-- The primitive pair of an `n`-byte store: `UntypedVal::storeN` and `storeN_at` read the
address as a `u64` and the value's low `8 * n` bits. -/
def wasmStoreOp (n : Nat) : WasmStoreOp :=
  fun memory address offset value => storeWrap n memory address.toU64 offset value.toU64

/-- The address-folded primitive of an `n`-byte store. -/
def wasmStoreAtOp (n : Nat) : WasmStoreAtOp :=
  fun memory address value => storeWrapAt n memory address value.toU64

namespace UntypedVal

/-- `UntypedVal::store32`. -/
def store32 : WasmStoreOp := wasmStoreOp 4
/-- `UntypedVal::store32_at`. -/
def store32At : WasmStoreAtOp := wasmStoreAtOp 4
/-- `UntypedVal::store64`. -/
def store64 : WasmStoreOp := wasmStoreOp 8
/-- `UntypedVal::store64_at`. -/
def store64At : WasmStoreAtOp := wasmStoreAtOp 8
/-- `UntypedVal::i32_store8`. -/
def i32Store8 : WasmStoreOp := wasmStoreOp 1
/-- `UntypedVal::i32_store8_at`. -/
def i32Store8At : WasmStoreAtOp := wasmStoreAtOp 1
/-- `UntypedVal::i32_store16`. -/
def i32Store16 : WasmStoreOp := wasmStoreOp 2
/-- `UntypedVal::i32_store16_at`. -/
def i32Store16At : WasmStoreAtOp := wasmStoreAtOp 2
/-- `UntypedVal::i64_store8`. -/
def i64Store8 : WasmStoreOp := wasmStoreOp 1
/-- `UntypedVal::i64_store8_at`. -/
def i64Store8At : WasmStoreAtOp := wasmStoreAtOp 1
/-- `UntypedVal::i64_store16`. -/
def i64Store16 : WasmStoreOp := wasmStoreOp 2
/-- `UntypedVal::i64_store16_at`. -/
def i64Store16At : WasmStoreAtOp := wasmStoreAtOp 2
/-- `UntypedVal::i64_store32`. -/
def i64Store32 : WasmStoreOp := wasmStoreOp 4
/-- `UntypedVal::i64_store32_at`. -/
def i64Store32At : WasmStoreAtOp := wasmStoreAtOp 4

end UntypedVal

/-! ### What a store does to the bytes -/

/-- A store whose effective address does not overflow is the address-folded store at that
address. -/
theorem storeWrap_eq_storeWrapAt {ptr offset : BitVec 64} (h : ptr.toNat + offset.toNat < 2 ^ 64)
    (n : Nat) (memory : List (BitVec 8)) (value : BitVec 64) :
    storeWrap n memory ptr offset value = storeWrapAt n memory (ptr.toNat + offset.toNat) value := by
  simp only [storeWrap, effectiveAddress, if_pos h]
  rfl

/-- A store that succeeds did not overflow its effective address, and is the address-folded
store at that address. -/
theorem storeWrap_eq_ok {n : Nat} {memory memory' : List (BitVec 8)} {ptr offset value : BitVec 64}
    (h : storeWrap n memory ptr offset value = .ok memory') :
    ptr.toNat + offset.toNat < 2 ^ 64 ∧
      storeWrapAt n memory (ptr.toNat + offset.toNat) value = .ok memory' := by
  by_cases hFits : ptr.toNat + offset.toNat < 2 ^ 64
  · exact ⟨hFits, storeWrap_eq_storeWrapAt hFits n memory value ▸ h⟩
  · simp only [storeWrap, effectiveAddress, if_neg hFits] at h
    cases h

/-- A store either traps or writes exactly its `n` bytes at `address`, keeping the length and
every other byte of the memory. -/
theorem storeWrapAt_frame {n : Nat} {memory memory' : List (BitVec 8)} {address : Nat}
    {value : BitVec 64} (h : storeWrapAt n memory address value = .ok memory') :
    address + n ≤ memory.length ∧ memory'.length = memory.length ∧
      (∀ i, i < address ∨ address + n ≤ i → memory'[i]? = memory[i]?) ∧
      (memory'.drop address).take n = leBytes n value := by
  unfold storeWrapAt at h
  split at h
  · rename_i hFits
    cases h
    have hTake : (memory.take address).length = address := by
      simp only [List.length_take]; omega
    have hFront : (memory.take address ++ leBytes n value).length = address + n := by
      simp only [List.length_append, hTake, length_leBytes]
    refine ⟨hFits, by simp only [hFront, List.length_append, List.length_drop]; omega, ?_, ?_⟩
    · rintro i (hBefore | hAfter)
      · rw [List.append_assoc, List.getElem?_append_left (by omega),
          List.getElem?_take_of_lt hBefore]
      · rw [List.getElem?_append_right (by omega), List.getElem?_drop, hFront]
        congr 1
        omega
    · rw [List.append_assoc, List.drop_left' hTake, List.take_left' (length_leBytes n value)]
  · cases h

/-! ### How two stores compose -/

theorem storeWrapAt_of_fits {n : Nat} {memory : List (BitVec 8)} {address : Nat}
    (h : address + n ≤ memory.length) (value : BitVec 64) :
    storeWrapAt n memory address value =
      .ok (memory.take address ++ leBytes n value ++ memory.drop (address + n)) :=
  if_pos h

theorem storeWrapAt_of_not_fits {n : Nat} {memory : List (BitVec 8)} {address : Nat}
    (h : ¬address + n ≤ memory.length) (value : BitVec 64) :
    storeWrapAt n memory address value = .error .memoryOutOfBounds :=
  if_neg h

/-- Byte `i` after a store that succeeds: the store's byte inside `[address, address + n)`, the
old byte elsewhere. -/
theorem getElem?_storeWrapAt {n : Nat} {memory memory' : List (BitVec 8)} {address : Nat}
    {value : BitVec 64} (h : storeWrapAt n memory address value = .ok memory') (i : Nat) :
    memory'[i]? = if address ≤ i ∧ i < address + n then (leBytes n value)[i - address]?
      else memory[i]? := by
  obtain ⟨-, -, hOutside, hInside⟩ := storeWrapAt_frame h
  split
  · rename_i hIn
    rw [← hInside, List.getElem?_take_of_lt (by omega), List.getElem?_drop,
      Nat.add_sub_cancel' hIn.1]
  · exact hOutside i (by omega)

/-- A store to the bytes a store just wrote replaces it: the first store leaves no trace. -/
theorem storeWrapAt_storeWrapAt_same {n : Nat} {memory memory₁ : List (BitVec 8)}
    {address : Nat} {value₁ : BitVec 64}
    (h : storeWrapAt n memory address value₁ = .ok memory₁)
    (value₂ : BitVec 64) :
    storeWrapAt n memory₁ address value₂ = storeWrapAt n memory address value₂ := by
  obtain ⟨hEnd, hLength, -, -⟩ := storeWrapAt_frame h
  have h₁₂ := storeWrapAt_of_fits (show address + n ≤ memory₁.length by omega) value₂
  have h₂ := storeWrapAt_of_fits hEnd value₂
  rw [h₁₂, h₂]
  congr 1
  apply List.ext_getElem?
  intro i
  rw [getElem?_storeWrapAt h₁₂, getElem?_storeWrapAt h₂, getElem?_storeWrapAt h]
  split <;> rfl

/-- A store that would trap on a memory traps after any other store to it too: a store keeps
the memory's length, and the bounds a store checks depend on nothing else. -/
theorem storeWrapAt_bind_of_not_fits {n₁ n₂ : Nat} {memory : List (BitVec 8)}
    {address₁ address₂ : Nat} (h : ¬address₂ + n₂ ≤ memory.length)
    (value₁ value₂ : BitVec 64) :
    (storeWrapAt n₁ memory address₁ value₁ >>= fun memory₁ =>
        storeWrapAt n₂ memory₁ address₂ value₂) = .error .memoryOutOfBounds := by
  by_cases hFits₁ : address₁ + n₁ ≤ memory.length
  · have h₁ := storeWrapAt_of_fits hFits₁ value₁
    rw [h₁]
    exact storeWrapAt_of_not_fits (by rw [(storeWrapAt_frame h₁).2.1]; exact h) value₂
  · rw [storeWrapAt_of_not_fits hFits₁]
    rfl

/-- Two stores to disjoint bytes of one memory commute, traps included. -/
theorem storeWrapAt_comm {n₁ n₂ : Nat} (memory : List (BitVec 8)) {address₁ address₂ : Nat}
    (hDisjoint : address₁ + n₁ ≤ address₂ ∨ address₂ + n₂ ≤ address₁)
    (value₁ value₂ : BitVec 64) :
    (storeWrapAt n₁ memory address₁ value₁ >>= fun memory₁ =>
        storeWrapAt n₂ memory₁ address₂ value₂) =
      (storeWrapAt n₂ memory address₂ value₂ >>= fun memory₂ =>
        storeWrapAt n₁ memory₂ address₁ value₁) := by
  by_cases hFits₁ : address₁ + n₁ ≤ memory.length
  · by_cases hFits₂ : address₂ + n₂ ≤ memory.length
    · have h₁ := storeWrapAt_of_fits hFits₁ value₁
      have h₂ := storeWrapAt_of_fits hFits₂ value₂
      have h₁₂ := storeWrapAt_of_fits
        (show address₂ + n₂ ≤ _ by rw [(storeWrapAt_frame h₁).2.1]; exact hFits₂) value₂
      have h₂₁ := storeWrapAt_of_fits
        (show address₁ + n₁ ≤ _ by rw [(storeWrapAt_frame h₂).2.1]; exact hFits₁) value₁
      rw [h₁, h₂]
      show storeWrapAt n₂ _ address₂ value₂ = storeWrapAt n₁ _ address₁ value₁
      rw [h₁₂, h₂₁]
      congr 1
      apply List.ext_getElem?
      intro i
      rw [getElem?_storeWrapAt h₁₂, getElem?_storeWrapAt h₂₁, getElem?_storeWrapAt h₁,
        getElem?_storeWrapAt h₂]
      split_ifs <;> first | rfl | omega
    · rw [storeWrapAt_bind_of_not_fits hFits₂, storeWrapAt_of_not_fits hFits₂]
      rfl
  · rw [storeWrapAt_bind_of_not_fits hFits₁, storeWrapAt_of_not_fits hFits₁]
    rfl

theorem storeWrap_of_overflow {n : Nat} (memory : List (BitVec 8)) {ptr offset : BitVec 64}
    (h : ¬ptr.toNat + offset.toNat < 2 ^ 64) (value : BitVec 64) :
    storeWrap n memory ptr offset value = .error .memoryOutOfBounds := by
  simp only [storeWrap, effectiveAddress, if_neg h]
  rfl

theorem bind_error_memoryOutOfBounds {α β : Type} (x : Except TrapCode α) :
    (x >>= fun _ => (.error .memoryOutOfBounds : Except TrapCode β)) =
      .error .memoryOutOfBounds := by
  cases x <;> rfl

/-- Two stores to disjoint bytes of one memory commute, traps included, whatever their pointers
and offsets: an overflowing effective address traps on either order. -/
theorem storeWrap_comm {n₁ n₂ : Nat} (memory : List (BitVec 8))
    {ptr₁ offset₁ ptr₂ offset₂ : BitVec 64}
    (hDisjoint : ptr₁.toNat + offset₁.toNat + n₁ ≤ ptr₂.toNat + offset₂.toNat ∨
      ptr₂.toNat + offset₂.toNat + n₂ ≤ ptr₁.toNat + offset₁.toNat)
    (value₁ value₂ : BitVec 64) :
    (storeWrap n₁ memory ptr₁ offset₁ value₁ >>= fun memory₁ =>
        storeWrap n₂ memory₁ ptr₂ offset₂ value₂) =
      (storeWrap n₂ memory ptr₂ offset₂ value₂ >>= fun memory₂ =>
        storeWrap n₁ memory₂ ptr₁ offset₁ value₁) := by
  by_cases h₁ : ptr₁.toNat + offset₁.toNat < 2 ^ 64
  · by_cases h₂ : ptr₂.toNat + offset₂.toNat < 2 ^ 64
    · simp only [storeWrap_eq_storeWrapAt h₁, storeWrap_eq_storeWrapAt h₂]
      exact storeWrapAt_comm memory hDisjoint value₁ value₂
    · simp only [storeWrap_of_overflow _ h₂, bind_error_memoryOutOfBounds]
      rfl
  · simp only [storeWrap_of_overflow _ h₁, bind_error_memoryOutOfBounds]
    rfl

end Wasmi.Core
