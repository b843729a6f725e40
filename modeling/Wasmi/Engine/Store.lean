import Wasmi.Engine.Executor
/-! The `store[N]` handlers of the executor (`store.rs`). Each Wasm store opcode comes in six
forms: a pointer register with a 64-bit offset split over two slots, the same with a 16-bit
immediate value, a 16-bit offset on the default memory (the cached fast path), the same with
an immediate, and the address folded into the instruction, with a register or an immediate
value. The `impl_execute_*` macros instantiate six generic handlers with a primitive pair and
an immediate conversion per row; the rows are reproduced below. -/

namespace Wasmi.Engine

open Wasmi.Core

/-- What a store handler does: `none` when it reaches `unreachable_unchecked`, which the
translator rules out; otherwise the trap it returns, or the executor and `Store` it leaves. -/
abbrev Handled := Option (Except TrapCode (Executor × StoreInner))

namespace Executor

/-- `execute_store_wrap`. -/
def executeStoreWrap (e : Executor) (store : StoreInner) (memory : Memory) (address : UntypedVal)
    (offset : Offset64) (value : UntypedVal) (storeWrap : WasmStoreOp) :
    Except TrapCode StoreInner := do
  let memory := e.fetchMemoryBytesMut memory
  let bytes ← storeWrap (store.memories memory) address offset.toU64 value
  pure (store.write memory bytes)

/-- `execute_store_wrap_at`. -/
def executeStoreWrapAt (e : Executor) (store : StoreInner) (memory : Memory)
    (address : Address32) (value : UntypedVal) (storeWrapAt : WasmStoreAtOp) :
    Except TrapCode StoreInner := do
  let memory := e.fetchMemoryBytesMut memory
  let bytes ← storeWrapAt (store.memories memory) address.toU32.toNat value
  pure (store.write memory bytes)

/-- `execute_store_wrap_mem0`. -/
def executeStoreWrapMem0 (e : Executor) (store : StoreInner) (address : UntypedVal)
    (offset : Offset64) (value : UntypedVal) (storeWrap : WasmStoreOp) :
    Except TrapCode StoreInner := do
  let memory := e.fetchDefaultMemoryBytesMut
  let bytes ← storeWrap (store.memories memory) address offset.toU64 value
  pure (store.write memory bytes)

/-- `execute_store`. -/
def executeStore (e : Executor) (store : StoreInner) (ptr : Reg) (offsetLo : Offset64Lo)
    (storeOp : WasmStoreOp) : Handled :=
  match e.fetchValueAndOffsetHi, e.fetchOptionalMemory 2 with
  | some (value, offsetHi), some memory =>
    let offset := Offset64.combine offsetHi offsetLo
    some ((e.executeStoreWrap store memory (e.getRegister ptr) offset (e.getRegister value)
      storeOp).map (Prod.mk (e.nextInstrAt 2)))
  | _, _ => none

/-- `execute_store_imm::<T>`, where `conv` is `T::from(AnyConst16)` followed by `into`. -/
def executeStoreImm (e : Executor) (store : StoreInner) (ptr : Reg) (offsetLo : Offset64Lo)
    (conv : BitVec 16 → UntypedVal) (storeOp : WasmStoreOp) : Handled :=
  match e.fetchValueAndOffsetImm conv, e.fetchOptionalMemory 2 with
  | some (value, offsetHi), some memory =>
    let offset := Offset64.combine offsetHi offsetLo
    some ((e.executeStoreWrap store memory (e.getRegister ptr) offset value storeOp).map
      (Prod.mk (e.nextInstrAt 2)))
  | _, _ => none

/-- `execute_store_offset16`. -/
def executeStoreOffset16 (e : Executor) (store : StoreInner) (ptr : Reg) (offset : Offset16)
    (value : Reg) (storeOp : WasmStoreOp) : Handled :=
  some ((e.executeStoreWrapMem0 store (e.getRegister ptr) (Offset64.ofOffset16 offset)
    (e.getRegister value) storeOp).map (Prod.mk (e.nextInstrAt 1)))

/-- `execute_store_offset16_imm16::<T, V>`, where `conv` is `T::from` followed by `into`. -/
def executeStoreOffset16Imm16 (e : Executor) (store : StoreInner) (ptr : Reg)
    (offset : Offset16) (value : V) (conv : V → UntypedVal) (storeOp : WasmStoreOp) : Handled :=
  some ((e.executeStoreWrapMem0 store (e.getRegister ptr) (Offset64.ofOffset16 offset)
    (conv value) storeOp).map (Prod.mk (e.nextInstrAt 1)))

/-- `execute_store_at`. -/
def executeStoreAt (e : Executor) (store : StoreInner) (address : Address32) (value : Reg)
    (storeAtOp : WasmStoreAtOp) : Handled :=
  match e.fetchOptionalMemory 1 with
  | some memory =>
    some ((e.executeStoreWrapAt store memory address (e.getRegister value) storeAtOp).map
      (Prod.mk (e.nextInstrAt 1)))
  | none => none

/-- `execute_store_at_imm16::<T, V>`. -/
def executeStoreAtImm16 (e : Executor) (store : StoreInner) (address : Address32) (value : V)
    (conv : V → UntypedVal) (storeAtOp : WasmStoreAtOp) : Handled :=
  match e.fetchOptionalMemory 1 with
  | some memory =>
    some ((e.executeStoreWrapAt store memory address (conv value) storeAtOp).map
      (Prod.mk (e.nextInstrAt 1)))
  | none => none

end Executor

/-! ### The immediate conversions -/

/-- Modelled from the spec: `i32::from` on a `Const16<i32>` or an `AnyConst16`, the sign
extension of the 16 stored bits. -/
def i32FromImm16 (c : BitVec 16) : BitVec 32 := c.signExtend 32

/-- Modelled from the spec: `i64::from` on a `Const16<i64>` or an `AnyConst16`. -/
def i64FromImm16 (c : BitVec 16) : BitVec 64 := c.signExtend 64

/-- Modelled from the spec: `i8::from(AnyConst16)`, the low byte. -/
def i8FromAnyConst16 (c : BitVec 16) : BitVec 8 := c.setWidth 8

/-- Modelled from the spec: `i16::from(AnyConst16)`. -/
def i16FromAnyConst16 (c : BitVec 16) : BitVec 16 := c

namespace Executor

variable (e : Executor) (store : StoreInner) (ptr : Reg) (offsetLo : Offset64Lo)
  (offset : Offset16) (address : Address32) (value : Reg)

/-! `impl_execute_istore!`: `(Const16<i32> => i32)` with `store32`, and `(Const16<i64> => i64)`
with `store64`. -/

def executeI32StoreImm16 : Handled :=
  e.executeStoreImm store ptr offsetLo (fun c => .ofBits (i32FromImm16 c)) UntypedVal.store32
def executeI32StoreOffset16Imm16 (value : BitVec 16) : Handled :=
  e.executeStoreOffset16Imm16 store ptr offset value (fun v => .ofBits (i32FromImm16 v))
    UntypedVal.store32
def executeI32StoreAtImm16 (value : BitVec 16) : Handled :=
  e.executeStoreAtImm16 store address value (fun v => .ofBits (i32FromImm16 v))
    UntypedVal.store32At
def executeI64StoreImm16 : Handled :=
  e.executeStoreImm store ptr offsetLo (fun c => .ofBits (i64FromImm16 c)) UntypedVal.store64
def executeI64StoreOffset16Imm16 (value : BitVec 16) : Handled :=
  e.executeStoreOffset16Imm16 store ptr offset value (fun v => .ofBits (i64FromImm16 v))
    UntypedVal.store64
def executeI64StoreAtImm16 (value : BitVec 16) : Handled :=
  e.executeStoreAtImm16 store address value (fun v => .ofBits (i64FromImm16 v))
    UntypedVal.store64At

/-! `impl_execute_istore_trunc!`: `I32Store8` and `I64Store8` with `(i8 => i8)`, `I32Store16`
and `I64Store16` with `(i16 => i16)`, `I64Store32` with `(Const16<i32> => i32)`. -/

def executeI32Store8 : Handled := e.executeStore store ptr offsetLo UntypedVal.i32Store8
def executeI32Store8Imm : Handled :=
  e.executeStoreImm store ptr offsetLo (fun c => .ofBits (i8FromAnyConst16 c))
    UntypedVal.i32Store8
def executeI32Store8Offset16 : Handled :=
  e.executeStoreOffset16 store ptr offset value UntypedVal.i32Store8
def executeI32Store8Offset16Imm (value : BitVec 8) : Handled :=
  e.executeStoreOffset16Imm16 store ptr offset value .ofBits UntypedVal.i32Store8
def executeI32Store8At : Handled := e.executeStoreAt store address value UntypedVal.i32Store8At
def executeI32Store8AtImm (value : BitVec 8) : Handled :=
  e.executeStoreAtImm16 store address value .ofBits UntypedVal.i32Store8At

def executeI32Store16 : Handled := e.executeStore store ptr offsetLo UntypedVal.i32Store16
def executeI32Store16Imm : Handled :=
  e.executeStoreImm store ptr offsetLo (fun c => .ofBits (i16FromAnyConst16 c))
    UntypedVal.i32Store16
def executeI32Store16Offset16 : Handled :=
  e.executeStoreOffset16 store ptr offset value UntypedVal.i32Store16
def executeI32Store16Offset16Imm (value : BitVec 16) : Handled :=
  e.executeStoreOffset16Imm16 store ptr offset value .ofBits UntypedVal.i32Store16
def executeI32Store16At : Handled :=
  e.executeStoreAt store address value UntypedVal.i32Store16At
def executeI32Store16AtImm (value : BitVec 16) : Handled :=
  e.executeStoreAtImm16 store address value .ofBits UntypedVal.i32Store16At

def executeI64Store8 : Handled := e.executeStore store ptr offsetLo UntypedVal.i64Store8
def executeI64Store8Imm : Handled :=
  e.executeStoreImm store ptr offsetLo (fun c => .ofBits (i8FromAnyConst16 c))
    UntypedVal.i64Store8
def executeI64Store8Offset16 : Handled :=
  e.executeStoreOffset16 store ptr offset value UntypedVal.i64Store8
def executeI64Store8Offset16Imm (value : BitVec 8) : Handled :=
  e.executeStoreOffset16Imm16 store ptr offset value .ofBits UntypedVal.i64Store8
def executeI64Store8At : Handled := e.executeStoreAt store address value UntypedVal.i64Store8At
def executeI64Store8AtImm (value : BitVec 8) : Handled :=
  e.executeStoreAtImm16 store address value .ofBits UntypedVal.i64Store8At

def executeI64Store16 : Handled := e.executeStore store ptr offsetLo UntypedVal.i64Store16
def executeI64Store16Imm : Handled :=
  e.executeStoreImm store ptr offsetLo (fun c => .ofBits (i16FromAnyConst16 c))
    UntypedVal.i64Store16
def executeI64Store16Offset16 : Handled :=
  e.executeStoreOffset16 store ptr offset value UntypedVal.i64Store16
def executeI64Store16Offset16Imm (value : BitVec 16) : Handled :=
  e.executeStoreOffset16Imm16 store ptr offset value .ofBits UntypedVal.i64Store16
def executeI64Store16At : Handled :=
  e.executeStoreAt store address value UntypedVal.i64Store16At
def executeI64Store16AtImm (value : BitVec 16) : Handled :=
  e.executeStoreAtImm16 store address value .ofBits UntypedVal.i64Store16At

def executeI64Store32 : Handled := e.executeStore store ptr offsetLo UntypedVal.i64Store32
def executeI64Store32Imm16 : Handled :=
  e.executeStoreImm store ptr offsetLo (fun c => .ofBits (i32FromImm16 c)) UntypedVal.i64Store32
def executeI64Store32Offset16 : Handled :=
  e.executeStoreOffset16 store ptr offset value UntypedVal.i64Store32
def executeI64Store32Offset16Imm16 (value : BitVec 16) : Handled :=
  e.executeStoreOffset16Imm16 store ptr offset value (fun v => .ofBits (i32FromImm16 v))
    UntypedVal.i64Store32
def executeI64Store32At : Handled :=
  e.executeStoreAt store address value UntypedVal.i64Store32At
def executeI64Store32AtImm16 (value : BitVec 16) : Handled :=
  e.executeStoreAtImm16 store address value (fun v => .ofBits (i32FromImm16 v))
    UntypedVal.i64Store32At

/-! `impl_execute_store!`: `Store32` and `Store64`. -/

def executeStore32 : Handled := e.executeStore store ptr offsetLo UntypedVal.store32
def executeStore32Offset16 : Handled :=
  e.executeStoreOffset16 store ptr offset value UntypedVal.store32
def executeStore32At : Handled := e.executeStoreAt store address value UntypedVal.store32At
def executeStore64 : Handled := e.executeStore store ptr offsetLo UntypedVal.store64
def executeStore64Offset16 : Handled :=
  e.executeStoreOffset16 store ptr offset value UntypedVal.store64
def executeStore64At : Handled := e.executeStoreAt store address value UntypedVal.store64At

end Executor

/-! ### Every form of a family stores the same bytes into the same memory -/

/-- The outcome every form of a family of `width`-byte stores must have for the pointer `ptr`,
the offset `offset` and the value `value`: the primitive run on the bytes of the instance's
memory `memory`, resolved through the `Store`, and the bytes written back. -/
def storeOutcome (width : Nat) (e : Executor) (store : StoreInner) (memory : Memory)
    (ptr : UntypedVal) (offset : BitVec 64) (value : UntypedVal) : Except TrapCode StoreInner :=
  let memory := e.instanceMemories memory
  (wasmStoreOp width (store.memories memory) ptr offset value).map (store.write memory)

namespace Executor

variable {e : Executor} {store : StoreInner}

theorem executeStoreWrap_eq (hCache : e.CacheCoherent) (memory : Memory) (ptr : UntypedVal)
    (offset : Offset64) (value : UntypedVal) (width : Nat) :
    e.executeStoreWrap store memory ptr offset value (wasmStoreOp width) =
      storeOutcome width e store memory ptr offset.toU64 value := by
  rw [executeStoreWrap, fetchMemoryBytesMut_eq e hCache, bind_pure_comp]
  rfl

theorem executeStoreWrapMem0_eq (hCache : e.CacheCoherent) (ptr : UntypedVal)
    (offset : Offset64) (value : UntypedVal) (width : Nat) :
    e.executeStoreWrapMem0 store ptr offset value (wasmStoreOp width) =
      storeOutcome width e store ⟨0⟩ ptr offset.toU64 value := by
  rw [executeStoreWrapMem0, fetchDefaultMemoryBytesMut, hCache, bind_pure_comp]
  rfl

/-- The address the translator folds from a pointer and an offset whose sum fits in 32 bits. -/
theorem executeStoreWrapAt_eq (hCache : e.CacheCoherent) (memory : Memory) {ptr : UntypedVal}
    {offset : BitVec 64} (hFits : ptr.toU64.toNat + offset.toNat < 2 ^ 32) (value : UntypedVal)
    (width : Nat) :
    e.executeStoreWrapAt store memory ⟨BitVec.ofNat 32 (ptr.toU64.toNat + offset.toNat)⟩ value
        (wasmStoreAtOp width) =
      storeOutcome width e store memory ptr offset value := by
  have hAddress : (BitVec.ofNat 32 (ptr.toU64.toNat + offset.toNat)).toNat =
      ptr.toU64.toNat + offset.toNat := by
    rw [BitVec.toNat_ofNat, Nat.mod_eq_of_lt hFits]
  rw [executeStoreWrapAt, fetchMemoryBytesMut_eq e hCache, bind_pure_comp, storeOutcome,
    wasmStoreOp, wasmStoreAtOp, storeWrap_eq_storeWrapAt (by omega), hAddress]
  rfl

end Executor

/-! ### How two stores compose -/

theorem StoreInner.eq_write_of_map_eq_ok {store store' : StoreInner} {memory : Nat}
    {r : Except TrapCode (List (BitVec 8))} (h : r.map (store.write memory) = .ok store') :
    ∃ bytes, r = .ok bytes ∧ store' = store.write memory bytes := by
  cases r with
  | error => cases h
  | ok bytes => exact ⟨bytes, rfl, (Except.ok.inj h).symm⟩

theorem storeOutcome_eq (width : Nat) (e : Executor) (store : StoreInner) (memory : Memory)
    (ptr : UntypedVal) (offset : BitVec 64) (value : UntypedVal) :
    storeOutcome width e store memory ptr offset value =
      (storeWrap width (store.memories (e.instanceMemories memory)) ptr.toU64 offset
        value.toU64).map (store.write (e.instanceMemories memory)) := rfl

/-- A store into the memory the store before it wrote sees that store's bytes and writes over
its `Store`. -/
theorem map_write_bind_same {store : StoreInner} {memory : Nat}
    (r : Except TrapCode (List (BitVec 8))) (width : Nat) (ptr offset value : BitVec 64) :
    (r.map (store.write memory) >>= fun store₁ =>
        (storeWrap width (store₁.memories memory) ptr offset value).map (store₁.write memory)) =
      (r >>= fun bytes => storeWrap width bytes ptr offset value).map (store.write memory) := by
  cases r with
  | error => rfl
  | ok bytes =>
      show (storeWrap width _ ptr offset value).map _ =
        (storeWrap width bytes ptr offset value).map _
      rw [StoreInner.memories_write_self, StoreInner.write_write_same]

/-- A store into another memory than the store before it reads what was there before. -/
theorem map_write_bind_of_ne {store : StoreInner} {memory₁ memory₂ : Nat}
    (h : memory₁ ≠ memory₂)
    (r : Except TrapCode (List (BitVec 8))) (width : Nat) (ptr offset value : BitVec 64) :
    (r.map (store.write memory₁) >>= fun store₁ =>
        (storeWrap width (store₁.memories memory₂) ptr offset value).map
          (store₁.write memory₂)) =
      (r >>= fun bytes₁ => (storeWrap width (store.memories memory₂) ptr offset value).map
        ((store.write memory₁ bytes₁).write memory₂)) := by
  cases r with
  | error => rfl
  | ok bytes =>
      show (storeWrap width _ ptr offset value).map _ = (storeWrap width _ ptr offset value).map _
      rw [StoreInner.memories_write_of_ne _ _ (Ne.symm h)]

/-- A store to the same memory, effective address and width as the store before it replaces
it: the first store leaves no trace in the `Store`. -/
theorem storeOutcome_overwrite {width : Nat} {e : Executor} {store store₁ : StoreInner}
    {memory : Memory} {ptr₁ ptr₂ : UntypedVal} {offset₁ offset₂ : BitVec 64}
    {value₁ : UntypedVal}
    (hAddress : ptr₂.toU64.toNat + offset₂.toNat = ptr₁.toU64.toNat + offset₁.toNat)
    (h : storeOutcome width e store memory ptr₁ offset₁ value₁ = .ok store₁)
    (value₂ : UntypedVal) :
    storeOutcome width e store₁ memory ptr₂ offset₂ value₂ =
      storeOutcome width e store memory ptr₂ offset₂ value₂ := by
  obtain ⟨written, hOp, rfl⟩ := StoreInner.eq_write_of_map_eq_ok h
  obtain ⟨hFits, hAt⟩ := storeWrap_eq_ok hOp
  rw [storeOutcome_eq, storeOutcome_eq, StoreInner.memories_write_self,
    StoreInner.write_write_same, storeWrap_eq_storeWrapAt (hAddress ▸ hFits),
    storeWrap_eq_storeWrapAt (hAddress ▸ hFits), hAddress, storeWrapAt_storeWrapAt_same hAt]

theorem storeOutcome_overwrite_byte :
    (UntypedVal.ofBits (0 : BitVec 64)).toU64.toNat + (1 : BitVec 64).toNat =
        (UntypedVal.ofBits (1 : BitVec 64)).toU64.toNat + (0 : BitVec 64).toNat ∧
      storeOutcome 1 ⟨0, [], fun _ => ⟨0, 0⟩, 0, fun _ => 0⟩ ⟨fun _ => [0, 0]⟩ ⟨0⟩
          (.ofBits (1 : BitVec 64)) 0 (.ofBits (0xAB : BitVec 8)) =
        .ok (StoreInner.write ⟨fun _ => [0, 0]⟩ 0 [0, 0xAB]) ∧
      storeOutcome 1 ⟨0, [], fun _ => ⟨0, 0⟩, 0, fun _ => 0⟩
          (StoreInner.write ⟨fun _ => [0, 0]⟩ 0 [0, 0xAB]) ⟨0⟩
          (.ofBits (0 : BitVec 64)) 1 (.ofBits (0xCD : BitVec 8)) =
        storeOutcome 1 ⟨0, [], fun _ => ⟨0, 0⟩, 0, fun _ => 0⟩ ⟨fun _ => [0, 0]⟩ ⟨0⟩
          (.ofBits (0 : BitVec 64)) 1 (.ofBits (0xCD : BitVec 8)) :=
  have h : storeOutcome 1 ⟨0, [], fun _ => ⟨0, 0⟩, 0, fun _ => 0⟩ ⟨fun _ => [0, 0]⟩ ⟨0⟩
      (.ofBits (1 : BitVec 64)) 0 (.ofBits (0xAB : BitVec 8)) =
    .ok (StoreInner.write ⟨fun _ => [0, 0]⟩ 0 [0, 0xAB]) := rfl
  ⟨by decide, h, storeOutcome_overwrite (by decide) h _⟩

/-- Two stores commute, traps included, when they write different memories of the `Store` or
disjoint bytes of one. -/
theorem storeOutcome_comm {width₁ width₂ : Nat} (e : Executor) (store : StoreInner)
    {memory₁ memory₂ : Memory} {ptr₁ ptr₂ : UntypedVal} {offset₁ offset₂ : BitVec 64}
    (hDisjoint : e.instanceMemories memory₁ ≠ e.instanceMemories memory₂ ∨
      ptr₁.toU64.toNat + offset₁.toNat + width₁ ≤ ptr₂.toU64.toNat + offset₂.toNat ∨
      ptr₂.toU64.toNat + offset₂.toNat + width₂ ≤ ptr₁.toU64.toNat + offset₁.toNat)
    (value₁ value₂ : UntypedVal) :
    (storeOutcome width₁ e store memory₁ ptr₁ offset₁ value₁ >>= fun store₁ =>
        storeOutcome width₂ e store₁ memory₂ ptr₂ offset₂ value₂) =
      (storeOutcome width₂ e store memory₂ ptr₂ offset₂ value₂ >>= fun store₂ =>
        storeOutcome width₁ e store₂ memory₁ ptr₁ offset₁ value₁) := by
  simp only [storeOutcome_eq]
  by_cases hSame : e.instanceMemories memory₁ = e.instanceMemories memory₂
  · have hRanges := hDisjoint.resolve_left (not_not_intro hSame)
    rw [← hSame, map_write_bind_same, map_write_bind_same, storeWrap_comm _ hRanges]
  · rw [map_write_bind_of_ne hSame, map_write_bind_of_ne (Ne.symm hSame)]
    cases storeWrap width₁ (store.memories (e.instanceMemories memory₁)) ptr₁.toU64 offset₁
      value₁.toU64 <;>
    cases storeWrap width₂ (store.memories (e.instanceMemories memory₂)) ptr₂.toU64 offset₂
      value₂.toU64 <;>
    first | rfl | exact congrArg Except.ok (StoreInner.write_comm _ hSame _ _)

theorem storeOutcome_comm_bytes :
    ((⟨0, [], fun _ => ⟨0, 0⟩, 0, fun _ => 0⟩ : Executor).instanceMemories ⟨0⟩ ≠
          (⟨0, [], fun _ => ⟨0, 0⟩, 0, fun _ => 0⟩ : Executor).instanceMemories ⟨0⟩ ∨
        (UntypedVal.ofBits (0 : BitVec 64)).toU64.toNat + (0 : BitVec 64).toNat + 1 ≤
          (UntypedVal.ofBits (1 : BitVec 64)).toU64.toNat + (0 : BitVec 64).toNat ∨
        (UntypedVal.ofBits (1 : BitVec 64)).toU64.toNat + (0 : BitVec 64).toNat + 1 ≤
          (UntypedVal.ofBits (0 : BitVec 64)).toU64.toNat + (0 : BitVec 64).toNat) ∧
      (storeOutcome 1 ⟨0, [], fun _ => ⟨0, 0⟩, 0, fun _ => 0⟩ ⟨fun _ => [0, 0]⟩ ⟨0⟩
          (.ofBits (0 : BitVec 64)) 0 (.ofBits (0xAB : BitVec 8)) >>= fun store₁ =>
        storeOutcome 1 ⟨0, [], fun _ => ⟨0, 0⟩, 0, fun _ => 0⟩ store₁ ⟨0⟩
          (.ofBits (1 : BitVec 64)) 0 (.ofBits (0xCD : BitVec 8))) =
      (storeOutcome 1 ⟨0, [], fun _ => ⟨0, 0⟩, 0, fun _ => 0⟩ ⟨fun _ => [0, 0]⟩ ⟨0⟩
          (.ofBits (1 : BitVec 64)) 0 (.ofBits (0xCD : BitVec 8)) >>= fun store₂ =>
        storeOutcome 1 ⟨0, [], fun _ => ⟨0, 0⟩, 0, fun _ => 0⟩ store₂ ⟨0⟩
          (.ofBits (0 : BitVec 64)) 0 (.ofBits (0xAB : BitVec 8))) :=
  ⟨.inr (.inl (by decide)), storeOutcome_comm _ _ (.inr (.inl (by decide))) _ _⟩

/-! ### What a store handler leaves alone, from any state -/

theorem length_of_wasmStoreOp {width : Nat} {memory bytes : List (BitVec 8)} {ptr : UntypedVal}
    {offset : BitVec 64} {value : UntypedVal}
    (h : wasmStoreOp width memory ptr offset value = .ok bytes) : bytes.length = memory.length :=
  (storeWrapAt_frame (storeWrap_eq_ok h).2).2.1

theorem length_of_wasmStoreAtOp {width : Nat} {memory bytes : List (BitVec 8)} {address : Nat}
    {value : UntypedVal} (h : wasmStoreAtOp width memory address value = .ok bytes) :
    bytes.length = memory.length :=
  (storeWrapAt_frame h).2.1

namespace Executor

variable {e e' : Executor} {store store' : StoreInner} {written : Reg → Prop}

/-- Writing back what a length-keeping primitive returned, and moving on `delta` slots. -/
theorem frame_of_map_write {memory : Nat} {r : Except TrapCode (List (BitVec 8))} {delta : Nat}
    (hLength : ∀ bytes, r = .ok bytes → bytes.length = (store.memories memory).length)
    (h : some ((r.map (store.write memory)).map (Prod.mk (e.nextInstrAt delta))) =
      some (.ok (e', store'))) :
    Frame written delta e e' store store' := by
  cases r with
  | error => cases h
  | ok bytes =>
      cases h
      exact frame_nextInstrAt_write e (hLength bytes rfl) written delta

theorem executeStore_frame {ptr : Reg} {offsetLo : Offset64Lo} {width : Nat}
    (h : e.executeStore store ptr offsetLo (wasmStoreOp width) = some (.ok (e', store'))) :
    Frame written 2 e e' store store' := by
  unfold executeStore at h
  split at h
  · dsimp only at h
    rw [executeStoreWrap, bind_pure_comp] at h
    exact frame_of_map_write (fun _ => length_of_wasmStoreOp) h
  · cases h

theorem executeStoreImm_frame {ptr : Reg} {offsetLo : Offset64Lo} {conv : BitVec 16 → UntypedVal}
    {width : Nat}
    (h : e.executeStoreImm store ptr offsetLo conv (wasmStoreOp width) = some (.ok (e', store'))) :
    Frame written 2 e e' store store' := by
  unfold executeStoreImm at h
  split at h
  · dsimp only at h
    rw [executeStoreWrap, bind_pure_comp] at h
    exact frame_of_map_write (fun _ => length_of_wasmStoreOp) h
  · cases h

theorem executeStoreOffset16_frame {ptr : Reg} {offset : Offset16} {value : Reg} {width : Nat}
    (h : e.executeStoreOffset16 store ptr offset value (wasmStoreOp width) =
      some (.ok (e', store'))) :
    Frame written 1 e e' store store' := by
  rw [executeStoreOffset16, executeStoreWrapMem0, bind_pure_comp] at h
  exact frame_of_map_write (fun _ => length_of_wasmStoreOp) h

theorem executeStoreOffset16Imm16_frame {ptr : Reg} {offset : Offset16} {value : V}
    {conv : V → UntypedVal} {width : Nat}
    (h : e.executeStoreOffset16Imm16 store ptr offset value conv (wasmStoreOp width) =
      some (.ok (e', store'))) :
    Frame written 1 e e' store store' := by
  rw [executeStoreOffset16Imm16, executeStoreWrapMem0, bind_pure_comp] at h
  exact frame_of_map_write (fun _ => length_of_wasmStoreOp) h

theorem executeStoreAt_frame {address : Address32} {value : Reg} {width : Nat}
    (h : e.executeStoreAt store address value (wasmStoreAtOp width) = some (.ok (e', store'))) :
    Frame written 1 e e' store store' := by
  unfold executeStoreAt at h
  split at h
  · rw [executeStoreWrapAt, bind_pure_comp] at h
    exact frame_of_map_write (fun _ => length_of_wasmStoreAtOp) h
  · cases h

theorem executeStoreAtImm16_frame {address : Address32} {value : V} {conv : V → UntypedVal}
    {width : Nat}
    (h : e.executeStoreAtImm16 store address value conv (wasmStoreAtOp width) =
      some (.ok (e', store'))) :
    Frame written 1 e e' store store' := by
  unfold executeStoreAtImm16 at h
  split at h
  · rw [executeStoreWrapAt, bind_pure_comp] at h
    exact frame_of_map_write (fun _ => length_of_wasmStoreAtOp) h
  · cases h

end Executor

/-- One opcode family of `store.rs`: the six handlers of a Wasm store opcode, the byte width
of the primitive pair they are instantiated with, and the conversions of the immediate forms.
A family is a row of `impl_execute_istore_trunc!`, or a row of `impl_execute_store!` with the
row of `impl_execute_istore!` for the same opcode. -/
structure StoreFamily where
  width : Nat
  /-- The width of the immediate `$from_ty` of the `Offset16Imm` and `AtImm` forms. -/
  immWidth : Nat
  store : Executor → StoreInner → Reg → Offset64Lo → Handled
  storeImm : Executor → StoreInner → Reg → Offset64Lo → Handled
  storeOffset16 : Executor → StoreInner → Reg → Offset16 → Reg → Handled
  storeOffset16Imm : Executor → StoreInner → Reg → Offset16 → BitVec immWidth → Handled
  storeAt : Executor → StoreInner → Address32 → Reg → Handled
  storeAtImm : Executor → StoreInner → Address32 → BitVec immWidth → Handled
  /-- `T::from(value).into()` on the immediate of the `Offset16Imm` and `AtImm` forms. -/
  fromImm : BitVec immWidth → UntypedVal
  /-- `T::from(imm16).into()` on the `AnyConst16` of the `Imm` form's parameter slot. -/
  fromAnyConst16 : BitVec 16 → UntypedVal

namespace StoreFamily

open Executor

/-- `i32.store`: `Store32` with `I32StoreImm16`. -/
def i32Store : StoreFamily :=
  ⟨4, 16, executeStore32, executeI32StoreImm16, executeStore32Offset16,
    executeI32StoreOffset16Imm16, executeStore32At, executeI32StoreAtImm16,
    fun v => .ofBits (i32FromImm16 v), fun c => .ofBits (i32FromImm16 c)⟩

/-- `i64.store`: `Store64` with `I64StoreImm16`. -/
def i64Store : StoreFamily :=
  ⟨8, 16, executeStore64, executeI64StoreImm16, executeStore64Offset16,
    executeI64StoreOffset16Imm16, executeStore64At, executeI64StoreAtImm16,
    fun v => .ofBits (i64FromImm16 v), fun c => .ofBits (i64FromImm16 c)⟩

/-- `i32.store8`. -/
def i32Store8 : StoreFamily :=
  ⟨1, 8, executeI32Store8, executeI32Store8Imm, executeI32Store8Offset16,
    executeI32Store8Offset16Imm, executeI32Store8At, executeI32Store8AtImm,
    .ofBits, fun c => .ofBits (i8FromAnyConst16 c)⟩

/-- `i32.store16`. -/
def i32Store16 : StoreFamily :=
  ⟨2, 16, executeI32Store16, executeI32Store16Imm, executeI32Store16Offset16,
    executeI32Store16Offset16Imm, executeI32Store16At, executeI32Store16AtImm,
    .ofBits, fun c => .ofBits (i16FromAnyConst16 c)⟩

/-- `i64.store8`. -/
def i64Store8 : StoreFamily :=
  ⟨1, 8, executeI64Store8, executeI64Store8Imm, executeI64Store8Offset16,
    executeI64Store8Offset16Imm, executeI64Store8At, executeI64Store8AtImm,
    .ofBits, fun c => .ofBits (i8FromAnyConst16 c)⟩

/-- `i64.store16`. -/
def i64Store16 : StoreFamily :=
  ⟨2, 16, executeI64Store16, executeI64Store16Imm, executeI64Store16Offset16,
    executeI64Store16Offset16Imm, executeI64Store16At, executeI64Store16AtImm,
    .ofBits, fun c => .ofBits (i16FromAnyConst16 c)⟩

/-- `i64.store32`. -/
def i64Store32 : StoreFamily :=
  ⟨4, 16, executeI64Store32, executeI64Store32Imm16, executeI64Store32Offset16,
    executeI64Store32Offset16Imm16, executeI64Store32At, executeI64Store32AtImm16,
    fun v => .ofBits (i32FromImm16 v), fun c => .ofBits (i32FromImm16 c)⟩

/-- The family's handlers are the six generic handlers applied to its `width`-byte primitive
pair and to its conversions. -/
structure IsInstance (fam : StoreFamily) : Prop where
  store : fam.store = fun e store ptr offsetLo =>
    e.executeStore store ptr offsetLo (wasmStoreOp fam.width)
  storeImm : fam.storeImm = fun e store ptr offsetLo =>
    e.executeStoreImm store ptr offsetLo fam.fromAnyConst16 (wasmStoreOp fam.width)
  storeOffset16 : fam.storeOffset16 = fun e store ptr offset value =>
    e.executeStoreOffset16 store ptr offset value (wasmStoreOp fam.width)
  storeOffset16Imm : fam.storeOffset16Imm = fun e store ptr offset value =>
    e.executeStoreOffset16Imm16 store ptr offset value fam.fromImm (wasmStoreOp fam.width)
  storeAt : fam.storeAt = fun e store address value =>
    e.executeStoreAt store address value (wasmStoreAtOp fam.width)
  storeAtImm : fam.storeAtImm = fun e store address value =>
    e.executeStoreAtImm16 store address value fam.fromImm (wasmStoreAtOp fam.width)

/-- Every form of the family has the outcome of the general form `StoreN(ptr, offset_lo)` +
`RegisterAndImm32(value, offset_hi)`: the family's primitive on the same memory, pointer,
offset and value, with an immediate converted by the family's `From`, and the instruction
pointer moved past the form's slots. The address-folded forms agree with every pointer and
offset whose sum is their address. -/
def FormsAgree (fam : StoreFamily) : Prop :=
  ∀ (e : Executor) (store : StoreInner), e.CacheCoherent →
    (∀ ptr offsetLo value offsetHi memory,
      e.fetchAt 1 = some (.registerAndImm32 value offsetHi) →
      e.fetchOptionalMemory 2 = some memory →
      fam.store e store ptr offsetLo =
        some ((storeOutcome fam.width e store memory (e.getRegister ptr)
          (Offset64.combine ⟨offsetHi⟩ offsetLo).toU64 (e.getRegister value)).map
            (Prod.mk (e.nextInstrAt 2)))) ∧
    (∀ ptr offsetLo imm16 offsetHi memory,
      e.fetchAt 1 = some (.imm16AndImm32 imm16 offsetHi) →
      e.fetchOptionalMemory 2 = some memory →
      fam.storeImm e store ptr offsetLo =
        some ((storeOutcome fam.width e store memory (e.getRegister ptr)
          (Offset64.combine ⟨offsetHi⟩ offsetLo).toU64 (fam.fromAnyConst16 imm16)).map
            (Prod.mk (e.nextInstrAt 2)))) ∧
    (∀ ptr offset value,
      fam.storeOffset16 e store ptr offset value =
        some ((storeOutcome fam.width e store ⟨0⟩ (e.getRegister ptr)
          (Offset64.ofOffset16 offset).toU64 (e.getRegister value)).map
            (Prod.mk (e.nextInstrAt 1)))) ∧
    (∀ ptr offset imm,
      fam.storeOffset16Imm e store ptr offset imm =
        some ((storeOutcome fam.width e store ⟨0⟩ (e.getRegister ptr)
          (Offset64.ofOffset16 offset).toU64 (fam.fromImm imm)).map
            (Prod.mk (e.nextInstrAt 1)))) ∧
    (∀ (ptr : UntypedVal) (offset : BitVec 64) value memory,
      ptr.toU64.toNat + offset.toNat < 2 ^ 32 →
      e.fetchOptionalMemory 1 = some memory →
      fam.storeAt e store ⟨BitVec.ofNat 32 (ptr.toU64.toNat + offset.toNat)⟩ value =
        some ((storeOutcome fam.width e store memory ptr offset (e.getRegister value)).map
          (Prod.mk (e.nextInstrAt 1)))) ∧
    (∀ (ptr : UntypedVal) (offset : BitVec 64) imm memory,
      ptr.toU64.toNat + offset.toNat < 2 ^ 32 →
      e.fetchOptionalMemory 1 = some memory →
      fam.storeAtImm e store ⟨BitVec.ofNat 32 (ptr.toU64.toNat + offset.toNat)⟩ imm =
        some ((storeOutcome fam.width e store memory ptr offset (fam.fromImm imm)).map
          (Prod.mk (e.nextInstrAt 1))))

theorem IsInstance.formsAgree {fam : StoreFamily} (h : fam.IsInstance) : fam.FormsAgree := by
  intro e store hCache
  refine ⟨fun ptr offsetLo value offsetHi memory hSlot hMemory => ?_,
    fun ptr offsetLo imm16 offsetHi memory hSlot hMemory => ?_,
    fun ptr offset value => ?_, fun ptr offset imm => ?_,
    fun ptr offset value memory hFits hMemory => ?_,
    fun ptr offset imm memory hFits hMemory => ?_⟩
  · rw [h.store]
    simp only [executeStore, fetchValueAndOffsetHi, fetchRegAndOffsetHi, hSlot, hMemory,
      executeStoreWrap_eq hCache]
  · rw [h.storeImm]
    simp only [executeStoreImm, fetchValueAndOffsetImm, hSlot, hMemory,
      executeStoreWrap_eq hCache]
  · rw [h.storeOffset16]
    simp only [executeStoreOffset16, executeStoreWrapMem0_eq hCache]
  · rw [h.storeOffset16Imm]
    simp only [executeStoreOffset16Imm16, executeStoreWrapMem0_eq hCache]
  · rw [h.storeAt]
    simp only [executeStoreAt, hMemory, executeStoreWrapAt_eq hCache memory hFits]
  · rw [h.storeAtImm]
    simp only [executeStoreAtImm16, hMemory, executeStoreWrapAt_eq hCache memory hFits]

end StoreFamily

/-- Every store family of `store.rs` pairs its width's primitive with the matching `_at`
primitive and immediate conversion in all six forms, so that the fast path on the cached
default memory, the address-folded forms and the immediate forms all store what the general
register form stores. -/
theorem storeFamilies_formsAgree :
    StoreFamily.i32Store.FormsAgree ∧ StoreFamily.i64Store.FormsAgree ∧
      StoreFamily.i32Store8.FormsAgree ∧ StoreFamily.i32Store16.FormsAgree ∧
      StoreFamily.i64Store8.FormsAgree ∧ StoreFamily.i64Store16.FormsAgree ∧
      StoreFamily.i64Store32.FormsAgree :=
  ⟨StoreFamily.IsInstance.formsAgree ⟨rfl, rfl, rfl, rfl, rfl, rfl⟩,
    StoreFamily.IsInstance.formsAgree ⟨rfl, rfl, rfl, rfl, rfl, rfl⟩,
    StoreFamily.IsInstance.formsAgree ⟨rfl, rfl, rfl, rfl, rfl, rfl⟩,
    StoreFamily.IsInstance.formsAgree ⟨rfl, rfl, rfl, rfl, rfl, rfl⟩,
    StoreFamily.IsInstance.formsAgree ⟨rfl, rfl, rfl, rfl, rfl, rfl⟩,
    StoreFamily.IsInstance.formsAgree ⟨rfl, rfl, rfl, rfl, rfl, rfl⟩,
    StoreFamily.IsInstance.formsAgree ⟨rfl, rfl, rfl, rfl, rfl, rfl⟩⟩

/-- A store scenario: register 0 holds the pointer 4 and register 1 the value `0x11223344`; the
`RegisterAndImm32` slot after the instruction names register 1 with `offset_hi = 0`, the next
slot is an instruction (so the store is on memory 0), and the one after it is the `Register`
slot of the instruction that follows a two-slot store. Every memory of the instance is `Store`
memory 0, which the cache points at. -/
def storeScenario : Executor where
  ip := 0
  code := [.other, .registerAndImm32 ⟨1⟩ 0, .other, .register ⟨2⟩]
  sp reg := .ofBits (match reg.toI16.toNat with
    | 0 => (4 : BitVec 64)
    | 1 => 0x11223344
    | _ => 0)
  cacheMemory := 0
  instanceMemories _ := 0

/-- `Store32` in its general form and in its 16-bit-offset form on the scenario: pointer
register 0 and offset 4 either way, so both store what the `Store` path stores at address 8. -/
theorem storeFamilies_formsAgree_store32 :
    storeScenario.CacheCoherent ∧
    storeScenario.fetchAt 1 = some (.registerAndImm32 ⟨1⟩ 0) ∧
    storeScenario.fetchOptionalMemory 2 = some ⟨0⟩ ∧
    (Offset64.combine ⟨0⟩ ⟨4⟩).toU64 = (Offset64.ofOffset16 ⟨4⟩).toU64 ∧
    Executor.executeStore32 storeScenario ⟨fun _ => List.replicate 16 0⟩ ⟨0⟩ ⟨4⟩ =
      some ((storeOutcome 4 storeScenario ⟨fun _ => List.replicate 16 0⟩ ⟨0⟩
        (storeScenario.getRegister ⟨0⟩) (Offset64.combine ⟨0⟩ ⟨4⟩).toU64
        (storeScenario.getRegister ⟨1⟩)).map (Prod.mk (storeScenario.nextInstrAt 2))) ∧
    Executor.executeStore32Offset16 storeScenario ⟨fun _ => List.replicate 16 0⟩ ⟨0⟩ ⟨4⟩ ⟨1⟩ =
      some ((storeOutcome 4 storeScenario ⟨fun _ => List.replicate 16 0⟩ ⟨0⟩
        (storeScenario.getRegister ⟨0⟩) (Offset64.ofOffset16 ⟨4⟩).toU64
        (storeScenario.getRegister ⟨1⟩)).map (Prod.mk (storeScenario.nextInstrAt 1))) :=
  ⟨rfl, rfl, rfl, rfl,
    (storeFamilies_formsAgree.1 storeScenario _ rfl).1 ⟨0⟩ ⟨4⟩ ⟨1⟩ 0 ⟨0⟩ rfl rfl,
    (storeFamilies_formsAgree.1 storeScenario _ rfl).2.2.1 ⟨0⟩ ⟨4⟩ ⟨1⟩⟩

/-! ### The store instructions the dispatch loop executes -/

/-- The seven store opcodes of `store.rs`. -/
inductive StoreOpcode where
  | i32Store
  | i64Store
  | i32Store8
  | i32Store16
  | i64Store8
  | i64Store16
  | i64Store32
deriving DecidableEq, Repr

/-- The row of handlers that runs an opcode's instructions. -/
def StoreOpcode.family : StoreOpcode → StoreFamily
  | .i32Store => .i32Store
  | .i64Store => .i64Store
  | .i32Store8 => .i32Store8
  | .i32Store16 => .i32Store16
  | .i64Store8 => .i64Store8
  | .i64Store16 => .i64Store16
  | .i64Store32 => .i64Store32

theorem StoreOpcode.isInstance (op : StoreOpcode) : op.family.IsInstance := by
  cases op <;> exact ⟨rfl, rfl, rfl, rfl, rfl, rfl⟩

/-- Modelled from the spec: a store instruction of a family in one of its six forms, with the
operands folded into the instruction. -/
inductive StoreForm (fam : StoreFamily) where
  | store (ptr : Reg) (offsetLo : Offset64Lo)
  | storeImm (ptr : Reg) (offsetLo : Offset64Lo)
  | storeOffset16 (ptr : Reg) (offset : Offset16) (value : Reg)
  | storeOffset16Imm (ptr : Reg) (offset : Offset16) (value : BitVec fam.immWidth)
  | storeAt (address : Address32) (value : Reg)
  | storeAtImm (address : Address32) (value : BitVec fam.immWidth)

namespace StoreForm

/-- The handler the dispatch loop calls for the instruction. -/
def execute {fam : StoreFamily} (form : StoreForm fam) (e : Executor) (store : StoreInner) :
    Handled :=
  match form with
  | .store ptr offsetLo => fam.store e store ptr offsetLo
  | .storeImm ptr offsetLo => fam.storeImm e store ptr offsetLo
  | .storeOffset16 ptr offset value => fam.storeOffset16 e store ptr offset value
  | .storeOffset16Imm ptr offset value => fam.storeOffset16Imm e store ptr offset value
  | .storeAt address value => fam.storeAt e store address value
  | .storeAtImm address value => fam.storeAtImm e store address value

/-- The number of instruction slots the form takes: the general and immediate forms carry a
parameter slot. -/
def slots {fam : StoreFamily} : StoreForm fam → Nat
  | .store .. | .storeImm .. => 2
  | _ => 1

open Executor in
/-- A store instruction of any opcode, from any state, that does not trap moves past its slots,
writes no register, and writes bytes back into the `Store` with every memory's length kept. -/
theorem frame_of_execute {op : StoreOpcode} {form : StoreForm op.family} {e e' : Executor}
    {store store' : StoreInner} (written : Reg → Prop)
    (h : form.execute e store = some (.ok (e', store'))) :
    Frame written form.slots e e' store store' := by
  have hFam := op.isInstance
  cases form with
  | store ptr offsetLo =>
      simp only [execute, hFam.store] at h
      exact executeStore_frame h
  | storeImm ptr offsetLo =>
      simp only [execute, hFam.storeImm] at h
      exact executeStoreImm_frame h
  | storeOffset16 ptr offset value =>
      simp only [execute, hFam.storeOffset16] at h
      exact executeStoreOffset16_frame h
  | storeOffset16Imm ptr offset value =>
      simp only [execute, hFam.storeOffset16Imm] at h
      exact executeStoreOffset16Imm16_frame h
  | storeAt address value =>
      simp only [execute, hFam.storeAt] at h
      exact executeStoreAt_frame h
  | storeAtImm address value =>
      simp only [execute, hFam.storeAtImm] at h
      exact executeStoreAtImm16_frame h

end StoreForm

end Wasmi.Engine
