import Wasmi.Core.Memory
/-! The executor state that the store and SIMD handlers read and write, with the operand
fetches they share. The instruction set, the register file and the memory cache are not
among the sources: they are modelled from the spec. A linear memory's bytes are reached
through a handle into the `Store`, so that a write through the cached default-memory pointer
is a write into the `Store`, as it is in the code. -/

namespace Wasmi.Engine

open Wasmi.Core

/-- `Reg`: a 16-bit signed register index; negative ones reach the constant pool. -/
structure Reg where
  toI16 : BitVec 16
deriving DecidableEq, Repr

/-- `index::Memory`: the index of a linear memory of the instance. -/
structure Memory where
  toU32 : BitVec 32
deriving DecidableEq, Repr

/-- `Memory::is_default`: memory 0 is the default memory. -/
def Memory.isDefault (memory : Memory) : Bool := memory.toU32 == 0

/-- `Offset16`: a 16-bit unsigned offset folded into the instruction. -/
structure Offset16 where
  toU16 : BitVec 16
deriving DecidableEq, Repr

/-- `Offset64Lo`: the low half of a 64-bit offset, folded into the instruction. -/
structure Offset64Lo where
  toU32 : BitVec 32
deriving DecidableEq, Repr

/-- `Offset64Hi`: the high half of a 64-bit offset, in the parameter slot. -/
structure Offset64Hi where
  toU32 : BitVec 32
deriving DecidableEq, Repr

/-- `Offset64`: the offset of a memory access. -/
structure Offset64 where
  toU64 : BitVec 64
deriving DecidableEq, Repr

/-- `Address32`: an effective address folded into the instruction by the translator. -/
structure Address32 where
  toU32 : BitVec 32
deriving DecidableEq, Repr

namespace Offset64

/-- Modelled from the spec: `Offset64::combine`, the offset split across the instruction and its
parameter slot joined again, `hi << 32 | lo`. -/
def combine (hi : Offset64Hi) (lo : Offset64Lo) : Offset64 :=
  ⟨hi.toU32.setWidth 64 <<< 32 ||| lo.toU32.setWidth 64⟩

/-- Modelled from the spec: `From<Offset16> for Offset64`, zero extension. -/
def ofOffset16 (offset : Offset16) : Offset64 := ⟨offset.toU16.setWidth 64⟩

end Offset64

/-- Modelled from the spec: the instruction slots. The handlers modelled here look at the
slots after their own only to find their parameters (`Register`, `RegisterAndImm32`,
`Imm16AndImm32`, `MemoryIndex`); every other instruction is `other`. -/
inductive Instruction where
  | register (reg : Reg)
  | registerAndImm32 (reg : Reg) (imm : BitVec 32)
  | imm16AndImm32 (imm16 : BitVec 16) (imm32 : BitVec 32)
  | memoryIndex (index : Memory)
  | other
deriving DecidableEq, Repr

/-- Modelled from the spec: the bytes of every linear memory, owned by the `Store` and named
by a memory entity. -/
structure StoreInner where
  memories : Nat → List (BitVec 8)

/-- The bytes `bytes` written back as memory `memory` of the `Store`. -/
def StoreInner.write (store : StoreInner) (memory : Nat) (bytes : List (BitVec 8)) :
    StoreInner :=
  ⟨Function.update store.memories memory bytes⟩

@[simp] theorem StoreInner.memories_write_self (store : StoreInner) (memory : Nat)
    (bytes : List (BitVec 8)) : (store.write memory bytes).memories memory = bytes :=
  Function.update_same _ _ _

theorem StoreInner.memories_write_of_ne (store : StoreInner) {memory other : Nat}
    (bytes : List (BitVec 8)) (h : other ≠ memory) :
    (store.write memory bytes).memories other = store.memories other :=
  Function.update_noteq h _ _

/-- A second write to a memory replaces the first. -/
theorem StoreInner.write_write_same (store : StoreInner) (memory : Nat)
    (bytes : List (BitVec 8)) : (store.write memory bytes).write memory = store.write memory := by
  funext bytes'
  simp only [StoreInner.write, Function.update_idem]

/-- Writes to different memories commute. -/
theorem StoreInner.write_comm (store : StoreInner) {memory₁ memory₂ : Nat}
    (h : memory₁ ≠ memory₂) (bytes₁ bytes₂ : List (BitVec 8)) :
    (store.write memory₁ bytes₁).write memory₂ bytes₂ =
      (store.write memory₂ bytes₂).write memory₁ bytes₁ := by
  simp only [StoreInner.write, Function.update_comm h]

/-- Modelled from the spec: the part of `Executor` the handlers use. -/
structure Executor where
  /-- The instruction pointer, an index into `code`. -/
  ip : Nat
  code : List Instruction
  /-- The registers of the current frame and its constant pool. -/
  sp : Reg → UntypedVal
  /-- `cache.memory`: the `Store` memory the cached default-memory pointer points into. -/
  cacheMemory : Nat
  /-- `get_memory`: the `Store` memory of each memory index of the instance. -/
  instanceMemories : Memory → Nat

namespace Executor

/-- `get_register`. -/
def getRegister (e : Executor) (reg : Reg) : UntypedVal := e.sp reg

/-- `set_register`. -/
def setRegister (e : Executor) (reg : Reg) (value : UntypedVal) : Executor :=
  { e with sp := Function.update e.sp reg value }

/-- `next_instr_at`, and `try_next_instr_at` which always returns `Ok`. -/
def nextInstrAt (e : Executor) (delta : Nat) : Executor := { e with ip := e.ip + delta }

/-- The slot `delta` instructions after the current one, read through an `InstructionPtr`;
`none` past the end of the function, which translation rules out. -/
def fetchAt (e : Executor) (delta : Nat) : Option Instruction := e.code[e.ip + delta]?

/-- Modelled from the spec: `fetch_optional_memory`, the `MemoryIndex` parameter slot if
there is one at `delta`, and the default memory otherwise. -/
def fetchOptionalMemory (e : Executor) (delta : Nat) : Option Memory :=
  match e.fetchAt delta with
  | some (.memoryIndex index) => some index
  | some _ => some ⟨0⟩
  | none => none

/-- Modelled from the spec: `fetch_reg_and_offset_hi`; `none` is its
`unreachable_unchecked`. -/
def fetchRegAndOffsetHi (e : Executor) : Option (Reg × Offset64Hi) :=
  match e.fetchAt 1 with
  | some (.registerAndImm32 reg imm) => some (reg, ⟨imm⟩)
  | _ => none

/-- `fetch_value_and_offset_hi`. -/
def fetchValueAndOffsetHi (e : Executor) : Option (Reg × Offset64Hi) := e.fetchRegAndOffsetHi

/-- `fetch_value_and_offset_imm::<T>`, where `conv` is `T::from` on the `AnyConst16`. -/
def fetchValueAndOffsetImm (e : Executor) (conv : BitVec 16 → α) : Option (α × Offset64Hi) :=
  match e.fetchAt 1 with
  | some (.imm16AndImm32 imm16 imm32) => some (conv imm16, ⟨imm32⟩)
  | _ => none

/-- `fetch_default_memory_bytes_mut`: the memory behind the cached pointer. -/
def fetchDefaultMemoryBytesMut (e : Executor) : Nat := e.cacheMemory

/-- `fetch_non_default_memory_bytes_mut`: the memory resolved through the `Store`. -/
def fetchNonDefaultMemoryBytesMut (e : Executor) (memory : Memory) : Nat :=
  e.instanceMemories memory

/-- `fetch_memory_bytes_mut`. -/
def fetchMemoryBytesMut (e : Executor) (memory : Memory) : Nat :=
  match memory.isDefault with
  | true => e.fetchDefaultMemoryBytesMut
  | false => e.fetchNonDefaultMemoryBytesMut memory

/-- The cache invariant the executor keeps: the cached pointer is the bytes of the instance's
memory 0. -/
def CacheCoherent (e : Executor) : Prop := e.cacheMemory = e.instanceMemories ⟨0⟩

/-- Under the cache invariant the fast path and the slow path reach the same memory, for every
memory index. -/
theorem fetchMemoryBytesMut_eq (e : Executor) (hCache : e.CacheCoherent) (memory : Memory) :
    e.fetchMemoryBytesMut memory = e.instanceMemories memory := by
  unfold fetchMemoryBytesMut
  split
  · rename_i hDefault
    have hZero : memory = ⟨0⟩ := by
      obtain ⟨index⟩ := memory
      simpa [Memory.isDefault] using hDefault
    rw [hZero]
    exact hCache
  · rfl

@[simp] theorem getRegister_setRegister (e : Executor) (reg : Reg) (value : UntypedVal)
    (other : Reg) :
    (e.setRegister reg value).getRegister other = if other = reg then value else e.getRegister other :=
  Function.update_apply _ _ _ _

@[simp] theorem ip_nextInstrAt (e : Executor) (delta : Nat) :
    (e.nextInstrAt delta).ip = e.ip + delta := rfl

@[simp] theorem ip_setRegister (e : Executor) (reg : Reg) (value : UntypedVal) :
    (e.setRegister reg value).ip = e.ip := rfl

@[simp] theorem sp_nextInstrAt (e : Executor) (delta : Nat) :
    (e.nextInstrAt delta).sp = e.sp := rfl

@[simp] theorem getRegister_nextInstrAt (e : Executor) (delta : Nat) (reg : Reg) :
    (e.nextInstrAt delta).getRegister reg = e.getRegister reg := rfl

/-! ### What a handler leaves alone -/

/-- What a step or a run of handlers changes: the instruction pointer moves on by `slots`, only
registers in `written` change, and the code, the cached memory, the instance's memory bindings
and the length of every `Store` memory stay as they were. -/
structure Frame (written : Reg → Prop) (slots : Nat) (e e' : Executor)
    (store store' : StoreInner) : Prop where
  ip : e'.ip = e.ip + slots
  registers : ∀ reg, ¬written reg → e'.getRegister reg = e.getRegister reg
  code : e'.code = e.code
  cacheMemory : e'.cacheMemory = e.cacheMemory
  instanceMemories : e'.instanceMemories = e.instanceMemories
  length : ∀ memory, (store'.memories memory).length = (store.memories memory).length

namespace Frame

variable {written written' : Reg → Prop} {slots slots' : Nat} {e e' e'' : Executor}
  {store store' store'' : StoreInner}

theorem refl (written : Reg → Prop) (e : Executor) (store : StoreInner) :
    Frame written 0 e e store store :=
  ⟨rfl, fun _ _ => rfl, rfl, rfl, rfl, fun _ => rfl⟩

theorem trans (h : Frame written slots e e' store store')
    (h' : Frame written slots' e' e'' store' store'') :
    Frame written (slots + slots') e e'' store store'' :=
  ⟨by rw [h'.ip, h.ip, Nat.add_assoc], fun reg hReg => (h'.registers reg hReg).trans
      (h.registers reg hReg), h'.code.trans h.code, h'.cacheMemory.trans h.cacheMemory,
    h'.instanceMemories.trans h.instanceMemories,
    fun memory => (h'.length memory).trans (h.length memory)⟩

/-- A frame that leaves registers alone leaves alone any registers outside a larger set. -/
theorem mono (h : Frame written slots e e' store store') (hWritten : ∀ reg, written reg → written' reg) :
    Frame written' slots e e' store store' :=
  { h with registers := fun reg hReg => h.registers reg (fun hw => hReg (hWritten reg hw)) }

/-- The cache invariant survives every step and run that keeps the frame. -/
theorem cacheCoherent (h : Frame written slots e e' store store') (hCache : e.CacheCoherent) :
    e'.CacheCoherent := by
  rw [CacheCoherent, h.cacheMemory, h.instanceMemories]
  exact hCache

end Frame

/-- A store that writes back bytes of the memory's length and moves on `delta` slots. -/
theorem frame_nextInstrAt_write (e : Executor) {store : StoreInner} {memory : Nat}
    {bytes : List (BitVec 8)} (h : bytes.length = (store.memories memory).length)
    (written : Reg → Prop) (delta : Nat) :
    Frame written delta e (e.nextInstrAt delta) store (store.write memory bytes) := by
  refine ⟨rfl, fun _ _ => rfl, rfl, rfl, rfl, fun other => ?_⟩
  by_cases hOther : other = memory
  · rw [hOther, StoreInner.memories_write_self, h]
  · rw [StoreInner.memories_write_of_ne _ _ hOther]

/-- A handler that writes its result register and moves on `delta` slots. -/
theorem frame_setRegister_nextInstrAt (e : Executor) (store : StoreInner) (result : Reg)
    (value : UntypedVal) (delta : Nat) :
    Frame (· = result) delta e ((e.setRegister result value).nextInstrAt delta) store store :=
  ⟨rfl, fun reg hReg => by simp only [getRegister, sp_nextInstrAt, setRegister,
    Function.update_noteq hReg], rfl, rfl, rfl, fun _ => rfl⟩

end Executor

end Wasmi.Engine
