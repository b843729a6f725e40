import Wasmi.Engine.Store
import Wasmi.Engine.Simd
/-! Runs of the modelled handlers. The dispatch loop, which decodes each instruction and calls
its handler, is not among the sources: a run here is any sequence of store and SIMD handler
calls, stopped by the first trap or undefined step, so what holds of every run holds of the
runs the loop makes. The handlers never move the cached memory or rebind the instance's
memories, so the cache invariant holds at every step of a run. -/

namespace Wasmi.Engine

open Wasmi.Core

/-- One handler call of a run. The lane of an extract-lane call is its index, and its `op`
includes the conversion `set_register_as` makes. -/
inductive Call where
  | store (op : StoreOpcode) (form : StoreForm op.family)
  | i8x16Shuffle (result lhs rhs : Reg)
  | v128Bitselect (result lhs rhs : Reg)
  | extractLane (result input : Reg) (lane : Nat) (op : BitVec 128 → Nat → UntypedVal)
  | simdShiftBy (result lhs : Reg) (rhs : BitVec 32) (op : BitVec 128 → BitVec 32 → BitVec 128)

namespace Call

/-- The call's handler, on a host of byte order `endian`. -/
def execute (endian : Endian) (call : Call) (e : Executor) (store : StoreInner) : Handled :=
  match call with
  | .store _ form => form.execute e store
  | .i8x16Shuffle result lhs rhs =>
    (e.executeI8x16Shuffle endian result lhs rhs).map fun e' => .ok (e', store)
  | .v128Bitselect result lhs rhs =>
    (e.executeV128Bitselect result lhs rhs).map fun e' => .ok (e', store)
  | .extractLane result input lane op =>
    some (.ok (e.executeExtractLane result input lane op id, store))
  | .simdShiftBy result lhs rhs op => some (.ok (e.executeSimdShiftBy result lhs rhs op, store))

/-- The register the call writes, if any. -/
def result : Call → Option Reg
  | .store .. => none
  | .i8x16Shuffle result .. | .v128Bitselect result .. | .extractLane result ..
  | .simdShiftBy result .. => some result

/-- The number of instruction slots of the call's instruction. -/
def slots : Call → Nat
  | .store _ form => form.slots
  | .i8x16Shuffle .. | .v128Bitselect .. => 2
  | .extractLane .. | .simdShiftBy .. => 1

open Executor in
/-- A call that completes, from any state, keeps the frame with its own result register. -/
theorem frame_of_execute {endian : Endian} {call : Call} {e e' : Executor}
    {store store' : StoreInner} {written : Reg → Prop}
    (hWritten : ∀ reg, call.result = some reg → written reg)
    (h : call.execute endian e store = some (.ok (e', store'))) :
    Frame written call.slots e e' store store' := by
  cases call with
  | store op form => exact StoreForm.frame_of_execute written h
  | i8x16Shuffle result lhs rhs =>
      obtain ⟨e'', hShuffle, hOk⟩ := Option.map_eq_some'.mp h
      cases hOk
      exact (executeI8x16Shuffle_frame store hShuffle).mono fun reg hReg =>
        hWritten reg (congrArg some hReg.symm)
  | v128Bitselect result lhs rhs =>
      obtain ⟨e'', hSelect, hOk⟩ := Option.map_eq_some'.mp h
      cases hOk
      exact (executeV128Bitselect_frame store hSelect).mono fun reg hReg =>
        hWritten reg (congrArg some hReg.symm)
  | extractLane result input lane op =>
      cases h
      exact (frame_setRegister_nextInstrAt e store result _ 1).mono fun reg hReg =>
        hWritten reg (congrArg some hReg.symm)
  | simdShiftBy result lhs rhs op =>
      cases h
      exact (frame_setRegister_nextInstrAt e store result _ 1).mono fun reg hReg =>
        hWritten reg (congrArg some hReg.symm)

end Call

/-- The calls one after another, on a host of byte order `endian`, stopping at the first trap
or undefined step. -/
def run (endian : Endian) : List Call → Executor → StoreInner → Handled
  | [], e, store => some (.ok (e, store))
  | call :: calls, e, store =>
    match call.execute endian e store with
    | some (.ok (e', store')) => run endian calls e' store'
    | outcome => outcome

/-- A run that completes keeps the frame: it moves past exactly the slots of its calls and
writes no register but the results of its SIMD calls. -/
theorem run_frame (endian : Endian) (calls : List Call) {e e' : Executor}
    {store store' : StoreInner} (h : run endian calls e store = some (.ok (e', store'))) :
    Executor.Frame (fun reg => ∃ call ∈ calls, call.result = some reg) (calls.map Call.slots).sum
      e e' store store' := by
  induction calls generalizing e store with
  | nil =>
      cases h
      exact Executor.Frame.refl _ _ _
  | cons call calls ih =>
      unfold run at h
      split at h
      · rename_i e₁ store₁ hStep
        have hFirst : Executor.Frame (fun reg => ∃ c ∈ call :: calls, c.result = some reg)
            call.slots e e₁ store store₁ :=
          Call.frame_of_execute (fun reg hReg => ⟨call, List.mem_cons_self _ _, hReg⟩) hStep
        rw [List.map_cons, List.sum_cons]
        exact hFirst.trans ((ih h).mono fun reg ⟨c, hc, hReg⟩ =>
          ⟨c, List.mem_cons_of_mem _ hc, hReg⟩)
      · rename_i hNotOk
        exact absurd h (hNotOk e' store')

/-- A run that completes completed each of its prefixes, and the rest of it from there. -/
theorem run_prefix {endian : Endian} {pre post : List Call} {e e' : Executor}
    {store store' : StoreInner} (h : run endian (pre ++ post) e store = some (.ok (e', store'))) :
    ∃ e₁ store₁, run endian pre e store = some (.ok (e₁, store₁)) ∧
      run endian post e₁ store₁ = some (.ok (e', store')) := by
  induction pre generalizing e store with
  | nil => exact ⟨e, store, rfl, h⟩
  | cons call pre ih =>
      rw [List.cons_append] at h
      unfold run at h
      split at h
      · rename_i e₁ store₁ hStep
        obtain ⟨e₂, store₂, hPre, hPost⟩ := ih h
        exact ⟨e₂, store₂, by simp only [run, hStep, hPre], hPost⟩
      · rename_i hNotOk
        exact absurd h (hNotOk e' store')

/-- Every run of store and SIMD handlers that completes, from any state: it moves past exactly
the slots of its calls, a register that no SIMD call of the run names as its result keeps its
value, the code and the memory bindings stay, and no memory changes its length. From a state
whose cached memory is the instance's memory 0, every state the run passes through is one too,
so at every step the cached fast path reaches the memory the slow path through the `Store`
does. -/
theorem run_invariants (endian : Endian) (calls : List Call) {e e' : Executor}
    {store store' : StoreInner} (h : run endian calls e store = some (.ok (e', store'))) :
    e'.ip = e.ip + (calls.map Call.slots).sum ∧
    (∀ reg, (∀ call ∈ calls, call.result ≠ some reg) → e'.getRegister reg = e.getRegister reg) ∧
    e'.code = e.code ∧ e'.instanceMemories = e.instanceMemories ∧
    (∀ memory, (store'.memories memory).length = (store.memories memory).length) ∧
    (e.CacheCoherent → ∀ pre post, calls = pre ++ post →
      ∃ e₁ store₁, run endian pre e store = some (.ok (e₁, store₁)) ∧
        ∀ memory, e₁.fetchMemoryBytesMut memory = e₁.instanceMemories memory) := by
  have hFrame := run_frame endian calls h
  refine ⟨hFrame.ip, fun reg hReg => hFrame.registers reg fun ⟨call, hCall, hResult⟩ =>
    hReg call hCall hResult, hFrame.code, hFrame.instanceMemories, hFrame.length, ?_⟩
  rintro hCache pre post rfl
  obtain ⟨e₁, store₁, hPre, -⟩ := run_prefix h
  exact ⟨e₁, store₁, hPre,
    e₁.fetchMemoryBytesMut_eq ((run_frame endian pre hPre).cacheCoherent hCache)⟩

/-- A run of a general-form `i32.store` followed by a bitselect on the store scenario: the
store moves past its two slots to the bitselect, whose `Register` slot comes next. -/
theorem run_invariants_store_bitselect :
    ∃ e' store', run .little [.store .i32Store (.store ⟨0⟩ ⟨4⟩), .v128Bitselect ⟨3⟩ ⟨0⟩ ⟨1⟩]
        storeScenario ⟨fun _ => List.replicate 16 0⟩ = some (.ok (e', store')) ∧
      e'.ip = storeScenario.ip + 4 ∧
      e'.getRegister ⟨1⟩ = storeScenario.getRegister ⟨1⟩ ∧
      (∀ memory, (store'.memories memory).length = 16) ∧
      ∃ e₁ store₁, run .little [.store .i32Store (.store ⟨0⟩ ⟨4⟩)] storeScenario
          ⟨fun _ => List.replicate 16 0⟩ = some (.ok (e₁, store₁)) ∧
        ∀ memory, e₁.fetchMemoryBytesMut memory = e₁.instanceMemories memory := by
  obtain ⟨e', store', h⟩ : ∃ e' store', run .little
      [.store .i32Store (.store ⟨0⟩ ⟨4⟩), .v128Bitselect ⟨3⟩ ⟨0⟩ ⟨1⟩] storeScenario
      ⟨fun _ => List.replicate 16 0⟩ = some (.ok (e', store')) := ⟨_, _, rfl⟩
  have hRun := run_invariants .little _ h
  exact ⟨e', store', h, hRun.1, hRun.2.1 ⟨1⟩ (by decide), hRun.2.2.2.2.1,
    hRun.2.2.2.2.2 rfl [.store .i32Store (.store ⟨0⟩ ⟨4⟩)] [.v128Bitselect ⟨3⟩ ⟨0⟩ ⟨1⟩] rfl⟩

end Wasmi.Engine
