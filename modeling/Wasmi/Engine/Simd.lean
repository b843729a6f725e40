import Wasmi.Engine.Executor
/-! The SIMD handlers of the executor (`simd.rs`) that take a third operand from a `Register`
parameter slot, `i8x16.shuffle` and `v128.bitselect`, and the generic extract-lane and
shift-by-immediate handlers. The `simd` library operations and the lane-index types are not
among the sources and are modelled from the spec; so is the host byte order, on which
`to_ne_bytes` depends. -/

namespace Wasmi.Engine

open Wasmi.Core

/-- Modelled from the spec: the byte order of the host, `cfg(target_endian)`. -/
inductive Endian where
  | little
  | big
deriving DecidableEq, Repr

/-- Byte lane `i` of a vector: bits `8i .. 8i+7`, the lane numbering of Wasm. -/
def byteLane (x : BitVec w) (i : Nat) : BitVec 8 := x.extractLsb' (8 * i) 8

/-- `u128::to_le_bytes`: entry `i` is byte lane `i`. -/
def toLeBytes (x : BitVec 128) : List (BitVec 8) := (List.range 16).map (byteLane x)

/-- `u128::to_ne_bytes` on a host of byte order `endian`. -/
def toNeBytes (endian : Endian) (x : BitVec 128) : List (BitVec 8) :=
  match endian with
  | .little => toLeBytes x
  | .big => (toLeBytes x).reverse

/-- Modelled from the spec: the vector whose byte lanes are `lanes`, lane 0 lowest. -/
def ofLeBytes : List (BitVec 8) → BitVec 128
  | [] => 0
  | lane :: lanes => lane.setWidth 128 ||| ofLeBytes lanes <<< 8

/-- Modelled from the spec: `ImmLaneIdx32`, a lane index into the 32 byte lanes of two
vectors. -/
abbrev ImmLaneIdx32 := Fin 32

/-- Modelled from the spec: `ImmLaneIdx32::try_from(u8)`; `none` is its `Err`. -/
def ImmLaneIdx32.tryFrom (lane : BitVec 8) : Option ImmLaneIdx32 :=
  if h : lane.toNat < 32 then some ⟨lane.toNat, h⟩ else none

/-- Modelled from the spec: `simd::i8x16_shuffle`; lane `i` of the result is lane
`selector[i]` of the 32 byte lanes of `lhs` followed by those of `rhs`. -/
def i8x16Shuffle (lhs rhs : BitVec 128) (selector : List ImmLaneIdx32) : BitVec 128 :=
  ofLeBytes (selector.map fun index => byteLane (rhs ++ lhs) index.val)

/-- Modelled from the spec: `simd::v128_bitselect`, the bits of `lhs` where `selector` is set
and those of `rhs` elsewhere. -/
def v128Bitselect (lhs rhs selector : BitVec 128) : BitVec 128 :=
  (lhs &&& selector) ||| (rhs &&& ~~~selector)

namespace Executor

/-- `fetch_register`: the `Register` parameter slot after the instruction; `none` is its
`unreachable_unchecked`. -/
def fetchRegister (e : Executor) : Option Reg :=
  match e.fetchAt 1 with
  | some (.register reg) => some reg
  | _ => none

/-- `execute_i8x16_shuffle` on a host of byte order `endian`; `none` is one of its two
`unreachable_unchecked`s. -/
def executeI8x16Shuffle (endian : Endian) (e : Executor) (result lhs rhs : Reg) :
    Option Executor := do
  let selector ← e.fetchRegister
  let lhs := (e.getRegister lhs).toV128
  let rhs := (e.getRegister rhs).toV128
  let selector ← (toNeBytes endian (e.getRegister selector).toV128).mapM ImmLaneIdx32.tryFrom
  pure ((e.setRegister result (.ofV128 (i8x16Shuffle lhs rhs selector))).nextInstrAt 2)

/-- The shuffle handler as the spec requires it: the selector decoded little-endian, bits
`8i .. 8i+7` as lane index `i`, whatever the host's byte order. -/
def executeI8x16ShuffleLe (e : Executor) (result lhs rhs : Reg) : Option Executor := do
  let selector ← e.fetchRegister
  let lhs := (e.getRegister lhs).toV128
  let rhs := (e.getRegister rhs).toV128
  let selector ← (toLeBytes (e.getRegister selector).toV128).mapM ImmLaneIdx32.tryFrom
  pure ((e.setRegister result (.ofV128 (i8x16Shuffle lhs rhs selector))).nextInstrAt 2)

/-- `execute_v128_bitselect`. -/
def executeV128Bitselect (e : Executor) (result lhs rhs : Reg) : Option Executor := do
  let selector ← e.fetchRegister
  let lhs := (e.getRegister lhs).toV128
  let rhs := (e.getRegister rhs).toV128
  let selector := (e.getRegister selector).toV128
  pure ((e.setRegister result (.ofV128 (v128Bitselect lhs rhs selector))).nextInstrAt 2)

/-- `execute_extract_lane`, where `writeAs` is `set_register_as::<T>`. -/
def executeExtractLane (e : Executor) (result input : Reg) (lane : Lane)
    (op : BitVec 128 → Lane → T) (writeAs : T → UntypedVal) : Executor :=
  let input := (e.getRegister input).toV128
  (e.setRegister result (writeAs (op input lane))).nextInstrAt 1

/-- `execute_simd_shift_by`, where `rhs` is the `ShiftAmount<u32>` already converted. -/
def executeSimdShiftBy (e : Executor) (result lhs : Reg) (rhs : BitVec 32)
    (op : BitVec 128 → BitVec 32 → BitVec 128) : Executor :=
  let lhs := (e.getRegister lhs).toV128
  (e.setRegister result (.ofV128 (op lhs rhs))).nextInstrAt 1

theorem fetchRegister_of_slot {e : Executor} {reg : Reg} (hSlot : e.fetchAt 1 = some (.register reg)) :
    e.fetchRegister = some reg := by
  rw [fetchRegister, hSlot]

end Executor

/-- Every byte below 32 is a lane index, and the decoded indices are the bytes' values. -/
theorem mapM_tryFrom (lanes : List (BitVec 8)) (h : ∀ lane ∈ lanes, lane.toNat < 32) :
    ∃ indices, lanes.mapM ImmLaneIdx32.tryFrom = some indices ∧
      indices.map Fin.val = lanes.map BitVec.toNat := by
  induction lanes with
  | nil => exact ⟨[], rfl, rfl⟩
  | cons lane lanes ih =>
      obtain ⟨indices, hMap, hVal⟩ := ih fun l hl => h l (List.mem_cons_of_mem _ hl)
      have hLane := h lane (List.mem_cons_self _ _)
      refine ⟨⟨lane.toNat, hLane⟩ :: indices, ?_, by rw [List.map_cons, List.map_cons, hVal]⟩
      simp only [List.mapM_cons, ImmLaneIdx32.tryFrom, dif_pos hLane, hMap]
      rfl

/-- A byte of 32 or more is not a lane index, and decoding a selector that holds one fails. -/
theorem mapM_tryFrom_eq_none (lanes : List (BitVec 8)) (h : ∃ lane ∈ lanes, 32 ≤ lane.toNat) :
    lanes.mapM ImmLaneIdx32.tryFrom = none := by
  induction lanes with
  | nil => simp at h
  | cons lane lanes ih =>
      rw [List.mapM_cons]
      by_cases hLane : lane.toNat < 32
      · have hRest : ∃ l ∈ lanes, 32 ≤ l.toNat := by
          obtain ⟨l, hl, hBig⟩ := h
          rcases List.mem_cons.mp hl with rfl | hl
          · omega
          · exact ⟨l, hl, hBig⟩
        simp only [ImmLaneIdx32.tryFrom, dif_pos hLane, ih hRest]
        rfl
      · simp only [ImmLaneIdx32.tryFrom, dif_neg hLane]
        rfl

/-- Every byte of `to_ne_bytes` is a byte lane, on either host. -/
theorem mem_toNeBytes {endian : Endian} {x : BitVec 128} {lane : BitVec 8}
    (h : lane ∈ toNeBytes endian x) : ∃ i < 16, byteLane x i = lane := by
  have hLe : lane ∈ toLeBytes x := by
    cases endian
    · exact h
    · exact List.mem_reverse.mp h
  obtain ⟨i, hi, hLane⟩ := List.mem_map.mp hLe
  exact ⟨i, List.mem_range.mp hi, hLane⟩

/-- Every byte lane is a byte of `to_ne_bytes`, on either host. -/
theorem byteLane_mem_toNeBytes (endian : Endian) (x : BitVec 128) {i : Nat} (hi : i < 16) :
    byteLane x i ∈ toNeBytes endian x := by
  have hLe : byteLane x i ∈ toLeBytes x := List.mem_map_of_mem _ (List.mem_range.mpr hi)
  cases endian
  · exact hLe
  · exact List.mem_reverse.mpr hLe

namespace Executor

/-- What the shuffle handler does on any host when the slot after it is a `Register` and every
selector byte is a lane index: it decodes the selector in the host's byte order, shuffles, writes
the result register from the values the operands held before, and moves past its two slots. -/
theorem executeI8x16Shuffle_selector (e : Executor) (result lhs rhs selector : Reg)
    (hSlot : e.fetchAt 1 = some (.register selector))
    (hLanes : ∀ i < 16, (byteLane (e.getRegister selector).toV128 i).toNat < 32)
    (endian : Endian) :
    ∃ indices : List ImmLaneIdx32,
      indices.map Fin.val = (toNeBytes endian (e.getRegister selector).toV128).map BitVec.toNat ∧
      e.executeI8x16Shuffle endian result lhs rhs =
        some ((e.setRegister result (.ofV128 (i8x16Shuffle (e.getRegister lhs).toV128
          (e.getRegister rhs).toV128 indices))).nextInstrAt 2) := by
  obtain ⟨indices, hMap, hVal⟩ := mapM_tryFrom (toNeBytes endian (e.getRegister selector).toV128)
    fun lane hLane => by
      obtain ⟨i, hi, rfl⟩ := mem_toNeBytes hLane
      exact hLanes i hi
  refine ⟨indices, hVal, ?_⟩
  simp only [executeI8x16Shuffle, fetchRegister_of_slot hSlot, Option.bind_eq_bind,
    Option.some_bind, hMap]
  rfl

/-- Without a lane index in every selector byte the shuffle handler is undefined, on any host. -/
theorem executeI8x16Shuffle_eq_none (endian : Endian) (e : Executor) (result lhs rhs selector : Reg)
    (hSlot : e.fetchAt 1 = some (.register selector))
    (hLane : ∃ i < 16, 32 ≤ (byteLane (e.getRegister selector).toV128 i).toNat) :
    e.executeI8x16Shuffle endian result lhs rhs = none := by
  obtain ⟨i, hi, hBig⟩ := hLane
  have hNone := mapM_tryFrom_eq_none (toNeBytes endian (e.getRegister selector).toV128)
    ⟨_, byteLane_mem_toNeBytes endian _ hi, hBig⟩
  simp only [executeI8x16Shuffle, fetchRegister_of_slot hSlot, Option.bind_eq_bind,
    Option.some_bind, hNone]
  rfl

theorem executeI8x16Shuffle_eq_none_allOnes :
    (⟨0, [.other, .register ⟨2⟩], fun _ => .ofV128 (BitVec.allOnes 128), 0, fun _ => 0⟩ :
        Executor).fetchAt 1 = some (.register ⟨2⟩) ∧
      (∃ i < 16, 32 ≤ (byteLane ((⟨0, [.other, .register ⟨2⟩],
        fun _ => .ofV128 (BitVec.allOnes 128), 0, fun _ => 0⟩ : Executor).getRegister ⟨2⟩).toV128
          i).toNat) ∧
      (⟨0, [.other, .register ⟨2⟩], fun _ => .ofV128 (BitVec.allOnes 128), 0, fun _ => 0⟩ :
        Executor).executeI8x16Shuffle .big ⟨3⟩ ⟨0⟩ ⟨1⟩ = none :=
  ⟨rfl, ⟨0, by decide, by decide⟩,
    executeI8x16Shuffle_eq_none .big _ ⟨3⟩ ⟨0⟩ ⟨1⟩ ⟨2⟩ rfl ⟨0, by decide, by decide⟩⟩

variable {e e' : Executor} {result lhs rhs : Reg}

/-- A shuffle that completes writes only its result register and moves past its two slots. -/
theorem executeI8x16Shuffle_frame {endian : Endian} (store : StoreInner)
    (h : e.executeI8x16Shuffle endian result lhs rhs = some e') :
    Frame (· = result) 2 e e' store store := by
  simp only [executeI8x16Shuffle, Option.bind_eq_bind, Option.bind_eq_some, Option.pure_def,
    Option.some.injEq] at h
  obtain ⟨_, -, _, -, rfl⟩ := h
  exact frame_setRegister_nextInstrAt e store result _ 2

/-- A bitselect that completes writes only its result register and moves past its two slots. -/
theorem executeV128Bitselect_frame (store : StoreInner)
    (h : e.executeV128Bitselect result lhs rhs = some e') :
    Frame (· = result) 2 e e' store store := by
  simp only [executeV128Bitselect, Option.bind_eq_bind, Option.bind_eq_some, Option.pure_def,
    Option.some.injEq] at h
  obtain ⟨_, -, rfl⟩ := h
  exact frame_setRegister_nextInstrAt e store result _ 2

end Executor

/-- The spec's shuffle scenario: `lhs = [0..16]` in register 0, `rhs = [16..32]` in register 1,
and in register 2 the selector `[0, 16, 1, 17, …, 7, 23]`, which the `Register` slot after the
instruction names. -/
def shuffleScenario : Executor where
  ip := 0
  code := [.other, .register ⟨2⟩]
  sp reg := .ofV128 (match reg.toI16.toNat with
    | 0 => 0x0f0e0d0c0b0a09080706050403020100
    | 1 => 0x1f1e1d1c1b1a19181716151413121110
    | _ => 0x17071606150514041303120211011000)
  cacheMemory := 0
  instanceMemories _ := 0

theorem executeI8x16Shuffle_selector_scenario :
    shuffleScenario.fetchAt 1 = some (.register ⟨2⟩) ∧
    (∀ i < 16, (byteLane (shuffleScenario.getRegister ⟨2⟩).toV128 i).toNat < 32) ∧
    ∃ indices : List ImmLaneIdx32,
      indices.map Fin.val =
        (toNeBytes .big (shuffleScenario.getRegister ⟨2⟩).toV128).map BitVec.toNat ∧
      shuffleScenario.executeI8x16Shuffle .big ⟨3⟩ ⟨0⟩ ⟨1⟩ =
        some ((shuffleScenario.setRegister ⟨3⟩ (.ofV128 (i8x16Shuffle
          (shuffleScenario.getRegister ⟨0⟩).toV128 (shuffleScenario.getRegister ⟨1⟩).toV128
            indices))).nextInstrAt 2) :=
  ⟨rfl, by decide,
    Executor.executeI8x16Shuffle_selector shuffleScenario ⟨3⟩ ⟨0⟩ ⟨1⟩ ⟨2⟩ rfl (by decide) .big⟩

/-- On a big-endian host the spec's scenario comes out with its lane indices reversed,
`[23, 7, 22, 6, …, 16, 0]`, where the little-endian decoding the spec requires gives the
interleaved pairs `[0, 16, 1, 17, …, 7, 23]`. -/
theorem executeI8x16Shuffle_big_endian_scenario :
    (shuffleScenario.executeI8x16ShuffleLe ⟨3⟩ ⟨0⟩ ⟨1⟩).map
        (fun e => (toLeBytes (e.getRegister ⟨3⟩).toV128).map BitVec.toNat) =
      some [0, 16, 1, 17, 2, 18, 3, 19, 4, 20, 5, 21, 6, 22, 7, 23] ∧
    (shuffleScenario.executeI8x16Shuffle .big ⟨3⟩ ⟨0⟩ ⟨1⟩).map
        (fun e => (toLeBytes (e.getRegister ⟨3⟩).toV128).map BitVec.toNat) =
      some [23, 7, 22, 6, 21, 5, 20, 4, 19, 3, 18, 2, 17, 1, 16, 0] :=
  ⟨rfl, rfl⟩

/-! ### The byte lanes of a vector -/

/-- The byte lane of a `u128` that `to_ne_bytes` puts at index `i` on a host of byte order
`endian`. -/
def neLane (endian : Endian) (i : Nat) : Nat :=
  match endian with
  | .little => i
  | .big => 15 - i

theorem getLsbD_byteLane (x : BitVec w) (i j : Nat) :
    (byteLane x i).getLsbD j = (decide (j < 8) && x.getLsbD (8 * i + j)) :=
  BitVec.getLsbD_extractLsb' _ _ _ _

/-- Bit `k` of the vector built from `lanes` is bit `k % 8` of lane `k / 8`, and `0` past the
lanes given. -/
theorem getLsbD_ofLeBytes (lanes : List (BitVec 8)) {k : Nat} (hk : k < 128) :
    (ofLeBytes lanes).getLsbD k = (lanes[k / 8]?.getD 0).getLsbD (k % 8) := by
  induction lanes generalizing k with
  | nil => simp [ofLeBytes]
  | cons lane lanes ih =>
      rw [ofLeBytes, BitVec.getLsbD_or, BitVec.getLsbD_setWidth, BitVec.getLsbD_shiftLeft]
      by_cases hLow : k < 8
      · simp [hLow, hk, Nat.div_eq_of_lt hLow, Nat.mod_eq_of_lt hLow]
      · have hDiv : k / 8 = (k - 8) / 8 + 1 := by omega
        have hMod : k % 8 = (k - 8) % 8 := by omega
        rw [ih (by omega), hDiv, hMod, BitVec.getLsbD_ge lane k (by omega)]
        simp [hLow, hk]

/-- Lane `i` of the vector built from `lanes` is `lanes[i]`, or `0` past them. -/
theorem byteLane_ofLeBytes (lanes : List (BitVec 8)) {i : Nat} (hi : i < 16) :
    byteLane (ofLeBytes lanes) i = lanes[i]?.getD 0 := by
  apply BitVec.eq_of_getLsbD_eq
  intro j
  have hj := j.isLt
  have hDiv : (8 * i + j.val) / 8 = i := by omega
  have hMod : (8 * i + j.val) % 8 = j.val := by omega
  rw [getLsbD_byteLane, getLsbD_ofLeBytes lanes (by omega), hDiv, hMod]
  simp [hj]

@[simp] theorem length_toLeBytes (x : BitVec 128) : (toLeBytes x).length = 16 := by
  simp [toLeBytes]

theorem getElem?_toLeBytes (x : BitVec 128) {i : Nat} (hi : i < 16) :
    (toLeBytes x)[i]? = some (byteLane x i) := by
  simp [toLeBytes, List.getElem?_range hi]

/-- Entry `i` of `to_ne_bytes` is byte lane `i` on a little-endian host and lane `15 - i` on
a big-endian one. -/
theorem getElem?_toNeBytes (endian : Endian) (x : BitVec 128) {i : Nat} (hi : i < 16) :
    (toNeBytes endian x)[i]? = some (byteLane x (neLane endian i)) := by
  cases endian
  · exact getElem?_toLeBytes x hi
  · rw [toNeBytes, List.getElem?_reverse (by simpa using hi), length_toLeBytes,
      getElem?_toLeBytes x (by omega)]
    rfl

/-- Lane `s` of the 32 lanes of `lhs` followed by `rhs`. -/
theorem byteLane_append (lhs rhs : BitVec 128) {s : Nat} (hs : s < 32) :
    byteLane (rhs ++ lhs) s = if s < 16 then byteLane lhs s else byteLane rhs (s - 16) := by
  apply BitVec.eq_of_getLsbD_eq
  intro j
  have hj := j.isLt
  split
  · rw [getLsbD_byteLane, getLsbD_byteLane, BitVec.getLsbD_append]
    simp [show 8 * s + j.val < 128 by omega]
  · rw [getLsbD_byteLane, getLsbD_byteLane, BitVec.getLsbD_append,
      show 8 * (s - 16) + j.val = 8 * s + j.val - 128 by omega]
    simp [show ¬8 * s + j.val < 128 by omega]

/-- Lane `i` of a shuffle's result is the lane of `lhs` followed by `rhs` that its `i`-th index
names. -/
theorem byteLane_i8x16Shuffle (lhs rhs : BitVec 128) {selector : List ImmLaneIdx32} {i : Nat}
    {index : ImmLaneIdx32} (hi : i < 16) (hIndex : selector[i]? = some index) :
    byteLane (i8x16Shuffle lhs rhs selector) i =
      if index.val < 16 then byteLane lhs index.val else byteLane rhs (index.val - 16) := by
  rw [i8x16Shuffle, byteLane_ofLeBytes _ hi, List.getElem?_map, hIndex, Option.map_some',
    Option.getD_some, byteLane_append lhs rhs index.isLt]

namespace Executor

/-- The shuffle handler computes `i8x16.shuffle` lane by lane, with the selector's byte lanes
taken in the host's order: lane `i` of the result is lane `s` of `lhs` when `s < 16` and lane
`s - 16` of `rhs` otherwise, where `s` is the selector's byte lane `i` on a little-endian host
and its byte lane `15 - i` on a big-endian one. All three operands are read before the result
is written, so this holds when the result register is one of them. -/
theorem executeI8x16Shuffle_lanes (endian : Endian) (e : Executor)
    (result lhs rhs selector : Reg) (hSlot : e.fetchAt 1 = some (.register selector))
    (hLanes : ∀ i < 16, (byteLane (e.getRegister selector).toV128 i).toNat < 32) :
    ∃ e', e.executeI8x16Shuffle endian result lhs rhs = some e' ∧
      e'.ip = e.ip + 2 ∧ (∀ reg ≠ result, e'.getRegister reg = e.getRegister reg) ∧
      ∀ i < 16,
        let s := (byteLane (e.getRegister selector).toV128 (neLane endian i)).toNat
        byteLane (e'.getRegister result).toV128 i =
          if s < 16 then byteLane (e.getRegister lhs).toV128 s
          else byteLane (e.getRegister rhs).toV128 (s - 16) := by
  obtain ⟨indices, hMap, hVal⟩ :=
    mapM_tryFrom (toNeBytes endian (e.getRegister selector).toV128) fun lane hLane => by
      obtain ⟨i, hi, rfl⟩ := mem_toNeBytes hLane
      exact hLanes i hi
  have hFrame := frame_setRegister_nextInstrAt e ⟨fun _ => []⟩ result
    (.ofV128 (i8x16Shuffle (e.getRegister lhs).toV128 (e.getRegister rhs).toV128 indices)) 2
  refine ⟨_, ?_, hFrame.ip, fun reg hReg => hFrame.registers reg hReg, fun i hi => ?_⟩
  · simp only [executeI8x16Shuffle, fetchRegister_of_slot hSlot, Option.bind_eq_bind,
      Option.some_bind, hMap]
    rfl
  · have hEntry := congrArg (·[i]?) hVal
    simp only [List.getElem?_map, getElem?_toNeBytes endian _ hi, Option.map_some'] at hEntry
    obtain ⟨index, hIndex, hValue⟩ := Option.map_eq_some'.mp hEntry
    simp only [getRegister_nextInstrAt, getRegister_setRegister, if_pos, UntypedVal.toV128_ofV128]
    rw [byteLane_i8x16Shuffle _ _ hi hIndex, hValue]

end Executor

theorem executeI8x16Shuffle_lanes_scenario :
    shuffleScenario.fetchAt 1 = some (.register ⟨2⟩) ∧
    (∀ i < 16, (byteLane (shuffleScenario.getRegister ⟨2⟩).toV128 i).toNat < 32) ∧
    ∃ e', shuffleScenario.executeI8x16Shuffle .little ⟨3⟩ ⟨0⟩ ⟨1⟩ = some e' ∧
      e'.ip = shuffleScenario.ip + 2 ∧
      (∀ reg ≠ ⟨3⟩, e'.getRegister reg = shuffleScenario.getRegister reg) ∧
      ∀ i < 16,
        let s := (byteLane (shuffleScenario.getRegister ⟨2⟩).toV128 (neLane .little i)).toNat
        byteLane (e'.getRegister ⟨3⟩).toV128 i =
          if s < 16 then byteLane (shuffleScenario.getRegister ⟨0⟩).toV128 s
          else byteLane (shuffleScenario.getRegister ⟨1⟩).toV128 (s - 16) :=
  ⟨rfl, by decide,
    Executor.executeI8x16Shuffle_lanes .little shuffleScenario ⟨3⟩ ⟨0⟩ ⟨1⟩ ⟨2⟩ rfl
      (by decide)⟩

end Wasmi.Engine
