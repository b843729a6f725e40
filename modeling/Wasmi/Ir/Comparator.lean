import Wasmi.Core.Memory
import Wasmi.Ir.BranchOffset
/-! Conditional-branch comparators and `ComparatorAndOffset`, the parameter of
`BranchCmpFallback` that the translator places in the constant pool when a fused
compare-and-branch offset does not fit in 16 bits (`primitive.rs`). The pair is packed into
one `u64`: the comparator in the high half, the offset in the low half. -/

namespace Wasmi.Ir

open Wasmi.Core

/-- `Comparator`, as `for_each_comparator!(define_comparator)` declares it; `#[repr(u32)]`
numbers the variants from 0 in this order. -/
inductive Comparator where
  | i32Eq | i32Ne | i32LtS | i32LtU | i32LeS | i32LeU | i32GtS | i32GtU | i32GeS | i32GeU
  | i32And | i32Or | i32Xor | i32AndEqz | i32OrEqz | i32XorEqz
  | i64Eq | i64Ne | i64LtS | i64LtU | i64LeS | i64LeU | i64GtS | i64GtU | i64GeS | i64GeU
  | f32Eq | f32Ne | f32Lt | f32Le | f32Gt | f32Ge
  | f64Eq | f64Ne | f64Lt | f64Le | f64Gt | f64Ge
deriving DecidableEq, Repr

namespace Comparator

/-- The variants in the order `for_each_comparator!` lists them. -/
def all : List Comparator :=
  [.i32Eq, .i32Ne, .i32LtS, .i32LtU, .i32LeS, .i32LeU, .i32GtS, .i32GtU, .i32GeS, .i32GeU,
   .i32And, .i32Or, .i32Xor, .i32AndEqz, .i32OrEqz, .i32XorEqz,
   .i64Eq, .i64Ne, .i64LtS, .i64LtU, .i64LeS, .i64LeU, .i64GtS, .i64GtU, .i64GeS, .i64GeU,
   .f32Eq, .f32Ne, .f32Lt, .f32Le, .f32Gt, .f32Ge,
   .f64Eq, .f64Ne, .f64Lt, .f64Le, .f64Gt, .f64Ge]

/-- `From<Comparator> for u32`: `cmp as u32`, the variant's discriminant. -/
def toU32 (cmp : Comparator) : BitVec 32 := BitVec.ofNat 32 cmp.toCtorIdx

/-- `TryFrom<u32> for Comparator`: the match arms `x if x == Self::$name as u32`, tried in
order, and `ComparatorOutOfBounds` when none applies. -/
def tryFrom (value : BitVec 32) : Except Error Comparator :=
  match all.find? (fun cmp => value == cmp.toU32) with
  | some cmp => .ok cmp
  | none => .error .comparatorOutOfBounds

theorem mem_all (cmp : Comparator) : cmp ∈ all := by
  cases cmp <;> decide

theorem toCtorIdx_lt (cmp : Comparator) : cmp.toCtorIdx < 38 := by
  cases cmp <;> decide

theorem toNat_toU32 (cmp : Comparator) : cmp.toU32.toNat = cmp.toCtorIdx := by
  rw [toU32, BitVec.toNat_ofNat, Nat.mod_eq_of_lt (by have := cmp.toCtorIdx_lt; omega)]

theorem toU32_injective {a b : Comparator} (h : a.toU32 = b.toU32) : a = b := by
  have hIdx : a.toCtorIdx = b.toCtorIdx := by
    rw [← toNat_toU32, ← toNat_toU32, h]
  rw [← ofNat_toCtorIdx a, hIdx, ofNat_toCtorIdx]

theorem toCtorIdx_ofNat : ∀ n : Fin 38, (Comparator.ofNat n).toCtorIdx = n := by
  decide

/-- The match of `try_from` picks the variant with that discriminant, and only that one. -/
theorem tryFrom_eq_ok {value : BitVec 32} {cmp : Comparator} :
    tryFrom value = .ok cmp ↔ cmp.toU32 = value := by
  unfold tryFrom
  split
  · rename_i found hFind
    have hEq : value = found.toU32 := by simpa using List.find?_some hFind
    rw [Except.ok.injEq]
    exact ⟨fun h => h ▸ hEq.symm, fun h => toU32_injective (hEq.symm.trans h.symm)⟩
  · rename_i hFind
    simp only [reduceCtorEq, false_iff]
    intro h
    have := List.find?_eq_none.mp hFind cmp (mem_all cmp)
    simp [h] at this

/-- `try_from` accepts exactly the values below the number of variants. -/
theorem exists_tryFrom_eq_ok {value : BitVec 32} :
    (∃ cmp, tryFrom value = .ok cmp) ↔ value.toNat < 38 := by
  constructor
  · rintro ⟨cmp, h⟩
    rw [← tryFrom_eq_ok.mp h, toNat_toU32]
    exact cmp.toCtorIdx_lt
  · intro h
    exact ⟨_, tryFrom_eq_ok.mpr (BitVec.eq_of_toNat_eq (by
      rw [toNat_toU32, toCtorIdx_ofNat ⟨value.toNat, h⟩]))⟩

/-- The `u32` encoding of the comparators round-trips: `try_from` inverts `u32::from` on every
variant, decodes every value it accepts to the variant that encodes it, and accepts exactly the
values below the number of variants. -/
theorem tryFrom_toU32_roundTrip :
    (∀ cmp, tryFrom cmp.toU32 = .ok cmp) ∧
    (∀ value cmp, tryFrom value = .ok cmp → cmp.toU32 = value) ∧
    (∀ value : BitVec 32, (∃ cmp, tryFrom value = .ok cmp) ↔ value.toNat < 38) :=
  ⟨fun _ => tryFrom_eq_ok.mpr rfl, fun _ _ => tryFrom_eq_ok.mp, fun _ => exists_tryFrom_eq_ok⟩

end Comparator

/-- `ComparatorAndOffset`: the comparator and the 32-bit offset of a conditional branch. -/
structure ComparatorAndOffset where
  cmp : Comparator
  offset : BranchOffset
deriving DecidableEq, Repr

namespace ComparatorAndOffset

/-- `ComparatorAndOffset::new`. -/
def new (cmp : Comparator) (offset : BranchOffset) : ComparatorAndOffset := ⟨cmp, offset⟩

/-- `ComparatorAndOffset::from_u64`; `lo as i32` keeps the bits of the low half. -/
def fromU64 (value : BitVec 64) : Option ComparatorAndOffset :=
  let hi := (value >>> 32).setWidth 32
  let lo := (value &&& 0xFFFFFFFF).setWidth 32
  match Comparator.tryFrom hi with
  | .error _ => none
  | .ok cmp => some { cmp, offset := ⟨lo⟩ }

/-- `ComparatorAndOffset::from_untyped`. -/
def fromUntyped (value : UntypedVal) : Option ComparatorAndOffset := fromU64 value.toU64

/-- `ComparatorAndOffset::as_u64` as written: `hi << 32 & lo`, where `to_i32() as u64`
sign-extends the offset. -/
def asU64 (self : ComparatorAndOffset) : BitVec 64 :=
  let hi := self.cmp.toU32.setWidth 64
  let lo := self.offset.toI32.signExtend 64
  hi <<< 32 &&& lo

/-- `From<ComparatorAndOffset> for UntypedVal`. -/
def toUntyped (params : ComparatorAndOffset) : UntypedVal := UntypedVal.ofBits params.asU64

theorem toNat_hi (value : BitVec 64) : ((value >>> 32).setWidth 32).toNat = value.toNat / 2 ^ 32 := by
  have := value.isLt
  rw [BitVec.toNat_setWidth, BitVec.toNat_ushiftRight, Nat.shiftRight_eq_div_pow,
    Nat.mod_eq_of_lt (by omega)]

theorem toNat_lo (value : BitVec 64) :
    ((value &&& 0xFFFFFFFF).setWidth 32).toNat = value.toNat % 2 ^ 32 := by
  rw [BitVec.toNat_setWidth, BitVec.toNat_and]
  have hMask : (0xFFFFFFFF : BitVec 64).toNat = 2 ^ 32 - 1 := rfl
  rw [hMask, Nat.and_pow_two_sub_one_eq_mod, Nat.mod_mod]

/-- What `from_u64` decodes: the high half as the comparator's discriminant and the low half
as the offset's bits. -/
theorem fromU64_eq_some {value : BitVec 64} {x : ComparatorAndOffset} :
    fromU64 value = some x ↔
      x.cmp.toU32.toNat = value.toNat / 2 ^ 32 ∧ x.offset.toI32.toNat = value.toNat % 2 ^ 32 := by
  dsimp only [fromU64]
  split
  · rename_i e hErr
    simp only [reduceCtorEq, false_iff, not_and]
    intro hCmp
    rw [← toNat_hi, ← BitVec.toNat_eq] at hCmp
    rw [Comparator.tryFrom_eq_ok.mpr hCmp] at hErr
    cases hErr
  · rename_i cmp hOk
    rw [← toNat_hi, ← toNat_lo, ← BitVec.toNat_eq, ← BitVec.toNat_eq,
      ← Comparator.tryFrom_eq_ok, hOk, Except.ok.injEq, Option.some.injEq]
    obtain ⟨xCmp, ⟨xOffset⟩⟩ := x
    simp only [mk.injEq, BranchOffset.mk.injEq]
    exact ⟨fun h => ⟨h.1, h.2.symm⟩, fun h => ⟨h.1, h.2.symm⟩⟩

/-- `from_u64` accepts exactly the words whose high half is a comparator's discriminant. -/
theorem exists_fromU64_eq_some {value : BitVec 64} :
    (∃ x, fromU64 value = some x) ↔ (value >>> 32).toNat < 38 := by
  rw [BitVec.toNat_ushiftRight, Nat.shiftRight_eq_div_pow]
  constructor
  · rintro ⟨x, h⟩
    rw [← (fromU64_eq_some.mp h).1, Comparator.toNat_toU32]
    exact x.cmp.toCtorIdx_lt
  · intro h
    rw [← toNat_hi] at h
    obtain ⟨cmp, hCmp⟩ := Comparator.exists_tryFrom_eq_ok.mpr h
    exact ⟨_, by dsimp only [fromU64]; rw [hCmp]⟩

/-- The `&` keeps only the comparator's half, and only when the sign extension of a negative
offset has filled the high half with ones. -/
theorem asU64_eq (x : ComparatorAndOffset) :
    x.asU64 = if x.offset.toI32.msb then x.cmp.toU32.setWidth 64 <<< 32 else 0 := by
  apply BitVec.eq_of_getLsbD_eq
  intro i
  have hi := i.isLt
  rw [asU64, BitVec.getLsbD_and, BitVec.getLsbD_shiftLeft, BitVec.getLsbD_signExtend]
  cases hMsb : x.offset.toI32.msb <;> by_cases hLow : i.val < 32 <;>
    simp [hLow, hMsb, hi, BitVec.getLsbD_shiftLeft]

theorem msb_iff_toInt_neg (o : BitVec 32) : o.msb = true ↔ o.toInt < 0 := by
  rw [BitVec.msb_eq_decide, BitVec.toInt_neg_iff, decide_eq_true_iff]
  omega

theorem toNat_shiftLeft_toU32 (cmp : Comparator) :
    (cmp.toU32.setWidth 64 <<< 32).toNat = cmp.toU32.toNat * 2 ^ 32 := by
  have := cmp.toU32.isLt
  rw [BitVec.toNat_shiftLeft, BitVec.toNat_setWidth, Nat.shiftLeft_eq,
    Nat.mod_eq_of_lt (by omega : cmp.toU32.toNat < 2 ^ 64), Nat.mod_eq_of_lt (by omega)]

end ComparatorAndOffset

/-- The code's packing loses every offset: unpacking a packed pair gives back its comparator
when the offset is negative and `I32Eq` otherwise, always with the placeholder offset 0, on the
`u64` path and on the constant-pool path alike. -/
theorem fromU64_asU64 (cmp : Comparator) (offset : BranchOffset) :
    ComparatorAndOffset.fromU64 (ComparatorAndOffset.new cmp offset).asU64 =
      some (.new (if offset.toI32.toInt < 0 then cmp else .i32Eq) .uninit) ∧
    ComparatorAndOffset.fromUntyped (ComparatorAndOffset.new cmp offset).toUntyped =
      some (.new (if offset.toI32.toInt < 0 then cmp else .i32Eq) .uninit) := by
  have hPath : ComparatorAndOffset.fromUntyped (ComparatorAndOffset.new cmp offset).toUntyped =
      ComparatorAndOffset.fromU64 (ComparatorAndOffset.new cmp offset).asU64 := by
    simp only [ComparatorAndOffset.fromUntyped, ComparatorAndOffset.toUntyped,
      UntypedVal.toU64_ofBits, BitVec.setWidth_eq]
  rw [hPath, and_self, ComparatorAndOffset.asU64_eq]
  simp only [ComparatorAndOffset.new]
  by_cases hNeg : offset.toI32.toInt < 0
  · have := cmp.toU32.isLt
    rw [if_pos ((ComparatorAndOffset.msb_iff_toInt_neg _).mpr hNeg), if_pos hNeg,
      ComparatorAndOffset.fromU64_eq_some, ComparatorAndOffset.toNat_shiftLeft_toU32]
    exact ⟨(Nat.mul_div_cancel _ (by decide)).symm, (Nat.mul_mod_left _ _).symm⟩
  · rw [if_neg (mt (ComparatorAndOffset.msb_iff_toInt_neg _).mp hNeg), if_neg hNeg]
    rfl

/-- The range check of `from_u64` accepts exactly the words whose high half is a comparator's
discriminant, but re-encoding a decoded word with the code's `as_u64` gives the word back only
when it is 0. -/
theorem fromU64_asU64_roundTrip (value : BitVec 64) :
    ((∃ x, ComparatorAndOffset.fromU64 value = some x) ↔ (value >>> 32).toNat < 38) ∧
    (∀ x, ComparatorAndOffset.fromU64 value = some x → (x.asU64 = value ↔ value = 0)) := by
  refine ⟨ComparatorAndOffset.exists_fromU64_eq_some, fun x hx => ?_⟩
  obtain ⟨hCmp, hOffset⟩ := ComparatorAndOffset.fromU64_eq_some.mp hx
  rw [ComparatorAndOffset.asU64_eq]
  split
  · rename_i hMsb
    rw [BitVec.msb_eq_decide, decide_eq_true_iff, hOffset] at hMsb
    refine iff_of_false (fun h => ?_) (fun h => ?_)
    · have hNat := congrArg BitVec.toNat h
      rw [ComparatorAndOffset.toNat_shiftLeft_toU32, hCmp] at hNat
      omega
    · subst h
      exact absurd hMsb (by decide)
  · exact eq_comm

theorem fromU64_asU64_roundTrip_one :
    ComparatorAndOffset.fromU64 1 = some ⟨.i32Eq, ⟨1⟩⟩ ∧
      ((⟨.i32Eq, ⟨1⟩⟩ : ComparatorAndOffset).asU64 = 1 ↔ (1 : BitVec 64) = 0) :=
  ⟨by decide, (fromU64_asU64_roundTrip 1).2 _ (by decide)⟩

end Wasmi.Ir
