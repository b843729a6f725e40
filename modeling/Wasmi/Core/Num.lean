import Mathlib
/-! Rust's fixed-width integers as the IR primitives use them. Every `iN` and `uN` is a
`BitVec N`, so an `as` cast between equal widths is the identity; a signed value is read
through `BitVec.toInt`. Only the checked operations and `TryFrom` conversions that the
sources call are modelled, each with the lemma saying exactly when it succeeds. -/

namespace Wasmi.Num

/-- Results of fallible calls compare by value, so that `decide` evaluates them. -/
instance decEqExcept {ε α : Type} [DecidableEq ε] [DecidableEq α] : DecidableEq (Except ε α)
  | .ok a, .ok b => if h : a = b then isTrue (h ▸ rfl) else isFalse (fun e => h (by cases e; rfl))
  | .error a, .error b =>
    if h : a = b then isTrue (h ▸ rfl) else isFalse (fun e => h (by cases e; rfl))
  | .ok _, .error _ => isFalse (fun e => by cases e)
  | .error _, .ok _ => isFalse (fun e => by cases e)

/-- `u64::checked_add`: `None` when the sum overflows. -/
def u64CheckedAdd (x y : BitVec 64) : Option (BitVec 64) :=
  if x.toNat + y.toNat < 2 ^ 64 then some (x + y) else none

/-- `i64::checked_sub`: `None` when the difference leaves the signed range. -/
def i64CheckedSub (x y : BitVec 64) : Option (BitVec 64) :=
  if -2 ^ 63 ≤ x.toInt - y.toInt ∧ x.toInt - y.toInt < 2 ^ 63 then some (x - y) else none

/-- `u32::try_from(u64)`; `None` stands for the `TryFromIntError`. -/
def u32TryFromU64 (x : BitVec 64) : Option (BitVec 32) :=
  if x.toNat < 2 ^ 32 then some (x.setWidth 32) else none

/-- `i32::try_from(i64)`. -/
def i32TryFromI64 (x : BitVec 64) : Option (BitVec 32) :=
  if -2 ^ 31 ≤ x.toInt ∧ x.toInt < 2 ^ 31 then some (x.setWidth 32) else none

/-- `i16::try_from(i32)`. -/
def i16TryFromI32 (x : BitVec 32) : Option (BitVec 16) :=
  if -2 ^ 15 ≤ x.toInt ∧ x.toInt < 2 ^ 15 then some (x.setWidth 16) else none

/-! ### Signed readings of the widths in use -/

theorem toInt_range_16 (x : BitVec 16) : -2 ^ 15 ≤ x.toInt ∧ x.toInt < 2 ^ 15 := by
  have := x.isLt
  rw [BitVec.toInt_eq_toNat_cond]
  split <;> omega

/-- `i32::from(i16)` keeps the signed value. -/
theorem toInt_signExtend_16 (x : BitVec 16) : (x.signExtend 32).toInt = x.toInt := by
  have := x.isLt
  rw [BitVec.signExtend, BitVec.toInt_ofInt, BitVec.toInt_eq_toNat_cond]
  split
  · rw [Int.bmod_pos] <;> omega
  · rw [Int.bmod_neg] <;> omega

/-- `i64::from(u32)` keeps the unsigned value. -/
theorem toInt_setWidth_32_64 (x : BitVec 32) : (x.setWidth 64).toInt = x.toNat := by
  have := x.isLt
  rw [BitVec.toInt_eq_toNat_cond, BitVec.toNat_setWidth]
  split <;> omega

/-! ### When the checked operations succeed -/

/-- The shape of every checked operation: `some` of a result whose value is `value` when the
range check `P` holds. -/
theorem ite_some_iff_toNat {P : Prop} [Decidable P] {y z : BitVec v} {value : Nat}
    (hValue : P → y.toNat = value) :
    (if P then some y else none) = some z ↔ P ∧ z.toNat = value := by
  split
  · rw [Option.some.injEq, BitVec.toNat_eq, hValue ‹_›]
    exact ⟨fun h => ⟨‹_›, h.symm⟩, fun h => h.2.symm⟩
  · exact iff_of_false (fun h => nomatch h) (fun h => ‹¬P› h.1)

theorem ite_some_iff_toInt {P : Prop} [Decidable P] {y z : BitVec v} {value : Int}
    (hValue : P → y.toInt = value) :
    (if P then some y else none) = some z ↔ P ∧ z.toInt = value := by
  split
  · rw [Option.some.injEq, ← BitVec.toInt_inj, hValue ‹_›]
    exact ⟨fun h => ⟨‹_›, h.symm⟩, fun h => h.2.symm⟩
  · exact iff_of_false (fun h => nomatch h) (fun h => ‹¬P› h.1)

theorem u64CheckedAdd_eq_some {x y z : BitVec 64} :
    u64CheckedAdd x y = some z ↔ x.toNat + y.toNat < 2 ^ 64 ∧ z.toNat = x.toNat + y.toNat :=
  ite_some_iff_toNat fun h => by rw [BitVec.toNat_add, Nat.mod_eq_of_lt h]

theorem u64CheckedAdd_eq_none {x y : BitVec 64} :
    u64CheckedAdd x y = none ↔ 2 ^ 64 ≤ x.toNat + y.toNat := by
  unfold u64CheckedAdd
  split <;> simp only [reduceCtorEq, true_iff, false_iff] <;> omega

theorem u32TryFromU64_eq_some {x : BitVec 64} {z : BitVec 32} :
    u32TryFromU64 x = some z ↔ x.toNat < 2 ^ 32 ∧ z.toNat = x.toNat :=
  ite_some_iff_toNat fun h => by rw [BitVec.toNat_setWidth, Nat.mod_eq_of_lt h]

theorem u32TryFromU64_eq_none {x : BitVec 64} : u32TryFromU64 x = none ↔ 2 ^ 32 ≤ x.toNat := by
  unfold u32TryFromU64
  split <;> simp only [reduceCtorEq, true_iff, false_iff] <;> omega

/-- The difference of two zero-extended `u32`s never leaves the `i64` range. -/
theorem i64CheckedSub_setWidth (x y : BitVec 32) :
    ∃ z, i64CheckedSub (x.setWidth 64) (y.setWidth 64) = some z ∧
      z.toInt = (x.toNat : Int) - y.toNat := by
  have hx := x.isLt
  have hy := y.isLt
  have hRange : -2 ^ 63 ≤ (x.toNat : Int) - y.toNat ∧ (x.toNat : Int) - y.toNat < 2 ^ 63 := by
    omega
  refine ⟨_, by rw [i64CheckedSub, if_pos (by simpa only [toInt_setWidth_32_64] using hRange)], ?_⟩
  rw [BitVec.toInt_eq_toNat_cond, BitVec.toNat_sub, BitVec.toNat_setWidth, BitVec.toNat_setWidth]
  split <;> omega

theorem i32TryFromI64_eq_some {x : BitVec 64} {z : BitVec 32} :
    i32TryFromI64 x = some z ↔ (-2 ^ 31 ≤ x.toInt ∧ x.toInt < 2 ^ 31) ∧ z.toInt = x.toInt := by
  have hx := x.isLt
  refine ite_some_iff_toInt fun hRange => ?_
  rw [BitVec.toInt_eq_toNat_cond, BitVec.toInt_eq_toNat_cond x] at *
  rw [BitVec.toNat_setWidth]
  split at hRange <;> split <;> omega

theorem i16TryFromI32_eq_some {x : BitVec 32} {z : BitVec 16} :
    i16TryFromI32 x = some z ↔ (-2 ^ 15 ≤ x.toInt ∧ x.toInt < 2 ^ 15) ∧ z.toInt = x.toInt := by
  have hx := x.isLt
  refine ite_some_iff_toInt fun hRange => ?_
  rw [BitVec.toInt_eq_toNat_cond, BitVec.toInt_eq_toNat_cond x] at *
  rw [BitVec.toNat_setWidth]
  split at hRange <;> split <;> omega

theorem i16TryFromI32_eq_none {x : BitVec 32} :
    i16TryFromI32 x = none ↔ ¬(-2 ^ 15 ≤ x.toInt ∧ x.toInt < 2 ^ 15) := by
  unfold i16TryFromI32
  split <;> simp only [reduceCtorEq, true_iff, false_iff, Classical.not_not] <;> assumption

theorem i32TryFromI64_eq_none {x : BitVec 64} :
    i32TryFromI64 x = none ↔ ¬(-2 ^ 31 ≤ x.toInt ∧ x.toInt < 2 ^ 31) := by
  unfold i32TryFromI64
  split <;> simp only [reduceCtorEq, true_iff, false_iff, Classical.not_not] <;> assumption

end Wasmi.Num
