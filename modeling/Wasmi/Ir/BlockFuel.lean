import Wasmi.Ir.BranchOffset
/-! The fuel a block charges when its `ConsumeFuel` instruction runs (`primitive.rs`). The
translator bumps it once for each instruction of the block; a bump that would leave the
`u32` range fails and changes nothing, so the counter never wraps. -/

namespace Wasmi.Ir

open Wasmi.Num

/-- `BlockFuel`, a `u32` counter. -/
structure BlockFuel where
  value : BitVec 32
deriving DecidableEq, Repr

namespace BlockFuel

/-- `TryFrom<u64> for BlockFuel`. -/
def tryFrom (index : BitVec 64) : Except Error BlockFuel :=
  match u32TryFromU64 index with
  | some index => .ok ⟨index⟩
  | none => .error .blockFuelOutOfBounds

/-- `BlockFuel::to_u64`. -/
def toU64 (self : BlockFuel) : BitVec 64 := self.value.setWidth 64

/-- `BlockFuel::bump_by`: the result, and the fuel as the call leaves it. -/
def bumpBy (self : BlockFuel) (amount : BitVec 64) : Except Error Unit × BlockFuel :=
  match u64CheckedAdd self.toU64 amount with
  | none => (.error .blockFuelOutOfBounds, self)
  | some newAmount =>
    match u32TryFromU64 newAmount with
    | none => (.error .blockFuelOutOfBounds, self)
    | some value => (.ok (), ⟨value⟩)

/-- `bump_by` called with each amount in turn: every call's result, and the final fuel. -/
def bumpAll (self : BlockFuel) : List (BitVec 64) → List (Except Error Unit) × BlockFuel
  | [] => ([], self)
  | amount :: rest =>
    let (results, fuel) := (self.bumpBy amount).2.bumpAll rest
    ((self.bumpBy amount).1 :: results, fuel)

/-- The sum of the amounts whose call returned `Ok`. -/
def acceptedSum (amounts : List (BitVec 64)) (results : List (Except Error Unit)) : Nat :=
  (((amounts.zip results).filter (fun call => call.2.isOk)).map (fun call => call.1.toNat)).sum

theorem toNat_toU64 (f : BlockFuel) : f.toU64.toNat = f.value.toNat := by
  rw [toU64, BitVec.toNat_setWidth, Nat.mod_eq_of_lt (by have := f.value.isLt; omega)]

theorem toU64_lt (f : BlockFuel) : f.toU64.toNat < 2 ^ 32 :=
  f.toNat_toU64 ▸ f.value.isLt

theorem bumpAll_cons (f : BlockFuel) (amount : BitVec 64) (rest : List (BitVec 64)) :
    f.bumpAll (amount :: rest) =
      ((f.bumpBy amount).1 :: ((f.bumpBy amount).2.bumpAll rest).1,
        ((f.bumpBy amount).2.bumpAll rest).2) := rfl

theorem acceptedSum_cons_ok (amount : BitVec 64) (rest : List (BitVec 64))
    (results : List (Except Error Unit)) :
    acceptedSum (amount :: rest) (.ok () :: results) = amount.toNat + acceptedSum rest results :=
  rfl

theorem acceptedSum_cons_error (amount : BitVec 64) (rest : List (BitVec 64)) (e : Error)
    (results : List (Except Error Unit)) :
    acceptedSum (amount :: rest) (.error e :: results) = acceptedSum rest results :=
  rfl

/-- One bump: it succeeds exactly when the unbounded sum stays within `u32::MAX`, and then
adds the amount; otherwise it fails and keeps the fuel, whichever check failed. -/
theorem bumpBy_spec (f : BlockFuel) (amount : BitVec 64) :
    ((f.bumpBy amount).1 = .ok () ↔ f.toU64.toNat + amount.toNat ≤ 2 ^ 32 - 1) ∧
    (f.toU64.toNat + amount.toNat ≤ 2 ^ 32 - 1 →
      (f.bumpBy amount).2.toU64.toNat = f.toU64.toNat + amount.toNat) ∧
    (¬f.toU64.toNat + amount.toNat ≤ 2 ^ 32 - 1 →
      f.bumpBy amount = (.error .blockFuelOutOfBounds, f)) := by
  have hf := f.toU64_lt
  unfold bumpBy
  split
  · have := u64CheckedAdd_eq_none.mp ‹_›
    exact ⟨iff_of_false (by simp) (by omega), by omega, fun _ => rfl⟩
  · rename_i sum hAdd
    obtain ⟨-, hSum⟩ := u64CheckedAdd_eq_some.mp hAdd
    split
    · have := u32TryFromU64_eq_none.mp ‹_›
      exact ⟨iff_of_false (by simp) (by omega), by omega, fun _ => rfl⟩
    · rename_i value hTry
      obtain ⟨-, hValue⟩ := u32TryFromU64_eq_some.mp hTry
      exact ⟨iff_of_true rfl (by omega), fun _ => by rw [toNat_toU64, hValue, hSum], by omega⟩

/-- A whole run of bumps: the final fuel is the initial fuel plus the accepted amounts, with
no wrap-around. -/
theorem bumpAll_toU64 (f : BlockFuel) (amounts : List (BitVec 64)) :
    (f.bumpAll amounts).2.toU64.toNat =
      f.toU64.toNat + acceptedSum amounts (f.bumpAll amounts).1 := by
  induction amounts generalizing f with
  | nil => rfl
  | cons amount rest ih =>
      obtain ⟨hOk, hAdd, hFail⟩ := f.bumpBy_spec amount
      rw [bumpAll_cons]
      by_cases hFits : f.toU64.toNat + amount.toNat ≤ 2 ^ 32 - 1
      · rw [hOk.mpr hFits, acceptedSum_cons_ok, ih, hAdd hFits]
        omega
      · rw [hFail hFits, acceptedSum_cons_error]
        exact ih f

/-- A whole run of bumps against the per-call rule alone: the final fuel is the fold, over the
amounts in order, of "add the amount when the unbounded sum stays within `u32::MAX`". -/
theorem bumpAll_toU64_eq_foldl (f : BlockFuel) (amounts : List (BitVec 64)) :
    (f.bumpAll amounts).2.toU64.toNat =
      amounts.foldl (fun fuel amount =>
        if fuel + amount.toNat ≤ 2 ^ 32 - 1 then fuel + amount.toNat else fuel) f.toU64.toNat := by
  induction amounts generalizing f with
  | nil => rfl
  | cons amount rest ih =>
      obtain ⟨-, hAdd, hFail⟩ := f.bumpBy_spec amount
      rw [bumpAll_cons, List.foldl_cons, ih]
      by_cases hFits : f.toU64.toNat + amount.toNat ≤ 2 ^ 32 - 1
      · rw [if_pos hFits, hAdd hFits]
      · rw [if_neg hFits, hFail hFits]

end BlockFuel

/-- Block fuel only grows, by exactly the amounts it accepts, and never wraps: each
`bump_by` succeeds exactly when the unbounded sum is within `u32::MAX` and otherwise
leaves the fuel alone, so a run ends at the fold of that rule over its amounts;
`try_from` accepts exactly the values within `u32::MAX`. -/
theorem blockFuel_bump_exact :
    (∀ (f : BlockFuel) amount,
      ((f.bumpBy amount).1 = .ok () ↔ f.toU64.toNat + amount.toNat ≤ 2 ^ 32 - 1) ∧
      (f.toU64.toNat + amount.toNat ≤ 2 ^ 32 - 1 →
        (f.bumpBy amount).2.toU64.toNat = f.toU64.toNat + amount.toNat) ∧
      (¬f.toU64.toNat + amount.toNat ≤ 2 ^ 32 - 1 →
        f.bumpBy amount = (.error .blockFuelOutOfBounds, f))) ∧
    (∀ (f : BlockFuel) amounts,
      (f.bumpAll amounts).2.toU64.toNat =
        f.toU64.toNat + BlockFuel.acceptedSum amounts (f.bumpAll amounts).1 ∧
      (f.bumpAll amounts).2.toU64.toNat =
        amounts.foldl (fun fuel amount =>
          if fuel + amount.toNat ≤ 2 ^ 32 - 1 then fuel + amount.toNat else fuel)
          f.toU64.toNat ∧
      f.toU64.toNat ≤ (f.bumpAll amounts).2.toU64.toNat) ∧
    (∀ n : BitVec 64,
      (∃ f, BlockFuel.tryFrom n = .ok f) ↔ n.toNat ≤ 2 ^ 32 - 1) ∧
    (∀ n f, BlockFuel.tryFrom n = .ok f → f.toU64 = n) := by
  refine ⟨BlockFuel.bumpBy_spec, fun f amounts => ?_, fun n => ?_, fun n f h => ?_⟩
  · have := f.bumpAll_toU64 amounts
    exact ⟨this, f.bumpAll_toU64_eq_foldl amounts, by omega⟩
  · unfold BlockFuel.tryFrom
    cases hTry : u32TryFromU64 n with
    | none =>
        have := u32TryFromU64_eq_none.mp hTry
        exact iff_of_false (by simp) (by omega)
    | some value =>
        have := (u32TryFromU64_eq_some.mp hTry).1
        exact iff_of_true ⟨_, rfl⟩ (by omega)
  · unfold BlockFuel.tryFrom at h
    cases hTry : u32TryFromU64 n with
    | none => rw [hTry] at h; cases h
    | some value =>
        rw [hTry] at h
        cases h
        obtain ⟨-, hValue⟩ := u32TryFromU64_eq_some.mp hTry
        exact BitVec.eq_of_toNat_eq (by rw [BlockFuel.toNat_toU64, hValue])

theorem blockFuel_bump_exact_near_max :
    (⟨BitVec.ofNat 32 (2 ^ 32 - 2)⟩ : BlockFuel).toU64.toNat + 1 ≤ 2 ^ 32 - 1 ∧
      ((⟨BitVec.ofNat 32 (2 ^ 32 - 2)⟩ : BlockFuel).bumpBy 1).2.toU64.toNat = 2 ^ 32 - 1 ∧
      ¬(⟨BitVec.ofNat 32 1⟩ : BlockFuel).toU64.toNat + (2 ^ 64 - 1) ≤ 2 ^ 32 - 1 ∧
      (⟨BitVec.ofNat 32 1⟩ : BlockFuel).bumpBy (BitVec.ofNat 64 (2 ^ 64 - 1)) =
        (.error .blockFuelOutOfBounds, ⟨BitVec.ofNat 32 1⟩) ∧
      BlockFuel.tryFrom (BitVec.ofNat 64 (2 ^ 32 - 1)) = .ok ⟨BitVec.ofNat 32 (2 ^ 32 - 1)⟩ ∧
      (⟨BitVec.ofNat 32 (2 ^ 32 - 1)⟩ : BlockFuel).toU64 = BitVec.ofNat 64 (2 ^ 32 - 1) :=
  ⟨by decide, (blockFuel_bump_exact.1 _ 1).2.1 (by decide), by decide,
    (blockFuel_bump_exact.1 _ _).2.2 (by decide), by decide,
    blockFuel_bump_exact.2.2.2 _ _ (by decide)⟩

end Wasmi.Ir
