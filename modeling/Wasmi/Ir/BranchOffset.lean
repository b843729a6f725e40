import Wasmi.Core.Num
/-! Branch offsets of the register-machine IR (`primitive.rs`): the 32-bit `BranchOffset`, its
16-bit narrowing `BranchOffset16`, the offset between two instructions, and the patching of
the placeholder `0` that a forward branch is emitted with. A panic (`assert!`,
`unreachable!`) is a call that does not return; it leaves a slot as it was, since every
assertion of these methods comes before the write. -/

namespace Wasmi.Ir

open Wasmi.Num

/-- The errors of `wasmi_ir` that the modelled primitives return. -/
inductive Error where
  | branchOffsetOutOfBounds
  | blockFuelOutOfBounds
  | comparatorOutOfBounds
deriving DecidableEq, Repr

/-- `Instr`: the position of an instruction in the encoded stream, a `u32`. -/
structure Instr where
  toU32 : BitVec 32
deriving DecidableEq, Repr

/-- `BranchOffset`: a signed 32-bit offset, in instructions, taken on a branch. -/
structure BranchOffset where
  toI32 : BitVec 32
deriving DecidableEq, Repr

/-- `BranchOffset16`: the 16-bit form that fits beside other operands in one slot. -/
structure BranchOffset16 where
  toI16 : BitVec 16
deriving DecidableEq, Repr

namespace BranchOffset

/-- `BranchOffset::uninit`, the placeholder of a branch not patched yet. -/
def uninit : BranchOffset := ⟨0⟩

/-- `BranchOffset::is_init`. -/
def isInit (self : BranchOffset) : Bool := self.toI32 != 0

/-- `BranchOffset::from_src_to_dst`; `none` is the `unreachable!` panic. -/
def fromSrcToDst (src dst : Instr) : Option (Except Error BranchOffset) :=
  let src := src.toU32.setWidth 64
  let dst := dst.toU32.setWidth 64
  match i64CheckedSub dst src with
  | none => none
  | some offset =>
    match i32TryFromI64 offset with
    | none => some (.error .branchOffsetOutOfBounds)
    | some offset => some (.ok ⟨offset⟩)

/-- `BranchOffset::init` on the slot `self`: the result (`none` for a panic) and the slot as
the call leaves it. -/
def init (self validOffset : BranchOffset) : Option Unit × BranchOffset :=
  if !validOffset.isInit then (none, self)
  else if self.isInit then (none, self)
  else (some (), validOffset)

/-- `From<BranchOffset16> for BranchOffset`, through `i32::from(i16)`. -/
def ofBranchOffset16 (offset : BranchOffset16) : BranchOffset := ⟨offset.toI16.signExtend 32⟩

/-- The slot after `init` is called with each offset in turn. -/
def initAll (slot : BranchOffset) (offsets : List BranchOffset) : BranchOffset :=
  offsets.foldl (fun slot offset => (slot.init offset).2) slot

theorem isInit_iff (o : BranchOffset) : o.isInit = true ↔ o.toI32.toInt ≠ 0 := by
  rw [isInit, bne_iff_ne, ne_eq, ne_eq, ← BitVec.toInt_inj]
  rfl

@[simp] theorem isInit_uninit : uninit.isInit = false := rfl

end BranchOffset

namespace BranchOffset16

/-- `TryFrom<BranchOffset> for BranchOffset16`. -/
def tryFrom (offset : BranchOffset) : Except Error BranchOffset16 :=
  match i16TryFromI32 offset.toI32 with
  | none => .error .branchOffsetOutOfBounds
  | some offset16 => .ok ⟨offset16⟩

/-- `BranchOffset16::is_init`. -/
def isInit (self : BranchOffset16) : Bool := self.toI16 != 0

/-- `BranchOffset16::init`: the result (`none` for a panic) and the slot after the call. -/
def init (self : BranchOffset16) (validOffset : BranchOffset) :
    Option (Except Error Unit) × BranchOffset16 :=
  if !validOffset.isInit then (none, self)
  else if self.isInit then (none, self)
  else
    match tryFrom validOffset with
    | .error e => (some (.error e), self)
    | .ok validOffset16 => (some (.ok ()), validOffset16)

/-- The placeholder a 16-bit branch offset is emitted with. -/
def uninit : BranchOffset16 := ⟨0⟩

/-- The slot after `init` is called with each offset in turn. -/
def initAll (slot : BranchOffset16) (offsets : List BranchOffset) : BranchOffset16 :=
  offsets.foldl (fun slot offset => (slot.init offset).2) slot

theorem isInit_iff (o : BranchOffset16) : o.isInit = true ↔ o.toI16.toInt ≠ 0 := by
  rw [isInit, bne_iff_ne, ne_eq, ne_eq, ← BitVec.toInt_inj]
  rfl

@[simp] theorem isInit_uninit : uninit.isInit = false := rfl

end BranchOffset16

/-! ### Narrowing and widening -/

/-- What narrowing does: it succeeds on exactly the offsets in the `i16` range, with the same
signed value. -/
theorem BranchOffset16.tryFrom_eq_ok {o : BranchOffset} {o16 : BranchOffset16} :
    BranchOffset16.tryFrom o = .ok o16 ↔
      (-2 ^ 15 ≤ o.toI32.toInt ∧ o.toI32.toInt < 2 ^ 15) ∧ o16.toI16.toInt = o.toI32.toInt := by
  unfold BranchOffset16.tryFrom
  split
  · rename_i hNone
    simp only [reduceCtorEq, false_iff, not_and]
    exact fun hRange => absurd hRange (i16TryFromI32_eq_none.mp hNone)
  · rename_i offset16 hSome
    rw [Except.ok.injEq, ← i16TryFromI32_eq_some, hSome, Option.some.injEq]
    exact ⟨fun h => h ▸ rfl, fun h => by cases o16; cases h; rfl⟩

theorem BranchOffset16.tryFrom_eq_error {o : BranchOffset} :
    BranchOffset16.tryFrom o = .error .branchOffsetOutOfBounds ↔
      ¬(-2 ^ 15 ≤ o.toI32.toInt ∧ o.toI32.toInt < 2 ^ 15) := by
  unfold BranchOffset16.tryFrom
  split
  · rename_i hNone
    exact iff_of_true rfl (i16TryFromI32_eq_none.mp hNone)
  · rename_i offset16 hSome
    exact iff_of_false (by simp) (not_not_intro (i16TryFromI32_eq_some.mp hSome).1)

theorem BranchOffset16.tryFrom_ok_of_range {o : BranchOffset}
    (h : -2 ^ 15 ≤ o.toI32.toInt ∧ o.toI32.toInt < 2 ^ 15) :
    ∃ o16, BranchOffset16.tryFrom o = .ok o16 := by
  unfold BranchOffset16.tryFrom
  split
  · exact absurd h (i16TryFromI32_eq_none.mp ‹_›)
  · exact ⟨_, rfl⟩

/-- Widening keeps the signed value. -/
@[simp] theorem BranchOffset.toInt_ofBranchOffset16 (o16 : BranchOffset16) :
    (BranchOffset.ofBranchOffset16 o16).toI32.toInt = o16.toI16.toInt :=
  toInt_signExtend_16 o16.toI16

theorem BranchOffset.ext_toInt {a b : BranchOffset} (h : a.toI32.toInt = b.toI32.toInt) :
    a = b := by
  cases a; cases b
  exact congrArg _ (BitVec.eq_of_toInt_eq h)

theorem BranchOffset.ofBranchOffset16_of_tryFrom {o : BranchOffset} {o16 : BranchOffset16}
    (h : BranchOffset16.tryFrom o = .ok o16) : BranchOffset.ofBranchOffset16 o16 = o :=
  BranchOffset.ext_toInt (by rw [BranchOffset.toInt_ofBranchOffset16,
    (BranchOffset16.tryFrom_eq_ok.mp h).2])

theorem BranchOffset16.isInit_of_tryFrom {o : BranchOffset} {o16 : BranchOffset16}
    (h : BranchOffset16.tryFrom o = .ok o16) : o16.isInit = o.isInit := by
  rw [Bool.eq_iff_iff, BranchOffset16.isInit_iff, BranchOffset.isInit_iff,
    (BranchOffset16.tryFrom_eq_ok.mp h).2]

/-- Narrowing a branch offset is exact: it succeeds on the `i16` range, never truncates,
keeps initialized offsets initialized, and widening undoes it. -/
theorem branchOffset16_tryFrom_exact :
    (∀ o : BranchOffset, (∃ o16, BranchOffset16.tryFrom o = .ok o16) ↔
      -32768 ≤ o.toI32.toInt ∧ o.toI32.toInt ≤ 32767) ∧
    (∀ o o16, BranchOffset16.tryFrom o = .ok o16 →
      BranchOffset.ofBranchOffset16 o16 = o ∧ o16.toI16.toInt = o.toI32.toInt ∧
        o16.isInit = o.isInit) ∧
    (∀ o16, BranchOffset16.tryFrom (BranchOffset.ofBranchOffset16 o16) = .ok o16) := by
  refine ⟨fun o => ⟨?_, fun hRange => BranchOffset16.tryFrom_ok_of_range (by omega)⟩,
    fun o o16 h => ⟨BranchOffset.ofBranchOffset16_of_tryFrom h,
      (BranchOffset16.tryFrom_eq_ok.mp h).2, BranchOffset16.isInit_of_tryFrom h⟩,
    fun o16 => BranchOffset16.tryFrom_eq_ok.mpr ?_⟩
  · rintro ⟨o16, h⟩
    have := (BranchOffset16.tryFrom_eq_ok.mp h).1
    omega
  · rw [BranchOffset.toInt_ofBranchOffset16]
    exact ⟨toInt_range_16 o16.toI16, rfl⟩

theorem branchOffset16_tryFrom_exact_edges :
    BranchOffset16.tryFrom ⟨BitVec.ofInt 32 32767⟩ = .ok ⟨BitVec.ofInt 16 32767⟩ ∧
      BranchOffset.ofBranchOffset16 ⟨BitVec.ofInt 16 32767⟩ = ⟨BitVec.ofInt 32 32767⟩ ∧
      (BranchOffset16.tryFrom ⟨BitVec.ofInt 32 32768⟩).toOption = none :=
  ⟨by decide, (branchOffset16_tryFrom_exact.2.1 _ _ (by decide)).1, by decide⟩

/-! ### The offset between two instructions -/

theorem BranchOffset.fromSrcToDst_of_range (src dst : Instr)
    (h : -2 ^ 31 ≤ (dst.toU32.toNat : Int) - src.toU32.toNat ∧
      (dst.toU32.toNat : Int) - src.toU32.toNat ≤ 2 ^ 31 - 1) :
    ∃ o, BranchOffset.fromSrcToDst src dst = some (.ok o) ∧
      o.toI32.toInt = (dst.toU32.toNat : Int) - src.toU32.toNat := by
  obtain ⟨z, hSub, hz⟩ := i64CheckedSub_setWidth dst.toU32 src.toU32
  simp only [BranchOffset.fromSrcToDst, hSub]
  cases hTry : i32TryFromI64 z with
  | none => exact absurd (i32TryFromI64_eq_none.mp hTry) (by omega)
  | some o => exact ⟨⟨o⟩, rfl, (i32TryFromI64_eq_some.mp hTry).2.trans hz⟩

theorem BranchOffset.fromSrcToDst_of_not_range (src dst : Instr)
    (h : ¬(-2 ^ 31 ≤ (dst.toU32.toNat : Int) - src.toU32.toNat ∧
      (dst.toU32.toNat : Int) - src.toU32.toNat ≤ 2 ^ 31 - 1)) :
    BranchOffset.fromSrcToDst src dst = some (.error .branchOffsetOutOfBounds) := by
  obtain ⟨z, hSub, hz⟩ := i64CheckedSub_setWidth dst.toU32 src.toU32
  simp only [BranchOffset.fromSrcToDst, hSub]
  cases hTry : i32TryFromI64 z with
  | none => rfl
  | some o => exact absurd (i32TryFromI64_eq_some.mp hTry).1 (by omega)

/-- `from_src_to_dst` never reaches its `unreachable!`, forward or backward: it returns the
exact difference when it fits in an `i32`, and `BranchOffsetOutOfBounds` otherwise. -/
theorem fromSrcToDst_total (src dst : Instr) :
    (-2 ^ 31 ≤ (dst.toU32.toNat : Int) - src.toU32.toNat ∧
        (dst.toU32.toNat : Int) - src.toU32.toNat ≤ 2 ^ 31 - 1 →
      ∃ o, BranchOffset.fromSrcToDst src dst = some (.ok o) ∧
        o.toI32.toInt = (dst.toU32.toNat : Int) - src.toU32.toNat) ∧
    (¬(-2 ^ 31 ≤ (dst.toU32.toNat : Int) - src.toU32.toNat ∧
        (dst.toU32.toNat : Int) - src.toU32.toNat ≤ 2 ^ 31 - 1) →
      BranchOffset.fromSrcToDst src dst = some (.error .branchOffsetOutOfBounds)) :=
  ⟨BranchOffset.fromSrcToDst_of_range src dst, BranchOffset.fromSrcToDst_of_not_range src dst⟩

theorem fromSrcToDst_total_edges :
    (∃ o, BranchOffset.fromSrcToDst ⟨0⟩ ⟨BitVec.ofNat 32 (2 ^ 31 - 1)⟩ = some (.ok o) ∧
      o.toI32.toInt = 2 ^ 31 - 1) ∧
    BranchOffset.fromSrcToDst ⟨0⟩ ⟨BitVec.ofNat 32 (2 ^ 31)⟩ =
      some (.error .branchOffsetOutOfBounds) :=
  ⟨(fromSrcToDst_total _ _).1 (by decide), (fromSrcToDst_total _ _).2 (by decide)⟩

/-- A branch to its own instruction returns the placeholder instead of panicking as the
doc comment of `from_src_to_dst` promises. -/
theorem fromSrcToDst_self (src : Instr) :
    BranchOffset.fromSrcToDst src src = some (.ok BranchOffset.uninit) := by
  obtain ⟨o, h, hZero⟩ := BranchOffset.fromSrcToDst_of_range src src (by omega)
  rw [h, BranchOffset.ext_toInt (a := o) (b := BranchOffset.uninit) (by rw [hZero, Int.sub_self]; rfl)]

/-! ### Patching a placeholder is write-once -/

section Init

variable {slot v : BranchOffset} {slot16 : BranchOffset16}

/-- The two assertions of `init`: an uninitialized argument or an initialized slot panics,
before the slot is written. -/
theorem BranchOffset.init_of_panics (h : v.isInit = false ∨ slot.isInit = true) :
    slot.init v = (none, slot) := by
  rcases h with h | h <;> simp [BranchOffset.init, h]

theorem BranchOffset16.init_of_panics (h : v.isInit = false ∨ slot16.isInit = true) :
    slot16.init v = (none, slot16) := by
  rcases h with h | h <;> simp [BranchOffset16.init, h]

theorem BranchOffset.init_uninit (h : v.isInit = true) :
    BranchOffset.uninit.init v = (some (), v) := by
  simp [BranchOffset.init, h]

theorem BranchOffset16.init_uninit (h : v.isInit = true) :
    BranchOffset16.uninit.init v = match BranchOffset16.tryFrom v with
      | .error e => (some (.error e), .uninit)
      | .ok validOffset16 => (some (.ok ()), validOffset16) := by
  simp [BranchOffset16.init, h]

theorem BranchOffset.initAll_cons (slot v : BranchOffset) (rest : List BranchOffset) :
    slot.initAll (v :: rest) = (slot.init v).2.initAll rest := rfl

theorem BranchOffset16.initAll_cons (slot : BranchOffset16) (v : BranchOffset)
    (rest : List BranchOffset) : slot.initAll (v :: rest) = (slot.init v).2.initAll rest := rfl

theorem BranchOffset.initAll_append (slot : BranchOffset) (pre post : List BranchOffset) :
    slot.initAll (pre ++ post) = (slot.initAll pre).initAll post :=
  List.foldl_append _ _ _ _

theorem BranchOffset16.initAll_append (slot : BranchOffset16) (pre post : List BranchOffset) :
    slot.initAll (pre ++ post) = (slot.initAll pre).initAll post :=
  List.foldl_append _ _ _ _

/-- An initialized slot stays as it is over any further calls. -/
theorem BranchOffset.initAll_of_isInit (h : slot.isInit = true) (offsets : List BranchOffset) :
    slot.initAll offsets = slot := by
  induction offsets with
  | nil => rfl
  | cons v rest ih => rw [BranchOffset.initAll_cons, BranchOffset.init_of_panics (.inr h), ih]

theorem BranchOffset16.initAll_of_isInit (h : slot16.isInit = true)
    (offsets : List BranchOffset) : slot16.initAll offsets = slot16 := by
  induction offsets with
  | nil => rfl
  | cons v rest ih =>
      rw [BranchOffset16.initAll_cons, BranchOffset16.init_of_panics (.inr h), ih]

theorem BranchOffset.isInit_of_not_fits16
    (h : ¬(-32768 ≤ v.toI32.toInt ∧ v.toI32.toInt ≤ 32767)) : v.isInit = true :=
  (BranchOffset.isInit_iff v).mpr (by omega)

end Init

/-- Both kinds of branch-offset slot are write-once. A panicking call leaves the slot as it
was; a call on the placeholder with an initialized argument stores it, after narrowing it for
the 16-bit slot when it fits; a 16-bit patch that does not fit fails and leaves the placeholder
patchable; the first call that succeeds stores an offset that widens back to its argument, and
every later call leaves it alone. -/
theorem init_write_once :
    (∀ slot v : BranchOffset, v.isInit = false ∨ slot.isInit = true →
      slot.init v = (none, slot)) ∧
    (∀ v : BranchOffset, v.isInit = true → BranchOffset.uninit.init v = (some (), v)) ∧
    (∀ (pre : List BranchOffset) v post, BranchOffset.uninit.initAll pre = .uninit →
      (BranchOffset.uninit.init v).1 = some () →
      (BranchOffset.uninit.init v).2.isInit = true ∧ (BranchOffset.uninit.init v).2 = v ∧
        BranchOffset.uninit.initAll (pre ++ v :: post) = (BranchOffset.uninit.init v).2) ∧
    (∀ (slot : BranchOffset16) v, v.isInit = false ∨ slot.isInit = true →
      slot.init v = (none, slot)) ∧
    (∀ v : BranchOffset, v.isInit = true → -32768 ≤ v.toI32.toInt ∧ v.toI32.toInt ≤ 32767 →
      ∃ o16, BranchOffset16.uninit.init v = (some (.ok ()), o16) ∧
        BranchOffset.ofBranchOffset16 o16 = v) ∧
    (∀ v : BranchOffset, ¬(-32768 ≤ v.toI32.toInt ∧ v.toI32.toInt ≤ 32767) →
      BranchOffset16.uninit.init v = (some (.error .branchOffsetOutOfBounds), .uninit)) ∧
    (∀ (pre : List BranchOffset) v post, BranchOffset16.uninit.initAll pre = .uninit →
      (BranchOffset16.uninit.init v).1 = some (.ok ()) →
      (BranchOffset16.uninit.init v).2.isInit = true ∧
        BranchOffset.ofBranchOffset16 (BranchOffset16.uninit.init v).2 = v ∧
        BranchOffset16.uninit.initAll (pre ++ v :: post) = (BranchOffset16.uninit.init v).2) := by
  refine ⟨fun _ _ => BranchOffset.init_of_panics, fun _ => BranchOffset.init_uninit, ?_,
    fun _ _ => BranchOffset16.init_of_panics, ?_, ?_, ?_⟩
  · intro pre v post hPre hOk
    cases hv : v.isInit
    · rw [BranchOffset.init_of_panics (.inl hv)] at hOk
      cases hOk
    · rw [BranchOffset.initAll_append, hPre, BranchOffset.initAll_cons,
        BranchOffset.init_uninit hv]
      exact ⟨hv, rfl, BranchOffset.initAll_of_isInit hv post⟩
  · intro v hv hFits
    obtain ⟨o16, hTry⟩ := BranchOffset16.tryFrom_ok_of_range (o := v) (by omega)
    rw [BranchOffset16.init_uninit hv, hTry]
    exact ⟨o16, rfl, BranchOffset.ofBranchOffset16_of_tryFrom hTry⟩
  · intro v hFits
    rw [BranchOffset16.init_uninit (BranchOffset.isInit_of_not_fits16 hFits),
      BranchOffset16.tryFrom_eq_error.mpr (by omega)]
  · intro pre v post hPre hOk
    cases hv : v.isInit
    · rw [BranchOffset16.init_of_panics (.inl hv)] at hOk
      cases hOk
    · rw [BranchOffset16.init_uninit hv] at hOk ⊢
      cases hTry : BranchOffset16.tryFrom v with
      | error e => rw [hTry] at hOk; cases hOk
      | ok o16 =>
          have hInit : o16.isInit = true := (BranchOffset16.isInit_of_tryFrom hTry).trans hv
          refine ⟨hInit, BranchOffset.ofBranchOffset16_of_tryFrom hTry, ?_⟩
          rw [BranchOffset16.initAll_append, hPre, BranchOffset16.initAll_cons,
            BranchOffset16.init_uninit hv, hTry]
          exact BranchOffset16.initAll_of_isInit hInit post

theorem init_write_once_patches :
    BranchOffset.uninit.init ⟨5⟩ = (some (), ⟨5⟩) ∧
    (BranchOffset.uninit.initAll [] = .uninit ∧
      (BranchOffset.uninit.init ⟨5⟩).1 = some () ∧
      BranchOffset.uninit.initAll [⟨5⟩, ⟨7⟩] = ⟨5⟩) ∧
    (∃ o16, BranchOffset16.uninit.init ⟨5⟩ = (some (.ok ()), o16) ∧
      BranchOffset.ofBranchOffset16 o16 = ⟨5⟩) ∧
    BranchOffset16.uninit.init ⟨BitVec.ofInt 32 40000⟩ =
      (some (.error .branchOffsetOutOfBounds), .uninit) ∧
    (BranchOffset16.uninit.initAll [⟨BitVec.ofInt 32 40000⟩] = .uninit ∧
      BranchOffset.ofBranchOffset16 (BranchOffset16.uninit.init ⟨5⟩).2 = ⟨5⟩ ∧
      BranchOffset16.uninit.initAll [⟨BitVec.ofInt 32 40000⟩, ⟨5⟩, ⟨7⟩] =
        (BranchOffset16.uninit.init ⟨5⟩).2) :=
  ⟨init_write_once.2.1 _ rfl,
    ⟨rfl, rfl, (init_write_once.2.2.1 [] ⟨5⟩ [⟨7⟩] rfl rfl).2.2⟩,
    init_write_once.2.2.2.2.1 _ rfl (by decide),
    init_write_once.2.2.2.2.2.1 _ (by decide),
    ⟨by decide, (init_write_once.2.2.2.2.2.2 [⟨BitVec.ofInt 32 40000⟩] ⟨5⟩ [⟨7⟩] (by decide)
      (by decide)).2.1,
      (init_write_once.2.2.2.2.2.2 [⟨BitVec.ofInt 32 40000⟩] ⟨5⟩ [⟨7⟩] (by decide)
        (by decide)).2.2⟩⟩

end Wasmi.Ir
