import Mathlib

/-! Rust's signed integers and `std::time::Duration`, as the schema conversions use them.
Unsigned integers are Lean's own `UInt8` and `UInt64`. -/

namespace AstarteDeviceSdk.Primitives

/-- A Rust `i32` or `i64`: an integer of `bits` bits in two's complement range. -/
structure Signed (bits : Nat) where
  val : Int
  ge : -2 ^ (bits - 1) ≤ val
  lt : val < 2 ^ (bits - 1)
  deriving DecidableEq, Repr

abbrev I32 := Signed 32
abbrev I64 := Signed 64

theorem signed_bound_pos (bits : Nat) : (0 : Int) < 2 ^ (bits - 1) := by
  exact_mod_cast Nat.pos_pow_of_pos _ (by decide)

/-- `Default::default()` of the signed integers is zero. -/
instance : Inhabited (Signed bits) :=
  ⟨⟨0, by have := signed_bound_pos bits; omega, signed_bound_pos bits⟩⟩

theorem Signed.ext {x y : Signed bits} (same : x.val = y.val) : x = y := by
  cases x
  cases y
  cases same
  rfl

@[simp] theorem Signed.default_val : (default : Signed bits).val = 0 := rfl

theorem Signed.eq_default_iff {x : Signed bits} : x = default ↔ x.val = 0 :=
  ⟨fun same => same ▸ rfl, fun zero => Signed.ext zero⟩

def I64.max : I64 := ⟨2 ^ 63 - 1, by decide, by decide⟩

theorem UInt64.lt_iff_toNat {a b : UInt64} : a < b ↔ a.toNat < b.toNat := by
  rw [UInt64.lt_def, BitVec.lt_def]
  rfl

/-- `u64::try_from(i64)`: fails exactly on negative values. -/
def Signed.toU64? (x : I64) : Option UInt64 :=
  if 0 ≤ x.val then some (UInt64.ofNat x.val.toNat) else none

/-- `i64::try_from(u64)`: fails exactly above `i64::MAX`. -/
def Signed.ofU64? (x : UInt64) : Option I64 :=
  if small : x.toNat < 2 ^ 63 then some ⟨x.toNat, by omega, by omega⟩ else none

theorem Signed.toU64?_eq_some {x : I64} {u : UInt64} (converted : x.toU64? = some u) :
    0 ≤ x.val ∧ (u.toNat : Int) = x.val := by
  unfold Signed.toU64? at converted
  split at converted
  · cases converted
    have := x.lt
    refine ⟨‹_›, ?_⟩
    rw [UInt64.toNat_ofNat_of_lt (by unfold UInt64.size; omega)]
    omega
  · cases converted

theorem Signed.toU64?_of_nonneg {x : I64} (nonnegative : 0 ≤ x.val) :
    x.toU64? = some (UInt64.ofNat x.val.toNat) := by
  simp [Signed.toU64?, nonnegative]

theorem Signed.toU64?_eq_none {x : I64} : x.toU64? = none ↔ x.val < 0 := by
  unfold Signed.toU64?
  split <;> simp <;> omega

theorem Signed.ofU64?_of_toU64? {x : I64} {u : UInt64} (converted : x.toU64? = some u) :
    Signed.ofU64? u = some x := by
  obtain ⟨nonneg, same⟩ := Signed.toU64?_eq_some converted
  have small : u.toNat < 2 ^ 63 := by have := x.lt; omega
  simp only [Signed.ofU64?, small, dite_true, Option.some.injEq]
  exact Signed.ext same

/-- `std::time::Duration`: whole seconds and a sub-second part in nanoseconds. -/
structure Duration where
  secs : UInt64
  nanos : Nat
  nanosLt : nanos < 1000000000
  deriving DecidableEq, Repr

def Duration.fromSecs (secs : UInt64) : Duration := ⟨secs, 0, by decide⟩

def Duration.asSecs (duration : Duration) : UInt64 := duration.secs

@[simp] theorem Duration.asSecs_fromSecs (secs : UInt64) : (Duration.fromSecs secs).asSecs = secs :=
  rfl

def Duration.WholeSecsFrom (least : Nat) (duration : Duration) : Prop :=
  duration.nanos = 0 ∧ least ≤ duration.secs.toNat ∧ duration.secs.toNat < 2 ^ 63

theorem Duration.fromSecs_secs {duration : Duration} (whole : duration.nanos = 0) :
    Duration.fromSecs duration.secs = duration := by
  cases duration
  cases whole
  rfl

theorem Signed.ofU64?_of_lt {u : UInt64} (small : u.toNat < 2 ^ 63) :
    ∃ x : I64, Signed.ofU64? u = some x ∧ x.toU64? = some u ∧ x.val = u.toNat := by
  have back : UInt64.ofNat u.toNat = u := UInt64.toNat.inj (UInt64.toNat_ofNat_of_lt u.toNat_lt_size)
  exact ⟨⟨u.toNat, by omega, by omega⟩, by rw [Signed.ofU64?, dif_pos small], by simp [Signed.toU64?, back],
    rfl⟩

end AstarteDeviceSdk.Primitives
