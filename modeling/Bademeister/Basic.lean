import Mathlib.Data.List.Basic
import Mathlib.Tactic.Ring

/-! Go values the ingestion path passes around: how a call ends, timestamps, 32-byte
hashes, slice expressions and the little-endian integer encodings of `encoding/binary`. -/

namespace Bademeister

/-- How a Go call ends: it returns its results, returns a non-nil `error`, or panics. -/
inductive Outcome (α : Type) where
  | ok (value : α)
  | error (message : String)
  | panic (message : String)
  deriving Repr, DecidableEq

def Outcome.map {α β : Type} (f : α → β) : Outcome α → Outcome β
  | .ok value => .ok (f value)
  | .error message => .error message
  | .panic message => .panic message

@[simp] theorem Outcome.map_ok {α β : Type} (f : α → β) (value : α) :
    (Outcome.ok value).map f = .ok (f value) := rfl

@[simp] theorem Outcome.map_error {α β : Type} (f : α → β) (message : String) :
    (Outcome.error message : Outcome α).map f = .error message := rfl

@[simp] theorem Outcome.map_panic {α β : Type} (f : α → β) (message : String) :
    (Outcome.panic message : Outcome α).map f = .panic message := rfl

def Outcome.isPanic {α : Type} : Outcome α → Bool
  | .panic _ => true
  | _ => false

/-- `time.Time`, as nanoseconds since the Unix epoch. -/
structure Time where
  unixNano : Int
  deriving Repr, DecidableEq

/-- `chainhash.Hash`, and `types.Hash32` built from it by `NewHashFromArray`. -/
structure Hash32 where
  bytes : List UInt8
  length_eq : bytes.length = 32
  deriving Repr, DecidableEq

/-- Go's slice expression `s[lo:hi]`; it panics unless `lo ≤ hi ≤ cap(s)`, and the frames
it is applied to come from `C.GoBytes`, whose capacity is their length. -/
def sliceExpr {α : Type} (s : List α) (lo hi : Nat) : Option (List α) :=
  if lo ≤ hi ∧ hi ≤ s.length then some ((s.drop lo).take (hi - lo)) else none

theorem sliceExpr_prefix {α : Type} (s : List α) (hi : Nat) (bound : hi ≤ s.length) :
    sliceExpr s 0 hi = some (s.take hi) := by
  simp [sliceExpr, bound]

theorem sliceExpr_suffix {α : Type} (s : List α) (lo : Nat) (bound : lo ≤ s.length) :
    sliceExpr s lo s.length = some (s.drop lo) := by
  simp [sliceExpr, bound]

/-! Little-endian encodings. -/

def leBytes : Nat → Nat → List UInt8
  | 0, _ => []
  | width + 1, value => UInt8.ofNat (value % 256) :: leBytes width (value / 256)

def leNat : List UInt8 → Nat
  | [] => 0
  | byte :: rest => byte.toNat + 256 * leNat rest

@[simp] theorem leNat_nil : leNat [] = 0 := rfl

@[simp] theorem leNat_cons (byte : UInt8) (rest : List UInt8) :
    leNat (byte :: rest) = byte.toNat + 256 * leNat rest := rfl

@[simp] theorem length_leBytes (width value : Nat) : (leBytes width value).length = width := by
  induction width generalizing value with
  | zero => rfl
  | succ width ih => simp [leBytes, ih]

theorem uint8_toNat_ofNat_mod (value : Nat) : (UInt8.ofNat (value % 256)).toNat = value % 256 :=
  UInt8.toNat_ofNat_of_lt (Nat.mod_lt _ (by decide))

theorem leNat_leBytes (width value : Nat) : leNat (leBytes width value) = value % 256 ^ width := by
  induction width generalizing value with
  | zero => simp [leBytes, Nat.mod_one]
  | succ width ih =>
      rw [leBytes, leNat_cons, ih, uint8_toNat_ofNat_mod, pow_succ', Nat.mod_mul]

theorem leNat_leBytes_of_lt {width value : Nat} (bound : value < 256 ^ width) :
    leNat (leBytes width value) = value := by
  rw [leNat_leBytes, Nat.mod_eq_of_lt bound]

theorem leNat_lt (bytes : List UInt8) : leNat bytes < 256 ^ bytes.length := by
  induction bytes with
  | nil => simp
  | cons byte rest ih =>
      have byteBound := UInt8.toNat_lt_size byte
      simp only [leNat_cons, List.length_cons, pow_succ]
      change byte.toNat < 256 at byteBound
      omega

theorem uint8_ofNat_toNat (value : UInt8) : UInt8.ofNat value.toNat = value := by
  apply UInt8.eq_of_toBitVec_eq
  simp [UInt8.ofNat, UInt8.toNat]

theorem leBytes_leNat (bytes : List UInt8) : leBytes bytes.length (leNat bytes) = bytes := by
  induction bytes with
  | nil => rfl
  | cons byte rest ih =>
      have byteBound : byte.toNat < 256 := UInt8.toNat_lt_size byte
      have low : (byte.toNat + 256 * leNat rest) % 256 = byte.toNat := by omega
      have high : (byte.toNat + 256 * leNat rest) / 256 = leNat rest := by omega
      simp only [List.length_cons, leBytes, leNat_cons, low, high, uint8_ofNat_toNat, ih]

theorem leNat_append (front back : List UInt8) :
    leNat (front ++ back) = leNat front + 256 ^ front.length * leNat back := by
  induction front with
  | nil => simp
  | cons byte rest ih =>
      simp only [List.cons_append, leNat_cons, ih, List.length_cons, pow_succ]
      ring

theorem leNat_append_replicate_zero (bytes : List UInt8) (count : Nat) :
    leNat (bytes ++ List.replicate count 0) = leNat bytes := by
  have zeros : leNat (List.replicate count (0 : UInt8)) = 0 := by
    induction count with
    | zero => rfl
    | succ count ih => simp [List.replicate_succ, ih]
  rw [leNat_append, zeros, Nat.mul_zero, Nat.add_zero]

theorem uint32_ofNat_toNat (value : UInt32) : UInt32.ofNat value.toNat = value := by
  apply UInt32.eq_of_toBitVec_eq
  simp [UInt32.ofNat, UInt32.toNat]

theorem uint64_ofNat_toNat (value : UInt64) : UInt64.ofNat value.toNat = value := by
  apply UInt64.eq_of_toBitVec_eq
  simp [UInt64.ofNat, UInt64.toNat]

/-- `binary.LittleEndian.Uint32`: the first four bytes; its bounds check `b[3]` panics on a
shorter slice. -/
def littleEndianUint32 (b : List UInt8) : Option UInt32 :=
  if 4 ≤ b.length then some (UInt32.ofNat (leNat (b.take 4))) else none

/-- `binary.LittleEndian.Uint64`: the first eight bytes, with the bounds check `b[7]`. -/
def littleEndianUint64 (b : List UInt8) : Option UInt64 :=
  if 8 ≤ b.length then some (UInt64.ofNat (leNat (b.take 8))) else none

theorem littleEndianUint64_leBytes (fee : UInt64) :
    littleEndianUint64 (leBytes 8 fee.toNat) = some fee := by
  have feeBound : fee.toNat < 256 ^ 8 := UInt64.toNat_lt_size fee
  simp [littleEndianUint64, List.take_of_length_le, leNat_leBytes_of_lt feeBound,
    uint64_ofNat_toNat]

end Bademeister
