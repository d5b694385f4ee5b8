import Bademeister.Basic

/-! btcd's `wire` readers as functions of the unread bytes, each with its writer and two laws: it
reads back what the writer wrote, and a successful read consumed such a writing. -/

namespace Bademeister

def Reader (α : Type) : Type := List UInt8 → Except String (α × List UInt8)

namespace Reader

protected def pure {α : Type} (value : α) : Reader α := fun bytes => .ok (value, bytes)

protected def bind {α β : Type} (first : Reader α) (next : α → Reader β) : Reader β :=
  fun bytes =>
    match first bytes with
    | .ok (value, rest) => next value rest
    | .error message => .error message

instance : Monad Reader where
  pure := Reader.pure
  bind := Reader.bind

/-- A failed read, as `messageError` and `io.ReadFull` report it. -/
def fail {α : Type} (message : String) : Reader α := fun _ => .error message

@[simp] theorem pure_apply {α : Type} (value : α) (bytes : List UInt8) :
    (pure value : Reader α) bytes = .ok (value, bytes) := rfl

@[simp] theorem fail_apply {α : Type} (message : String) (bytes : List UInt8) :
    (fail message : Reader α) bytes = .error message := rfl

@[simp] theorem bind_apply {α β : Type} (first : Reader α) (next : α → Reader β)
    (bytes : List UInt8) :
    (first >>= next) bytes =
      match first bytes with
      | .ok (value, rest) => next value rest
      | .error message => .error message := rfl

theorem bind_of_ok {α β : Type} {first : Reader α} {next : α → Reader β}
    {bytes rest : List UInt8} {value : α} (read : first bytes = .ok (value, rest)) :
    (first >>= next) bytes = next value rest := by
  simp [read]

theorem bind_eq_ok {α β : Type} {first : Reader α} {next : α → Reader β}
    {bytes rest : List UInt8} {result : β} :
    (first >>= next) bytes = .ok (result, rest) ↔
      ∃ value middle, first bytes = .ok (value, middle) ∧ next value middle = .ok (result, rest) := by
  simp only [bind_apply]
  constructor
  · intro read
    split at read
    · rename_i value middle firstRead
      exact ⟨value, middle, firstRead, read⟩
    · cases read
  · rintro ⟨value, middle, firstRead, nextRead⟩
    simp [firstRead, nextRead]

end Reader

/-! Fixed-width fields. -/

/-- `io.ReadFull` into a buffer of `count` bytes: `EOF` when nothing was left to read,
`unexpected EOF` when the input ended part way. -/
def readFull (count : Nat) : Reader (List UInt8) := fun bytes =>
  if count ≤ bytes.length then .ok (bytes.take count, bytes.drop count)
  else .error (if bytes = [] then "EOF" else "unexpected EOF")

theorem readFull_append (front rest : List UInt8) :
    readFull front.length (front ++ rest) = .ok (front, rest) := by
  simp [readFull]

theorem readFull_eq_ok {count : Nat} {bytes value rest : List UInt8}
    (read : readFull count bytes = .ok (value, rest)) : bytes = value ++ rest ∧ value.length = count := by
  simp only [readFull] at read
  split at read
  · rename_i enough
    simp only [Except.ok.injEq, Prod.mk.injEq] at read
    obtain ⟨rfl, rfl⟩ := read
    exact ⟨(List.take_append_drop count bytes).symm, by simp [enough]⟩
  · cases read

/-- `binarySerializer.Uint8/16/32/64` with `littleEndian`: `width` bytes read as a number. -/
def readUint (width : Nat) : Reader Nat := do
  let bytes ← readFull width
  pure (leNat bytes)

theorem readUint_append (width value : Nat) (rest : List UInt8) (bound : value < 256 ^ width) :
    readUint width (leBytes width value ++ rest) = .ok (value, rest) := by
  have read := readFull_append (leBytes width value) rest
  rw [length_leBytes] at read
  simp [readUint, read, leNat_leBytes_of_lt bound]

theorem readUint_eq_ok {width value : Nat} {bytes rest : List UInt8}
    (read : readUint width bytes = .ok (value, rest)) :
    bytes = leBytes width value ++ rest ∧ value < 256 ^ width := by
  obtain ⟨field, middle, fieldRead, done⟩ := Reader.bind_eq_ok.mp read
  simp only [Reader.pure_apply, Except.ok.injEq, Prod.mk.injEq] at done
  obtain ⟨rfl, rfl⟩ := done
  obtain ⟨split, fieldLength⟩ := readFull_eq_ok fieldRead
  refine ⟨?_, fieldLength ▸ leNat_lt field⟩
  rw [split, ← fieldLength, leBytes_leNat]

def readUint32 : Reader UInt32 := do
  let value ← readUint 4
  pure (UInt32.ofNat value)

def putUint32 (value : UInt32) : List UInt8 := leBytes 4 value.toNat

theorem readUint32_append (value : UInt32) (rest : List UInt8) :
    readUint32 (putUint32 value ++ rest) = .ok (value, rest) := by
  simp [readUint32, putUint32, readUint_append 4 value.toNat rest (UInt32.toNat_lt_size value),
    uint32_ofNat_toNat]

theorem readUint32_eq_ok {value : UInt32} {bytes rest : List UInt8}
    (read : readUint32 bytes = .ok (value, rest)) : bytes = putUint32 value ++ rest := by
  obtain ⟨number, middle, numberRead, done⟩ := Reader.bind_eq_ok.mp read
  simp only [Reader.pure_apply, Except.ok.injEq, Prod.mk.injEq] at done
  obtain ⟨rfl, rfl⟩ := done
  obtain ⟨split, bound⟩ := readUint_eq_ok numberRead
  rw [split, putUint32, UInt32.toNat_ofNat_of_lt bound]

def readUint64 : Reader UInt64 := do
  let value ← readUint 8
  pure (UInt64.ofNat value)

def putUint64 (value : UInt64) : List UInt8 := leBytes 8 value.toNat

theorem readUint64_append (value : UInt64) (rest : List UInt8) :
    readUint64 (putUint64 value ++ rest) = .ok (value, rest) := by
  simp [readUint64, putUint64, readUint_append 8 value.toNat rest (UInt64.toNat_lt_size value),
    uint64_ofNat_toNat]

theorem readUint64_eq_ok {value : UInt64} {bytes rest : List UInt8}
    (read : readUint64 bytes = .ok (value, rest)) : bytes = putUint64 value ++ rest := by
  obtain ⟨number, middle, numberRead, done⟩ := Reader.bind_eq_ok.mp read
  simp only [Reader.pure_apply, Except.ok.injEq, Prod.mk.injEq] at done
  obtain ⟨rfl, rfl⟩ := done
  obtain ⟨split, bound⟩ := readUint_eq_ok numberRead
  rw [split, putUint64, UInt64.toNat_ofNat_of_lt bound]

def readHash : Reader Hash32 := fun bytes =>
  if enough : 32 ≤ bytes.length then
    .ok (⟨bytes.take 32, by simp [enough]⟩, bytes.drop 32)
  else .error (if bytes = [] then "EOF" else "unexpected EOF")

theorem readHash_append (hash : Hash32) (rest : List UInt8) :
    readHash (hash.bytes ++ rest) = .ok (hash, rest) := by
  obtain ⟨bytes, size⟩ := hash
  simp [readHash, size, List.take_left' size, List.drop_left' size]

theorem readHash_eq_ok {hash : Hash32} {bytes rest : List UInt8}
    (read : readHash bytes = .ok (hash, rest)) : bytes = hash.bytes ++ rest := by
  simp only [readHash] at read
  split at read
  · simp only [Except.ok.injEq, Prod.mk.injEq] at read
    obtain ⟨rfl, rfl⟩ := read
    exact (List.take_append_drop 32 bytes).symm
  · cases read

end Bademeister
