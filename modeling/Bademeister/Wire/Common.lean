import Bademeister.Wire.Reader

/-! btcd's variable-length fields (`common.go`): `VarInt`, length-prefixed byte strings, and the
counted loops of the decoders. -/

namespace Bademeister

def hexDigits (value : Nat) : String := String.mk (Nat.toDigits 16 value)

/-- `%x` of a one-byte array: two digits. -/
def hexByte (value : Nat) : String :=
  String.mk [Nat.digitChar (value / 16), Nat.digitChar (value % 16)]

example : hexByte 2 = "02" := by decide

/-- `errNonCanonicalVarInt`, wrapped by `messageError("ReadVarInt", ...)`. -/
def nonCanonicalVarInt (value discriminant minimum : Nat) : String :=
  "ReadVarInt: non-canonical varint " ++ hexDigits value ++ " - discriminant " ++
    hexDigits discriminant ++ " must encode a value greater than " ++ hexDigits minimum

/-- One wide branch of `ReadVarInt`: `width` bytes, refused when the value would have fit a
narrower encoding (below `minimum`). The three branches differ only in these constants. -/
def readVarIntWide (width minimum discriminant : Nat) : Reader Nat := do
  let value ← readUint width
  if value < minimum then Reader.fail (nonCanonicalVarInt value discriminant minimum)
  else pure value

def readVarInt : Reader Nat := do
  let discriminant ← readUint 1
  if discriminant = 0xff then readVarIntWide 8 0x100000000 discriminant
  else if discriminant = 0xfe then readVarIntWide 4 0x10000 discriminant
  else if discriminant = 0xfd then readVarIntWide 2 0xfd discriminant
  else pure discriminant

/-- `WriteVarInt`: the discriminant byte, then the value in the narrowest width. -/
def writeVarInt (value : Nat) : List UInt8 :=
  if value < 0xfd then leBytes 1 value
  else if value ≤ 0xffff then leBytes 1 0xfd ++ leBytes 2 value
  else if value ≤ 0xffffffff then leBytes 1 0xfe ++ leBytes 4 value
  else leBytes 1 0xff ++ leBytes 8 value

def varIntSerializeSize (value : Nat) : Nat :=
  if value < 0xfd then 1
  else if value ≤ 0xffff then 3
  else if value ≤ 0xffffffff then 5
  else 9

theorem length_writeVarInt (value : Nat) : (writeVarInt value).length = varIntSerializeSize value := by
  unfold writeVarInt varIntSerializeSize
  split_ifs <;> simp

theorem readVarIntWide_append (width minimum discriminant value : Nat) (rest : List UInt8)
    (lower : minimum ≤ value) (upper : value < 256 ^ width) :
    readVarIntWide width minimum discriminant (leBytes width value ++ rest) = .ok (value, rest) := by
  simp [readVarIntWide, readUint_append width value rest upper, show ¬ value < minimum by omega]

theorem readVarIntWide_eq_ok {width minimum discriminant value : Nat} {bytes rest : List UInt8}
    (read : readVarIntWide width minimum discriminant bytes = .ok (value, rest)) :
    bytes = leBytes width value ++ rest ∧ minimum ≤ value ∧ value < 256 ^ width := by
  obtain ⟨number, middle, numberRead, done⟩ := Reader.bind_eq_ok.mp read
  obtain ⟨rfl, numberBound⟩ := readUint_eq_ok numberRead
  split_ifs at done with tooSmall
  · cases done
  · simp only [Reader.pure_apply, Except.ok.injEq, Prod.mk.injEq] at done
    obtain ⟨rfl, rfl⟩ := done
    exact ⟨rfl, by omega, numberBound⟩

theorem readVarInt_append (value : Nat) (rest : List UInt8) (bound : value < 2 ^ 64) :
    readVarInt (writeVarInt value ++ rest) = .ok (value, rest) := by
  unfold writeVarInt
  split_ifs with small medium large
  · rw [readVarInt, Reader.bind_of_ok (readUint_append 1 value rest (by omega)),
      if_neg (by omega), if_neg (by omega), if_neg (by omega)]
    rfl
  · rw [List.append_assoc, readVarInt, Reader.bind_of_ok (readUint_append 1 0xfd _ (by decide)),
      if_neg (by decide), if_neg (by decide), if_pos rfl,
      readVarIntWide_append 2 0xfd 0xfd value rest (by omega) (by omega)]
  · rw [List.append_assoc, readVarInt, Reader.bind_of_ok (readUint_append 1 0xfe _ (by decide)),
      if_neg (by decide), if_pos rfl,
      readVarIntWide_append 4 0x10000 0xfe value rest (by omega) (by omega)]
  · rw [List.append_assoc, readVarInt, Reader.bind_of_ok (readUint_append 1 0xff _ (by decide)),
      if_pos rfl, readVarIntWide_append 8 0x100000000 0xff value rest (by omega) (by omega)]

theorem readVarInt_eq_ok {value : Nat} {bytes rest : List UInt8}
    (read : readVarInt bytes = .ok (value, rest)) :
    bytes = writeVarInt value ++ rest ∧ value < 2 ^ 64 := by
  obtain ⟨discriminant, middle, discriminantRead, continued⟩ := Reader.bind_eq_ok.mp read
  obtain ⟨rfl, discriminantBound⟩ := readUint_eq_ok discriminantRead
  split_ifs at continued with isFF isFE isFD
  · obtain ⟨rfl, lower, upper⟩ := readVarIntWide_eq_ok continued
    refine ⟨?_, by omega⟩
    rw [isFF, writeVarInt, if_neg (by omega), if_neg (by omega), if_neg (by omega),
      List.append_assoc]
  · obtain ⟨rfl, lower, upper⟩ := readVarIntWide_eq_ok continued
    refine ⟨?_, by omega⟩
    rw [isFE, writeVarInt, if_neg (by omega), if_neg (by omega), if_pos (by omega),
      List.append_assoc]
  · obtain ⟨rfl, lower, upper⟩ := readVarIntWide_eq_ok continued
    refine ⟨?_, by omega⟩
    rw [isFD, writeVarInt, if_neg (by omega), if_pos (by omega), List.append_assoc]
  · simp only [Reader.pure_apply, Except.ok.injEq, Prod.mk.injEq] at continued
    obtain ⟨rfl, rfl⟩ := continued
    exact ⟨by rw [writeVarInt, if_pos (by omega)], by omega⟩

/-- btcd's guard against memory exhaustion: a count above `maxAllowed` fails with
`messageError(functionName, description + " [count %d, max %d]")`. -/
def refuseAbove (functionName description : String) (count maxAllowed : Nat) : Reader Unit :=
  if count > maxAllowed then
    Reader.fail (functionName ++ ": " ++ description ++ " [count " ++ toString count ++ ", max " ++
      toString maxAllowed ++ "]")
  else pure ()

theorem refuseAbove_of_le (functionName description : String) {count maxAllowed : Nat}
    (bound : count ≤ maxAllowed) (bytes : List UInt8) :
    refuseAbove functionName description count maxAllowed bytes = .ok ((), bytes) := by
  simp [refuseAbove, show ¬ maxAllowed < count by omega]

theorem refuseAbove_eq_ok {functionName description : String} {count maxAllowed : Nat}
    {bytes rest : List UInt8} {checkedUnit : Unit}
    (checked : refuseAbove functionName description count maxAllowed bytes = .ok (checkedUnit, rest)) :
    count ≤ maxAllowed ∧ rest = bytes := by
  unfold refuseAbove at checked
  split_ifs at checked with tooLarge
  · cases checked
  · simp only [Reader.pure_apply, Except.ok.injEq, Prod.mk.injEq] at checked
    exact ⟨by omega, checked.2.symm⟩

/-- `readScript`: a `VarInt` length, refused above `maxAllowed`, then that many bytes. -/
def readScript (maxAllowed : Nat) (fieldName : String) : Reader (List UInt8) := do
  let count ← readVarInt
  refuseAbove "readScript" (fieldName ++ " is larger than the max allowed size") count maxAllowed
  readFull count

/-- `WriteVarBytes`, which btcd's writers use for every script and witness item. -/
def writeVarBytes (bytes : List UInt8) : List UInt8 := writeVarInt bytes.length ++ bytes

theorem readScript_append (maxAllowed : Nat) (fieldName : String) (script rest : List UInt8)
    (scriptBound : script.length ≤ maxAllowed) (maxBound : maxAllowed < 2 ^ 64) :
    readScript maxAllowed fieldName (writeVarBytes script ++ rest) = .ok (script, rest) := by
  rw [readScript, writeVarBytes, List.append_assoc,
    Reader.bind_of_ok (readVarInt_append script.length _ (by omega)),
    Reader.bind_of_ok (refuseAbove_of_le _ _ scriptBound _)]
  exact readFull_append script rest

theorem readScript_eq_ok {maxAllowed : Nat} {fieldName : String} {bytes script rest : List UInt8}
    (read : readScript maxAllowed fieldName bytes = .ok (script, rest)) :
    bytes = writeVarBytes script ++ rest ∧ script.length ≤ maxAllowed := by
  obtain ⟨count, middle, countRead, continued⟩ := Reader.bind_eq_ok.mp read
  obtain ⟨rfl, -⟩ := readVarInt_eq_ok countRead
  obtain ⟨_, after, checked, scriptRead⟩ := Reader.bind_eq_ok.mp continued
  obtain ⟨bound, rfl⟩ := refuseAbove_eq_ok checked
  obtain ⟨rfl, rfl⟩ := readFull_eq_ok scriptRead
  exact ⟨by simp [writeVarBytes], bound⟩

/-! Counted loops: `for i := uint64(0); i < count; i++ { read one }`. -/

def readList {α : Type} (read : Reader α) : Nat → Reader (List α)
  | 0 => pure []
  | count + 1 => do
    let first ← read
    let others ← readList read count
    pure (first :: others)

section Codec

variable {α : Type} {read : Reader α} {encode : α → List UInt8} {valid : α → Prop}

theorem readList_append
    (inverse : ∀ value rest, valid value → read (encode value ++ rest) = .ok (value, rest)) :
    ∀ (values : List α) (rest : List UInt8), (∀ value ∈ values, valid value) →
      readList read values.length ((values.map encode).flatten ++ rest) = .ok (values, rest)
  | [], rest, _ => rfl
  | value :: values, rest, allValid => by
      have tail := readList_append inverse values rest
        (fun other member => allValid other (List.mem_cons_of_mem _ member))
      simp only [List.length_cons, readList, List.map_cons, List.flatten_cons, List.append_assoc,
        Reader.bind_apply, inverse value _ (allValid value (List.mem_cons_self _ _)), tail]
      rfl

theorem readList_eq_ok
    (sound : ∀ bytes value rest, read bytes = .ok (value, rest) →
      bytes = encode value ++ rest ∧ valid value) :
    ∀ (count : Nat) (bytes : List UInt8) (values : List α) (rest : List UInt8),
      readList read count bytes = .ok (values, rest) →
        bytes = (values.map encode).flatten ++ rest ∧ values.length = count ∧
          ∀ value ∈ values, valid value
  | 0, bytes, values, rest, listRead => by
      simp only [readList, Reader.pure_apply, Except.ok.injEq, Prod.mk.injEq] at listRead
      obtain ⟨rfl, rfl⟩ := listRead
      simp
  | count + 1, bytes, values, rest, listRead => by
      obtain ⟨first, middle, firstRead, continued⟩ := Reader.bind_eq_ok.mp listRead
      obtain ⟨others, after, othersRead, done⟩ := Reader.bind_eq_ok.mp continued
      simp only [Reader.pure_apply, Except.ok.injEq, Prod.mk.injEq] at done
      obtain ⟨rfl, rfl⟩ := done
      obtain ⟨rfl, firstValid⟩ := sound _ _ _ firstRead
      obtain ⟨rfl, othersLength, othersValid⟩ := readList_eq_ok sound count _ _ _ othersRead
      refine ⟨by simp, by simp [othersLength], ?_⟩
      rintro value (_ | ⟨_, member⟩)
      · exact firstValid
      · exact othersValid value member

theorem readList_eq_ok_rel {encodes : List UInt8 → α → Prop}
    (sound : ∀ bytes value rest, read bytes = .ok (value, rest) →
      ∃ encoding, bytes = encoding ++ rest ∧ encodes encoding value) :
    ∀ (count : Nat) (bytes : List UInt8) (values : List α) (rest : List UInt8),
      readList read count bytes = .ok (values, rest) →
        ∃ encodings : List (List UInt8), bytes = encodings.flatten ++ rest ∧
          values.length = count ∧ List.Forall₂ encodes encodings values
  | 0, bytes, values, rest, listRead => by
      simp only [readList, Reader.pure_apply, Except.ok.injEq, Prod.mk.injEq] at listRead
      obtain ⟨rfl, rfl⟩ := listRead
      exact ⟨[], rfl, rfl, .nil⟩
  | count + 1, bytes, values, rest, listRead => by
      obtain ⟨first, middle, firstRead, continued⟩ := Reader.bind_eq_ok.mp listRead
      obtain ⟨others, after, othersRead, done⟩ := Reader.bind_eq_ok.mp continued
      simp only [Reader.pure_apply, Except.ok.injEq, Prod.mk.injEq] at done
      obtain ⟨rfl, rfl⟩ := done
      obtain ⟨encoding, rfl, firstEncodes⟩ := sound _ _ _ firstRead
      obtain ⟨encodings, rfl, othersLength, othersEncode⟩ :=
        readList_eq_ok_rel sound count _ _ _ othersRead
      exact ⟨encoding :: encodings, by simp, by simp [othersLength], .cons firstEncodes othersEncode⟩

end Codec

end Bademeister
