import Bademeister.Zmq.Parse

/-! What `parseTransaction` computes: the fee, id and weight of the transaction at the front of
the first frame, without a panic. -/

namespace Bademeister

theorem MsgTx.length_encodeWith_pos (doWitness : Bool) (msg : MsgTx) :
    0 < (msg.encodeWith doWitness).length := by
  simp [MsgTx.encodeWith]

theorem littleEndianUint64_putUint64 (fee : UInt64) : littleEndianUint64 (putUint64 fee) = some fee :=
  littleEndianUint64_leBytes fee

theorem littleEndianUint64_eq_some {bytes : List UInt8} {fee : UInt64} (width : bytes.length = 8)
    (read : littleEndianUint64 bytes = some fee) : bytes = putUint64 fee := by
  simp only [littleEndianUint64, width, le_refl, if_true, List.take_of_length_le (le_of_eq width),
    Option.some.injEq] at read
  subst read
  have bound : leNat bytes < 256 ^ 8 := width ▸ leNat_lt bytes
  rw [putUint64, UInt64.toNat_ofNat_of_lt bound, ← width, leBytes_leNat]

theorem littleEndianUint64_isSome {bytes : List UInt8} (width : bytes.length = 8) :
    ∃ fee, littleEndianUint64 bytes = some fee := by
  simp [littleEndianUint64, width]

theorem sliceExpr_fee_split (rawtx fee : List UInt8) (feeLength : fee.length = 8) :
    sliceExpr (rawtx ++ fee) 0 ((rawtx ++ fee).length - 8) = some rawtx ∧
      sliceExpr (rawtx ++ fee) ((rawtx ++ fee).length - 8) (rawtx ++ fee).length = some fee := by
  have split : (rawtx ++ fee).length - 8 = rawtx.length := by simp [feeLength]
  rw [split, sliceExpr_prefix _ _ (by simp), sliceExpr_suffix _ _ (by simp)]
  simp

theorem deserialize_length_pos {rawtx unread : List UInt8} {wireTx : MsgTx}
    (decoded : MsgTx.deserialize rawtx = .ok (wireTx, unread)) : 0 < rawtx.length := by
  obtain ⟨doWitness, rfl, -⟩ := MsgTx.btcDecode_eq_ok decoded
  have := MsgTx.length_encodeWith_pos doWitness wireTx
  simp only [List.length_append]
  omega

section

variable (doubleHashH : List UInt8 → Hash32)

def transactionRecord (firstSeen : Time) (wireTx : MsgTx) (fee : UInt64) : Transaction :=
  { txID := wireTx.txHash doubleHashH, firstSeen, lastRemoved := none, fee,
    weight := wireTx.serializeSizeStripped * 3 + wireTx.serializeSize,
    blockHeight := 0, indexInBlock := 0 }

theorem parseTransaction_of_deserialize {rawtx unread : List UInt8} {wireTx : MsgTx}
    (decoded : MsgTx.deserialize rawtx = .ok (wireTx, unread)) (fee : UInt64)
    (sequence : List UInt8) (firstSeen : Time) :
    parseTransaction doubleHashH firstSeen [rawtx ++ putUint64 fee, sequence] =
      .ok (transactionRecord doubleHashH firstSeen wireTx fee) := by
  obtain ⟨rawtxSlice, feeSlice⟩ := sliceExpr_fee_split rawtx (putUint64 fee) (by simp [putUint64])
  have long : ¬ (rawtx ++ putUint64 fee).length ≤ 8 := by
    have := deserialize_length_pos decoded
    simp only [List.length_append, putUint64, length_leBytes]
    omega
  simp only [parseTransaction, List.length_cons, List.length_nil, ne_eq, not_true_eq_false,
    if_false, List.getElem?_cons_zero, List.getElem?_cons_succ, if_neg long, rawtxSlice,
    feeSlice, decoded, littleEndianUint64_putUint64, transactionRecord]

theorem parseTransaction_eq_ok {firstSeen : Time} {payload : List (List UInt8)} {tx : Transaction}
    (parsed : parseTransaction doubleHashH firstSeen payload = .ok tx) :
    ∃ rawtx sequence wireTx unread, payload = [rawtx ++ putUint64 tx.fee, sequence] ∧
      MsgTx.deserialize rawtx = .ok (wireTx, unread) ∧
      tx = transactionRecord doubleHashH firstSeen wireTx tx.fee := by
  unfold parseTransaction at parsed
  split_ifs at parsed with wrongLength
  obtain ⟨rawtxwithfee, sequence, rfl⟩ := List.length_eq_two.mp (not_not.mp wrongLength)
  simp only [List.getElem?_cons_zero, List.getElem?_cons_succ] at parsed
  split_ifs at parsed with short
  have split := List.take_append_drop (rawtxwithfee.length - 8) rawtxwithfee
  have feeWidth : (rawtxwithfee.drop (rawtxwithfee.length - 8)).length = 8 := by simp; omega
  rw [← split, (sliceExpr_fee_split _ _ feeWidth).1, (sliceExpr_fee_split _ _ feeWidth).2] at parsed
  dsimp only at parsed
  split at parsed
  · cases parsed
  · rename_i wireTx unread decoded
    obtain ⟨fee, feeRead⟩ := littleEndianUint64_isSome feeWidth
    simp only [feeRead, Outcome.ok.injEq] at parsed
    subst parsed
    refine ⟨_, sequence, wireTx, unread, ?_, decoded, rfl⟩
    rw [← littleEndianUint64_eq_some feeWidth feeRead, split]

theorem parseTransaction_not_panic (firstSeen : Time) (payload : List (List UInt8)) :
    (parseTransaction doubleHashH firstSeen payload).isPanic = false := by
  unfold parseTransaction
  split_ifs with wrongLength
  · rfl
  obtain ⟨rawtxwithfee, sequence, rfl⟩ := List.length_eq_two.mp (not_not.mp wrongLength)
  simp only [List.getElem?_cons_zero, List.getElem?_cons_succ]
  split_ifs with short
  · rfl
  have split := List.take_append_drop (rawtxwithfee.length - 8) rawtxwithfee
  have feeWidth : (rawtxwithfee.drop (rawtxwithfee.length - 8)).length = 8 := by simp; omega
  rw [← split, (sliceExpr_fee_split _ _ feeWidth).1, (sliceExpr_fee_split _ _ feeWidth).2]
  dsimp only
  split
  · rfl
  · obtain ⟨fee, feeRead⟩ := littleEndianUint64_isSome feeWidth
    simp [feeRead, Outcome.isPanic]

theorem parseTransaction_serialize (tx : MsgTx) (fee : UInt64) (sequence : List UInt8)
    (firstSeen : Time) (decodable : tx.Decodable) :
    parseTransaction doubleHashH firstSeen [tx.serialize ++ putUint64 fee, sequence] =
      .ok { txID := doubleHashH tx.serializeNoWitness, firstSeen, lastRemoved := none, fee,
            weight := 3 * tx.serializeNoWitness.length + tx.serialize.length,
            blockHeight := 0, indexInBlock := 0 } := by
  have decoded : MsgTx.deserialize tx.serialize = .ok (tx, []) := by
    simpa using MsgTx.deserialize_serialize tx [] decodable.limits decodable.inputs
  rw [parseTransaction_of_deserialize doubleHashH decoded, transactionRecord, MsgTx.txHash,
    MsgTx.serializeSizeStripped_eq_length, MsgTx.serializeSize_eq_length, Nat.mul_comm]

end

def sampleTx : MsgTx :=
  { version := 1,
    txIn := [{ previousOutPoint := { hash := zeroHash, index := 0 }, signatureScript := [0x51],
               witness := [], sequence := 0xffffffff }],
    txOut := [{ value := 5000, pkScript := [0x51] }],
    lockTime := 0 }

theorem sampleTx_decodable : sampleTx.Decodable :=
  ⟨⟨by decide, by decide, by decide, by decide, by decide, by decide⟩, by simp [sampleTx]⟩

theorem sampleTx_deserialize (rest : List UInt8) :
    MsgTx.deserialize (sampleTx.serialize ++ rest) = .ok (sampleTx, rest) :=
  MsgTx.deserialize_serialize sampleTx rest sampleTx_decodable.limits sampleTx_decodable.inputs

theorem parseTransaction_serialize_sampleTx :
    sampleTx.Decodable ∧
      parseTransaction (fun _ => zeroHash) ⟨0⟩ [sampleTx.serialize ++ putUint64 7, [1, 0]] =
        .ok { txID := zeroHash, firstSeen := ⟨0⟩, lastRemoved := none, fee := 7,
              weight := 3 * sampleTx.serializeNoWitness.length + sampleTx.serialize.length,
              blockHeight := 0, indexInBlock := 0 } :=
  ⟨sampleTx_decodable,
    parseTransaction_serialize (fun _ => zeroHash) sampleTx 7 [1, 0] ⟨0⟩ sampleTx_decodable⟩

section

variable (doubleHashH : List UInt8 → Hash32)

/-- The weight `parseTransaction` records is at most four units per byte of the transaction
part of the frame, and exactly four per byte when that part is the decoded transaction's
serialization without witness data and nothing more. -/
theorem parseTransaction_weight {firstSeen : Time} {payload : List (List UInt8)} {tx : Transaction}
    (parsed : parseTransaction doubleHashH firstSeen payload = .ok tx) :
    ∃ rawtx sequence wireTx unread, payload = [rawtx ++ putUint64 tx.fee, sequence] ∧
      MsgTx.deserialize rawtx = .ok (wireTx, unread) ∧ tx.weight ≤ 4 * rawtx.length ∧
      (tx.weight = 4 * rawtx.length ↔ rawtx = wireTx.serializeNoWitness) := by
  obtain ⟨rawtx, sequence, wireTx, unread, rfl, decoded, record⟩ :=
    parseTransaction_eq_ok doubleHashH parsed
  obtain ⟨doWitness, split, -, unmarked⟩ := MsgTx.btcDecode_eq_ok decoded
  refine ⟨rawtx, sequence, wireTx, unread, rfl, decoded, ?_⟩
  have weight : tx.weight = wireTx.baseSize * 3 + wireTx.serializeSize := by
    rw [record]
    rfl
  have stripped : wireTx.serializeNoWitness.length = wireTx.baseSize := by
    simp [MsgTx.serializeNoWitness_eq, MsgTx.length_encodeWith]
  have length : rawtx.length = (wireTx.encodeWith doWitness).length + unread.length := by
    rw [split, List.length_append]
  rw [MsgTx.length_encodeWith] at length
  cases doWitness with
  | false =>
      have noWitness : wireTx.hasWitness = false := by
        simpa [MsgTx.hasWitness] using (unmarked rfl).2
      have legacy : rawtx = wireTx.serializeNoWitness ↔ unread.length = 0 := by
        rw [split, MsgTx.serializeNoWitness_eq, List.append_right_eq_self, List.length_eq_zero]
      simp only [MsgTx.serializeSize, noWitness, if_false, Bool.false_eq_true] at length weight
      rw [legacy]
      omega
  | true =>
      have sized : wireTx.serializeSize ≤ wireTx.baseSize +
          (2 + (wireTx.txIn.map fun txIn => witnessSerializeSize txIn.witness).sum) := by
        unfold MsgTx.serializeSize
        split <;> omega
      simp only [if_true] at length
      refine ⟨by omega, fun equal => by omega, fun legacy => ?_⟩
      have := congrArg List.length legacy
      omega

end

theorem parseTransaction_weight_sampleTx :
    ∃ tx, parseTransaction (fun _ => zeroHash) ⟨0⟩ [sampleTx.serialize ++ putUint64 7, [1, 0]] =
        .ok tx ∧
      ∃ rawtx sequence wireTx unread,
        [sampleTx.serialize ++ putUint64 7, [1, 0]] = [rawtx ++ putUint64 tx.fee, sequence] ∧
        MsgTx.deserialize rawtx = .ok (wireTx, unread) ∧ tx.weight ≤ 4 * rawtx.length ∧
        (tx.weight = 4 * rawtx.length ↔ rawtx = wireTx.serializeNoWitness) := by
  have decoded : MsgTx.deserialize sampleTx.serialize = .ok (sampleTx, []) := by
    simpa using sampleTx_deserialize []
  have parsed := parseTransaction_of_deserialize (fun _ => zeroHash) decoded 7 [1, 0] ⟨0⟩
  exact ⟨_, parsed, parseTransaction_weight _ parsed⟩

end Bademeister
