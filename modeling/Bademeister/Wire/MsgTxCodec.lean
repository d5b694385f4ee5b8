import Bademeister.Wire.MsgTx

/-! The two laws of the transaction codec: decoding a serialized transaction gives it back, and a
successful decode consumed an encoding of what it returns. -/

namespace Bademeister

def TxIn.stripped (txIn : TxIn) : TxIn := { txIn with witness := [] }

@[simp] theorem writeTxIn_stripped (txIn : TxIn) : writeTxIn txIn.stripped = writeTxIn txIn := rfl

@[simp] theorem TxIn.stripped_witness (txIn : TxIn) : txIn.stripped.witness = [] := rfl

theorem TxIn.stripped_of_witness_nil {txIn : TxIn} (empty : txIn.witness = []) :
    txIn.stripped = txIn := by
  cases txIn
  simp_all [TxIn.stripped]

/-! Fields and records. -/

theorem readOutPoint_append (outPoint : OutPoint) (rest : List UInt8) :
    readOutPoint (writeOutPoint outPoint ++ rest) = .ok (outPoint, rest) := by
  rw [readOutPoint, writeOutPoint, List.append_assoc, Reader.bind_of_ok (readHash_append _ _),
    Reader.bind_of_ok (readUint32_append _ _)]
  rfl

theorem readOutPoint_eq_ok {outPoint : OutPoint} {bytes rest : List UInt8}
    (read : readOutPoint bytes = .ok (outPoint, rest)) : bytes = writeOutPoint outPoint ++ rest := by
  obtain ⟨hash, middle, hashRead, continued⟩ := Reader.bind_eq_ok.mp read
  obtain ⟨index, after, indexRead, done⟩ := Reader.bind_eq_ok.mp continued
  simp only [Reader.pure_apply, Except.ok.injEq, Prod.mk.injEq] at done
  obtain ⟨rfl, rfl⟩ := done
  rw [readHash_eq_ok hashRead, readUint32_eq_ok indexRead]
  simp [writeOutPoint]

theorem readTxIn_append (txIn : TxIn) (rest : List UInt8)
    (scriptBound : txIn.signatureScript.length ≤ maxMessagePayload) :
    readTxIn (writeTxIn txIn ++ rest) = .ok (txIn.stripped, rest) := by
  rw [readTxIn, writeTxIn, List.append_assoc, List.append_assoc,
    Reader.bind_of_ok (readOutPoint_append _ _),
    Reader.bind_of_ok (readScript_append _ _ _ _ scriptBound (by decide)),
    Reader.bind_of_ok (readUint32_append _ _)]
  rfl

theorem readTxIn_eq_ok {txIn : TxIn} {bytes rest : List UInt8}
    (read : readTxIn bytes = .ok (txIn, rest)) :
    bytes = writeTxIn txIn ++ rest ∧ txIn.witness = [] ∧
      txIn.signatureScript.length ≤ maxMessagePayload := by
  obtain ⟨outPoint, middle, outPointRead, continued⟩ := Reader.bind_eq_ok.mp read
  obtain ⟨script, after, scriptRead, continued⟩ := Reader.bind_eq_ok.mp continued
  obtain ⟨sequence, last, sequenceRead, done⟩ := Reader.bind_eq_ok.mp continued
  simp only [Reader.pure_apply, Except.ok.injEq, Prod.mk.injEq] at done
  obtain ⟨rfl, rfl⟩ := done
  obtain ⟨rfl, scriptBound⟩ := readScript_eq_ok scriptRead
  rw [readOutPoint_eq_ok outPointRead, readUint32_eq_ok sequenceRead]
  exact ⟨by simp [writeTxIn], rfl, scriptBound⟩

theorem readTxOut_append (txOut : TxOut) (rest : List UInt8)
    (scriptBound : txOut.pkScript.length ≤ maxMessagePayload) :
    readTxOut (writeTxOut txOut ++ rest) = .ok (txOut, rest) := by
  rw [readTxOut, writeTxOut, List.append_assoc, Reader.bind_of_ok (readUint64_append _ _),
    Reader.bind_of_ok (readScript_append _ _ _ _ scriptBound (by decide))]
  rfl

theorem readTxOut_eq_ok {txOut : TxOut} {bytes rest : List UInt8}
    (read : readTxOut bytes = .ok (txOut, rest)) :
    bytes = writeTxOut txOut ++ rest ∧ txOut.pkScript.length ≤ maxMessagePayload := by
  obtain ⟨value, middle, valueRead, continued⟩ := Reader.bind_eq_ok.mp read
  obtain ⟨script, after, scriptRead, done⟩ := Reader.bind_eq_ok.mp continued
  simp only [Reader.pure_apply, Except.ok.injEq, Prod.mk.injEq] at done
  obtain ⟨rfl, rfl⟩ := done
  obtain ⟨rfl, scriptBound⟩ := readScript_eq_ok scriptRead
  rw [readUint64_eq_ok valueRead]
  exact ⟨by simp [writeTxOut], scriptBound⟩

theorem readTxWitness_append (witness : List (List UInt8)) (rest : List UInt8)
    (countBound : witness.length ≤ maxWitnessItemsPerInput)
    (itemBound : ∀ item ∈ witness, item.length ≤ maxWitnessItemSize) :
    readTxWitness (writeTxWitness witness ++ rest) = .ok (witness, rest) := by
  rw [readTxWitness, writeTxWitness, List.append_assoc,
    Reader.bind_of_ok (readVarInt_append _ _ (lt_of_le_of_lt countBound (by decide))),
    Reader.bind_of_ok (refuseAbove_of_le _ _ countBound _)]
  exact readList_append (fun item rest bound => readScript_append _ _ item rest bound (by decide))
    witness rest itemBound

theorem readTxWitness_eq_ok {witness : List (List UInt8)} {bytes rest : List UInt8}
    (read : readTxWitness bytes = .ok (witness, rest)) :
    bytes = writeTxWitness witness ++ rest ∧ witness.length ≤ maxWitnessItemsPerInput ∧
      ∀ item ∈ witness, item.length ≤ maxWitnessItemSize := by
  obtain ⟨count, middle, countRead, continued⟩ := Reader.bind_eq_ok.mp read
  obtain ⟨_, after, checked, itemsRead⟩ := Reader.bind_eq_ok.mp continued
  obtain ⟨countBound, rfl⟩ := refuseAbove_eq_ok checked
  obtain ⟨rfl, -⟩ := readVarInt_eq_ok countRead
  obtain ⟨rfl, itemCount, itemBound⟩ :=
    readList_eq_ok (fun _ _ _ itemRead => readScript_eq_ok itemRead) _ _ _ _ itemsRead
  exact ⟨by simp [writeTxWitness, itemCount], itemCount ▸ countBound, itemBound⟩

theorem writeWitnesses_cons (txIn : TxIn) (others : List TxIn) :
    writeWitnesses (txIn :: others) = writeTxWitness txIn.witness ++ writeWitnesses others := rfl

theorem readWitnesses_append (rest : List UInt8) : ∀ (txIns : List TxIn),
    (∀ txIn ∈ txIns, txIn.witness.length ≤ maxWitnessItemsPerInput) →
    (∀ txIn ∈ txIns, ∀ item ∈ txIn.witness, item.length ≤ maxWitnessItemSize) →
    readWitnesses (txIns.map TxIn.stripped) (writeWitnesses txIns ++ rest) = .ok (txIns, rest)
  | [], _, _ => rfl
  | txIn :: others, countBound, itemBound => by
      have tail := readWitnesses_append rest others
        (fun other member => countBound other (List.mem_cons_of_mem _ member))
        (fun other member => itemBound other (List.mem_cons_of_mem _ member))
      rw [List.map_cons, readWitnesses, writeWitnesses_cons, List.append_assoc,
        Reader.bind_of_ok (readTxWitness_append _ _ (countBound txIn (List.mem_cons_self _ _))
          (itemBound txIn (List.mem_cons_self _ _))),
        Reader.bind_of_ok tail]
      rfl

theorem readWitnesses_eq_ok : ∀ (txIns : List TxIn) {bytes rest : List UInt8} {filled : List TxIn},
    readWitnesses txIns bytes = .ok (filled, rest) →
      filled.map TxIn.stripped = txIns.map TxIn.stripped ∧ bytes = writeWitnesses filled ++ rest ∧
        (∀ txIn ∈ filled, txIn.witness.length ≤ maxWitnessItemsPerInput) ∧
        (∀ txIn ∈ filled, ∀ item ∈ txIn.witness, item.length ≤ maxWitnessItemSize)
  | [], bytes, rest, filled, read => by
      simp only [readWitnesses, Reader.pure_apply, Except.ok.injEq, Prod.mk.injEq] at read
      obtain ⟨rfl, rfl⟩ := read
      simp [writeWitnesses]
  | txIn :: others, bytes, rest, filled, read => by
      obtain ⟨witness, middle, witnessRead, continued⟩ := Reader.bind_eq_ok.mp read
      obtain ⟨tail, after, tailRead, done⟩ := Reader.bind_eq_ok.mp continued
      simp only [Reader.pure_apply, Except.ok.injEq, Prod.mk.injEq] at done
      obtain ⟨rfl, rfl⟩ := done
      obtain ⟨rfl, countBound, itemBound⟩ := readTxWitness_eq_ok witnessRead
      obtain ⟨tailStripped, rfl, tailCount, tailItems⟩ := readWitnesses_eq_ok others tailRead
      refine ⟨?_, by simp [writeWitnesses], ?_, ?_⟩
      · simp only [List.map_cons, tailStripped]
        rfl
      · rintro other (_ | ⟨_, member⟩)
        exacts [countBound, tailCount other member]
      · rintro other (_ | ⟨_, member⟩)
        exacts [itemBound, tailItems other member]

theorem readTxIns_append (txIns : List TxIn) (rest : List UInt8)
    (countBound : txIns.length ≤ maxTxInPerMessage)
    (scriptBound : ∀ txIn ∈ txIns, txIn.signatureScript.length ≤ maxMessagePayload) :
    readTxIns txIns.length ((txIns.map writeTxIn).flatten ++ rest) =
      .ok (txIns.map TxIn.stripped, rest) := by
  rw [readTxIns, Reader.bind_of_ok (refuseAbove_of_le _ _ countBound _)]
  have read := @readList_append _ readTxIn writeTxIn
    (fun txIn => txIn.witness = [] ∧ txIn.signatureScript.length ≤ maxMessagePayload)
    (fun txIn rest valid => by
      rw [readTxIn_append _ rest valid.2, TxIn.stripped_of_witness_nil valid.1])
    (txIns.map TxIn.stripped) rest (by simpa [TxIn.stripped] using scriptBound)
  simpa [List.map_map, Function.comp_def] using read

theorem readTxIns_eq_ok {count : Nat} {bytes rest : List UInt8} {txIns : List TxIn}
    (read : readTxIns count bytes = .ok (txIns, rest)) :
    bytes = (txIns.map writeTxIn).flatten ++ rest ∧ txIns.length = count ∧
      count ≤ maxTxInPerMessage ∧ (∀ txIn ∈ txIns, txIn.witness = []) ∧
      ∀ txIn ∈ txIns, txIn.signatureScript.length ≤ maxMessagePayload := by
  obtain ⟨_, middle, checked, listRead⟩ := Reader.bind_eq_ok.mp read
  obtain ⟨countBound, rfl⟩ := refuseAbove_eq_ok checked
  obtain ⟨rfl, length, valid⟩ := @readList_eq_ok _ _ _
    (fun txIn => txIn.witness = [] ∧ txIn.signatureScript.length ≤ maxMessagePayload)
    (fun _ _ _ txInRead => readTxIn_eq_ok txInRead) _ _ _ _ listRead
  exact ⟨rfl, length, countBound, fun txIn member => (valid txIn member).1,
    fun txIn member => (valid txIn member).2⟩

theorem readTxOuts_append (txOuts : List TxOut) (rest : List UInt8)
    (countBound : txOuts.length ≤ maxTxOutPerMessage)
    (scriptBound : ∀ txOut ∈ txOuts, txOut.pkScript.length ≤ maxMessagePayload) :
    readTxOuts (writeVarInt txOuts.length ++ (txOuts.map writeTxOut).flatten ++ rest) =
      .ok (txOuts, rest) := by
  rw [readTxOuts, List.append_assoc,
    Reader.bind_of_ok (readVarInt_append _ _ (lt_of_le_of_lt countBound (by decide))),
    Reader.bind_of_ok (refuseAbove_of_le _ _ countBound _)]
  exact readList_append (fun txOut rest bound => readTxOut_append txOut rest bound) txOuts rest
    scriptBound

theorem readTxOuts_eq_ok {bytes rest : List UInt8} {txOuts : List TxOut}
    (read : readTxOuts bytes = .ok (txOuts, rest)) :
    bytes = writeVarInt txOuts.length ++ (txOuts.map writeTxOut).flatten ++ rest ∧
      txOuts.length ≤ maxTxOutPerMessage ∧
      ∀ txOut ∈ txOuts, txOut.pkScript.length ≤ maxMessagePayload := by
  obtain ⟨count, middle, countRead, continued⟩ := Reader.bind_eq_ok.mp read
  obtain ⟨_, after, checked, listRead⟩ := Reader.bind_eq_ok.mp continued
  obtain ⟨countBound, rfl⟩ := refuseAbove_eq_ok checked
  obtain ⟨rfl, -⟩ := readVarInt_eq_ok countRead
  obtain ⟨rfl, length, valid⟩ :=
    readList_eq_ok (fun _ _ _ txOutRead => readTxOut_eq_ok txOutRead) _ _ _ _ listRead
  exact ⟨by simp [length], length ▸ countBound, valid⟩

/-! The input count and the witness marker. -/

theorem marker_eq : ([0x00, 0x01] : List UInt8) = writeVarInt txFlagMarker ++ leBytes 1 witnessFlag := by
  decide

theorem readTxInCount_append (count : Nat) (rest : List UInt8) (nonzero : count ≠ 0)
    (bound : count < 2 ^ 64) :
    readTxInCount .witnessEncoding (writeVarInt count ++ rest) = .ok ((0, count), rest) := by
  rw [readTxInCount, Reader.bind_of_ok (readVarInt_append count rest bound),
    if_neg (by simp [txFlagMarker, nonzero])]
  rfl

theorem readTxInCount_marker_append (count : Nat) (rest : List UInt8) (bound : count < 2 ^ 64) :
    readTxInCount .witnessEncoding ([0x00, 0x01] ++ (writeVarInt count ++ rest)) =
      .ok ((1, count), rest) := by
  rw [marker_eq, List.append_assoc, readTxInCount,
    Reader.bind_of_ok (readVarInt_append txFlagMarker _ (by decide)), if_pos ⟨rfl, rfl⟩,
    Reader.bind_of_ok (readUint_append 1 witnessFlag _ (by decide)), if_neg (by decide),
    Reader.bind_of_ok (readVarInt_append count rest bound)]
  rfl

theorem readTxInCount_eq_ok {flag count : Nat} {bytes rest : List UInt8}
    (read : readTxInCount .witnessEncoding bytes = .ok ((flag, count), rest)) :
    count < 2 ^ 64 ∧
      ((flag = 0 ∧ count ≠ 0 ∧ bytes = writeVarInt count ++ rest) ∨
        (flag = 1 ∧ bytes = [0x00, 0x01] ++ (writeVarInt count ++ rest))) := by
  obtain ⟨first, middle, firstRead, continued⟩ := Reader.bind_eq_ok.mp read
  obtain ⟨rfl, firstBound⟩ := readVarInt_eq_ok firstRead
  split_ifs at continued with marked
  · obtain ⟨flagByte, after, flagRead, flagChecked⟩ := Reader.bind_eq_ok.mp continued
    obtain ⟨rfl, -⟩ := readUint_eq_ok flagRead
    split_ifs at flagChecked with wrongFlag
    · cases flagChecked
    · obtain ⟨second, last, secondRead, done⟩ := Reader.bind_eq_ok.mp flagChecked
      simp only [Reader.pure_apply, Except.ok.injEq, Prod.mk.injEq] at done
      obtain ⟨⟨rfl, rfl⟩, rfl⟩ := done
      obtain ⟨rfl, secondBound⟩ := readVarInt_eq_ok secondRead
      refine ⟨secondBound, .inr ⟨by simpa [witnessFlag] using wrongFlag, ?_⟩⟩
      rw [marker_eq, marked.1, not_not.mp wrongFlag]
      simp only [List.append_assoc]
  · simp only [Reader.pure_apply, Except.ok.injEq, Prod.mk.injEq] at continued
    obtain ⟨⟨rfl, rfl⟩, rfl⟩ := continued
    exact ⟨firstBound, .inl ⟨rfl, by simpa [txFlagMarker] using marked, rfl⟩⟩

/-! Whole transactions. -/

theorem MsgTx.encodeWith_append (doWitness : Bool) (msg : MsgTx) (rest : List UInt8) :
    msg.encodeWith doWitness ++ rest =
      putUint32 msg.version ++ ((if doWitness then [0x00, 0x01] else []) ++
        (writeVarInt msg.txIn.length ++ ((msg.txIn.map writeTxIn).flatten ++
          (writeVarInt msg.txOut.length ++ (msg.txOut.map writeTxOut).flatten ++
            ((if doWitness then writeWitnesses msg.txIn else []) ++
              (putUint32 msg.lockTime ++ rest)))))) := by
  simp [MsgTx.encodeWith]

theorem map_stripped_eq_self {txIns : List TxIn} (empty : ∀ txIn ∈ txIns, txIn.witness = []) :
    txIns.map TxIn.stripped = txIns := by
  conv => rhs; rw [← List.map_id txIns]
  exact List.map_congr_left fun txIn member => TxIn.stripped_of_witness_nil (empty txIn member)

theorem map_writeTxIn_of_stripped {filled txIns : List TxIn}
    (same : filled.map TxIn.stripped = txIns.map TxIn.stripped) :
    filled.map writeTxIn = txIns.map writeTxIn := by
  have mapped := congrArg (List.map writeTxIn) same
  simpa [List.map_map, Function.comp_def] using mapped

theorem signatureScript_of_stripped {filled txIns : List TxIn}
    (same : filled.map TxIn.stripped = txIns.map TxIn.stripped) {bound : Nat}
    (bounded : ∀ txIn ∈ txIns, txIn.signatureScript.length ≤ bound) :
    ∀ txIn ∈ filled, txIn.signatureScript.length ≤ bound := by
  intro txIn member
  have strippedMember := List.mem_map_of_mem TxIn.stripped member
  rw [same] at strippedMember
  obtain ⟨original, originalMember, originalEq⟩ := List.mem_map.mp strippedMember
  have sameScript := congrArg TxIn.signatureScript originalEq
  simp only [TxIn.stripped] at sameScript
  exact sameScript ▸ bounded original originalMember

theorem MsgTx.btcDecode_encodeWith (doWitness : Bool) (msg : MsgTx) (rest : List UInt8)
    (limits : msg.WithinLimits)
    (unmarked : doWitness = false → msg.txIn ≠ [] ∧ ∀ txIn ∈ msg.txIn, txIn.witness = []) :
    MsgTx.btcDecode .witnessEncoding (msg.encodeWith doWitness ++ rest) = .ok (msg, rest) := by
  have countBound : msg.txIn.length < 2 ^ 64 := lt_of_le_of_lt limits.txIn_length (by decide)
  rw [MsgTx.encodeWith_append, MsgTx.btcDecode, Reader.bind_of_ok (readUint32_append _ _)]
  cases doWitness with
  | false =>
      obtain ⟨inputs, empty⟩ := unmarked rfl
      rw [if_neg Bool.false_ne_true, if_neg Bool.false_ne_true, List.nil_append, List.nil_append,
        Reader.bind_of_ok (readTxInCount_append _ _ (by simpa using inputs) countBound)]
      dsimp only
      rw [Reader.bind_of_ok (readTxIns_append _ _ limits.txIn_length limits.signatureScript_length),
        Reader.bind_of_ok (readTxOuts_append _ _ limits.txOut_length limits.pkScript_length),
        if_neg (by simp), map_stripped_eq_self empty, Reader.bind_of_ok (Reader.pure_apply _ _),
        Reader.bind_of_ok (readUint32_append _ _)]
      rfl
  | true =>
      rw [if_pos rfl, if_pos rfl, Reader.bind_of_ok (readTxInCount_marker_append _ _ countBound)]
      dsimp only
      rw [Reader.bind_of_ok (readTxIns_append _ _ limits.txIn_length limits.signatureScript_length),
        Reader.bind_of_ok (readTxOuts_append _ _ limits.txOut_length limits.pkScript_length),
        if_pos (by simp [witnessFlag]),
        Reader.bind_of_ok (readWitnesses_append _ _ limits.witness_length limits.witnessItem_length),
        Reader.bind_of_ok (readUint32_append _ _)]
      rfl

theorem MsgTx.deserialize_serialize (msg : MsgTx) (rest : List UInt8) (limits : msg.WithinLimits)
    (inputs : msg.txIn ≠ []) : MsgTx.deserialize (msg.serialize ++ rest) = .ok (msg, rest) := by
  apply MsgTx.btcDecode_encodeWith _ msg rest limits
  intro unmarked
  refine ⟨inputs, fun txIn member => ?_⟩
  have noWitness : msg.hasWitness = false := by simpa using unmarked
  simp only [MsgTx.hasWitness, List.any_eq_false, Bool.not_eq_true', List.isEmpty_eq_false] at noWitness
  simpa using noWitness txIn member

theorem MsgTx.btcDecode_eq_ok {msg : MsgTx} {bytes rest : List UInt8}
    (read : MsgTx.btcDecode .witnessEncoding bytes = .ok (msg, rest)) :
    ∃ doWitness, bytes = msg.encodeWith doWitness ++ rest ∧ msg.WithinLimits ∧
      (doWitness = false → msg.txIn ≠ [] ∧ ∀ txIn ∈ msg.txIn, txIn.witness = []) := by
  obtain ⟨version, afterVersion, versionRead, countNext⟩ := Reader.bind_eq_ok.mp read
  obtain ⟨⟨flag, count⟩, afterCount, countRead, insNext⟩ := Reader.bind_eq_ok.mp countNext
  obtain ⟨txIns, afterIns, txInsRead, outsNext⟩ := Reader.bind_eq_ok.mp insNext
  obtain ⟨txOuts, afterOuts, txOutsRead, witnessNext⟩ := Reader.bind_eq_ok.mp outsNext
  obtain ⟨-, header⟩ := readTxInCount_eq_ok countRead
  obtain ⟨rfl, insLength, insBound, insEmpty, insScripts⟩ := readTxIns_eq_ok txInsRead
  subst insLength
  obtain ⟨rfl, outsBound, outsScripts⟩ := readTxOuts_eq_ok txOutsRead
  rw [readUint32_eq_ok versionRead]
  split_ifs at witnessNext with marked
  · obtain ⟨filled, afterWitness, filledRead, lockTimeNext⟩ := Reader.bind_eq_ok.mp witnessNext
    obtain ⟨lockTime, last, lockTimeRead, done⟩ := Reader.bind_eq_ok.mp lockTimeNext
    simp only [Reader.pure_apply, Except.ok.injEq, Prod.mk.injEq] at done
    obtain ⟨rfl, rfl⟩ := done
    rcases header with ⟨rfl, -, -⟩ | ⟨rfl, rfl⟩
    · exact absurd rfl marked.1
    obtain ⟨same, rfl, witnessCount, witnessItems⟩ := readWitnesses_eq_ok txIns filledRead
    have sameLength : filled.length = txIns.length := by
      simpa using congrArg List.length same
    refine ⟨true, ?_, ⟨sameLength ▸ insBound, outsBound, signatureScript_of_stripped same insScripts,
      outsScripts, witnessCount, witnessItems⟩, fun impossible => absurd impossible (by simp)⟩
    simp [readUint32_eq_ok lockTimeRead, MsgTx.encodeWith, map_writeTxIn_of_stripped same,
      sameLength, List.append_assoc]
  · obtain ⟨unchanged, afterWitness, unchangedRead, lockTimeNext⟩ := Reader.bind_eq_ok.mp witnessNext
    simp only [Reader.pure_apply, Except.ok.injEq, Prod.mk.injEq] at unchangedRead
    obtain ⟨rfl, rfl⟩ := unchangedRead
    obtain ⟨lockTime, last, lockTimeRead, done⟩ := Reader.bind_eq_ok.mp lockTimeNext
    simp only [Reader.pure_apply, Except.ok.injEq, Prod.mk.injEq] at done
    obtain ⟨rfl, rfl⟩ := done
    rcases header with ⟨rfl, nonzero, rfl⟩ | ⟨rfl, -⟩
    · refine ⟨false, ?_, ⟨insBound, outsBound, insScripts, outsScripts, ?_, ?_⟩,
        fun _ => ⟨?_, insEmpty⟩⟩
      · simp [readUint32_eq_ok lockTimeRead, MsgTx.encodeWith, List.append_assoc]
      · intro txIn member
        simp [insEmpty txIn member]
      · intro txIn member item itemMember
        simp [insEmpty txIn member] at itemMember
      · exact fun empty => by simp_all
    · exact absurd ⟨one_ne_zero, rfl⟩ marked

/-! The size formulas measure the encodings. -/

@[simp] theorem length_putUint32 (value : UInt32) : (putUint32 value).length = 4 := by
  simp [putUint32]

@[simp] theorem length_putUint64 (value : UInt64) : (putUint64 value).length = 8 := by
  simp [putUint64]

@[simp] theorem length_writeVarBytes (bytes : List UInt8) :
    (writeVarBytes bytes).length = varIntSerializeSize bytes.length + bytes.length := by
  simp [writeVarBytes, length_writeVarInt]

@[simp] theorem length_writeTxIn (txIn : TxIn) : (writeTxIn txIn).length = txIn.serializeSize := by
  simp [writeTxIn, writeOutPoint, TxIn.serializeSize, txIn.previousOutPoint.hash.length_eq]
  omega

@[simp] theorem length_writeTxOut (txOut : TxOut) :
    (writeTxOut txOut).length = txOut.serializeSize := by
  simp [writeTxOut, TxOut.serializeSize, Nat.add_assoc]

@[simp] theorem length_writeTxWitness (witness : List (List UInt8)) :
    (writeTxWitness witness).length = witnessSerializeSize witness := by
  simp [writeTxWitness, witnessSerializeSize, length_writeVarInt, List.map_map, Function.comp_def]

@[simp] theorem length_comp_writeTxIn : List.length ∘ writeTxIn = TxIn.serializeSize :=
  funext length_writeTxIn

@[simp] theorem length_comp_writeTxOut : List.length ∘ writeTxOut = TxOut.serializeSize :=
  funext length_writeTxOut

@[simp] theorem length_writeWitnesses (txIns : List TxIn) :
    (writeWitnesses txIns).length = (txIns.map fun txIn => witnessSerializeSize txIn.witness).sum := by
  induction txIns with
  | nil => rfl
  | cons txIn others ih => simp [writeWitnesses_cons, ih]

theorem MsgTx.length_encodeWith (doWitness : Bool) (msg : MsgTx) :
    (msg.encodeWith doWitness).length =
      msg.baseSize +
        if doWitness then 2 + (msg.txIn.map fun txIn => witnessSerializeSize txIn.witness).sum
        else 0 := by
  cases doWitness <;>
    simp [MsgTx.encodeWith, MsgTx.baseSize, length_writeVarInt, List.map_map] <;>
    omega

theorem MsgTx.serializeSize_eq_length (msg : MsgTx) : msg.serializeSize = msg.serialize.length := by
  simp [MsgTx.serializeSize, MsgTx.serialize, MsgTx.btcEncode, MsgTx.length_encodeWith]

theorem MsgTx.serializeNoWitness_eq (msg : MsgTx) :
    msg.serializeNoWitness = msg.encodeWith false := by
  simp [MsgTx.serializeNoWitness, MsgTx.btcEncode]

theorem MsgTx.serializeSizeStripped_eq_length (msg : MsgTx) :
    msg.serializeSizeStripped = msg.serializeNoWitness.length := by
  simp [MsgTx.serializeSizeStripped, MsgTx.serializeNoWitness, MsgTx.btcEncode,
    MsgTx.length_encodeWith]

end Bademeister
