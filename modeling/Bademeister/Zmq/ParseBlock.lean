import Bademeister.Zmq.Height
import Bademeister.Zmq.ParseTransaction

/-! What `parseBlock` and `processMessage` compute: a `rawblock` message with fewer than two frames
panics, and a successful decode read a block from the front of the first frame. -/

namespace Bademeister

theorem isCoinBaseTx_txIn {t : MsgTx} (coinbase : isCoinBaseTx t = true) :
    ∃ txIn, t.txIn = [txIn] := by
  unfold isCoinBaseTx at coinbase
  split at coinbase
  · exact ⟨_, ‹_›⟩
  · cases coinbase

/-- `wire.OutPoint{Hash: zeroHash, Index: math.MaxUint32}`, the outpoint a coinbase spends. -/
def nullOutPoint : OutPoint := { hash := zeroHash, index := 0xffffffff }

/-- A decodable block whose first transaction is its only coinbase, with the one input
`txIn` spending the null outpoint. -/
structure CoinbaseBlock where
  header : BlockHeader
  coinbaseTx : MsgTx
  txIn : TxIn
  others : List MsgTx
  single : coinbaseTx.txIn = [txIn]
  null : txIn.previousOutPoint = nullOutPoint
  onlyCoinbase : ∀ t ∈ others, isCoinBaseTx t = false
  decodable : MsgBlock.Decodable ⟨header, coinbaseTx :: others⟩

def CoinbaseBlock.toMsgBlock (b : CoinbaseBlock) : MsgBlock := ⟨b.header, b.coinbaseTx :: b.others⟩

def CoinbaseBlock.hashedCoinbase (b : CoinbaseBlock) (script : List UInt8) : MsgTx :=
  { b.coinbaseTx with txIn := [{ b.txIn with signatureScript := script }] }

theorem CoinbaseBlock.isCoinBaseTx_coinbaseTx (b : CoinbaseBlock) : isCoinBaseTx b.coinbaseTx = true := by
  simp [isCoinBaseTx, b.single, b.null, nullOutPoint]

theorem topicRawBlock_ne_topicRawTxWithFee : topicRawBlock ≠ topicRawTxWithFee := by decide

section

variable (doubleHashH : List UInt8 → Hash32)

theorem parseBlockTxs_not_panic (height : Int) (txHashes : List Hash32) (txs : List MsgTx) :
    (parseBlockTxs doubleHashH height txHashes txs).isPanic = false := by
  induction txs generalizing height txHashes with
  | nil => rfl
  | cons t rest ih =>
      rw [parseBlockTxs]
      split_ifs with coinbase
      · obtain ⟨txIn, single⟩ := isCoinBaseTx_txIn coinbase
        have heightNotPanic := parseHeight_not_panic txIn.signatureScript
        simp only [single, List.getElem?_cons_zero]
        split
        · rfl
        · rename_i message heightPanic
          rw [heightPanic] at heightNotPanic
          cases heightNotPanic
        · exact ih _ _
      · exact ih _ _

theorem parseBlockTxs_length {height height' : Int} {txHashes txHashes' : List Hash32}
    {txs : List MsgTx} (parsed : parseBlockTxs doubleHashH height txHashes txs = .ok (height', txHashes')) :
    txHashes'.length = txHashes.length + txs.length := by
  induction txs generalizing height txHashes with
  | nil =>
      simp only [parseBlockTxs, Outcome.ok.injEq, Prod.mk.injEq] at parsed
      simp [parsed.2]
  | cons t rest ih =>
      rw [parseBlockTxs] at parsed
      split_ifs at parsed with coinbase
      · obtain ⟨txIn, single⟩ := isCoinBaseTx_txIn coinbase
        simp only [single, List.getElem?_cons_zero] at parsed
        split at parsed
        · cases parsed
        · cases parsed
        · rw [ih parsed]
          simp
          omega
      · rw [ih parsed]
        simp
        omega

theorem parseBlockTxs_of_not_coinbase (height : Int) (txHashes : List Hash32) (txs : List MsgTx)
    (noCoinbase : ∀ t ∈ txs, isCoinBaseTx t = false) :
    parseBlockTxs doubleHashH height txHashes txs =
      .ok (height, txHashes ++ txs.map (MsgTx.txHash doubleHashH)) := by
  induction txs generalizing txHashes with
  | nil => simp [parseBlockTxs]
  | cons t rest ih =>
      rw [parseBlockTxs, if_neg (by simp [noCoinbase t (by simp)]),
        ih _ (fun t member => noCoinbase t (by simp [member]))]
      simp

theorem CoinbaseBlock.parseBlock_of_parseHeight (b : CoinbaseBlock) {height : Nat}
    {script : List UInt8} (heightParsed : parseHeight b.txIn.signatureScript = .ok (height, script))
    (firstSeen : Time) (ctr : List UInt8) :
    parseBlock doubleHashH firstSeen [b.toMsgBlock.serialize, ctr] =
      .ok { firstSeen, encodedTime := ⟨b.header.timestamp.toNat * 1000000000⟩,
            hash := b.header.blockHash doubleHashH, parent := b.header.prevBlock,
            txIDs := (b.hashedCoinbase script).txHash doubleHashH ::
              b.others.map (MsgTx.txHash doubleHashH),
            height := UInt32.ofNat height, isBest := true } := by
  have decoded := MsgBlock.btcDecode_serialize b.toMsgBlock [] b.decodable
  rw [List.append_nil] at decoded
  simp only [parseBlock, List.getElem?_cons_zero, List.getElem?_cons_succ, decoded]
  rw [CoinbaseBlock.toMsgBlock, parseBlockTxs, if_pos b.isCoinBaseTx_coinbaseTx, b.single]
  simp only [List.getElem?_cons_zero, heightParsed, List.set_cons_zero,
    parseBlockTxs_of_not_coinbase doubleHashH _ _ b.others b.onlyCoinbase]
  rw [if_neg (by omega)]
  rfl

theorem CoinbaseBlock.parseBlock_of_parseHeight_error (b : CoinbaseBlock) {message : String}
    (heightFailed : parseHeight b.txIn.signatureScript = .error message)
    (firstSeen : Time) (ctr : List UInt8) :
    parseBlock doubleHashH firstSeen [b.toMsgBlock.serialize, ctr] =
      .error ("error parsing coinbase: " ++ message) := by
  have decoded := MsgBlock.btcDecode_serialize b.toMsgBlock [] b.decodable
  rw [List.append_nil] at decoded
  simp only [parseBlock, List.getElem?_cons_zero, List.getElem?_cons_succ, decoded]
  rw [CoinbaseBlock.toMsgBlock, parseBlockTxs, if_pos b.isCoinBaseTx_coinbaseTx, b.single]
  simp only [List.getElem?_cons_zero, heightFailed]

theorem parseBlock_extra_frames (firstSeen : Time) (rawblock ctr : List UInt8)
    (more : List (List UInt8)) :
    parseBlock doubleHashH firstSeen (rawblock :: ctr :: more) =
      parseBlock doubleHashH firstSeen [rawblock, ctr] := by
  simp [parseBlock]

theorem parseBlock_not_panic (firstSeen : Time) (rawblock ctr : List UInt8)
    (more : List (List UInt8)) :
    (parseBlock doubleHashH firstSeen (rawblock :: ctr :: more)).isPanic = false := by
  simp only [parseBlock, List.getElem?_cons_zero, List.getElem?_cons_succ]
  split
  · rfl
  · rename_i wireBlock unread decoded
    have loop := parseBlockTxs_not_panic doubleHashH (-1) [] wireBlock.transactions
    split
    · rfl
    · rename_i message loopPanic
      rw [loopPanic] at loop
      cases loop
    · split_ifs <;> rfl

theorem parseBlock_eq_ok {firstSeen : Time} {msg : List (List UInt8)} {block : Block}
    (parsed : parseBlock doubleHashH firstSeen msg = .ok block) :
    ∃ rawblock ctr more wireBlock unread, msg = rawblock :: ctr :: more ∧
      MsgBlock.btcDecode .witnessEncoding rawblock = .ok (wireBlock, unread) ∧
      block.hash = wireBlock.header.blockHash doubleHashH ∧
      block.txIDs.length = wireBlock.transactions.length := by
  match msg, parsed with
  | rawblock :: ctr :: more, parsed =>
      simp only [parseBlock, List.getElem?_cons_zero, List.getElem?_cons_succ] at parsed
      split at parsed
      · cases parsed
      · rename_i wireBlock unread decoded
        split at parsed
        · cases parsed
        · cases parsed
        · rename_i height txHashes loop
          split_ifs at parsed
          cases parsed
          exact ⟨rawblock, ctr, more, wireBlock, unread, rfl, decoded, rfl,
            by simpa using parseBlockTxs_length doubleHashH loop⟩

/-- `processMessage` panics exactly on a `rawblock` message with fewer than two frames. -/
theorem processMessage_isPanic_iff (firstSeen : Time) (topic : String)
    (payload : List (List UInt8)) :
    (processMessage doubleHashH firstSeen topic payload).isPanic = true ↔
      topic = topicRawBlock ∧ payload.length < 2 := by
  unfold processMessage
  split_ifs with rawTx rawBlock
  · have notPanic := parseTransaction_not_panic doubleHashH firstSeen payload
    subst rawTx
    cases parsed : parseTransaction doubleHashH firstSeen payload <;>
      simp_all [Outcome.isPanic, topicRawBlock_ne_topicRawTxWithFee.symm]
  · subst rawBlock
    match payload with
    | [] => simp [parseBlock, Outcome.isPanic]
    | [rawblock] => simp [parseBlock, Outcome.isPanic]
    | rawblock :: ctr :: more =>
        have notPanic := parseBlock_not_panic doubleHashH firstSeen rawblock ctr more
        cases parsed : parseBlock doubleHashH firstSeen (rawblock :: ctr :: more) <;>
          simp_all [Outcome.isPanic]
  · simp [Outcome.isPanic, rawBlock]

theorem processMessage_rawblock_short_payload (firstSeen : Time) (rawblock ctr extra : List UInt8) :
    processMessage doubleHashH firstSeen topicRawBlock [] = .panic (indexOutOfRange 0 0) ∧
      processMessage doubleHashH firstSeen topicRawBlock [rawblock] =
        .panic (indexOutOfRange 1 1) ∧
      processMessage doubleHashH firstSeen topicRawBlock [rawblock, ctr, extra] =
        processMessage doubleHashH firstSeen topicRawBlock [rawblock, ctr] := by
  simp only [processMessage, if_neg topicRawBlock_ne_topicRawTxWithFee, if_true,
    parseBlock_extra_frames]
  exact ⟨rfl, rfl, trivial⟩

end

def sampleBlock : MsgBlock := ⟨⟨1, zeroHash, zeroHash, 0, 0, 0⟩, [sampleTx]⟩

theorem sampleBlock_decodable : sampleBlock.Decodable :=
  ⟨by simp [sampleBlock, maxTxPerBlock], by simpa [sampleBlock] using sampleTx_decodable⟩

section

variable (doubleHashH : List UInt8 → Hash32)

theorem parse_frames_decoded_prefix (firstSeen : Time) (payload sequence ctr : List UInt8) :
    (∀ tx, parseTransaction doubleHashH firstSeen [payload, sequence] = .ok tx →
      ∃ (wireTx : MsgTx) (encoding unread : List UInt8),
        payload = encoding ++ unread ++ putUint64 tx.fee ∧
        MsgTx.EncodedAs encoding wireTx ∧ tx = transactionRecord doubleHashH firstSeen wireTx tx.fee) ∧
    (∀ block, parseBlock doubleHashH firstSeen [payload, ctr] = .ok block →
      ∃ (wireBlock : MsgBlock) (encodings : List (List UInt8)) (unread : List UInt8),
        payload = writeBlockHeader wireBlock.header ++ writeVarInt wireBlock.transactions.length ++
          encodings.flatten ++ unread ∧
        List.Forall₂ MsgTx.EncodedAs encodings wireBlock.transactions ∧
        block.hash = wireBlock.header.blockHash doubleHashH ∧
        block.txIDs.length = wireBlock.transactions.length) ∧
    (parseTransaction doubleHashH firstSeen [payload, sequence]).isPanic = false ∧
    (parseBlock doubleHashH firstSeen [payload, ctr]).isPanic = false := by
  refine ⟨fun tx parsed => ?_, fun block parsed => ?_, parseTransaction_not_panic _ _ _,
    parseBlock_not_panic _ _ _ _ []⟩
  · obtain ⟨rawtx, _, wireTx, unread, framed, decoded, record⟩ :=
      parseTransaction_eq_ok doubleHashH parsed
    obtain ⟨doWitness, rfl, limits, unmarked⟩ := MsgTx.btcDecode_eq_ok decoded
    simp only [List.cons.injEq, and_true] at framed
    exact ⟨wireTx, _, unread, framed.1, ⟨doWitness, rfl, limits, unmarked⟩, record⟩
  · obtain ⟨rawblock, _, _, wireBlock, unread, framed, decoded, hash, count⟩ :=
      parseBlock_eq_ok doubleHashH parsed
    obtain ⟨encodings, rfl, -, encoded⟩ := MsgBlock.btcDecode_eq_ok decoded
    simp only [List.cons.injEq] at framed
    exact ⟨wireBlock, encodings, unread, framed.1, encoded, hash, count⟩

end

theorem parseTransaction_stray_byte_before_fee :
    MsgTx.deserialize (sampleTx.serialize ++ [0xaa]) = .ok (sampleTx, [0xaa]) ∧
      parseTransaction (fun _ => zeroHash) ⟨0⟩ [sampleTx.serialize ++ [0xaa] ++ putUint64 5, []] =
        .ok (transactionRecord (fun _ => zeroHash) ⟨0⟩ sampleTx 5) ∧
      sampleTx.serialize ++ [0xaa] ++ putUint64 5 ≠ sampleTx.serialize ++ putUint64 5 := by
  have decoded := sampleTx_deserialize [0xaa]
  refine ⟨decoded, parseTransaction_of_deserialize _ decoded 5 [] ⟨0⟩, ?_⟩
  simp [putUint64]

end Bademeister
