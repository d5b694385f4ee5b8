import Bademeister.Wire.MsgTxCodec

/-! btcd's `wire.MsgBlock`: the 80-byte header, the transaction count and the transactions, with the
codec laws carried over from `MsgTx`. -/

namespace Bademeister

def maxBlockPayload : Nat := 4000000

def minTxPayload : Nat := 10

def maxTxPerBlock : Nat := maxBlockPayload / minTxPayload + 1

structure BlockHeader where
  version : UInt32
  prevBlock : Hash32
  merkleRoot : Hash32
  timestamp : UInt32
  bits : UInt32
  nonce : UInt32
  deriving Repr, DecidableEq

structure MsgBlock where
  header : BlockHeader
  transactions : List MsgTx
  deriving Repr, DecidableEq

def readBlockHeader : Reader BlockHeader := do
  let version ← readUint32
  let prevBlock ← readHash
  let merkleRoot ← readHash
  let timestamp ← readUint32
  let bits ← readUint32
  let nonce ← readUint32
  pure { version, prevBlock, merkleRoot, timestamp, bits, nonce }

def writeBlockHeader (header : BlockHeader) : List UInt8 :=
  putUint32 header.version ++ header.prevBlock.bytes ++ header.merkleRoot.bytes ++
    putUint32 header.timestamp ++ putUint32 header.bits ++ putUint32 header.nonce

/-- `BlockHeader.BlockHash`: the double SHA-256 of the serialized header. -/
def BlockHeader.blockHash (doubleHashH : List UInt8 → Hash32) (header : BlockHeader) : Hash32 :=
  doubleHashH (writeBlockHeader header)

def MsgBlock.btcDecode (enc : MessageEncoding) : Reader MsgBlock := do
  let header ← readBlockHeader
  let txCount ← readVarInt
  refuseAbove "MsgBlock.BtcDecode" "too many transactions to fit into a block" txCount maxTxPerBlock
  let transactions ← readList (MsgTx.btcDecode enc) txCount
  pure { header, transactions }

def MsgBlock.btcEncode (enc : MessageEncoding) (msg : MsgBlock) : List UInt8 :=
  writeBlockHeader msg.header ++ writeVarInt msg.transactions.length ++
    (msg.transactions.map (MsgTx.btcEncode enc)).flatten

def MsgBlock.serialize (msg : MsgBlock) : List UInt8 := msg.btcEncode .witnessEncoding

theorem readBlockHeader_append (header : BlockHeader) (rest : List UInt8) :
    readBlockHeader (writeBlockHeader header ++ rest) = .ok (header, rest) := by
  simp only [writeBlockHeader, List.append_assoc]
  rw [readBlockHeader, Reader.bind_of_ok (readUint32_append _ _),
    Reader.bind_of_ok (readHash_append _ _), Reader.bind_of_ok (readHash_append _ _),
    Reader.bind_of_ok (readUint32_append _ _), Reader.bind_of_ok (readUint32_append _ _),
    Reader.bind_of_ok (readUint32_append _ _)]
  rfl

theorem readBlockHeader_eq_ok {header : BlockHeader} {bytes rest : List UInt8}
    (read : readBlockHeader bytes = .ok (header, rest)) :
    bytes = writeBlockHeader header ++ rest := by
  obtain ⟨version, afterVersion, versionRead, prevNext⟩ := Reader.bind_eq_ok.mp read
  obtain ⟨prevBlock, afterPrev, prevRead, rootNext⟩ := Reader.bind_eq_ok.mp prevNext
  obtain ⟨merkleRoot, afterRoot, rootRead, timeNext⟩ := Reader.bind_eq_ok.mp rootNext
  obtain ⟨timestamp, afterTime, timeRead, bitsNext⟩ := Reader.bind_eq_ok.mp timeNext
  obtain ⟨bits, afterBits, bitsRead, nonceNext⟩ := Reader.bind_eq_ok.mp bitsNext
  obtain ⟨nonce, last, nonceRead, done⟩ := Reader.bind_eq_ok.mp nonceNext
  simp only [Reader.pure_apply, Except.ok.injEq, Prod.mk.injEq] at done
  obtain ⟨rfl, rfl⟩ := done
  rw [readUint32_eq_ok versionRead, readHash_eq_ok prevRead, readHash_eq_ok rootRead,
    readUint32_eq_ok timeRead, readUint32_eq_ok bitsRead, readUint32_eq_ok nonceRead]
  simp [writeBlockHeader]

/-- A transaction `BtcDecode` takes back from its serialization: one input at least, within
btcd's limits. -/
structure MsgTx.Decodable (msg : MsgTx) : Prop where
  limits : msg.WithinLimits
  inputs : msg.txIn ≠ []

structure MsgBlock.Decodable (msg : MsgBlock) : Prop where
  countBound : msg.transactions.length ≤ maxTxPerBlock
  transactions : ∀ tx ∈ msg.transactions, tx.Decodable

theorem MsgBlock.btcDecode_serialize (msg : MsgBlock) (rest : List UInt8) (decodable : msg.Decodable) :
    MsgBlock.btcDecode .witnessEncoding (msg.serialize ++ rest) = .ok (msg, rest) := by
  rw [MsgBlock.serialize, MsgBlock.btcEncode, List.append_assoc, List.append_assoc,
    MsgBlock.btcDecode, Reader.bind_of_ok (readBlockHeader_append _ _),
    Reader.bind_of_ok (readVarInt_append _ _ (lt_of_le_of_lt decodable.countBound (by decide))),
    Reader.bind_of_ok (refuseAbove_of_le _ _ decodable.countBound _),
    Reader.bind_of_ok (@readList_append _ (MsgTx.btcDecode .witnessEncoding)
      (MsgTx.btcEncode .witnessEncoding) MsgTx.Decodable
      (fun tx rest valid => MsgTx.deserialize_serialize tx rest valid.limits valid.inputs)
      msg.transactions rest decodable.transactions)]
  rfl

def MsgTx.EncodedAs (encoding : List UInt8) (msg : MsgTx) : Prop :=
  ∃ doWitness, encoding = msg.encodeWith doWitness ∧ msg.WithinLimits ∧
    (doWitness = false → msg.txIn ≠ [] ∧ ∀ txIn ∈ msg.txIn, txIn.witness = [])

theorem MsgBlock.btcDecode_eq_ok {msg : MsgBlock} {bytes rest : List UInt8}
    (read : MsgBlock.btcDecode .witnessEncoding bytes = .ok (msg, rest)) :
    ∃ encodings : List (List UInt8),
      bytes = writeBlockHeader msg.header ++ writeVarInt msg.transactions.length ++
        encodings.flatten ++ rest ∧
      msg.transactions.length ≤ maxTxPerBlock ∧
      List.Forall₂ MsgTx.EncodedAs encodings msg.transactions := by
  obtain ⟨header, afterHeader, headerRead, countNext⟩ := Reader.bind_eq_ok.mp read
  obtain ⟨count, afterCount, countRead, checkNext⟩ := Reader.bind_eq_ok.mp countNext
  obtain ⟨_, afterCheck, checked, txsNext⟩ := Reader.bind_eq_ok.mp checkNext
  obtain ⟨transactions, last, txsRead, done⟩ := Reader.bind_eq_ok.mp txsNext
  simp only [Reader.pure_apply, Except.ok.injEq, Prod.mk.injEq] at done
  obtain ⟨rfl, rfl⟩ := done
  obtain ⟨countBound, rfl⟩ := refuseAbove_eq_ok checked
  obtain ⟨encodings, rfl, txCount, encoded⟩ := @readList_eq_ok_rel _ _ MsgTx.EncodedAs
    (fun _ _ _ txRead => by
      obtain ⟨doWitness, split, limits, unmarked⟩ := MsgTx.btcDecode_eq_ok txRead
      exact ⟨_, split, doWitness, rfl, limits, unmarked⟩) _ _ _ _ txsRead
  obtain ⟨rfl, -⟩ := readVarInt_eq_ok countRead
  refine ⟨encodings, ?_, txCount ▸ countBound, encoded⟩
  rw [readBlockHeader_eq_ok headerRead, txCount]
  simp

end Bademeister
