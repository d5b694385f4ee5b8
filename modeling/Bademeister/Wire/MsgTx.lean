import Bademeister.Wire.Common

/-! btcd's `wire.MsgTx` at protocol version 0, where `Deserialize` and `Serialize` call it. Numeric
fields keep their Go widths; `chainhash.DoubleHashH` is a parameter of `txHash`. -/

namespace Bademeister

inductive MessageEncoding where
  | baseEncoding
  | witnessEncoding
  deriving Repr, DecidableEq

def maxMessagePayload : Nat := 1024 * 1024 * 32

def minTxInPayload : Nat := 9 + 32

def maxTxInPerMessage : Nat := maxMessagePayload / minTxInPayload + 1

def minTxOutPayload : Nat := 9

def maxTxOutPerMessage : Nat := maxMessagePayload / minTxOutPayload + 1

def maxWitnessItemsPerInput : Nat := 500000

def maxWitnessItemSize : Nat := 11000

def txFlagMarker : Nat := 0x00

def witnessFlag : Nat := 0x01

structure OutPoint where
  hash : Hash32
  index : UInt32
  deriving Repr, DecidableEq

structure TxIn where
  previousOutPoint : OutPoint
  signatureScript : List UInt8
  witness : List (List UInt8)
  sequence : UInt32
  deriving Repr, DecidableEq

structure TxOut where
  value : UInt64
  pkScript : List UInt8
  deriving Repr, DecidableEq

structure MsgTx where
  version : UInt32
  txIn : List TxIn
  txOut : List TxOut
  lockTime : UInt32
  deriving Repr, DecidableEq

/-! Decoding. -/

def readOutPoint : Reader OutPoint := do
  let hash ← readHash
  let index ← readUint32
  pure { hash, index }

/-- `readTxIn`; the witness is filled in later, after the outputs. -/
def readTxIn : Reader TxIn := do
  let previousOutPoint ← readOutPoint
  let signatureScript ← readScript maxMessagePayload "transaction input signature script"
  let sequence ← readUint32
  pure { previousOutPoint, signatureScript, witness := [], sequence }

def readTxOut : Reader TxOut := do
  let value ← readUint64
  let pkScript ← readScript maxMessagePayload "transaction output public key script"
  pure { value, pkScript }

def readTxWitness : Reader (List (List UInt8)) := do
  let witCount ← readVarInt
  refuseAbove "MsgTx.BtcDecode" "too many witness items to fit into max message size"
    witCount maxWitnessItemsPerInput
  readList (readScript maxWitnessItemSize "script witness item") witCount

def readWitnesses : List TxIn → Reader (List TxIn)
  | [] => pure []
  | txIn :: others => do
    let witness ← readTxWitness
    let rest ← readWitnesses others
    pure ({ txIn with witness } :: rest)

/-- The input count of `MsgTx.BtcDecode`, returned with the flag byte: under the witness
encoding a count of zero is the marker `0x00`, followed by the flag, which must be `0x01`,
and then the real count. -/
def readTxInCount (enc : MessageEncoding) : Reader (Nat × Nat) := do
  let count ← readVarInt
  if count = txFlagMarker ∧ enc = .witnessEncoding then
    let flag ← readUint 1
    if flag ≠ witnessFlag then
      Reader.fail ("MsgTx.BtcDecode: witness tx but flag byte is " ++ hexByte flag)
    else
      let count ← readVarInt
      pure (flag, count)
  else pure (0, count)

def readTxIns (count : Nat) : Reader (List TxIn) := do
  refuseAbove "MsgTx.BtcDecode" "too many input transactions to fit into max message size"
    count maxTxInPerMessage
  readList readTxIn count

def readTxOuts : Reader (List TxOut) := do
  let count ← readVarInt
  refuseAbove "MsgTx.BtcDecode" "too many output transactions to fit into max message size"
    count maxTxOutPerMessage
  readList readTxOut count

def MsgTx.btcDecode (enc : MessageEncoding) : Reader MsgTx := do
  let version ← readUint32
  let (flag, count) ← readTxInCount enc
  let txIn ← readTxIns count
  let txOut ← readTxOuts
  let txIn ← if flag ≠ 0 ∧ enc = .witnessEncoding then readWitnesses txIn else pure txIn
  let lockTime ← readUint32
  pure { version, txIn, txOut, lockTime }

def MsgTx.deserialize : Reader MsgTx := MsgTx.btcDecode .witnessEncoding

/-! Encoding. -/

def writeOutPoint (outPoint : OutPoint) : List UInt8 :=
  outPoint.hash.bytes ++ putUint32 outPoint.index

def writeTxIn (txIn : TxIn) : List UInt8 :=
  writeOutPoint txIn.previousOutPoint ++ writeVarBytes txIn.signatureScript ++
    putUint32 txIn.sequence

def writeTxOut (txOut : TxOut) : List UInt8 := putUint64 txOut.value ++ writeVarBytes txOut.pkScript

def writeTxWitness (witness : List (List UInt8)) : List UInt8 :=
  writeVarInt witness.length ++ (witness.map writeVarBytes).flatten

def writeWitnesses (txIns : List TxIn) : List UInt8 :=
  (txIns.map fun txIn => writeTxWitness txIn.witness).flatten

def MsgTx.hasWitness (msg : MsgTx) : Bool := msg.txIn.any fun txIn => !txIn.witness.isEmpty

/-- The body of `MsgTx.BtcEncode` once it has decided `doWitness`: the marker and flag
bytes `0x00 0x01` and the witness stacks are written only then. -/
def MsgTx.encodeWith (doWitness : Bool) (msg : MsgTx) : List UInt8 :=
  putUint32 msg.version ++ (if doWitness then [0x00, 0x01] else []) ++
    writeVarInt msg.txIn.length ++ (msg.txIn.map writeTxIn).flatten ++
    writeVarInt msg.txOut.length ++ (msg.txOut.map writeTxOut).flatten ++
    (if doWitness then writeWitnesses msg.txIn else []) ++
    putUint32 msg.lockTime

def MsgTx.btcEncode (enc : MessageEncoding) (msg : MsgTx) : List UInt8 :=
  msg.encodeWith (enc = .witnessEncoding && msg.hasWitness)

def MsgTx.serialize (msg : MsgTx) : List UInt8 := msg.btcEncode .witnessEncoding

def MsgTx.serializeNoWitness (msg : MsgTx) : List UInt8 := msg.btcEncode .baseEncoding

/-- `MsgTx.TxHash`: the double SHA-256 of the serialization without witness data. -/
def MsgTx.txHash (doubleHashH : List UInt8 → Hash32) (msg : MsgTx) : Hash32 :=
  doubleHashH msg.serializeNoWitness

/-! Sizes. -/

def TxIn.serializeSize (txIn : TxIn) : Nat :=
  40 + varIntSerializeSize txIn.signatureScript.length + txIn.signatureScript.length

def TxOut.serializeSize (txOut : TxOut) : Nat :=
  8 + varIntSerializeSize txOut.pkScript.length + txOut.pkScript.length

def witnessSerializeSize (witness : List (List UInt8)) : Nat :=
  varIntSerializeSize witness.length +
    (witness.map fun item => varIntSerializeSize item.length + item.length).sum

def MsgTx.baseSize (msg : MsgTx) : Nat :=
  8 + varIntSerializeSize msg.txIn.length + varIntSerializeSize msg.txOut.length +
    (msg.txIn.map TxIn.serializeSize).sum + (msg.txOut.map TxOut.serializeSize).sum

def MsgTx.serializeSize (msg : MsgTx) : Nat :=
  msg.baseSize +
    if msg.hasWitness then 2 + (msg.txIn.map fun txIn => witnessSerializeSize txIn.witness).sum
    else 0

def MsgTx.serializeSizeStripped (msg : MsgTx) : Nat := msg.baseSize

/-! The limits `BtcDecode` enforces, as one predicate on a transaction. -/

structure MsgTx.WithinLimits (msg : MsgTx) : Prop where
  txIn_length : msg.txIn.length ≤ maxTxInPerMessage
  txOut_length : msg.txOut.length ≤ maxTxOutPerMessage
  signatureScript_length : ∀ txIn ∈ msg.txIn, txIn.signatureScript.length ≤ maxMessagePayload
  pkScript_length : ∀ txOut ∈ msg.txOut, txOut.pkScript.length ≤ maxMessagePayload
  witness_length : ∀ txIn ∈ msg.txIn, txIn.witness.length ≤ maxWitnessItemsPerInput
  witnessItem_length : ∀ txIn ∈ msg.txIn, ∀ item ∈ txIn.witness, item.length ≤ maxWitnessItemSize

end Bademeister
