import Bademeister.Wire.MsgBlock
import Bademeister.Txscript

/-! The decoders of `zmqsubscriber` as Go runs them: indexing is `Option`, a missing element is a
panic, and `chainhash.DoubleHashH` is a parameter. -/

namespace Bademeister

/-- `types.Transaction`. `Weight` is a Go `int`; it is the sum of two sizes of the decoded
transaction, which are bounded by the length of the payload. -/
structure Transaction where
  txID : Hash32
  firstSeen : Time
  lastRemoved : Option Time
  fee : UInt64
  weight : Nat
  blockHeight : Int
  indexInBlock : Int
  deriving Repr, DecidableEq

structure Block where
  firstSeen : Time
  encodedTime : Time
  hash : Hash32
  parent : Hash32
  txIDs : List Hash32
  height : UInt32
  isBest : Bool
  deriving Repr, DecidableEq

def topicRawBlock : String := "rawblock"

def topicRawTxWithFee : String := "rawtxwithfee"

def indexOutOfRange (index length : Nat) : String :=
  "runtime error: index out of range [" ++ toString index ++ "] with length " ++ toString length

def sliceOutOfRange : String := "runtime error: slice bounds out of range"

def zeroHash : Hash32 := ⟨List.replicate 32 0, by simp⟩

/-- `blockchain.IsCoinBaseTx`: one input, spending the null outpoint. -/
def isCoinBaseTx (msgTx : MsgTx) : Bool :=
  match msgTx.txIn with
  | [txIn] => txIn.previousOutPoint.index == 0xffffffff && txIn.previousOutPoint.hash == zeroHash
  | _ => false

/-- `append(s, b)`: in place while the slice has capacity left, else into a new array. A window
writes into the script it shows. -/
def appendByte (script : List UInt8) (slice : ByteSlice) (byte : UInt8) : List UInt8 × ByteSlice :=
  match slice with
  | .window off len cap =>
    if len < cap then (script.set (off + len) byte, .window off (len + 1) cap)
    else (script, .owned ((script.drop off).take len ++ [byte]))
  | .owned bytes => (script, .owned (bytes ++ [byte]))

/-- `for len(heightLE) < 4 { heightLE = append(heightLE, 0) }`. Each append adds a byte, so
the loop ends within four rounds. -/
def padHeight : Nat → List UInt8 × ByteSlice → List UInt8 × ByteSlice
  | 0, state => state
  | rounds + 1, (script, heightLE) =>
    if heightLE.length < 4 then padHeight rounds (appendByte script heightLE 0)
    else (script, heightLE)

/-- `parseHeight`, on the coinbase input's signature script. With the height it returns the
script as the appends left it: the script and `data[0]` share their backing array. -/
def parseHeight (script : List UInt8) : Outcome (Nat × List UInt8) :=
  match pushedData script with
  | .error message => .error message
  | .ok data =>
    if data.length ≠ 2 then .error ("unexpected count " ++ toString data.length)
    else
      match data[0]? with
      | none => .panic (indexOutOfRange 0 data.length)
      | some first =>
        match padHeight 4 (script, first) with
        | (script, heightLE) =>
          match littleEndianUint32 (heightLE.contents script) with
          | some height => .ok (height.toNat, script)
          | none => .panic (indexOutOfRange 3 heightLE.length)

section Decoders

variable (doubleHashH : List UInt8 → Hash32)

def parseTransaction (firstSeen : Time) (payload : List (List UInt8)) : Outcome Transaction :=
  if payload.length ≠ 2 then
    .error ("unexpected payload length: expected len(tx hash, sequence) == 2 but got " ++
      "len(payload) == " ++ toString payload.length)
  else
    match payload[0]?, payload[1]? with
    | none, _ => .panic (indexOutOfRange 0 payload.length)
    | some _, none => .panic (indexOutOfRange 1 payload.length)
    | some rawtxwithfee, some _ =>
      let length := rawtxwithfee.length
      if length ≤ 8 then .error "unexpected rawtxwithfee length"
      else
        match sliceExpr rawtxwithfee 0 (length - 8), sliceExpr rawtxwithfee (length - 8) length with
        | some rawtx, some feeBytes =>
          match MsgTx.deserialize rawtx with
          | .error message => .error ("could not deserialize the rawtx as wire.MsgTx: " ++ message)
          | .ok (wireTx, _) =>
            match littleEndianUint64 feeBytes with
            | none => .panic (indexOutOfRange 7 feeBytes.length)
            | some fee =>
              .ok { txID := wireTx.txHash doubleHashH, firstSeen, lastRemoved := none, fee,
                    weight := wireTx.serializeSizeStripped * 3 + wireTx.serializeSize,
                    blockHeight := 0, indexInBlock := 0 }
        | _, _ => .panic sliceOutOfRange

/-- The loop of `parseBlock` over `wireBlock.Transactions`, with its accumulators `height` and
`txHashes`. A coinbase is hashed after `parseHeight` has run on it. -/
def parseBlockTxs : Int → List Hash32 → List MsgTx → Outcome (Int × List Hash32)
  | height, txHashes, [] => .ok (height, txHashes)
  | height, txHashes, t :: rest =>
    if isCoinBaseTx t then
      match t.txIn[0]? with
      | none => .panic (indexOutOfRange 0 t.txIn.length)
      | some txIn =>
        match parseHeight txIn.signatureScript with
        | .error message => .error ("error parsing coinbase: " ++ message)
        | .panic message => .panic message
        | .ok (parsed, script) =>
          let t := { t with txIn := t.txIn.set 0 { txIn with signatureScript := script } }
          parseBlockTxs parsed (txHashes ++ [t.txHash doubleHashH]) rest
    else parseBlockTxs height (txHashes ++ [t.txHash doubleHashH]) rest

def parseBlock (firstSeen : Time) (msg : List (List UInt8)) : Outcome Block :=
  match msg[0]?, msg[1]? with
  | none, _ => .panic (indexOutOfRange 0 msg.length)
  | some _, none => .panic (indexOutOfRange 1 msg.length)
  | some rawblock, some _ =>
    match MsgBlock.btcDecode .witnessEncoding rawblock with
    | .error message => .error ("error during BtcDecode: " ++ message)
    | .ok (wireBlock, _) =>
      match parseBlockTxs doubleHashH (-1) [] wireBlock.transactions with
      | .error message => .error message
      | .panic message => .panic message
      | .ok (height, txHashes) =>
        if height < 0 then .error "height not found"
        else
          .ok { firstSeen,
                encodedTime := ⟨wireBlock.header.timestamp.toNat * 1000000000⟩,
                hash := wireBlock.header.blockHash doubleHashH,
                parent := wireBlock.header.prevBlock,
                txIDs := txHashes,
                height := UInt32.ofNat height.toNat,
                isBest := true }

inductive Delivery where
  | incomingTx (tx : Transaction)
  | incomingBlocks (block : Block)
  deriving Repr, DecidableEq

/-- `processMessage` up to its channel send: the record to send, or the error it returns. -/
def processMessage (firstSeen : Time) (topic : String) (payload : List (List UInt8)) :
    Outcome Delivery :=
  if topic = topicRawTxWithFee then (parseTransaction doubleHashH firstSeen payload).map .incomingTx
  else if topic = topicRawBlock then (parseBlock doubleHashH firstSeen payload).map .incomingBlocks
  else .error ("unknown topic " ++ topic)

end Decoders

end Bademeister
