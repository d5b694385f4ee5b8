import Mathlib.Data.Nat.Digits
import Bademeister.Zmq.ParseBlock

/-! The height `parseBlock` reads from a coinbase, against BIP34's `CScript() << height`: every
height below 2^31 is read back but 1 to 16, which `OP_1` to `OP_16` write and `PushedData` drops. -/

namespace Bademeister

/-! Script numbers. -/

/-- `CScriptNum::serialize` for a positive number: its bytes little-endian, then a zero byte
when the last one has its top bit set, since that bit is the sign. -/
def scriptNumSerialize (value : Nat) : List UInt8 :=
  let magnitude := Nat.digits 256 value
  let withSign :=
    if magnitude.getLast?.any (fun digit => 0x80 ≤ digit) then magnitude ++ [0] else magnitude
  withSign.map UInt8.ofNat

example : scriptNumSerialize 128 = [0x80, 0x00] := by norm_num [scriptNumSerialize]; decide

theorem leNat_map_ofNat {digits : List Nat} (small : ∀ d ∈ digits, d < 256) :
    leNat (digits.map UInt8.ofNat) = Nat.ofDigits 256 digits := by
  induction digits with
  | nil => rfl
  | cons d rest ih =>
      rw [List.map_cons, leNat_cons, Nat.ofDigits_cons, UInt8.toNat_ofNat_of_lt (small d (by simp)),
        ih (fun d member => small d (by simp [member]))]

theorem leNat_scriptNumSerialize (value : Nat) : leNat (scriptNumSerialize value) = value := by
  have small : ∀ d ∈ Nat.digits 256 value, d < 256 :=
    fun d member => Nat.digits_lt_base (by norm_num) member
  unfold scriptNumSerialize
  dsimp only
  split_ifs
  · have smallSigned : ∀ d ∈ Nat.digits 256 value ++ [0], d < 256 := by
      intro d member
      rcases List.mem_append.mp member with inDigits | isZero
      · exact small d inDigits
      · simp only [List.mem_singleton] at isZero
        omega
    rw [leNat_map_ofNat smallSigned, Nat.ofDigits_append, Nat.ofDigits_digits]
    simp [Nat.ofDigits]
  · rw [leNat_map_ofNat small, Nat.ofDigits_digits]

theorem length_digits_le_four {value : Nat} (bound : value < 2 ^ 31) :
    (Nat.digits 256 value).length ≤ 4 := by
  rcases Nat.eq_zero_or_pos value with rfl | positive
  · simp
  have powBound := Nat.base_pow_length_digits_le 256 value (by norm_num) (by omega)
  by_contra long
  have : 256 ^ 5 ≤ 256 ^ (Nat.digits 256 value).length :=
    Nat.pow_le_pow_right (by norm_num) (by omega)
  omega

theorem length_scriptNumSerialize {value : Nat} (positive : 0 < value) (bound : value < 2 ^ 31) :
    0 < (scriptNumSerialize value).length ∧ (scriptNumSerialize value).length ≤ 4 := by
  have lengthBound := length_digits_le_four bound
  have nonempty := (@Nat.digits_ne_nil_iff_ne_zero 256 value).mpr (by omega)
  have ofDigitsEq := Nat.ofDigits_digits 256 value
  unfold scriptNumSerialize
  dsimp only
  generalize Nat.digits 256 value = digits at lengthBound nonempty ofDigitsEq
  match digits, lengthBound, nonempty with
  | [_], _, _ => split_ifs <;> simp
  | [_, _], _, _ => split_ifs <;> simp
  | [_, _, _], _, _ => split_ifs <;> simp
  | [_, _, _, d3], _, _ =>
      have signClear : d3 < 128 := by
        simp [Nat.ofDigits] at ofDigitsEq
        omega
      simp [show ¬ 128 ≤ d3 by omega]

/-! The height push. -/

/-- Bitcoin Core's `CScript() << height`, which BIP34 puts first in a coinbase's signature
script. -/
def bip34HeightPush (height : Nat) : List UInt8 :=
  if height = 0 then [op0]
  else if height ≤ 16 then [UInt8.ofNat (0x50 + height)]
  else UInt8.ofNat (scriptNumSerialize height).length :: scriptNumSerialize height

example : bip34HeightPush 128 = [0x02, 0x80, 0x00] := by
  norm_num [bip34HeightPush, scriptNumSerialize]; decide

/-- A script `PushedData` reads as exactly one item, as it reads a single data push or `OP_0`. -/
def SinglePush (script : List UInt8) : Prop := ∃ item, pushedData script = .ok [item]

theorem pushKind_dataPush {size : Nat} (positive : 0 < size) (small : size ≤ 0x4b) :
    pushKind (UInt8.ofNat size) = .fixed size := by
  have toNatEq : (UInt8.ofNat size).toNat = size :=
    UInt8.toNat_ofNat_of_lt (lt_of_le_of_lt small (by decide))
  rw [pushKind, if_pos (by omega), toNatEq]

theorem pushKind_smallInt {height : Nat} (positive : 0 < height) (small : height ≤ 16) :
    pushKind (UInt8.ofNat (0x50 + height)) = .noData := by
  interval_cases height <;> decide

theorem parseScript_noData {op : UInt8} (kind : pushKind op = .noData) :
    parseScript [op] = .ok [{ opcode := op, data := none }] := by
  rw [parseScript, parseScriptFrom_noData [op] 0 (by simp) kind, parseScriptFrom_end _ _ (by simp)]
  rfl

theorem parseScript_dataPush (bytes : List UInt8) (positive : 0 < bytes.length)
    (small : bytes.length ≤ 0x4b) :
    parseScript (UInt8.ofNat bytes.length :: bytes) =
      .ok [{ opcode := UInt8.ofNat bytes.length, data := some (1, bytes.length) }] := by
  rw [parseScript, parseScriptFrom_fixed (UInt8.ofNat bytes.length :: bytes) 0 bytes.length
    (by simp) (pushKind_dataPush positive small) (by simp), parseScriptFrom_end _ _ (by simp; omega)]
  rfl

theorem pushedData_dataPush (bytes : List UInt8) (positive : 0 < bytes.length)
    (small : bytes.length ≤ 0x4b) :
    pushedData (UInt8.ofNat bytes.length :: bytes) = .ok [.window 1 bytes.length bytes.length] := by
  simp [pushedData, parseScript_dataPush bytes positive small, Except.map, pushedItem]

theorem singlePush_dataPush (bytes : List UInt8) (positive : 0 < bytes.length)
    (small : bytes.length ≤ 0x4b) : SinglePush (UInt8.ofNat bytes.length :: bytes) :=
  ⟨_, pushedData_dataPush bytes positive small⟩

/-! `parseHeight` on a height push followed by one more push. -/

section HeightPush

variable {extra : List UInt8} {item : ByteSlice}

theorem smallInt_ne_op0 {height : Nat} (positive : 0 < height) (small : height ≤ 16) :
    UInt8.ofNat (0x50 + height) ≠ op0 := by
  interval_cases height <;> decide

theorem parseHeight_smallInt_append {height : Nat} (positive : 0 < height) (small : height ≤ 16)
    (pushed : pushedData extra = .ok [item]) :
    parseHeight (bip34HeightPush height ++ extra) = .error "unexpected count 1" := by
  have push : bip34HeightPush height = [UInt8.ofNat (0x50 + height)] := by
    simp [bip34HeightPush, show height ≠ 0 by omega, small]
  rw [push, parseHeight,
    pushedData_append (parseScript_noData (pushKind_smallInt positive small)) extra, pushed]
  simp [Except.map, pushedItem, smallInt_ne_op0 positive small]
  rfl

theorem parseHeight_op0_append (pushed : pushedData extra = .ok [item]) :
    ∃ script, parseHeight (bip34HeightPush 0 ++ extra) = .ok (0, script) := by
  have data : pushedData (bip34HeightPush 0 ++ extra) = .ok [.owned [], item.shift 1] := by
    rw [show bip34HeightPush 0 = [op0] from rfl,
      pushedData_append (parseScript_noData (show pushKind op0 = .noData by decide)) extra, pushed]
    simp [Except.map, pushedItem]
  have zero : leNat (((ByteSlice.owned []).contents (bip34HeightPush 0 ++ extra) ++
      List.replicate (4 - (ByteSlice.owned []).length) 0).take 4) = 0 := by
    simp [ByteSlice.contents, ByteSlice.length]
  rw [parseHeight_of_pushedData data, zero]
  exact ⟨_, rfl⟩

def zeroFront (count : Nat) (extra : List UInt8) : List UInt8 :=
  List.replicate (min count extra.length) 0 ++ extra.drop count

theorem parseHeight_scriptNum_append {height : Nat} (large : 17 ≤ height) (bound : height < 2 ^ 31)
    (pushed : pushedData extra = .ok [item]) :
    parseHeight (bip34HeightPush height ++ extra) =
      .ok (height, bip34HeightPush height ++
        zeroFront (4 - (scriptNumSerialize height).length) extra) := by
  obtain ⟨positive, short⟩ := length_scriptNumSerialize (show 0 < height by omega) bound
  have push : bip34HeightPush height =
      UInt8.ofNat (scriptNumSerialize height).length :: scriptNumSerialize height := by
    simp [bip34HeightPush, show height ≠ 0 by omega, show ¬ height ≤ 16 by omega]
  have heightEq := leNat_scriptNumSerialize height
  rw [push]
  generalize scriptNumSerialize height = bytes at positive short heightEq ⊢
  have data : pushedData ((UInt8.ofNat bytes.length :: bytes) ++ extra) =
      .ok [.window 1 bytes.length (bytes.length + extra.length), item.shift (bytes.length + 1)] := by
    rw [pushedData_append (parseScript_dataPush bytes positive (by omega)) extra, pushed]
    simp [Except.map, pushedItem]
  have contents : (ByteSlice.window 1 bytes.length (bytes.length + extra.length)).contents
      ((UInt8.ofNat bytes.length :: bytes) ++ extra) = bytes := by
    simp [ByteSlice.contents]
  have writes : min (bytes.length + extra.length - bytes.length) (min (4 - bytes.length) 4) =
      min (4 - bytes.length) extra.length := by
    omega
  rw [parseHeight_of_pushedData data, contents, ByteSlice.length,
    List.take_of_length_le (by simp; omega), leNat_append_replicate_zero, heightEq,
    padHeight_window_script 4 (by simp [ByteSlice.Fits]; omega), writes,
    show 1 + bytes.length = bytes.length + 1 by omega]
  have dropEq : extra.drop (min (4 - bytes.length) extra.length) = extra.drop (4 - bytes.length) := by
    rcases le_total (4 - bytes.length) extra.length with room | tight
    · rw [min_eq_left room]
    · rw [min_eq_right tight, List.drop_length, List.drop_eq_nil_of_le tight]
  have dropAll : (UInt8.ofNat bytes.length :: (bytes ++ extra)).drop
      (bytes.length + 1 + min (4 - bytes.length) extra.length) =
        extra.drop (4 - bytes.length) := by
    rw [Nat.add_right_comm, List.drop_succ_cons, List.drop_append, dropEq]
  simp [zeroFront, dropAll]

theorem parseHeight_bip34HeightPush {height : Nat}
    (readable : height = 0 ∨ 17 ≤ height ∧ height < 2 ^ 31) (singlePush : SinglePush extra) :
    ∃ script, parseHeight (bip34HeightPush height ++ extra) = .ok (height, script) := by
  obtain ⟨item, pushed⟩ := singlePush
  rcases readable with rfl | ⟨large, bound⟩
  · exact parseHeight_op0_append pushed
  · exact ⟨_, parseHeight_scriptNum_append large bound pushed⟩

end HeightPush

/-! Blocks. -/

def coinbaseIn (script : List UInt8) : TxIn :=
  { previousOutPoint := nullOutPoint, signatureScript := script, witness := [],
    sequence := 0xffffffff }

def singleCoinbaseBlock (script : List UInt8) (short : script.length ≤ maxMessagePayload) :
    CoinbaseBlock where
  header := { version := 1, prevBlock := zeroHash, merkleRoot := zeroHash, timestamp := 0,
              bits := 0, nonce := 0 }
  coinbaseTx := { version := 1, txIn := [coinbaseIn script],
                  txOut := [{ value := 5000000000, pkScript := [0x51] }], lockTime := 0 }
  txIn := coinbaseIn script
  others := []
  single := rfl
  null := rfl
  onlyCoinbase := by simp
  decodable := ⟨by simp [maxTxPerBlock, maxBlockPayload, minTxPayload], by
    simp only [List.mem_singleton, forall_eq]
    exact ⟨⟨by simp [maxTxInPerMessage, maxMessagePayload, minTxInPayload],
      by simp [maxTxOutPerMessage, maxMessagePayload, minTxOutPayload],
      by simp [coinbaseIn, short], by simp [maxMessagePayload], by simp [coinbaseIn],
      by simp [coinbaseIn]⟩, by simp⟩⟩

/-- A block of one coinbase at height 103 whose script goes on with a one-byte push. -/
def height103Block : CoinbaseBlock := singleCoinbaseBlock [0x01, 0x67, 0x01, 0xaa] (by decide)

theorem bip34HeightPush_103 : bip34HeightPush 103 = [0x01, 0x67] := by
  norm_num [bip34HeightPush, scriptNumSerialize]
  decide

theorem scriptNumSerialize_103 : scriptNumSerialize 103 = [0x67] := by
  norm_num [scriptNumSerialize]
  decide

theorem parseHeight_height103 :
    parseHeight [0x01, 0x67, 0x01, 0xaa] = .ok (103, [0x01, 0x67, 0x00, 0x00]) := by
  have parsed := parseHeight_scriptNum_append (show 17 ≤ 103 by norm_num) (by norm_num)
    (pushedData_dataPush [0xaa] (by decide) (by decide))
  rwa [bip34HeightPush_103, scriptNumSerialize_103] at parsed

section Blocks

variable (doubleHashH : List UInt8 → Hash32)

/-- A block decoded from a frame followed by other bytes is the block decoded from the frame. -/
theorem parseBlock_ignores_trailer (firstSeen : Time) (wireBlock : MsgBlock)
    (trailer ctr : List UInt8) (decodable : wireBlock.Decodable) :
    parseBlock doubleHashH firstSeen [wireBlock.serialize ++ trailer, ctr] =
      parseBlock doubleHashH firstSeen [wireBlock.serialize, ctr] := by
  have whole := MsgBlock.btcDecode_serialize wireBlock [] decodable
  rw [List.append_nil] at whole
  simp only [parseBlock, List.getElem?_cons_zero, List.getElem?_cons_succ,
    MsgBlock.btcDecode_serialize wireBlock trailer decodable, whole]

theorem parseBlock_ignores_trailer_height103Block :
    height103Block.toMsgBlock.Decodable ∧
      (∃ block, parseBlock (fun _ => zeroHash) ⟨0⟩
        [height103Block.toMsgBlock.serialize ++ [0xaa], []] = .ok block) ∧
      parseBlock (fun _ => zeroHash) ⟨0⟩ [height103Block.toMsgBlock.serialize ++ [0xaa], []] =
        parseBlock (fun _ => zeroHash) ⟨0⟩ [height103Block.toMsgBlock.serialize, []] :=
  have same := parseBlock_ignores_trailer (fun _ => zeroHash) ⟨0⟩ height103Block.toMsgBlock [0xaa]
    [] height103Block.decodable
  ⟨height103Block.decodable,
    ⟨_, same.trans (height103Block.parseBlock_of_parseHeight _ parseHeight_height103 ⟨0⟩ [])⟩, same⟩

theorem parseBlock_bip34_small_height (b : CoinbaseBlock) (height : Nat) (extra : List UInt8)
    (positive : 0 < height) (small : height ≤ 16) (singlePush : SinglePush extra)
    (script : b.txIn.signatureScript = bip34HeightPush height ++ extra) (firstSeen : Time)
    (ctr : List UInt8) :
    parseBlock doubleHashH firstSeen [b.toMsgBlock.serialize, ctr] =
      .error "error parsing coinbase: unexpected count 1" := by
  obtain ⟨item, pushed⟩ := singlePush
  rw [b.parseBlock_of_parseHeight_error doubleHashH
    (script ▸ parseHeight_smallInt_append positive small pushed)]
  rfl

theorem parseBlock_bip34_small_height_five :
    0 < 5 ∧ 5 ≤ 16 ∧ SinglePush [0x01, 0xaa] ∧
      (singleCoinbaseBlock [0x55, 0x01, 0xaa] (by decide)).txIn.signatureScript =
        bip34HeightPush 5 ++ [0x01, 0xaa] ∧
      parseBlock (fun _ => zeroHash) ⟨0⟩
          [(singleCoinbaseBlock [0x55, 0x01, 0xaa] (by decide)).toMsgBlock.serialize, []] =
        .error "error parsing coinbase: unexpected count 1" :=
  ⟨by decide, by decide, singlePush_dataPush [0xaa] (by decide) (by decide), rfl,
    parseBlock_bip34_small_height (fun _ => zeroHash) _ 5 [0x01, 0xaa] (by decide) (by decide)
      (singlePush_dataPush [0xaa] (by decide) (by decide)) rfl ⟨0⟩ []⟩

theorem parseBlock_bip34_height (b : CoinbaseBlock) (height : Nat) (extra : List UInt8)
    (readable : height = 0 ∨ 17 ≤ height ∧ height < 2 ^ 31) (singlePush : SinglePush extra)
    (script : b.txIn.signatureScript = bip34HeightPush height ++ extra) (firstSeen : Time)
    (ctr : List UInt8) :
    ∃ block, parseBlock doubleHashH firstSeen [b.toMsgBlock.serialize, ctr] = .ok block ∧
      block.height.toNat = height := by
  obtain ⟨padded, heightParsed⟩ := parseHeight_bip34HeightPush readable singlePush
  rw [← script] at heightParsed
  have heightBound : height < UInt32.size := by
    rcases readable with rfl | ⟨-, bound⟩
    · decide
    · exact lt_trans bound (by decide)
  exact ⟨_, b.parseBlock_of_parseHeight doubleHashH heightParsed firstSeen ctr,
    UInt32.toNat_ofNat_of_lt heightBound⟩

theorem parseBlock_bip34_height_103 :
    (103 = 0 ∨ 17 ≤ 103 ∧ 103 < 2 ^ 31) ∧ SinglePush [0x01, 0xaa] ∧
      height103Block.txIn.signatureScript = bip34HeightPush 103 ++ [0x01, 0xaa] ∧
      ∃ block, parseBlock (fun _ => zeroHash) ⟨0⟩ [height103Block.toMsgBlock.serialize, []] =
        .ok block ∧ block.height.toNat = 103 :=
  ⟨by norm_num, singlePush_dataPush [0xaa] (by decide) (by decide),
    by rw [bip34HeightPush_103]; rfl,
    parseBlock_bip34_height (fun _ => zeroHash) height103Block 103 [0x01, 0xaa] (by norm_num)
      (singlePush_dataPush [0xaa] (by decide) (by decide)) (by rw [bip34HeightPush_103]; rfl)
      ⟨0⟩ []⟩

/-- For a height pushed as a script number, `parseBlock` reads the height back but hashes the
coinbase with the bytes after the push zeroed as far as the padding reached them. -/
theorem parseBlock_hashes_zeroed_coinbase (b : CoinbaseBlock) (height : Nat) (extra : List UInt8)
    (large : 17 ≤ height) (bound : height < 2 ^ 31) (singlePush : SinglePush extra)
    (script : b.txIn.signatureScript = bip34HeightPush height ++ extra) (firstSeen : Time)
    (ctr : List UInt8) :
    ∃ block, parseBlock doubleHashH firstSeen [b.toMsgBlock.serialize, ctr] = .ok block ∧
      block.height.toNat = height ∧
      block.txIDs = (b.hashedCoinbase (bip34HeightPush height ++
          zeroFront (4 - (scriptNumSerialize height).length) extra)).txHash doubleHashH ::
        b.others.map (MsgTx.txHash doubleHashH) := by
  obtain ⟨item, pushed⟩ := singlePush
  have heightParsed := parseHeight_scriptNum_append large bound pushed
  rw [← script] at heightParsed
  exact ⟨_, b.parseBlock_of_parseHeight doubleHashH heightParsed firstSeen ctr,
    UInt32.toNat_ofNat_of_lt (lt_trans bound (by decide)), rfl⟩

theorem parseBlock_hashes_zeroed_coinbase_103 :
    17 ≤ 103 ∧ 103 < 2 ^ 31 ∧ SinglePush [0x01, 0xaa] ∧
      height103Block.txIn.signatureScript = bip34HeightPush 103 ++ [0x01, 0xaa] ∧
      (∃ block, parseBlock (fun _ => zeroHash) ⟨0⟩ [height103Block.toMsgBlock.serialize, []] =
          .ok block ∧ block.height.toNat = 103 ∧
        block.txIDs = (height103Block.hashedCoinbase (bip34HeightPush 103 ++
            zeroFront (4 - (scriptNumSerialize 103).length) [0x01, 0xaa])).txHash (fun _ => zeroHash) ::
          height103Block.others.map (MsgTx.txHash (fun _ => zeroHash))) ∧
      bip34HeightPush 103 ++ zeroFront (4 - (scriptNumSerialize 103).length) [0x01, 0xaa] =
        [0x01, 0x67, 0x00, 0x00] ∧
      (height103Block.hashedCoinbase [0x01, 0x67, 0x00, 0x00]).serializeNoWitness ≠
        height103Block.coinbaseTx.serializeNoWitness := by
  refine ⟨by norm_num, by norm_num, singlePush_dataPush [0xaa] (by decide) (by decide),
    by rw [bip34HeightPush_103]; rfl,
    parseBlock_hashes_zeroed_coinbase (fun _ => zeroHash) height103Block 103 [0x01, 0xaa]
      (by norm_num) (by norm_num) (singlePush_dataPush [0xaa] (by decide) (by decide))
      (by rw [bip34HeightPush_103]; rfl) ⟨0⟩ [],
    by rw [bip34HeightPush_103, scriptNumSerialize_103]; rfl, by decide⟩

end Blocks

end Bademeister
