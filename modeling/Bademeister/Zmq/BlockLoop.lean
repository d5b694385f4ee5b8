import Bademeister.Zmq.Coinbase

/-! `parseBlock`'s loop over the decoded transactions, for every block: the height comes from the
last coinbase-shaped transaction, and each transaction's id depends on it alone. -/

namespace Bademeister

/-! What `parseHeight` writes. -/

/-- `script'` is `script`, or `script` with zeros over at most `4 - len` bytes right after its
first pushed item, a window of `len` bytes at `off`. -/
def ZeroedAfterFirstItem (script script' : List UInt8) : Prop :=
  script' = script ∨
    ∃ off len cap second count, pushedData script = .ok [.window off len cap, second] ∧
      count ≤ 4 - len ∧ off + len + count ≤ script.length ∧
      script' = script.take (off + len) ++ List.replicate count 0 ++
        script.drop (off + len + count)

/-- The script `parseHeight` leaves differs from the one it read only in zeros written right
after the first pushed item, at most four of them, and never past the script's end. -/
theorem parseHeight_script {script script' : List UInt8} {height : Nat}
    (parsed : parseHeight script = .ok (height, script')) : ZeroedAfterFirstItem script script' := by
  obtain ⟨first, second, pushed, -, rfl⟩ := parseHeight_eq_ok_pushedData parsed
  cases first with
  | owned bytes => exact .inl (padHeight_owned_script 4 script bytes)
  | window off len cap =>
      have fits := pushedData_fits pushed (.window off len cap) (by simp)
      simp only [ByteSlice.Fits] at fits
      exact .inr ⟨off, len, cap, second, _, pushed, by omega, by omega,
        padHeight_window_script 4 ⟨fits.1, fits.2⟩⟩

theorem parseHeight_script_103 :
    parseHeight [0x01, 0x67, 0x01, 0xaa] = .ok (103, [0x01, 0x67, 0x00, 0x00]) ∧
      ZeroedAfterFirstItem [0x01, 0x67, 0x01, 0xaa] [0x01, 0x67, 0x00, 0x00] :=
  ⟨parseHeight_height103, parseHeight_script parseHeight_height103⟩

/-! The loop. -/

section

variable (doubleHashH : List UInt8 → Hash32)

/-- The id `parseBlock` records for transaction `t`: its hash, or for a coinbase-shaped one its
hash with the signature script `parseHeight` left; `none` when `parseHeight` refuses it. -/
def recordedTxHash (t : MsgTx) : Option Hash32 :=
  if isCoinBaseTx t then
    match t.txIn with
    | [txIn] =>
      match parseHeight txIn.signatureScript with
      | .ok (_, script) =>
        some ({ t with txIn := [{ txIn with signatureScript := script }] }.txHash doubleHashH)
      | _ => none
    | _ => none
  else some (t.txHash doubleHashH)

/-- The last transaction of `txs` that `IsCoinBaseTx` accepts has the one input `txIn`, from
whose signature script `parseHeight` reads `height`. -/
def LastCoinbaseHeight (txs : List MsgTx) (height : Nat) : Prop :=
  ∃ front t back txIn script, txs = front ++ t :: back ∧ isCoinBaseTx t = true ∧
    (∀ u ∈ back, isCoinBaseTx u = false) ∧ t.txIn = [txIn] ∧
    parseHeight txIn.signatureScript = .ok (height, script)

theorem parseBlockTxs_cons_of_not_coinbase {t : MsgTx} (ordinary : isCoinBaseTx t = false)
    (height : Int) (txHashes : List Hash32) (rest : List MsgTx) :
    parseBlockTxs doubleHashH height txHashes (t :: rest) =
      parseBlockTxs doubleHashH height (txHashes ++ [t.txHash doubleHashH]) rest := by
  rw [parseBlockTxs, if_neg (by simp [ordinary])]

theorem parseBlockTxs_cons_of_coinbase {t : MsgTx} {txIn : TxIn} (coinbase : isCoinBaseTx t = true)
    (single : t.txIn = [txIn]) (height : Int) (txHashes : List Hash32) (rest : List MsgTx) :
    parseBlockTxs doubleHashH height txHashes (t :: rest) =
      match parseHeight txIn.signatureScript with
      | .error message => .error ("error parsing coinbase: " ++ message)
      | .panic message => .panic message
      | .ok (parsed, script) =>
        parseBlockTxs doubleHashH parsed
          (txHashes ++ [{ t with txIn := [{ txIn with signatureScript := script }] }.txHash
            doubleHashH]) rest := by
  rw [parseBlockTxs, if_pos coinbase, single]
  rfl

theorem parseBlockTxs_cons_eq_ok {height : Int} {txHashes : List Hash32} {t : MsgTx}
    {rest : List MsgTx} {result : Int × List Hash32}
    (parsed : parseBlockTxs doubleHashH height txHashes (t :: rest) = .ok result) :
    ∃ id height', recordedTxHash doubleHashH t = some id ∧
      parseBlockTxs doubleHashH height' (txHashes ++ [id]) rest = .ok result ∧
      (isCoinBaseTx t = false ∧ height' = height ∨
        ∃ (txIn : TxIn) (script : List UInt8) (parsedHeight : Nat), isCoinBaseTx t = true ∧
          t.txIn = [txIn] ∧ parseHeight txIn.signatureScript = .ok (parsedHeight, script) ∧
          height' = parsedHeight) := by
  cases coinbase : isCoinBaseTx t with
  | false =>
      rw [parseBlockTxs_cons_of_not_coinbase doubleHashH coinbase] at parsed
      exact ⟨_, _, by simp [recordedTxHash, coinbase], parsed, .inl ⟨rfl, rfl⟩⟩
  | true =>
      obtain ⟨txIn, single⟩ := isCoinBaseTx_txIn coinbase
      rw [parseBlockTxs_cons_of_coinbase doubleHashH coinbase single] at parsed
      split at parsed
      · cases parsed
      · cases parsed
      · rename_i parsedHeight script heightParsed
        exact ⟨_, _, by simp [recordedTxHash, coinbase, single, heightParsed], parsed,
          .inr ⟨txIn, script, parsedHeight, rfl, single, heightParsed, rfl⟩⟩

theorem parseBlockTxs_recorded {height height' : Int} {txHashes txHashes' : List Hash32}
    {txs : List MsgTx}
    (parsed : parseBlockTxs doubleHashH height txHashes txs = .ok (height', txHashes')) :
    ∃ ids, txHashes' = txHashes ++ ids ∧
      List.Forall₂ (fun t id => recordedTxHash doubleHashH t = some id) txs ids := by
  induction txs generalizing height txHashes with
  | nil =>
      simp only [parseBlockTxs, Outcome.ok.injEq, Prod.mk.injEq] at parsed
      exact ⟨[], by simp [parsed.2], .nil⟩
  | cons t rest ih =>
      obtain ⟨id, _, first, parsed, -⟩ := parseBlockTxs_cons_eq_ok doubleHashH parsed
      obtain ⟨ids, rfl, recorded⟩ := ih parsed
      exact ⟨id :: ids, by simp, .cons first recorded⟩

theorem parseBlockTxs_height {height height' : Int} {txHashes txHashes' : List Hash32}
    {txs : List MsgTx}
    (parsed : parseBlockTxs doubleHashH height txHashes txs = .ok (height', txHashes')) :
    (∀ t ∈ txs, isCoinBaseTx t = false) ∧ height' = height ∨
      ∃ parsedHeight : Nat, height' = parsedHeight ∧ LastCoinbaseHeight txs parsedHeight := by
  induction txs generalizing height txHashes with
  | nil =>
      simp only [parseBlockTxs, Outcome.ok.injEq, Prod.mk.injEq] at parsed
      exact .inl ⟨by simp, parsed.1.symm⟩
  | cons t rest ih =>
      obtain ⟨_, _, -, parsed, first⟩ := parseBlockTxs_cons_eq_ok doubleHashH parsed
      rcases ih parsed with ⟨ordinary, rfl⟩ | ⟨later, eq, front, u, back, txIn, script, rfl, last⟩
      · rcases first with ⟨coinbase, rfl⟩ |
            ⟨txIn, script, parsedHeight, coinbase, single, heightParsed, rfl⟩
        · exact .inl ⟨List.forall_mem_cons.mpr ⟨coinbase, ordinary⟩, rfl⟩
        · exact .inr ⟨parsedHeight, rfl, [], t, rest, txIn, script, rfl, coinbase, ordinary,
            single, heightParsed⟩
      · exact .inr ⟨later, eq, t :: front, u, back, txIn, script, rfl, last⟩

theorem parseBlockTxs_first_refused {front back : List MsgTx} {t : MsgTx} {txIn : TxIn}
    {message : String}
    (earlier : ∀ u ∈ front, isCoinBaseTx u = true →
      ∃ txIn' parsed script, u.txIn = [txIn'] ∧
        parseHeight txIn'.signatureScript = .ok (parsed, script))
    (coinbase : isCoinBaseTx t = true) (single : t.txIn = [txIn])
    (refused : parseHeight txIn.signatureScript = .error message)
    (height : Int) (txHashes : List Hash32) :
    parseBlockTxs doubleHashH height txHashes (front ++ t :: back) =
      .error ("error parsing coinbase: " ++ message) := by
  induction front generalizing height txHashes with
  | nil =>
      rw [List.nil_append, parseBlockTxs_cons_of_coinbase doubleHashH coinbase single, refused]
  | cons u front ih =>
      have later := fun v member => earlier v (List.mem_cons_of_mem u member)
      cases uCoinbase : isCoinBaseTx u with
      | false =>
          rw [List.cons_append, parseBlockTxs_cons_of_not_coinbase doubleHashH uCoinbase]
          exact ih later _ _
      | true =>
          obtain ⟨txIn', parsed, script, uSingle, uParsed⟩ :=
            earlier u (List.mem_cons_self u front) uCoinbase
          rw [List.cons_append, parseBlockTxs_cons_of_coinbase doubleHashH uCoinbase uSingle,
            uParsed]
          exact ih later _ _

/-! `parseBlock`. -/

theorem parseHeight_lt {script script' : List UInt8} {height : Nat}
    (parsed : parseHeight script = .ok (height, script')) : height < 2 ^ 32 := by
  obtain ⟨first, -, -, rfl, -⟩ := parseHeight_eq_ok_pushedData parsed
  exact lt_of_lt_of_le (leNat_lt _) (Nat.pow_le_pow_right (by decide) (List.length_take_le _ _))

/-- `block` lists, in block order, the own id of each transaction decoded from the front of
the first frame of `msg`, and its height is the one `parseHeight` reads from the last
coinbase-shaped one. -/
def AcceptedBlock (msg : List (List UInt8)) (block : Block) : Prop :=
  ∃ rawblock ctr more wireBlock unread, msg = rawblock :: ctr :: more ∧
    MsgBlock.btcDecode .witnessEncoding rawblock = .ok (wireBlock, unread) ∧
    List.Forall₂ (fun t id => recordedTxHash doubleHashH t = some id)
      wireBlock.transactions block.txIDs ∧
    LastCoinbaseHeight wireBlock.transactions block.height.toNat

/-- What `parseBlock` accepts is an `AcceptedBlock`: the ids are the transactions' own, in
order, and the height comes from the last coinbase-shaped transaction, wherever it stands. -/
theorem parseBlock_accepted {firstSeen : Time} {msg : List (List UInt8)} {block : Block}
    (parsed : parseBlock doubleHashH firstSeen msg = .ok block) :
    AcceptedBlock doubleHashH msg block := by
  match msg, parsed with
  | rawblock :: ctr :: more, parsed =>
      simp only [parseBlock, List.getElem?_cons_zero, List.getElem?_cons_succ] at parsed
      split at parsed
      · cases parsed
      · rename_i wireBlock unread decoded
        split at parsed
        · cases parsed
        · cases parsed
        · rename_i height txHashes loop
          split_ifs at parsed with negative
          cases parsed
          obtain ⟨ids, rfl, recorded⟩ := parseBlockTxs_recorded doubleHashH loop
          rcases parseBlockTxs_height doubleHashH loop with ⟨-, rfl⟩ | ⟨parsedHeight, rfl, last⟩
          · exact absurd (by decide) negative
          · obtain ⟨front, t, back, txIn, script, split, coinbase, after, single, heightParsed⟩ :=
              last
            have small := parseHeight_lt heightParsed
            refine ⟨rawblock, ctr, more, wireBlock, unread, rfl, decoded, by simpa using recorded,
              front, t, back, txIn, script, split, coinbase, after, single, ?_⟩
            rw [Int.toNat_ofNat, UInt32.toNat_ofNat_of_lt small]
            exact heightParsed

/-- How `parseBlock` refuses the frames `rawblock` and `ctr` when `rawblock` decodes as
`wireBlock`: with `height not found` when no transaction is coinbase-shaped, and with the error
of the first coinbase-shaped transaction whose script `parseHeight` refuses. -/
def RefusesBadCoinbase (firstSeen : Time) (rawblock ctr : List UInt8) (wireBlock : MsgBlock) :
    Prop :=
  ((∀ t ∈ wireBlock.transactions, isCoinBaseTx t = false) →
    parseBlock doubleHashH firstSeen [rawblock, ctr] = .error "height not found") ∧
  ∀ front t back txIn message, wireBlock.transactions = front ++ t :: back →
    (∀ u ∈ front, isCoinBaseTx u = true →
      ∃ txIn' parsed script, u.txIn = [txIn'] ∧
        parseHeight txIn'.signatureScript = .ok (parsed, script)) →
    isCoinBaseTx t = true → t.txIn = [txIn] → parseHeight txIn.signatureScript = .error message →
    parseBlock doubleHashH firstSeen [rawblock, ctr] = .error ("error parsing coinbase: " ++ message)

/-- Every decoded block without a usable coinbase is refused, with the error of the first
coinbase-shaped transaction `parseHeight` refuses, or with `height not found` when there is
none. -/
theorem parseBlock_refused {firstSeen : Time} {rawblock ctr : List UInt8} {wireBlock : MsgBlock}
    {unread : List UInt8}
    (decoded : MsgBlock.btcDecode .witnessEncoding rawblock = .ok (wireBlock, unread)) :
    RefusesBadCoinbase doubleHashH firstSeen rawblock ctr wireBlock := by
  refine ⟨fun noCoinbase => ?_,
    fun front t back txIn message split earlier coinbase single refused => ?_⟩
  · simp only [parseBlock, List.getElem?_cons_zero, List.getElem?_cons_succ, decoded,
      parseBlockTxs_of_not_coinbase doubleHashH _ _ _ noCoinbase]
    rfl
  · simp only [parseBlock, List.getElem?_cons_zero, List.getElem?_cons_succ, decoded, split,
      parseBlockTxs_first_refused doubleHashH earlier coinbase single refused]

end

theorem parseBlock_accepted_height103Block :
    ∃ block, parseBlock (fun _ => zeroHash) ⟨0⟩ [height103Block.toMsgBlock.serialize, []] =
        .ok block ∧
      AcceptedBlock (fun _ => zeroHash) [height103Block.toMsgBlock.serialize, []] block :=
  have parsed := height103Block.parseBlock_of_parseHeight (fun _ => zeroHash) parseHeight_height103
    ⟨0⟩ []
  ⟨_, parsed, parseBlock_accepted (fun _ => zeroHash) parsed⟩

theorem parseBlock_refused_sampleBlock :
    MsgBlock.btcDecode .witnessEncoding sampleBlock.serialize = .ok (sampleBlock, []) ∧
      RefusesBadCoinbase (fun _ => zeroHash) ⟨0⟩ sampleBlock.serialize [] sampleBlock :=
  have decoded :
      MsgBlock.btcDecode .witnessEncoding sampleBlock.serialize = .ok (sampleBlock, []) := by
    simpa using MsgBlock.btcDecode_serialize sampleBlock [] sampleBlock_decodable
  ⟨decoded, parseBlock_refused (fun _ => zeroHash) decoded⟩

end Bademeister
