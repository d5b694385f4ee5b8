import Bademeister.Basic

/-! btcd's `txscript.PushedData` and its script parser. A pushed item is a sub-slice sharing the
script's backing array, with capacity to the script's end; `ByteSlice` keeps that. -/

namespace Bademeister

/-- A Go `[]byte` in `parseHeight`: a window `script[off : off + len]` of the coinbase
signature script with capacity `cap`, or a slice with a backing array of its own (`nil` is
the empty one). -/
inductive ByteSlice where
  | window (off len cap : Nat)
  | owned (bytes : List UInt8)
  deriving Repr, DecidableEq

def ByteSlice.length : ByteSlice → Nat
  | .window _ len _ => len
  | .owned bytes => bytes.length

def ByteSlice.contents (script : List UInt8) : ByteSlice → List UInt8
  | .window off len _ => (script.drop off).take len
  | .owned bytes => bytes

/-- How btcd's opcode table (`opcodeArray[op].length`) says data follows an opcode: length `1`
is no data, length `1 + n` is `OP_DATA_n` with `n` bytes, and the negative lengths of
`OP_PUSHDATA1/2/4` give the width of the little-endian data length that comes first. -/
inductive PushKind where
  | noData
  | fixed (size : Nat)
  | prefixed (width : Nat)
  deriving Repr, DecidableEq

def op0 : UInt8 := 0x00

def opPushData1 : UInt8 := 0x4c

def opPushData2 : UInt8 := 0x4d

def opPushData4 : UInt8 := 0x4e

def pushKind (op : UInt8) : PushKind :=
  if 0x01 ≤ op.toNat ∧ op.toNat ≤ 0x4b then .fixed op.toNat
  else if op = opPushData1 then .prefixed 1
  else if op = opPushData2 then .prefixed 2
  else if op = opPushData4 then .prefixed 4
  else .noData

def pushOpcodeName (op : UInt8) : String :=
  if op = opPushData1 then "OP_PUSHDATA1"
  else if op = opPushData2 then "OP_PUSHDATA2"
  else if op = opPushData4 then "OP_PUSHDATA4"
  else "OP_DATA_" ++ toString op.toNat

/-- `parsedOpcode`: the opcode and, for a data push, where its data lies in the script
(Go's `pop.data`; `none` is `nil`). -/
structure ParsedOpcode where
  opcode : UInt8
  data : Option (Nat × Nat)
  deriving Repr, DecidableEq

def parseScriptFrom (script : List UInt8) (i : Nat) : Except String (List ParsedOpcode) :=
  if inBounds : i < script.length then
    let instr := script[i]
    match pushKind instr with
    | .noData =>
      (parseScriptFrom script (i + 1)).map fun rest => { opcode := instr, data := none } :: rest
    | .fixed size =>
      if script.length - i < size + 1 then
        .error ("opcode " ++ pushOpcodeName instr ++ " requires " ++ toString (size + 1) ++
          " bytes, but script only has " ++ toString (script.length - i) ++ " remaining")
      else
        (parseScriptFrom script (i + 1 + size)).map fun rest =>
          { opcode := instr, data := some (i + 1, size) } :: rest
    | .prefixed width =>
      if script.length - (i + 1) < width then
        .error ("opcode " ++ pushOpcodeName instr ++ " requires " ++ toString width ++
          " bytes, but script only has " ++ toString (script.length - (i + 1)) ++ " remaining")
      else
        let dataLength := leNat ((script.drop (i + 1)).take width)
        if dataLength > script.length - (i + 1 + width) then
          .error ("opcode " ++ pushOpcodeName instr ++ " pushes " ++ toString dataLength ++
            " bytes, but script only has " ++ toString (script.length - (i + 1 + width)) ++
            " remaining")
        else
          (parseScriptFrom script (i + 1 + width + dataLength)).map fun rest =>
            { opcode := instr, data := some (i + 1 + width, dataLength) } :: rest
  else .ok []
termination_by script.length - i

def parseScript (script : List UInt8) : Except String (List ParsedOpcode) := parseScriptFrom script 0

/-- The item `PushedData` keeps for a parsed opcode: the data sub-slice of a push, `nil` for
`OP_0`, nothing for any other opcode (`OP_1` to `OP_16` included). -/
def pushedItem (script : List UInt8) (pop : ParsedOpcode) : Option ByteSlice :=
  match pop.data with
  | some (off, len) => some (.window off len (script.length - off))
  | none => if pop.opcode = op0 then some (.owned []) else none

def pushedData (script : List UInt8) : Except String (List ByteSlice) :=
  (parseScript script).map fun pops => pops.filterMap (pushedItem script)

/-! One lemma per way the loop can take a step. -/

theorem parseScriptFrom_end (script : List UInt8) (i : Nat) (done : script.length ≤ i) :
    parseScriptFrom script i = .ok [] := by
  rw [parseScriptFrom, dif_neg (by omega)]

theorem parseScriptFrom_noData (script : List UInt8) (i : Nat) (inBounds : i < script.length)
    (kind : pushKind script[i] = .noData) :
    parseScriptFrom script i = (parseScriptFrom script (i + 1)).map fun rest =>
      { opcode := script[i], data := none } :: rest := by
  rw [parseScriptFrom, dif_pos inBounds]
  simp only [kind]

theorem parseScriptFrom_fixed (script : List UInt8) (i size : Nat) (inBounds : i < script.length)
    (kind : pushKind script[i] = .fixed size) (room : size + 1 ≤ script.length - i) :
    parseScriptFrom script i = (parseScriptFrom script (i + 1 + size)).map fun rest =>
      { opcode := script[i], data := some (i + 1, size) } :: rest := by
  rw [parseScriptFrom, dif_pos inBounds]
  simp only [kind, if_neg (show ¬ script.length - i < size + 1 by omega)]

theorem parseScriptFrom_prefixed (script : List UInt8) (i width : Nat) (inBounds : i < script.length)
    (kind : pushKind script[i] = .prefixed width) (room : width ≤ script.length - (i + 1))
    (dataRoom : leNat ((script.drop (i + 1)).take width) ≤ script.length - (i + 1 + width)) :
    parseScriptFrom script i =
      (parseScriptFrom script (i + 1 + width + leNat ((script.drop (i + 1)).take width))).map
        fun rest => { opcode := script[i],
                      data := some (i + 1 + width, leNat ((script.drop (i + 1)).take width)) } ::
          rest := by
  rw [parseScriptFrom, dif_pos inBounds]
  simp only [kind, if_neg (show ¬ script.length - (i + 1) < width by omega),
    if_neg (show ¬ leNat ((script.drop (i + 1)).take width) > script.length - (i + 1 + width) by
      omega)]

theorem except_map_eq_ok {α β ε : Type} {f : α → β} {source : Except ε α} {result : β}
    (mapped : source.map f = .ok result) : ∃ value, source = .ok value ∧ result = f value := by
  cases source with
  | error message => cases mapped
  | ok value =>
      simp only [Except.map, Except.ok.injEq] at mapped
      exact ⟨value, rfl, mapped.symm⟩

/-- Every data push the parser returns lies inside the script. -/
def DataInScript (script : List UInt8) (pops : List ParsedOpcode) : Prop :=
  ∀ pop ∈ pops, ∀ off len, pop.data = some (off, len) → off + len ≤ script.length

theorem dataInScript_cons {script : List UInt8} {pop : ParsedOpcode} {pops : List ParsedOpcode}
    (head : ∀ off len, pop.data = some (off, len) → off + len ≤ script.length)
    (tail : DataInScript script pops) : DataInScript script (pop :: pops) := by
  rintro other (_ | ⟨_, member⟩)
  exacts [head, tail other member]

theorem parseScriptFrom_dataInScript (script : List UInt8) (i : Nat) :
    ∀ pops, parseScriptFrom script i = .ok pops → DataInScript script pops := by
  induction i using parseScriptFrom.induct script with
  | case1 i inBounds instr kind ih =>
      intro pops parsed
      rw [parseScriptFrom_noData script i inBounds kind] at parsed
      obtain ⟨tail, tailParsed, rfl⟩ := except_map_eq_ok parsed
      exact dataInScript_cons (by simp) (ih tail tailParsed)
  | case2 i inBounds instr size kind short =>
      intro pops parsed
      rw [parseScriptFrom, dif_pos inBounds] at parsed
      simp only [kind, if_pos short] at parsed
      cases parsed
  | case3 i inBounds instr size kind long ih =>
      intro pops parsed
      rw [parseScriptFrom_fixed script i size inBounds kind (by omega)] at parsed
      obtain ⟨tail, tailParsed, rfl⟩ := except_map_eq_ok parsed
      refine dataInScript_cons ?_ (ih tail tailParsed)
      simp only [Option.some.injEq, Prod.mk.injEq]
      omega
  | case4 i inBounds instr width kind short =>
      intro pops parsed
      rw [parseScriptFrom, dif_pos inBounds] at parsed
      simp only [kind, if_pos short] at parsed
      cases parsed
  | case5 i inBounds instr width kind long dataLength tooLong =>
      intro pops parsed
      rw [parseScriptFrom, dif_pos inBounds] at parsed
      simp only [kind, if_neg long, if_pos tooLong] at parsed
      cases parsed
  | case6 i inBounds instr width kind long dataLength fits ih =>
      intro pops parsed
      rw [parseScriptFrom_prefixed script i width inBounds kind (by omega) (by omega)] at parsed
      obtain ⟨tail, tailParsed, rfl⟩ := except_map_eq_ok parsed
      refine dataInScript_cons ?_ (ih tail tailParsed)
      simp only [Option.some.injEq, Prod.mk.injEq]
      omega
  | case7 i outside =>
      intro pops parsed
      rw [parseScriptFrom_end script i (by omega)] at parsed
      cases parsed
      simp [DataInScript]

/-! Parsing a script that has another in front of it. -/

def ParsedOpcode.shift (distance : Nat) (pop : ParsedOpcode) : ParsedOpcode :=
  { pop with data := pop.data.map fun (off, len) => (off + distance, len) }

def ByteSlice.shift (distance : Nat) : ByteSlice → ByteSlice
  | .window off len cap => .window (off + distance) len cap
  | .owned bytes => .owned bytes

theorem parseScriptFrom_append (front script : List UInt8) (i : Nat) :
    parseScriptFrom (front ++ script) (front.length + i) =
      (parseScriptFrom script i).map (List.map (ParsedOpcode.shift front.length)) := by
  have bound : ∀ k, k < script.length → front.length + k < (front ++ script).length := by
    intro k inBounds
    simp only [List.length_append]
    omega
  have idx : ∀ k (inBounds : k < script.length)
      (_ : front.length + k < (front ++ script).length),
      (front ++ script)[front.length + k] = script[k] := by
    intro k inBounds _
    simp [List.getElem_append_right]
  have remaining : ∀ k, (front ++ script).length - (front.length + k) = script.length - k := by
    intro k
    simp only [List.length_append]
    omega
  have dropFront : ∀ k, (front ++ script).drop (front.length + k) = script.drop k :=
    fun k => List.drop_append k
  induction i using parseScriptFrom.induct script with
  | case1 i inBounds instr kind ih =>
      have here := idx i inBounds (bound i inBounds)
      rw [parseScriptFrom_noData _ _ (bound i inBounds) (here ▸ kind),
        parseScriptFrom_noData script i inBounds kind, Nat.add_assoc, ih, here]
      cases parseScriptFrom script (i + 1) <;> rfl
  | case2 i inBounds instr size kind short =>
      have here := idx i inBounds (bound i inBounds)
      conv_lhs => rw [parseScriptFrom]
      conv_rhs => rw [parseScriptFrom]
      simp only [dif_pos (bound i inBounds), dif_pos inBounds, here, kind, remaining,
        if_pos short]
      rfl
  | case3 i inBounds instr size kind long ih =>
      have here := idx i inBounds (bound i inBounds)
      rw [parseScriptFrom_fixed _ _ size (bound i inBounds) (here ▸ kind)
          (by rw [remaining]; omega),
        parseScriptFrom_fixed script i size inBounds kind (by omega),
        show front.length + i + 1 + size = front.length + (i + 1 + size) by omega, ih,
        here]
      cases parseScriptFrom script (i + 1 + size) <;> simp [Except.map, ParsedOpcode.shift]
      omega
  | case4 i inBounds instr width kind short =>
      have here := idx i inBounds (bound i inBounds)
      conv_lhs => rw [parseScriptFrom]
      conv_rhs => rw [parseScriptFrom]
      simp only [dif_pos (bound i inBounds), dif_pos inBounds, here, kind, Nat.add_assoc,
        remaining, if_pos short]
      rfl
  | case5 i inBounds instr width kind long dataLength tooLong =>
      have here := idx i inBounds (bound i inBounds)
      have tooLong' : leNat ((script.drop (i + 1)).take width) > script.length - (i + (1 + width)) := by
        rw [← Nat.add_assoc]
        exact tooLong
      conv_lhs => rw [parseScriptFrom]
      conv_rhs => rw [parseScriptFrom]
      simp only [dif_pos (bound i inBounds), dif_pos inBounds, here, kind, Nat.add_assoc,
        remaining, dropFront, if_neg long, if_pos tooLong']
      rfl
  | case6 i inBounds instr width kind long dataLength fits ih =>
      have here := idx i inBounds (bound i inBounds)
      have lengthFront : leNat (((front ++ script).drop (front.length + i + 1)).take width) =
          leNat ((script.drop (i + 1)).take width) := by
        rw [Nat.add_assoc, dropFront]
      have dataEnd : ∀ n, front.length + i + 1 + width + n = front.length + (i + 1 + width + n) := by
        intro n
        omega
      rw [parseScriptFrom_prefixed _ _ width (bound i inBounds) (here ▸ kind)
          (by rw [Nat.add_assoc, remaining]; omega)
          (by rw [lengthFront, show front.length + i + 1 + width = front.length + (i + 1 + width)
                by omega, remaining]; omega),
        parseScriptFrom_prefixed script i width inBounds kind (by omega) (by omega), lengthFront,
        dataEnd, ih, here]
      cases parseScriptFrom script (i + 1 + width + leNat ((script.drop (i + 1)).take width)) <;>
        simp [Except.map, ParsedOpcode.shift]
      omega
  | case7 i outside =>
      rw [parseScriptFrom_end script i (by omega), parseScriptFrom_end _ _ (by simp; omega)]
      rfl

theorem parseScriptFrom_append_of_ok {front : List UInt8} (script : List UInt8) (i : Nat) :
    ∀ pops, parseScriptFrom front i = .ok pops → i ≤ front.length →
      parseScriptFrom (front ++ script) i =
        (parseScriptFrom script 0).map fun rest => pops ++ rest.map (ParsedOpcode.shift front.length) := by
  have bound : ∀ k, k < front.length → k < (front ++ script).length := by
    intro k inBounds
    simp only [List.length_append]
    omega
  have idx : ∀ k (inBounds : k < front.length) (_ : k < (front ++ script).length),
      (front ++ script)[k] = front[k] :=
    fun k inBounds _ => List.getElem_append_left inBounds
  induction i using parseScriptFrom.induct front with
  | case1 i inBounds instr kind ih =>
      have here := idx i inBounds (bound i inBounds)
      intro pops parsed _
      rw [parseScriptFrom_noData front i inBounds kind] at parsed
      obtain ⟨tail, tailParsed, rfl⟩ := except_map_eq_ok parsed
      rw [parseScriptFrom_noData _ _ (bound i inBounds) (here ▸ kind),
        ih tail tailParsed (by omega), here]
      cases parseScriptFrom script 0 <;> rfl
  | case2 i inBounds instr size kind short =>
      intro pops parsed _
      rw [parseScriptFrom, dif_pos inBounds] at parsed
      simp only [kind, if_pos short] at parsed
      cases parsed
  | case3 i inBounds instr size kind long ih =>
      have here := idx i inBounds (bound i inBounds)
      intro pops parsed _
      rw [parseScriptFrom_fixed front i size inBounds kind (by omega)] at parsed
      obtain ⟨tail, tailParsed, rfl⟩ := except_map_eq_ok parsed
      rw [parseScriptFrom_fixed _ _ size (bound i inBounds) (here ▸ kind)
          (by simp only [List.length_append]; omega),
        ih tail tailParsed (by omega), here]
      cases parseScriptFrom script 0 <;> rfl
  | case4 i inBounds instr width kind short =>
      intro pops parsed _
      rw [parseScriptFrom, dif_pos inBounds] at parsed
      simp only [kind, if_pos short] at parsed
      cases parsed
  | case5 i inBounds instr width kind long dataLength tooLong =>
      intro pops parsed _
      rw [parseScriptFrom, dif_pos inBounds] at parsed
      simp only [kind, if_neg long, if_pos tooLong] at parsed
      cases parsed
  | case6 i inBounds instr width kind long dataLength fits ih =>
      have here := idx i inBounds (bound i inBounds)
      intro pops parsed _
      rw [parseScriptFrom_prefixed front i width inBounds kind (by omega) (by omega)] at parsed
      obtain ⟨tail, tailParsed, rfl⟩ := except_map_eq_ok parsed
      have lengthBytes : ((front ++ script).drop (i + 1)).take width = (front.drop (i + 1)).take width := by
        rw [List.drop_append_of_le_length (by omega), List.take_append_of_le_length (by simp; omega)]
      rw [parseScriptFrom_prefixed _ _ width (bound i inBounds) (here ▸ kind)
          (by simp only [List.length_append]; omega)
          (by rw [lengthBytes]; simp only [List.length_append]; omega),
        lengthBytes, ih tail tailParsed (by omega), here]
      cases parseScriptFrom script 0 <;> rfl
  | case7 i outside =>
      intro pops parsed start
      rw [parseScriptFrom_end front i (by omega)] at parsed
      cases parsed
      have atEnd : i = front.length + 0 := by omega
      rw [atEnd, parseScriptFrom_append]
      cases parseScriptFrom script 0 <;> rfl

theorem pushedItem_shift (front script : List UInt8) (pop : ParsedOpcode) :
    pushedItem (front ++ script) (pop.shift front.length) =
      (pushedItem script pop).map (ByteSlice.shift front.length) := by
  rcases pop with ⟨opcode, _ | ⟨off, len⟩⟩
  · simp only [pushedItem, ParsedOpcode.shift, Option.map_none']
    split_ifs <;> rfl
  · simp only [pushedItem, ParsedOpcode.shift, Option.map_some', ByteSlice.shift,
      List.length_append]
    congr 2
    omega

theorem pushedData_append {front : List UInt8} {pops : List ParsedOpcode}
    (parsed : parseScript front = .ok pops) (script : List UInt8) :
    pushedData (front ++ script) = (pushedData script).map fun items =>
      pops.filterMap (pushedItem (front ++ script)) ++ items.map (ByteSlice.shift front.length) := by
  rw [pushedData, parseScript, parseScriptFrom_append_of_ok script 0 pops parsed (Nat.zero_le _),
    pushedData, parseScript]
  cases parseScriptFrom script 0 with
  | error message => rfl
  | ok rest =>
      simp only [Except.map, List.filterMap_append, List.filterMap_map, Function.comp_def,
        pushedItem_shift, List.map_filterMap]

end Bademeister
