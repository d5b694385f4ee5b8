import Bademeister.Zmq.Parse

/-! `parseHeight` as Go runs it: the padded item always has four bytes, so
`binary.LittleEndian.Uint32` never panics. -/

namespace Bademeister

/-- A slice that can be read without leaving its array: a window inside the script whose
capacity ends where the script ends. -/
def ByteSlice.Fits (script : List UInt8) : ByteSlice → Prop
  | .window off len cap => len ≤ cap ∧ off + cap = script.length
  | .owned _ => True

theorem pushedItem_fits {script : List UInt8} {pop : ParsedOpcode} {item : ByteSlice}
    (inScript : ∀ off len, pop.data = some (off, len) → off + len ≤ script.length)
    (pushed : pushedItem script pop = some item) : item.Fits script := by
  unfold pushedItem at pushed
  split at pushed
  · rename_i off len data
    simp only [Option.some.injEq] at pushed
    subst pushed
    have bound := inScript off len data
    exact ⟨by omega, by omega⟩
  · split at pushed
    · simp only [Option.some.injEq] at pushed
      subst pushed
      trivial
    · cases pushed

theorem pushedData_fits {script : List UInt8} {data : List ByteSlice}
    (pushed : pushedData script = .ok data) : ∀ item ∈ data, item.Fits script := by
  obtain ⟨pops, parsed, rfl⟩ := except_map_eq_ok pushed
  intro item member
  obtain ⟨pop, popMember, popItem⟩ := List.mem_filterMap.mp member
  exact pushedItem_fits (parseScriptFrom_dataInScript script 0 pops parsed pop popMember) popItem

theorem ByteSlice.length_contents {script : List UInt8} {slice : ByteSlice}
    (fits : slice.Fits script) : (slice.contents script).length = slice.length := by
  cases slice with
  | window off len cap =>
      simp only [ByteSlice.Fits] at fits
      simp [ByteSlice.contents, ByteSlice.length]
      omega
  | owned bytes => rfl

/-! One `append`. -/

theorem appendByte_length_script (script : List UInt8) (slice : ByteSlice) (byte : UInt8) :
    (appendByte script slice byte).1.length = script.length := by
  unfold appendByte
  split
  · split <;> simp
  · rfl

theorem appendByte_length {script : List UInt8} {slice : ByteSlice} (byte : UInt8)
    (fits : slice.Fits script) : (appendByte script slice byte).2.length = slice.length + 1 := by
  cases slice with
  | window off len cap =>
      simp only [ByteSlice.Fits] at fits
      simp only [appendByte]
      split <;> simp [ByteSlice.length]
      omega
  | owned bytes => simp [appendByte, ByteSlice.length]

theorem appendByte_fits {script : List UInt8} {slice : ByteSlice} (byte : UInt8)
    (fits : slice.Fits script) :
    (appendByte script slice byte).2.Fits (appendByte script slice byte).1 := by
  cases slice with
  | window off len cap =>
      simp only [ByteSlice.Fits] at fits
      simp only [appendByte]
      split
      · simp only [ByteSlice.Fits, List.length_set]
        omega
      · trivial
  | owned bytes => trivial

theorem appendByte_contents {script : List UInt8} {slice : ByteSlice} (byte : UInt8)
    (fits : slice.Fits script) :
    (appendByte script slice byte).2.contents (appendByte script slice byte).1 =
      slice.contents script ++ [byte] := by
  cases slice with
  | window off len cap =>
      simp only [ByteSlice.Fits] at fits
      simp only [appendByte]
      split
      · rename_i room
        have inside : len < (script.drop off).length := by simp; omega
        simp only [ByteSlice.contents]
        rw [List.drop_set, if_neg (by omega), Nat.add_sub_cancel_left,
          List.set_eq_take_append_cons_drop, if_pos inside]
        have minEq : min len (script.length - off) = len := by omega
        simp [List.take_append_eq_append_take, List.take_take, minEq]
      · rfl
  | owned bytes => rfl

/-! The padding loop. -/

theorem padHeight_spec (rounds : Nat) {script : List UInt8} {slice : ByteSlice}
    (fits : slice.Fits script) :
    let padded := padHeight rounds (script, slice)
    padded.2.Fits padded.1 ∧ padded.1.length = script.length ∧
      padded.2.length = max slice.length (min 4 (slice.length + rounds)) ∧
      padded.2.contents padded.1 =
        slice.contents script ++ List.replicate (min 4 (slice.length + rounds) - slice.length) 0 := by
  induction rounds generalizing script slice with
  | zero => simp [padHeight, fits]
  | succ rounds ih =>
      dsimp only
      rw [padHeight]
      split_ifs with short
      · obtain ⟨paddedFits, scriptLength, paddedLength, paddedContents⟩ :=
          ih (appendByte_fits 0 fits)
        refine ⟨paddedFits, by rw [scriptLength, appendByte_length_script], ?_, ?_⟩
        · rw [paddedLength, appendByte_length 0 fits]
          omega
        · rw [paddedContents, appendByte_contents 0 fits, appendByte_length 0 fits,
            List.append_assoc,
            show min 4 (slice.length + (rounds + 1)) - slice.length =
              (min 4 (slice.length + 1 + rounds) - (slice.length + 1)) + 1 by omega,
            List.replicate_succ]
          rfl
      · dsimp only
        refine ⟨fits, rfl, by omega, ?_⟩
        rw [show min 4 (slice.length + (rounds + 1)) - slice.length = 0 by omega]
        simp

theorem padHeight_four {script : List UInt8} {slice : ByteSlice} (fits : slice.Fits script) :
    4 ≤ ((padHeight 4 (script, slice)).2.contents (padHeight 4 (script, slice)).1).length ∧
      (padHeight 4 (script, slice)).2.contents (padHeight 4 (script, slice)).1 =
        slice.contents script ++ List.replicate (4 - slice.length) 0 := by
  obtain ⟨paddedFits, -, paddedLength, paddedContents⟩ := padHeight_spec 4 fits
  refine ⟨?_, ?_⟩
  · rw [ByteSlice.length_contents paddedFits, paddedLength]
    omega
  · rw [paddedContents]
    congr 2
    omega

theorem padHeight_owned_script (rounds : Nat) (script bytes : List UInt8) :
    (padHeight rounds (script, .owned bytes)).1 = script := by
  induction rounds generalizing bytes with
  | zero => rfl
  | succ rounds ih =>
      rw [padHeight]
      split_ifs
      · exact ih _
      · rfl

theorem take_succ_set {script : List UInt8} {n : Nat} (byte : UInt8) (inside : n < script.length) :
    (script.set n byte).take (n + 1) = script.take n ++ [byte] := by
  rw [List.set_eq_take_append_cons_drop, if_pos inside, List.take_append_eq_append_take]
  simp [show n + 1 - n = 1 by omega, List.take_take, inside.le]

theorem zeroCount_succ {cap len rounds : Nat} (room : len < cap) (short : len < 4) :
    min (cap - len) (min (4 - len) (rounds + 1)) =
      min (cap - (len + 1)) (min (4 - (len + 1)) rounds) + 1 := by
  rw [show cap - len = cap - (len + 1) + 1 by omega, show 4 - len = 4 - (len + 1) + 1 by omega,
    Nat.succ_min_succ, Nat.succ_min_succ]

theorem padHeight_window_script (rounds : Nat) {script : List UInt8} {off len cap : Nat}
    (fits : (ByteSlice.window off len cap).Fits script) :
    (padHeight rounds (script, .window off len cap)).1 =
      script.take (off + len) ++ List.replicate (min (cap - len) (min (4 - len) rounds)) 0 ++
        script.drop (off + len + min (cap - len) (min (4 - len) rounds)) := by
  induction rounds generalizing script len with
  | zero => simp [padHeight]
  | succ rounds ih =>
      simp only [ByteSlice.Fits] at fits
      rw [padHeight]
      split_ifs with short
      · simp only [ByteSlice.length] at short
        simp only [appendByte]
        split_ifs with room
        · rw [ih ⟨by omega, by simp; omega⟩, zeroCount_succ room short,
            show off + (len + 1) = off + len + 1 from rfl, take_succ_set 0 (by omega),
            List.drop_set, if_pos (by omega), List.replicate_succ]
          simp only [List.append_assoc, List.singleton_append, Nat.add_assoc]
          congr 4
          omega
        · rw [padHeight_owned_script, show cap - len = 0 by omega]
          simp
      · simp only [ByteSlice.length] at short
        rw [show 4 - len = 0 by omega]
        simp

/-! `parseHeight`. -/

theorem parseHeight_of_pushedData {script : List UInt8} {first second : ByteSlice}
    (pushed : pushedData script = .ok [first, second]) :
    parseHeight script =
      .ok (leNat ((first.contents script ++ List.replicate (4 - first.length) 0).take 4),
        (padHeight 4 (script, first)).1) := by
  have fits := pushedData_fits pushed first (by simp)
  obtain ⟨long, padded⟩ := padHeight_four fits
  have lengthBound := leNat_lt (((first.contents script ++
    List.replicate (4 - first.length) 0)).take 4)
  simp only [parseHeight, pushed, List.length_cons, List.length_nil, ne_eq, not_true_eq_false,
    if_false, List.getElem?_cons_zero]
  rw [littleEndianUint32, if_pos long, padded]
  simp only [Outcome.ok.injEq, Prod.mk.injEq, and_true]
  rw [padded] at long
  rw [UInt32.toNat_ofNat_of_lt]
  refine lt_of_lt_of_le lengthBound ?_
  simp only [List.length_take]
  exact Nat.pow_le_pow_right (by decide) (Nat.min_le_left _ _)

theorem parseHeight_eq_ok_pushedData {script script' : List UInt8} {height : Nat}
    (parsed : parseHeight script = .ok (height, script')) :
    ∃ first second, pushedData script = .ok [first, second] ∧
      height = leNat ((first.contents script ++ List.replicate (4 - first.length) 0).take 4) ∧
      script' = (padHeight 4 (script, first)).1 := by
  obtain ⟨first, second, pushed⟩ : ∃ first second, pushedData script = .ok [first, second] := by
    unfold parseHeight at parsed
    split at parsed
    · cases parsed
    · rename_i data pushed
      split_ifs at parsed with count
      obtain ⟨first, second, rfl⟩ := List.length_eq_two.mp (not_not.mp count)
      exact ⟨first, second, pushed⟩
  rw [parseHeight_of_pushedData pushed] at parsed
  cases parsed
  exact ⟨first, second, pushed, rfl, rfl⟩

theorem parseHeight_not_panic (script : List UInt8) : (parseHeight script).isPanic = false := by
  cases pushed : pushedData script with
  | error message => simp [parseHeight, pushed, Outcome.isPanic]
  | ok data =>
      match data, pushed with
      | [first, second], pushed => simp [parseHeight_of_pushedData pushed, Outcome.isPanic]
      | [], pushed => simp [parseHeight, pushed, Outcome.isPanic]
      | [_], pushed => simp [parseHeight, pushed, Outcome.isPanic]
      | _ :: _ :: _ :: _, pushed => simp [parseHeight, pushed, Outcome.isPanic]

end Bademeister
