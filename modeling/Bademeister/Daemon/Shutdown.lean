import Bademeister.Daemon.Trace

/-! `ZMQSubscriber.Stop` for a caller that calls it (the repository has none). The model lets the
loop guard's next read see the unsynchronised write of `z.cancel`. -/

namespace Bademeister

def stopSubscriber (w : World) : World := { w with cancel := true }

def Action.bySubscriber : Action → Bool
  | .subStart _ | .subGuard | .subLoop | .subTakeError _ | .subReceive _ _ | .subRetry
  | .subRecvError _ => true
  | _ => false

/-- How many more steps of its own `ZMQSubscriber.Run` takes once `z.cancel` is set. -/
def RunnerPc.stepsLeft : RunnerPc → Nat
  | .starting | .receiving => 2
  | .loopTop => 1
  | .selecting => 3
  | _ => 0

/-- How many more messages `ZMQSubscriber.Run` receives once `z.cancel` is set: one once the
guard has passed. -/
def RunnerPc.receivesLeft : RunnerPc → Nat
  | .selecting | .receiving => 1
  | _ => 0

def SocketError (err : String) : Prop :=
  (∃ cause, err = "could not set a receive timeout: " ++ cause) ∨
    ∃ cause, err = "could not receive ZMQ message: " ++ cause

theorem ControlMove.cancel_eq {c next : Control} (move : ControlMove c next) :
    next.cancel = c.cancel := by
  cases move <;> rfl

theorem RunnerPc.eq_selecting_of_stepsLeft {runner : RunnerPc} (most : 3 ≤ runner.stepsLeft) :
    runner = .selecting := by
  cases runner <;> simp_all [RunnerPc.stepsLeft]

section

variable {doubleHashH : List UInt8 → Hash32}

theorem step_stepsLeft {w next : World} {action : Action} (cancelled : w.cancel = true)
    (stepped : step doubleHashH w action = some next) :
    next.runner.stepsLeft + (if action.bySubscriber then 1 else 0) ≤ w.runner.stepsLeft ∧
      next.runner.receivesLeft + (if action.receives then 1 else 0) ≤ w.runner.receivesLeft := by
  cases action <;>
    simp only [step, step_live _ stepped, Bool.false_eq_true, if_false] at stepped <;>
    split at stepped <;> (try split_ifs at stepped) <;> (try split at stepped) <;> cases stepped <;>
    simp_all [Action.bySubscriber, Action.receives, RunnerPc.stepsLeft, RunnerPc.receivesLeft,
      World.subscriberReturn]

theorem step_result_kinds {w next : World} {action : Action}
    (stepped : step doubleHashH w action = some next) :
    next.runReturned = w.runReturned ∨ next.runReturned = some none ∨
      (∃ err, next.runReturned = some (some err) ∧ SocketError err) ∨
      w.runner = .selecting ∧ ∃ err, next.runReturned = some (some err) := by
  have move := step_result stepped
  generalize next.runReturned = result at move ⊢
  cases move with
  | keep => exact .inl rfl
  | timeoutFailed cause => exact .inr (.inr (.inl ⟨_, rfl, .inl ⟨cause, rfl⟩⟩))
  | cancelled => exact .inr (.inl rfl)
  | parseError index err found =>
      simp only [step, step_live _ stepped, found, Bool.false_eq_true, if_false] at stepped
      split at stepped
      · rename_i selecting _
        exact .inr (.inr (.inr ⟨selecting, err, rfl⟩))
      · cases stepped
  | receiveFailed cause => exact .inr (.inr (.inl ⟨_, rfl, .inr ⟨cause, rfl⟩⟩))

theorem run_cancelled {w next : World} {actions : List Action} (cancelled : w.cancel = true)
    (ran : run doubleHashH w actions = some next) :
    actions.countP Action.bySubscriber + next.runner.stepsLeft ≤ w.runner.stepsLeft ∧
      actions.countP Action.receives + next.runner.receivesLeft ≤ w.runner.receivesLeft ∧
      (next.runReturned = w.runReturned ∨ next.runReturned = some none ∨
        (∃ err, next.runReturned = some (some err) ∧ SocketError err) ∨
        w.runner = .selecting ∧ ∃ err, next.runReturned = some (some err)) := by
  induction actions generalizing w with
  | nil =>
      cases ran
      exact ⟨by simp, by simp, .inl rfl⟩
  | cons action rest ih =>
      obtain ⟨middle, stepped, ran⟩ := (run_cons_eq_some _).mp ran
      have stillCancelled : middle.cancel = true := (step_control stepped).cancel_eq.trans cancelled
      obtain ⟨steps, receives, result⟩ := ih stillCancelled ran
      obtain ⟨stepSteps, stepReceives⟩ := step_stepsLeft cancelled stepped
      simp only [List.countP_cons]
      refine ⟨by omega, by omega, ?_⟩
      rcases result with same | result | result | ⟨selecting, result⟩
      · rw [same]
        exact step_result_kinds stepped
      · exact .inr (.inl result)
      · exact .inr (.inr (.inl result))
      · rw [selecting] at stepSteps
        exact .inr (.inr (.inr
          ⟨RunnerPc.eq_selecting_of_stepsLeft ((Nat.le_add_right 3 _).trans stepSteps), result⟩))

/-- After `ZMQSubscriber.Stop`, whatever else runs: `ZMQSubscriber.Run` takes at most three more
steps of its own and receives at most one more message, and none unless its guard had already
passed; it returns nil or a failure of the socket, or a decode error only when `Stop` came
between the guard and the `select`. -/
theorem stopped_subscriber_winds_down {w next : World} {actions : List Action}
    (notReturned : w.runReturned = none)
    (ran : run doubleHashH (stopSubscriber w) actions = some next) :
    actions.countP Action.bySubscriber ≤ w.runner.stepsLeft ∧
      actions.countP Action.receives ≤ w.runner.receivesLeft ∧
      (next.runReturned = none ∨ next.runReturned = some none ∨
        (∃ err, next.runReturned = some (some err) ∧ SocketError err) ∨
        w.runner = .selecting ∧ ∃ err, next.runReturned = some (some err)) := by
  obtain ⟨steps, receives, result⟩ := run_cancelled rfl ran
  refine ⟨Nat.le_of_add_right_le steps, Nat.le_of_add_right_le receives, ?_⟩
  rwa [show (stopSubscriber w).runReturned = none from notReturned] at result

end

/-- A malformed transaction received, the receive loop back in `RecvMessageBytes`, and the
message's decode error waiting on `parseErrors`. -/
def errorWhileReceiving : List Action :=
  [.subStart none, .subGuard, .subLoop, .subReceive topicRawTxWithFee [], .subGuard, .subLoop,
    .taskDecode 0 ⟨0⟩]

theorem stopped_subscriber_winds_down_errorWhileReceiving :
    ∃ w next, run (fun _ => zeroHash) World.initial errorWhileReceiving = some w ∧
      w.runReturned = none ∧ w.tasks.any TaskState.isError ∧
      run (fun _ => zeroHash) (stopSubscriber w) [.subRetry, .subGuard] = some next ∧
      next.runReturned = some none ∧
      ([.subRetry, .subGuard] : List Action).countP Action.bySubscriber ≤ w.runner.stepsLeft ∧
      ([.subRetry, .subGuard] : List Action).countP Action.receives ≤ w.runner.receivesLeft ∧
      (next.runReturned = none ∨ next.runReturned = some none ∨
        (∃ err, next.runReturned = some (some err) ∧ SocketError err) ∨
        w.runner = .selecting ∧ ∃ err, next.runReturned = some (some err)) := by
  obtain ⟨w, ran⟩ : ∃ w, run (fun _ => zeroHash) World.initial errorWhileReceiving = some w :=
    ⟨_, rfl⟩
  have notReturned : w.runReturned = none := by
    cases ran
    rfl
  obtain ⟨next, stopped⟩ :
      ∃ next, run (fun _ => zeroHash) (stopSubscriber w) [.subRetry, .subGuard] = some next := by
    cases ran
    exact ⟨_, rfl⟩
  have masked : next.runReturned = some none := by
    cases ran
    cases stopped
    rfl
  exact ⟨w, next, ran, notReturned, by cases ran; rfl, stopped, masked,
    stopped_subscriber_winds_down notReturned stopped⟩

end Bademeister
