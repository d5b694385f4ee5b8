import Bademeister.Daemon.Invariants
import Bademeister.Zmq.ParseTransaction

/-! The decode tasks. Each sends once, on an unbuffered channel that one party alone receives
from; once that party has returned, the task is blocked for good. -/

namespace Bademeister

def TaskState.Ready (w : World) : TaskState → Prop
  | .sendingTx _ | .sendingBlock _ => w.daemon = .looping
  | .sendingError _ => w.runner = .selecting
  | .decoding _ _ => False

/-- A task whose send nobody will take: a record once `Run` has returned, an error once
`ZMQSubscriber.Run` has returned. -/
def TaskState.Stuck (c : Control) : TaskState → Prop
  | .sendingTx _ | .sendingBlock _ => c.daemon ≠ .looping
  | .sendingError _ => ¬ c.runner.InRun
  | .decoding _ _ => False

theorem TaskState.not_stuck_of_ready {w : World} {task : TaskState} (ready : task.Ready w) :
    ¬ task.Stuck w.control := by
  cases task <;> simp_all [TaskState.Ready, TaskState.Stuck, World.control, RunnerPc.InRun]

theorem ControlMove.stuck {c next : Control} (move : ControlMove c next) {task : TaskState}
    (stuck : task.Stuck c) : task.Stuck next := by
  cases move <;> cases task <;> simp_all [TaskState.Stuck, RunnerPc.InRun]

def Action.takes : Action → Bool
  | .daemonTx _ _ | .daemonBlock _ | .subTakeError _ => true
  | _ => false

def Action.receives : Action → Bool
  | .subReceive _ _ => true
  | _ => false

inductive TasksMove (doubleHashH : List UInt8 → Hash32) (w : World) :
    Action → List TaskState → Prop
  | stay (action : Action) (noTake : action.takes = false) (noReceive : action.receives = false) :
      TasksMove doubleHashH w action w.tasks
  | take (action : Action) (taking : action.takes = true) (noReceive : action.receives = false)
      (index : Nat) (task : TaskState) (found : w.tasks[index]? = some task)
      (ready : task.Ready w) : TasksMove doubleHashH w action (w.tasks.eraseIdx index)
  | spawn (topic : String) (payload : List (List UInt8)) :
      TasksMove doubleHashH w (.subReceive topic payload) (w.tasks ++ [.decoding topic payload])
  | decode (index : Nat) (firstSeen : Time) (topic : String) (payload : List (List UInt8))
      (next : TaskState) (found : w.tasks[index]? = some (.decoding topic payload))
      (decoded : decodedTask (processMessage doubleHashH firstSeen topic payload) = some next) :
      TasksMove doubleHashH w (.taskDecode index firstSeen) (w.tasks.set index next)

theorem count_eraseIdx_of_ne {α : Type} [DecidableEq α] {l : List α} {index : Nat}
    {removed a : α} (found : l[index]? = some removed) (differ : removed ≠ a) :
    (l.eraseIdx index).count a = l.count a := by
  obtain ⟨inBounds, rfl⟩ := List.getElem?_eq_some_iff.mp found
  have around : l = l.take index ++ l[index] :: l.drop (index + 1) := by
    rw [← List.drop_eq_getElem_cons inBounds, List.take_append_drop]
  rw [List.eraseIdx_eq_take_drop_succ]
  conv_rhs => rw [around]
  simp only [List.count_append, List.count_cons, beq_iff_eq, differ, if_false, Nat.add_zero]

theorem count_le_count_set {α : Type} [DecidableEq α] {l : List α} {index : Nat}
    {old a : α} (new : α) (found : l[index]? = some old) (differ : old ≠ a) :
    l.count a ≤ (l.set index new).count a := by
  obtain ⟨inBounds, rfl⟩ := List.getElem?_eq_some_iff.mp found
  rw [List.count_set _ _ _ _ inBounds]
  simp [differ]

theorem TasksMove.count_stuck {doubleHashH : List UInt8 → Hash32} {w : World} {action : Action}
    {tasks : List TaskState} (move : TasksMove doubleHashH w action tasks) {task : TaskState}
    (stuck : task.Stuck w.control) :
    w.tasks.count task ≤ tasks.count task := by
  cases move with
  | stay => exact le_rfl
  | take _ _ _ index removed found ready =>
      have differ : removed ≠ task := fun same => TaskState.not_stuck_of_ready ready (same ▸ stuck)
      exact (count_eraseIdx_of_ne found differ).ge
  | spawn topic payload => simp [List.count_append]
  | decode index firstSeen topic payload next found =>
      exact count_le_count_set next found (by rintro rfl; exact stuck)

/-- Two `rawtxwithfee` messages that fail to decode, the first without frames and the second
with a first frame too short to hold a fee, both decoded before the subscriber looks at
`parseErrors`, which then takes the first task's error. -/
def twoMalformedTransactions : List Action :=
  [.subStart none, .subGuard, .subLoop, .subReceive topicRawTxWithFee [], .subGuard, .subLoop,
    .subReceive topicRawTxWithFee [[1], []], .taskDecode 0 ⟨0⟩, .taskDecode 1 ⟨0⟩, .subGuard,
    .subTakeError 0]

section

variable {doubleHashH : List UInt8 → Hash32}

theorem step_tasks {w next : World} {action : Action}
    (stepped : step doubleHashH w action = some next) :
    TasksMove doubleHashH w action next.tasks := by
  cases action <;> simp only [step, step_live _ stepped, Bool.false_eq_true, if_false] at stepped
  case daemonTx task _ | daemonBlock task | subTakeError task =>
      split at stepped
      · rename_i atReceive found
        cases stepped
        exact .take _ (by rfl) (by rfl) task _ found atReceive
      · cases stepped
  case subReceive topic payload =>
      split at stepped
      · cases stepped
        exact .spawn topic payload
      · cases stepped
  case taskDecode task firstSeen =>
      split at stepped
      · rename_i topic payload found
        split at stepped <;> cases stepped
        · rename_i next decoded
          exact .decode task firstSeen topic payload next found decoded
        · exact .stay _ (by rfl) (by rfl)
      · cases stepped
  all_goals
    split at stepped <;> (try split_ifs at stepped) <;> cases stepped <;>
      exact .stay _ (by rfl) (by rfl)

theorem step_count_stuck {w next : World} {action : Action}
    (stepped : step doubleHashH w action = some next) {task : TaskState}
    (stuck : task.Stuck w.control) :
    w.tasks.count task ≤ next.tasks.count task ∧ task.Stuck next.control :=
  ⟨(step_tasks stepped).count_stuck stuck, (step_control stepped).stuck stuck⟩

/-- Over any run, a task stuck at its start stays stuck and is never taken: as many tasks
hold its record or error at the end as at the start, or more. -/
theorem stuck_task_never_taken {w next : World} {actions : List Action}
    (ran : run doubleHashH w actions = some next) {task : TaskState}
    (stuck : task.Stuck w.control) :
    w.tasks.count task ≤ next.tasks.count task ∧ task.Stuck next.control := by
  refine run_invariant doubleHashH
    (fun v => w.tasks.count task ≤ v.tasks.count task ∧ task.Stuck v.control) ?_ ran ⟨le_rfl, stuck⟩
  rintro middle later action ⟨counted, middleStuck⟩ stepped
  obtain ⟨more, laterStuck⟩ := step_count_stuck stepped middleStuck
  exact ⟨counted.trans more, laterStuck⟩

/-- After `twoMalformedTransactions` the subscriber has returned the first error, and `Run` returns
it while the second task is still blocked on its send. -/
theorem stuck_task_never_taken_second_error :
    ∃ failed done,
      run (fun _ => zeroHash) World.initial twoMalformedTransactions = some failed ∧
      (TaskState.sendingError "unexpected rawtxwithfee length").Stuck failed.control ∧
      run (fun _ => zeroHash) failed [.runnerStore, .runnerStop, .daemonQuit] = some done ∧
      done.daemon = .returned
        (some ("unexpected payload length: expected len(tx hash, sequence) == 2 but got " ++
          "len(payload) == 0")) (.quit .runner) ∧
      1 ≤ done.tasks.count (.sendingError "unexpected rawtxwithfee length") := by
  obtain ⟨failed, ranFailed⟩ :
      ∃ failed, run (fun _ => zeroHash) World.initial twoMalformedTransactions = some failed :=
    ⟨_, rfl⟩
  have stuck : (TaskState.sendingError "unexpected rawtxwithfee length").Stuck failed.control := by
    cases ranFailed
    exact id
  obtain ⟨done, ranDone⟩ : ∃ done, run (fun _ => zeroHash) failed
      [.runnerStore, .runnerStop, .daemonQuit] = some done := by
    cases ranFailed
    exact ⟨_, rfl⟩
  have pending : failed.tasks.count (.sendingError "unexpected rawtxwithfee length") = 1 := by
    cases ranFailed
    rfl
  refine ⟨failed, done, ranFailed, stuck, ranDone, ?_, ?_⟩
  · cases ranFailed
    cases ranDone
    rfl
  · exact pending ▸ (stuck_task_never_taken ranDone stuck).1

end

end Bademeister
