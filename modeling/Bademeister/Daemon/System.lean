import Bademeister.Zmq.Parse

/-! The running daemon as a transition system: `BademeisterDaemon.Run`'s loop, the goroutine running
`ZMQSubscriber.Run`, one decode task per message, and outside `Stop` callers. A blocking
operation is an action enabled only when it can complete. -/

namespace Bademeister

inductive StopCaller where
  | runner
  | external
  deriving Repr, DecidableEq

/-- The `select` case `BademeisterDaemon.Run` returned from. -/
inductive ReturnCause where
  | quit (caller : StopCaller)
  | processTransactionFailed
  deriving Repr, DecidableEq

inductive DaemonPc where
  | looping
  | returned (result : Option String) (cause : ReturnCause)
  deriving Repr, DecidableEq

/-- Where the goroutine running `ZMQSubscriber.Run` stands: before `SetRcvtimeo`, at the guard
`for !z.cancel`, at the `select` on `parseErrors`, in `RecvMessageBytes`, returned with a result
not yet stored, in `b.Stop()`, done. -/
inductive RunnerPc where
  | starting
  | loopTop
  | selecting
  | receiving
  | subReturned (result : Option String)
  | stopping
  | finished
  deriving Repr, DecidableEq

def RunnerPc.InRun : RunnerPc → Prop
  | .starting | .loopTop | .selecting | .receiving => True
  | _ => False

/-- A task spawned by the receive loop: decoding its message, or blocked on its one send. -/
inductive TaskState where
  | decoding (topic : String) (payload : List (List UInt8))
  | sendingTx (tx : Transaction)
  | sendingBlock (block : Block)
  | sendingError (err : String)
  deriving Repr, DecidableEq

def TaskState.isError : TaskState → Bool
  | .sendingError _ => true
  | _ => false

/-- The parties' positions, the channels, and two history fields: the outside `Stop` calls that
sent their signal, and what `ZMQSubscriber.Run` returned. -/
structure World where
  daemon : DaemonPc
  runner : RunnerPc
  zmqSubErr : Option String
  cancel : Bool
  tasks : List TaskState
  quit : List StopCaller
  crashed : Bool
  externalStops : Nat
  runReturned : Option (Option String)
  deriving Repr, DecidableEq

structure Control where
  daemon : DaemonPc
  runner : RunnerPc
  zmqSubErr : Option String
  cancel : Bool
  quit : List StopCaller
  externalStops : Nat
  runReturned : Option (Option String)
  deriving Repr, DecidableEq

def World.control (w : World) : Control :=
  ⟨w.daemon, w.runner, w.zmqSubErr, w.cancel, w.quit, w.externalStops, w.runReturned⟩

def World.initial : World :=
  { daemon := .looping, runner := .starting, zmqSubErr := none, cancel := false, tasks := [],
    quit := [], crashed := false, externalStops := 0, runReturned := none }

def World.subscriberReturn (w : World) (result : Option String) : World :=
  { w with runner := .subReturned result, runReturned := some result }

/-- One action of one party. `daemonTx` takes a task's transaction, on which `processTransaction`
returns `stored`; `subStart` is `SetRcvtimeo` returning `timeoutSet`; `subGuard` evaluates
`!z.cancel`; at the `select`, `subLoop` finds no error waiting and `subTakeError` takes a task's;
`subRetry` is a receive ending in `EAGAIN` or `EINTR`; `runnerStore` is `zmqSubErr = ` the
result and `runnerStop` the goroutine's `b.Stop()`. -/
inductive Action where
  | daemonQuit
  | daemonTx (task : Nat) (stored : Option String)
  | daemonBlock (task : Nat)
  | subStart (timeoutSet : Option String)
  | subGuard
  | subLoop
  | subTakeError (task : Nat)
  | subReceive (topic : String) (payload : List (List UInt8))
  | subRetry
  | subRecvError (err : String)
  | runnerStore
  | runnerStop
  | externalStop
  | taskDecode (task : Nat) (firstSeen : Time)
  deriving Repr, DecidableEq

/-- What `Run` does after `processTransaction` returned `stored`. -/
def afterProcessTransaction : Option String → DaemonPc
  | none => .looping
  | some err => .returned (some err) .processTransactionFailed

/-- A task once `processMessage` has returned: blocked on the send of its result; `none` when
`processMessage` panicked. -/
def decodedTask : Outcome Delivery → Option TaskState
  | .ok (.incomingTx tx) => some (.sendingTx tx)
  | .ok (.incomingBlocks block) => some (.sendingBlock block)
  | .error err => some (.sendingError err)
  | .panic _ => none

section

variable (doubleHashH : List UInt8 → Hash32)

def step (w : World) (action : Action) : Option World :=
  if w.crashed then none
  else
    match action with
    | .daemonQuit =>
      match w.daemon, w.quit with
      | .looping, caller :: rest =>
        some { w with daemon := .returned w.zmqSubErr (.quit caller), quit := rest }
      | _, _ => none
    | .daemonTx task stored =>
      match w.daemon, w.tasks[task]? with
      | .looping, some (.sendingTx _) =>
        some { w with tasks := w.tasks.eraseIdx task, daemon := afterProcessTransaction stored }
      | _, _ => none
    | .daemonBlock task =>
      match w.daemon, w.tasks[task]? with
      | .looping, some (.sendingBlock _) => some { w with tasks := w.tasks.eraseIdx task }
      | _, _ => none
    | .subStart timeoutSet =>
      match w.runner, timeoutSet with
      | .starting, none => some { w with runner := .loopTop }
      | .starting, some err =>
        some (w.subscriberReturn (some ("could not set a receive timeout: " ++ err)))
      | _, _ => none
    | .subGuard =>
      match w.runner with
      | .loopTop =>
        if w.cancel then some (w.subscriberReturn none) else some { w with runner := .selecting }
      | _ => none
    | .subLoop =>
      match w.runner with
      | .selecting =>
        if w.tasks.any TaskState.isError then none else some { w with runner := .receiving }
      | _ => none
    | .subTakeError task =>
      match w.runner, w.tasks[task]? with
      | .selecting, some (.sendingError err) =>
        some ({ w with tasks := w.tasks.eraseIdx task }.subscriberReturn (some err))
      | _, _ => none
    | .subReceive topic payload =>
      match w.runner with
      | .receiving =>
        some { w with runner := .loopTop, tasks := w.tasks ++ [.decoding topic payload] }
      | _ => none
    | .subRetry =>
      match w.runner with
      | .receiving => some { w with runner := .loopTop }
      | _ => none
    | .subRecvError err =>
      match w.runner with
      | .receiving => some (w.subscriberReturn (some ("could not receive ZMQ message: " ++ err)))
      | _ => none
    | .runnerStore =>
      match w.runner with
      | .subReturned result => some { w with runner := .stopping, zmqSubErr := result }
      | _ => none
    | .runnerStop =>
      match w.runner, w.quit with
      | .stopping, [] => some { w with runner := .finished, quit := [.runner] }
      | _, _ => none
    | .externalStop =>
      match w.quit with
      | [] => some { w with quit := [.external], externalStops := w.externalStops + 1 }
      | _ => none
    | .taskDecode task firstSeen =>
      match w.tasks[task]? with
      | some (.decoding topic payload) =>
        match decodedTask (processMessage doubleHashH firstSeen topic payload) with
        | some next => some { w with tasks := w.tasks.set task next }
        | none => some { w with crashed := true }
      | _ => none

theorem step_live {w next : World} {action : Action}
    (stepped : step doubleHashH w action = some next) : w.crashed = false := by
  cases crashed : w.crashed
  · rfl
  · simp [step, crashed] at stepped

def run (w : World) : List Action → Option World
  | [] => some w
  | action :: rest => (step doubleHashH w action).bind fun next => run next rest

inductive Reachable : World → Prop
  | initial : Reachable World.initial
  | step {w next : World} (action : Action) :
      Reachable w → step doubleHashH w action = some next → Reachable next

theorem run_cons_eq_some {w next : World} {action : Action} {rest : List Action} :
    run doubleHashH w (action :: rest) = some next ↔
      ∃ middle, step doubleHashH w action = some middle ∧ run doubleHashH middle rest = some next :=
  Option.bind_eq_some

theorem run_invariant (holds : World → Prop)
    (preserved : ∀ {w next : World} {action : Action}, holds w →
      step doubleHashH w action = some next → holds next)
    {w next : World} {actions : List Action} (ran : run doubleHashH w actions = some next)
    (start : holds w) : holds next := by
  induction actions generalizing w with
  | nil =>
      cases ran
      exact start
  | cons action rest ih =>
      obtain ⟨middle, stepped, ran⟩ := (run_cons_eq_some doubleHashH).mp ran
      exact ih ran (preserved start stepped)

theorem Reachable.run {w next : World} {actions : List Action} (reach : Reachable doubleHashH w)
    (ran : run doubleHashH w actions = some next) : Reachable doubleHashH next :=
  run_invariant doubleHashH (Reachable doubleHashH) (fun reach stepped => .step _ reach stepped)
    ran reach

end

end Bademeister
