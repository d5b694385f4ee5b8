import Bademeister.Daemon.System

/-! What holds in every state the daemon can reach, proved once against the moves a step can
make (`ControlMove`). Nothing in the repository calls `ZMQSubscriber.Stop`, so `z.cancel` stays false. -/

namespace Bademeister

inductive ControlMove (c : Control) : Control → Prop
  | stay : ControlMove c c
  | daemonTx (stored : Option String) (looping : c.daemon = .looping) :
      ControlMove c { c with daemon := afterProcessTransaction stored }
  | daemonQuit (caller : StopCaller) (rest : List StopCaller) (looping : c.daemon = .looping)
      (signal : c.quit = caller :: rest) :
      ControlMove c { c with daemon := .returned c.zmqSubErr (.quit caller), quit := rest }
  | runnerLoop (runner : RunnerPc) (inRun : c.runner.InRun) (stays : runner.InRun) :
      ControlMove c { c with runner }
  | subscriberReturn (result : Option String) (inRun : c.runner.InRun)
      (nilIfCancelled : result = none → c.cancel = true) :
      ControlMove c { c with runner := .subReturned result, runReturned := some result }
  | runnerStore (result : Option String) (returned : c.runner = .subReturned result) :
      ControlMove c { c with runner := .stopping, zmqSubErr := result }
  | runnerStop (stopping : c.runner = .stopping) (empty : c.quit = []) :
      ControlMove c { c with runner := .finished, quit := [.runner] }
  | externalStop (empty : c.quit = []) :
      ControlMove c { c with quit := [.external], externalStops := c.externalStops + 1 }

section

variable {doubleHashH : List UInt8 → Hash32}

theorem step_control {w next : World} {action : Action}
    (stepped : step doubleHashH w action = some next) : ControlMove w.control next.control := by
  cases action <;> simp only [step, step_live _ stepped, Bool.false_eq_true, if_false] at stepped
  case daemonQuit =>
      split at stepped
      · rename_i caller rest looping signal
        cases stepped
        exact .daemonQuit caller rest looping signal
      · cases stepped
  case daemonTx task stored =>
      split at stepped
      · rename_i looping _
        cases stepped
        exact .daemonTx stored looping
      · cases stepped
  case daemonBlock task =>
      split at stepped
      · cases stepped
        exact .stay
      · cases stepped
  case subStart timeoutSet =>
      split at stepped
      · rename_i starting
        cases stepped
        exact .runnerLoop .loopTop (by simp [World.control, starting, RunnerPc.InRun]) trivial
      · rename_i err starting
        cases stepped
        exact .subscriberReturn _ (by simp [World.control, starting, RunnerPc.InRun])
          (fun isNil => by cases isNil)
      · cases stepped
  case subGuard =>
      split at stepped
      · rename_i atTop
        have inRun : w.control.runner.InRun := by simp [World.control, atTop, RunnerPc.InRun]
        split_ifs at stepped with cancelled
        · cases stepped
          exact .subscriberReturn none inRun (fun _ => cancelled)
        · cases stepped
          exact .runnerLoop .selecting inRun trivial
      · cases stepped
  case subLoop =>
      split at stepped
      · rename_i selecting
        split_ifs at stepped
        cases stepped
        exact .runnerLoop .receiving (by simp [World.control, selecting, RunnerPc.InRun]) trivial
      · cases stepped
  case subTakeError task =>
      split at stepped
      · rename_i err selecting _
        cases stepped
        exact .subscriberReturn _ (by simp [World.control, selecting, RunnerPc.InRun])
          (fun isNil => by cases isNil)
      · cases stepped
  case subReceive topic payload =>
      split at stepped
      · rename_i waiting
        cases stepped
        exact .runnerLoop .loopTop (by simp [World.control, waiting, RunnerPc.InRun]) trivial
      · cases stepped
  case subRetry =>
      split at stepped
      · rename_i waiting
        cases stepped
        exact .runnerLoop .loopTop (by simp [World.control, waiting, RunnerPc.InRun]) trivial
      · cases stepped
  case subRecvError err =>
      split at stepped
      · rename_i waiting
        cases stepped
        exact .subscriberReturn _ (by simp [World.control, waiting, RunnerPc.InRun])
          (fun isNil => by cases isNil)
      · cases stepped
  case runnerStore =>
      split at stepped
      · rename_i result returned
        cases stepped
        exact .runnerStore result returned
      · cases stepped
  case runnerStop =>
      split at stepped
      · rename_i stopping empty
        cases stepped
        exact .runnerStop stopping empty
      · cases stepped
  case externalStop =>
      split at stepped
      · rename_i empty
        cases stepped
        exact .externalStop empty
      · cases stepped
  case taskDecode task firstSeen =>
      split at stepped
      · split at stepped <;> (cases stepped; exact .stay)
      · cases stepped

/-- What holds of the control state of every reachable world. -/
structure Inv (c : Control) : Prop where
  cancel_false : c.cancel = false
  quit_short : c.quit.length ≤ 1
  runner_signal : StopCaller.runner ∈ c.quit → c.runner = .finished
  external_signal : StopCaller.external ∈ c.quit → 0 < c.externalStops
  in_run : c.runner.InRun → c.runReturned = none
  sub_returned : ∀ result, c.runner = .subReturned result → c.runReturned = some result
  stored : c.runner = .stopping ∨ c.runner = .finished → c.runReturned = some c.zmqSubErr
  returned_error : ∀ result, c.runReturned = some result → result ≠ none
  finished_pending : c.runner = .finished → c.daemon = .looping → c.quit = [.runner]
  daemon_nil : ∀ cause, c.daemon = .returned none cause → cause = .quit .external
  daemon_external : ∀ result, c.daemon = .returned result (.quit .external) →
    0 < c.externalStops
  daemon_runner : ∀ result, c.daemon = .returned result (.quit .runner) →
    c.runner = .finished ∧ c.runReturned = some result

theorem Inv.initial : Inv World.initial.control where
  cancel_false := rfl
  quit_short := by decide
  runner_signal := by simp [World.initial, World.control]
  external_signal := by simp [World.initial, World.control]
  in_run := fun _ => rfl
  sub_returned := by simp [World.initial, World.control]
  stored := by simp [World.initial, World.control]
  returned_error := by simp [World.initial, World.control]
  finished_pending := by simp [World.initial, World.control]
  daemon_nil := by simp [World.initial, World.control]
  daemon_external := by simp [World.initial, World.control]
  daemon_runner := by simp [World.initial, World.control]

theorem Inv.move {c next : Control} (inv : Inv c) (move : ControlMove c next) : Inv next := by
  cases move with
  | stay => exact inv
  | daemonTx stored looping =>
      cases stored with
      | none =>
          exact { inv with
            finished_pending := fun finished _ => inv.finished_pending finished looping
            daemon_nil := fun _ returned => by cases returned
            daemon_external := fun _ returned => by cases returned
            daemon_runner := fun _ returned => by cases returned }
      | some err =>
          exact { inv with
            finished_pending := fun _ returned => by cases returned
            daemon_nil := fun _ returned => by cases returned
            daemon_external := fun _ returned => by cases returned
            daemon_runner := fun _ returned => by cases returned }
  | daemonQuit caller rest looping signal =>
      have restEmpty : rest = [] := by
        have := inv.quit_short
        rw [signal] at this
        simpa using this
      subst restEmpty
      exact { inv with
        quit_short := by simp
        runner_signal := fun member => by cases member
        external_signal := fun member => by cases member
        finished_pending := fun _ returned => by cases returned
        daemon_nil := fun cause returned => by
          simp only [DaemonPc.returned.injEq] at returned
          obtain ⟨unset, rfl⟩ := returned
          cases caller with
          | runner =>
              have stored := inv.stored (.inr (inv.runner_signal (by simp [signal])))
              exact absurd unset (inv.returned_error _ stored)
          | external => rfl
        daemon_external := fun result returned => by
          simp only [DaemonPc.returned.injEq, ReturnCause.quit.injEq] at returned
          obtain ⟨-, rfl⟩ := returned
          exact inv.external_signal (by simp [signal])
        daemon_runner := fun result returned => by
          simp only [DaemonPc.returned.injEq, ReturnCause.quit.injEq] at returned
          obtain ⟨rfl, rfl⟩ := returned
          have finished := inv.runner_signal (by simp [signal])
          exact ⟨finished, inv.stored (.inr finished)⟩ }
  | runnerLoop runner inRun stays =>
      have notFinished : c.runner ≠ .finished := fun finished => by rw [finished] at inRun; exact inRun
      exact { inv with
        runner_signal := fun member => absurd (inv.runner_signal member) notFinished
        in_run := fun _ => inv.in_run inRun
        sub_returned := fun result atReturn => by subst atReturn; exact absurd stays id
        stored := fun done => by rcases done with rfl | rfl <;> exact absurd stays id
        finished_pending := fun finished => by subst finished; exact absurd stays id
        daemon_runner := fun result returned => absurd (inv.daemon_runner result returned).1 notFinished }
  | subscriberReturn result inRun nilIfCancelled =>
      have notFinished : c.runner ≠ .finished := fun finished => by rw [finished] at inRun; exact inRun
      exact { inv with
        runner_signal := fun member => absurd (inv.runner_signal member) notFinished
        in_run := fun notIn => False.elim notIn
        sub_returned := fun _ atReturn => by cases atReturn; rfl
        stored := fun done => by rcases done with done | done <;> cases done
        returned_error := fun _ returned isNil => by
          cases returned
          have cancelled := nilIfCancelled isNil
          rw [inv.cancel_false] at cancelled
          cases cancelled
        finished_pending := fun finished => by cases finished
        daemon_runner := fun result returned => absurd (inv.daemon_runner result returned).1 notFinished }
  | runnerStore result returned =>
      have notFinished : c.runner ≠ .finished := by rw [returned]; exact fun finished => by cases finished
      exact { inv with
        runner_signal := fun member => absurd (inv.runner_signal member) notFinished
        in_run := fun notIn => False.elim notIn
        sub_returned := fun _ atReturn => by cases atReturn
        stored := fun _ => inv.sub_returned result returned
        finished_pending := fun finished => by cases finished
        daemon_runner := fun result returned => absurd (inv.daemon_runner result returned).1 notFinished }
  | runnerStop stopping empty =>
      have notFinished : c.runner ≠ .finished := by rw [stopping]; exact fun finished => by cases finished
      exact { inv with
        quit_short := by simp
        runner_signal := fun _ => rfl
        external_signal := fun member => by simp at member
        in_run := fun notIn => False.elim notIn
        sub_returned := fun _ atReturn => by cases atReturn
        stored := fun _ => inv.stored (.inl stopping)
        finished_pending := fun _ _ => rfl
        daemon_runner := fun result returned => absurd (inv.daemon_runner result returned).1 notFinished }
  | externalStop empty =>
      exact { inv with
        quit_short := by simp
        runner_signal := fun member => by simp at member
        external_signal := fun _ => Nat.succ_pos _
        finished_pending := fun finished looping => by
          have pending := inv.finished_pending finished looping
          rw [empty] at pending
          cases pending
        daemon_external := fun _ _ => Nat.succ_pos _ }

theorem Inv.reachable {w : World}
    (reach : Reachable doubleHashH w) : Inv w.control := by
  induction reach with
  | initial => exact Inv.initial
  | step action _ stepped inv => exact inv.move (step_control stepped)

theorem Inv.quit_eq_nil {c : Control} (inv : Inv c) (notFinished : c.runner ≠ .finished)
    (noStops : c.externalStops = 0) : c.quit = [] := by
  match signals : c.quit with
  | [] => rfl
  | .runner :: _ => exact absurd (inv.runner_signal (by simp [signals])) notFinished
  | .external :: _ =>
      have counted := inv.external_signal (by simp [signals])
      omega

end

/-! What a run of the daemon returns, and what keeps running after it. -/

section

variable (doubleHashH : List UInt8 → Hash32)

theorem daemon_returns_run_result {w : World} (reach : Reachable doubleHashH w)
    (live : w.crashed = false) (looping : w.daemon = .looping) (noStops : w.externalStops = 0)
    {result : Option String} (returned : w.runReturned = some result) :
    ∃ actions, (run doubleHashH w actions).map World.daemon =
      some (.returned result (.quit .runner)) := by
  have inv := Inv.reachable reach
  cases runnerEq : w.runner with
  | starting | loopTop | selecting | receiving =>
      have unreturned := inv.in_run (by simp [World.control, runnerEq, RunnerPc.InRun])
      simp [World.control, returned] at unreturned
  | subReturned stored =>
      have storedEq := inv.sub_returned stored runnerEq
      simp only [World.control, returned, Option.some.injEq] at storedEq
      have empty : w.quit = [] := inv.quit_eq_nil (by simp [World.control, runnerEq]) noStops
      exact ⟨[.runnerStore, .runnerStop, .daemonQuit], by
        simp [run, step, live, runnerEq, looping, empty, storedEq]⟩
  | stopping =>
      have storedEq := inv.stored (.inl runnerEq)
      simp only [World.control, returned, Option.some.injEq] at storedEq
      have empty : w.quit = [] := inv.quit_eq_nil (by simp [World.control, runnerEq]) noStops
      exact ⟨[.runnerStop, .daemonQuit], by
        simp [run, step, live, runnerEq, looping, empty, storedEq]⟩
  | finished =>
      have storedEq := inv.stored (.inr runnerEq)
      simp only [World.control, returned, Option.some.injEq] at storedEq
      have pending : w.quit = [.runner] := inv.finished_pending runnerEq looping
      exact ⟨[.daemonQuit], by simp [run, step, live, looping, pending, storedEq]⟩

theorem ControlMove.daemon_returned {c next : Control} (move : ControlMove c next)
    {result : Option String} {cause : ReturnCause} (returned : c.daemon = .returned result cause) :
    next.daemon = .returned result cause := by
  cases move <;> simp_all

theorem run_daemon_returned {w next : World} {actions : List Action} {result : Option String}
    {cause : ReturnCause} (ran : run doubleHashH w actions = some next)
    (returned : w.daemon = .returned result cause) : next.daemon = .returned result cause :=
  run_invariant doubleHashH (fun v => v.daemon = .returned result cause)
    (fun returned stepped => (step_control stepped).daemon_returned returned) ran returned

theorem run_processTransaction_failed {w next : World} {actions : List Action} {index : Nat}
    {err : String} (ran : run doubleHashH w actions = some next)
    (failed : .daemonTx index (some err) ∈ actions) :
    next.daemon = .returned (some err) .processTransactionFailed := by
  induction actions generalizing w with
  | nil => cases failed
  | cons action rest ih =>
      obtain ⟨middle, stepped, ranRest⟩ := (run_cons_eq_some doubleHashH).mp ran
      rcases List.mem_cons.mp failed with rfl | later
      · refine run_daemon_returned doubleHashH ranRest ?_
        simp only [step, step_live _ stepped, Bool.false_eq_true, if_false] at stepped
        split at stepped <;> cases stepped
        rfl
      · exact ih ranRest later

theorem daemon_run_result {w : World} (reach : Reachable doubleHashH w) :
    (∀ cause, w.daemon = .returned none cause → 0 < w.externalStops) ∧
    (∀ result cause, w.daemon = .returned result cause → w.externalStops = 0 →
      result ≠ none ∧
        (cause = .quit .runner ∧ w.runReturned = some result ∨
          cause = .processTransactionFailed)) ∧
    (∀ result, w.daemon = .returned result (.quit .runner) → w.runReturned = some result) ∧
    (w.crashed = false → w.daemon = .looping → w.externalStops = 0 →
      ∀ result, w.runReturned = some result →
        ∃ actions, (run doubleHashH w actions).map World.daemon =
          some (.returned result (.quit .runner))) ∧
    (∀ actions next index err, run doubleHashH w actions = some next →
      .daemonTx index (some err) ∈ actions →
        next.daemon = .returned (some err) .processTransactionFailed) := by
  have inv := Inv.reachable reach
  refine ⟨fun cause returned => ?_, fun result cause returned noStops => ?_,
    fun result returned => (inv.daemon_runner result returned).2,
    fun live looping noStops result returned =>
      daemon_returns_run_result doubleHashH reach live looping noStops returned,
    fun _ _ _ _ ran failed => run_processTransaction_failed doubleHashH ran failed⟩
  · have external := inv.daemon_nil cause returned
    subst external
    exact inv.daemon_external none returned
  · match cause with
    | .quit .runner =>
        have fromRunner := (inv.daemon_runner result returned).2
        exact ⟨inv.returned_error result fromRunner, .inl ⟨rfl, fromRunner⟩⟩
    | .quit .external =>
        have counted : 0 < w.externalStops := inv.daemon_external result returned
        omega
    | .processTransactionFailed =>
        refine ⟨fun isNil => ?_, .inr rfl⟩
        subst isNil
        cases inv.daemon_nil _ returned

theorem daemon_run_result_timeout_failure :
    ∃ w, Reachable (fun _ => zeroHash) w ∧
      w.daemon = .returned (some "could not set a receive timeout: EINVAL") (.quit .runner) ∧
      w.runReturned = some (some "could not set a receive timeout: EINVAL") := by
  obtain ⟨w, ran⟩ : ∃ w, run (fun _ => zeroHash) World.initial
      [.subStart (some "EINVAL"), .runnerStore, .runnerStop, .daemonQuit] = some w := ⟨_, rfl⟩
  have reach := Reachable.run _ .initial ran
  have returned : w.daemon = .returned (some "could not set a receive timeout: EINVAL")
      (.quit .runner) := by
    cases ran
    rfl
  exact ⟨w, reach, returned, (daemon_run_result _ reach).2.2.1 _ returned⟩

/-- An outside `Stop` before the subscriber has started: `Run` returns nil, and the subscriber
then starts, receives a message and spawns its task. -/
theorem subscriber_outlives_daemon (topic : String) (payload : List (List UInt8)) :
    ∃ stopped, run doubleHashH World.initial [.externalStop, .daemonQuit] = some stopped ∧
      stopped.daemon = .returned none (.quit .external) ∧ stopped.cancel = false ∧
      stopped.runReturned = none ∧
      (run doubleHashH stopped [.subStart none, .subGuard, .subLoop, .subReceive topic payload]).map
        World.tasks = some [.decoding topic payload] :=
  ⟨_, rfl, rfl, rfl, rfl, rfl⟩

end

end Bademeister
