import Bademeister.Daemon.Tasks

/-! Where the daemon's data comes from: what `Run` and the subscriber are handed came from a
message the subscriber received. -/

namespace Bademeister

def Action.received : Action → List (String × List (List UInt8))
  | .subReceive topic payload => [(topic, payload)]
  | _ => []

section

variable (doubleHashH : List UInt8 → Hash32)

/-- `processMessage` made `outcome` of one of the `received` messages. -/
def Decoded (received : List (String × List (List UInt8))) (outcome : Outcome Delivery) : Prop :=
  ∃ topic payload firstSeen, (topic, payload) ∈ received ∧
    processMessage doubleHashH firstSeen topic payload = outcome

/-- What a task holds came from the `received` messages. -/
def TaskState.From (received : List (String × List (List UInt8))) : TaskState → Prop
  | .decoding topic payload => (topic, payload) ∈ received
  | .sendingTx tx => Decoded doubleHashH received (.ok (.incomingTx tx))
  | .sendingBlock block => Decoded doubleHashH received (.ok (.incomingBlocks block))
  | .sendingError err => Decoded doubleHashH received (.error err)

/-- An error `ZMQSubscriber.Run` can return: a failure of the socket, or a decode error of one
of the `received` messages. -/
def SubscriberError (received : List (String × List (List UInt8))) (err : String) : Prop :=
  (∃ cause, err = "could not set a receive timeout: " ++ cause) ∨
    (∃ cause, err = "could not receive ZMQ message: " ++ cause) ∨
    Decoded doubleHashH received (.error err)

/-- Everything a world holds came from the `received` messages. -/
structure Traced (received : List (String × List (List UInt8))) (w : World) : Prop where
  tasks : ∀ task ∈ w.tasks, task.From doubleHashH received
  result : ∀ err, w.runReturned = some (some err) → SubscriberError doubleHashH received err

variable {received more : List (String × List (List UInt8))}

theorem Decoded.mono (sub : received ⊆ more) {outcome : Outcome Delivery}
    (decoded : Decoded doubleHashH received outcome) : Decoded doubleHashH more outcome := by
  obtain ⟨topic, payload, firstSeen, member, made⟩ := decoded
  exact ⟨topic, payload, firstSeen, sub member, made⟩

theorem TaskState.From.mono (sub : received ⊆ more) {task : TaskState}
    (origin : task.From doubleHashH received) : task.From doubleHashH more := by
  cases task with
  | decoding topic payload => exact sub origin
  | sendingTx tx => exact Decoded.mono doubleHashH sub origin
  | sendingBlock block => exact Decoded.mono doubleHashH sub origin
  | sendingError err => exact Decoded.mono doubleHashH sub origin

theorem SubscriberError.mono (sub : received ⊆ more) {err : String}
    (origin : SubscriberError doubleHashH received err) : SubscriberError doubleHashH more err := by
  rcases origin with timeout | receive | decoded
  exacts [.inl timeout, .inr (.inl receive), .inr (.inr (Decoded.mono doubleHashH sub decoded))]

theorem decodedTask_from {topic : String} {payload : List (List UInt8)} {firstSeen : Time}
    (member : (topic, payload) ∈ received) {next : TaskState}
    (decoded : decodedTask (processMessage doubleHashH firstSeen topic payload) = some next) :
    next.From doubleHashH received := by
  have origin : Decoded doubleHashH received (processMessage doubleHashH firstSeen topic payload) :=
    ⟨topic, payload, firstSeen, member, rfl⟩
  generalize processMessage doubleHashH firstSeen topic payload = outcome at origin decoded
  cases outcome with
  | ok delivery => cases delivery <;> (cases decoded; exact origin)
  | error err => cases decoded; exact origin
  | panic message => cases decoded

theorem TasksMove.origin {w : World} {action : Action} {tasks : List TaskState}
    (move : TasksMove doubleHashH w action tasks)
    (origin : ∀ task ∈ w.tasks, task.From doubleHashH received) :
    ∀ task ∈ tasks, task.From doubleHashH (received ++ action.received) := by
  have sub : received ⊆ received ++ action.received := List.subset_append_left _ _
  intro task member
  cases move with
  | stay => exact (origin task member).mono doubleHashH sub
  | take => exact (origin task (List.mem_of_mem_eraseIdx member)).mono doubleHashH sub
  | spawn topic payload =>
      rcases List.mem_append.mp member with old | new
      · exact (origin task old).mono doubleHashH sub
      · rw [List.mem_singleton.mp new]
        exact List.mem_append_right _ (List.mem_singleton_self _)
  | decode index firstSeen topic payload next found decoded =>
      rcases List.mem_or_eq_of_mem_set member with old | rfl
      · exact (origin task old).mono doubleHashH sub
      · exact decodedTask_from doubleHashH (sub (origin _ (List.getElem?_mem found))) decoded

end

inductive ResultMove (w : World) : Action → Option (Option String) → Prop
  | keep (action : Action) : ResultMove w action w.runReturned
  | timeoutFailed (err : String) :
      ResultMove w (.subStart (some err)) (some (some ("could not set a receive timeout: " ++ err)))
  | cancelled : ResultMove w .subGuard (some none)
  | parseError (index : Nat) (err : String) (found : w.tasks[index]? = some (.sendingError err)) :
      ResultMove w (.subTakeError index) (some (some err))
  | receiveFailed (err : String) :
      ResultMove w (.subRecvError err) (some (some ("could not receive ZMQ message: " ++ err)))

section

variable {doubleHashH : List UInt8 → Hash32}

theorem step_result {w next : World} {action : Action}
    (stepped : step doubleHashH w action = some next) : ResultMove w action next.runReturned := by
  cases action <;> simp only [step, step_live _ stepped, Bool.false_eq_true, if_false] at stepped
  case subStart timeoutSet =>
      split at stepped
      · cases stepped
        exact .keep _
      · cases stepped
        exact .timeoutFailed _
      · cases stepped
  case subGuard =>
      split at stepped
      · split_ifs at stepped <;> cases stepped
        · exact .cancelled
        · exact .keep _
      · cases stepped
  case subTakeError task =>
      split at stepped
      · rename_i selecting found
        cases stepped
        exact .parseError task _ found
      · cases stepped
  case subRecvError err =>
      split at stepped
      · cases stepped
        exact .receiveFailed err
      · cases stepped
  all_goals split at stepped <;> (try split at stepped) <;> cases stepped <;> exact .keep _

theorem ResultMove.traced {received : List (String × List (List UInt8))} {w : World}
    {action : Action} {result : Option (Option String)} (move : ResultMove w action result)
    (traced : Traced doubleHashH received w) :
    ∀ err, result = some (some err) → SubscriberError doubleHashH received err := by
  intro err returned
  cases move with
  | keep => exact traced.result err returned
  | timeoutFailed cause =>
      cases returned
      exact .inl ⟨cause, rfl⟩
  | cancelled => cases returned
  | parseError index _ found =>
      cases returned
      exact .inr (.inr (traced.tasks _ (List.getElem?_mem found)))
  | receiveFailed cause =>
      cases returned
      exact .inr (.inl ⟨cause, rfl⟩)

theorem Traced.initial : Traced doubleHashH [] World.initial :=
  ⟨fun _ member => (List.not_mem_nil _ member).elim, fun _ returned => nomatch returned⟩

theorem Traced.step {received : List (String × List (List UInt8))} {w next : World}
    {action : Action} (traced : Traced doubleHashH received w)
    (stepped : step doubleHashH w action = some next) :
    Traced doubleHashH (received ++ action.received) next :=
  ⟨(step_tasks stepped).origin doubleHashH traced.tasks, fun err returned =>
    ((step_result stepped).traced traced err returned).mono doubleHashH
      (List.subset_append_left _ _)⟩

theorem Traced.run {received : List (String × List (List UInt8))} {w next : World}
    {actions : List Action} (traced : Traced doubleHashH received w)
    (ran : run doubleHashH w actions = some next) :
    Traced doubleHashH (received ++ actions.flatMap Action.received) next := by
  induction actions generalizing received w with
  | nil =>
      cases ran
      simpa using traced
  | cons action rest ih =>
      obtain ⟨middle, stepped, ran⟩ := (run_cons_eq_some doubleHashH).mp ran
      simpa [List.append_assoc] using ih (traced.step stepped) ran

/-- Over any run from the start, each record a task offers `Run` and each error `ZMQSubscriber.Run`
returned comes from the messages received, or for an error from the socket. -/
theorem delivered_from_received {actions : List Action} {w : World}
    (ran : run doubleHashH World.initial actions = some w) :
    (∀ tx, .sendingTx tx ∈ w.tasks →
      Decoded doubleHashH (actions.flatMap Action.received) (.ok (.incomingTx tx))) ∧
    (∀ block, .sendingBlock block ∈ w.tasks →
      Decoded doubleHashH (actions.flatMap Action.received) (.ok (.incomingBlocks block))) ∧
    (∀ err, w.runReturned = some (some err) →
      SubscriberError doubleHashH (actions.flatMap Action.received) err) := by
  have traced := Traced.initial.run ran
  rw [List.nil_append] at traced
  exact ⟨fun tx member => traced.tasks _ member, fun block member => traced.tasks _ member,
    traced.result⟩

theorem delivered_from_received_twoMalformedTransactions :
    ∃ w, run (fun _ => zeroHash) World.initial twoMalformedTransactions = some w ∧
      SubscriberError (fun _ => zeroHash) (twoMalformedTransactions.flatMap Action.received)
        ("unexpected payload length: expected len(tx hash, sequence) == 2 but got " ++
          "len(payload) == 0") := by
  obtain ⟨w, ran⟩ :
      ∃ w, run (fun _ => zeroHash) World.initial twoMalformedTransactions = some w := ⟨_, rfl⟩
  have returned : w.runReturned = some (some ("unexpected payload length: expected " ++
      "len(tx hash, sequence) == 2 but got " ++ "len(payload) == 0")) := by
    cases ran
    rfl
  exact ⟨w, ran, (delivered_from_received ran).2.2 _ returned⟩

end

end Bademeister
