import FtlStream.Lifecycle

set_option autoImplicit false

namespace FtlStream.Lifecycle

variable {s s' : State} {action : Action}

def State.raisesStop (s : State) : Action → Bool
  | .control => s.control.raisesStop
  | _ => false

def State.resetsStop (s : State) : Action → Bool
  | .worker id _ => (s.threads[id]?).map Thread.worker == some (.send .exitReset)
  | _ => false

theorem step_stopEvent (stepped : step s action = some s') :
    s'.stopEvent = (s.raisesStop action || (s.stopEvent && !s.resetsStop action)) := by
  cases action with
  | start spawned =>
    rw [step_start stepped]
    unfold ftlStreamStart; split <;> simp [State.raisesStop, State.resetsStop, State.spawn]
  | stop ts =>
    rw [step_stop stepped]
    unfold ftlStreamStop; split_ifs <;> simp [State.raisesStop, State.resetsStop]
  | destroy => simp [step_destroy stepped, ftlStreamDestroy, State.raisesStop, State.resetsStop]
  | control => simpa [State.raisesStop, State.resetsStop] using (controlStep_flags stepped).1
  | data packet =>
    rw [(step_data stepped).2]
    unfold ftlStreamData; split_ifs <;> simp [State.raisesStop, State.resetsStop]
  | produce => simpa [State.raisesStop, State.resetsStop] using (producerStep_flags stepped).1
  | worker id choice =>
    obtain ⟨thread, found, stepped⟩ := step_worker stepped
    simp only [State.raisesStop, State.resetsStop, found, Option.map_some', Bool.false_or]
    cases worker : thread.worker with
    | connect pc =>
      rw [worker] at stepped
      simp [(connectStep_flags stepped).1]
    | send pc =>
      rw [worker] at stepped
      rw [(sendStep_flags stepped).1]
      cases pc <;> rfl
    | status pc =>
      rw [worker] at stepped
      rw [statusStep_frame stepped]
      simp

def forcedStop : List Action :=
  [.stop 0, .control, .control, .control] ++ List.replicate 8 (.worker 2 .go)

def stopAfterExit : List Action := forcedStop ++ [.stop 0, .control, .control, .control]

def restartDuringData : List Action :=
  [.start true] ++ List.replicate 4 (.worker 3 .go) ++
    [.worker 3 (.initConnect true true 0), .worker 3 (.tryConnect false .success none),
     .worker 3 (.spawn true), .worker 3 .go, .worker 3 (.spawn true), .produce, .produce] ++
    List.replicate 8 (.worker 5 .go) ++ [.worker 3 .go]

theorem stop_event_outlives_its_session :
    ∃ s₁ s₂, run initial (openSession ++ [.data silence] ++ stopAfterExit) = some s₁ ∧
      s₁.stopEvent = true ∧ s₁.liveSendWorkers = 0 ∧ s₁.producer = .locking silence ∧
      run s₁ restartDuringData = some s₂ ∧
      s₂.threads[5]? = some ⟨.send .exited, false, false⟩ ∧ s₂.sent = [] ∧
      s₂.active = true ∧ s₂.liveSendWorkers = 0 ∧
      ftlStreamData s₂ silence = { s₂ with producer := .locking silence } := by
  refine ⟨_, _, rfl, ?_, ?_, ?_, rfl, ?_⟩ <;> decide

def Action.isData : Action → Bool
  | .data _ => true
  | _ => false

structure JoinStalled (s : State) (worker : Nat) (sem : Nat) : Prop where
  joining : s.control = .join worker .destroyFree
  handle : s.sendSem = some sem
  noPermit : s.sems[sem]? = some 0
  producerIdle : s.producer = .idle
  waiting : s.threads[worker]? = some ⟨.send .wait, false, false⟩ ∨
    s.threads[worker]? = some ⟨.send (.waitOn sem), false, false⟩
  statusHandle : s.statusThread ≠ some worker
  quiet : ∀ j thread, j ≠ worker → s.threads[j]? = some thread →
    thread.worker.exited = true ∨ thread.worker.isStatus = true

theorem JoinStalled.status {worker sem id : Nat} {choice : Choice} {pc : StatusPc}
    (stalled : JoinStalled s worker sem) (other : id ≠ worker) (stepped : statusStep s id choice pc = some s') :
    JoinStalled s' worker sem := by
  have frame := statusStep_frame stepped
  exact {
    joining := by rw [frame]; exact stalled.joining
    handle := by rw [frame]; exact stalled.handle
    noPermit := by rw [frame]; exact stalled.noPermit
    producerIdle := by rw [frame]; exact stalled.producerIdle
    waiting := by
      rw [statusStep_thread stepped (Ne.symm other) stalled.statusHandle]
      exact stalled.waiting
    statusHandle := by rw [frame]; exact stalled.statusHandle
    quiet := by
      intro j thread' notWorker found'
      rcases statusStep_worker stepped found' with ⟨pc', status'⟩ | ⟨old, oldFound, sameWorker⟩
      · simp [status', Worker.isStatus]
      · rw [← sameWorker]
        exact stalled.quiet j old notWorker oldFound }

theorem JoinStalled.step {worker sem : Nat} (stalled : JoinStalled s worker sem)
    (notData : action.isData = false) (stepped : step s action = some s') :
    JoinStalled s' worker sem := by
  cases action with
  | start _ | stop _ | destroy => simp [Lifecycle.step, stalled.joining] at stepped
  | control =>
    rcases stalled.waiting with waiting | waiting <;>
      simp [Lifecycle.step, stalled.joining, controlStep, State.reap, waiting, Worker.exited] at stepped
  | data _ => cases notData
  | produce => simp [Lifecycle.step, stalled.producerIdle, producerStep] at stepped
  | worker id choice =>
    obtain ⟨thread, found, stepped⟩ := step_worker stepped
    by_cases same : id = worker
    · subst same
      rcases stalled.waiting with waiting | waiting <;> rw [waiting, Option.some.injEq] at found <;>
        subst found
      · simp only [workerStep, sendStep, stalled.handle, Option.some.injEq] at stepped
        subst stepped
        refine { stalled with waiting := .inr ?_, quiet := fun j thread other found => ?_ }
        · simp [State.setWorker, List.getElem?_modify, waiting]
        · rw [State.setWorker_other _ other] at found
          exact stalled.quiet j thread other found
      · simp [workerStep, sendStep, stalled.noPermit] at stepped
    rcases stalled.quiet id thread same found with exited | status
    · simp [workerStep_exited exited] at stepped
    obtain ⟨pc, isStatus⟩ : ∃ pc, thread.worker = .status pc := by
      cases w : thread.worker <;> simp_all [Worker.isStatus]
    rw [isStatus] at stepped
    exact stalled.status same stepped

theorem JoinStalled.run {worker sem : Nat} {actions : List Action} (stalled : JoinStalled s worker sem)
    (notData : ∀ action ∈ actions, action.isData = false) (ran : run s actions = some s') :
    JoinStalled s' worker sem :=
  run_preserves (JoinStalled · worker sem)
    (fun member holds stepped => holds.step (notData _ member) stepped) stalled ran

def gracefulStopThenDestroy : List Action :=
  openSession ++ [.stop 5000000, .control, .control, .control, .stop 0, .destroy, .control]

theorem destroy_joins_send_worker_blocked_forever :
    ∃ s, run initial gracefulStopThenDestroy = some s ∧
      s.stopEvent = true ∧ s.stopTs = 5000 ∧ s.sendSem = some 0 ∧ s.sems = [0] ∧
      s.control = .join 2 .destroyFree ∧ s.threads[2]? = some ⟨.send .wait, false, false⟩ ∧
      ∀ actions s', (∀ action ∈ actions, action.isData = false) → run s actions = some s' →
        s'.control = .join 2 .destroyFree ∧ s'.sems[0]? = some 0 ∧
          (s'.threads[2]? = some ⟨.send .wait, false, false⟩ ∨
            s'.threads[2]? = some ⟨.send (.waitOn 0), false, false⟩) := by
  obtain ⟨s, ran⟩ : ∃ s, run initial gracefulStopThenDestroy = some s := ⟨_, rfl⟩
  have sems : s.sems = [0] := run_map ran (f := (·.sems)) (by decide)
  have stalled : JoinStalled s 2 0 := {
    joining := run_map ran (f := (·.control)) (by decide)
    handle := run_map ran (f := (·.sendSem)) (by decide)
    noPermit := by rw [sems]; rfl
    producerIdle := run_map ran (f := (·.producer)) (by decide)
    waiting := .inl (run_map ran (f := (·.threads[2]?)) (by decide))
    statusHandle := by rw [run_map ran (f := (·.statusThread)) (v := some 1) (by decide)]; decide
    quiet := by
      intro j thread other found
      have three : s.threads.length = 3 := run_map ran (f := (·.threads.length)) (by decide)
      match j, found with
      | 0, found =>
        rw [run_map ran (f := (·.threads[0]?)) (v := some ⟨.connect .exited, true, false⟩)
          (by decide)] at found
        cases found; decide
      | 1, found =>
        rw [run_map ran (f := (·.threads[1]?)) (v := some ⟨.status .loop, false, false⟩)
          (by decide)] at found
        cases found; decide
      | j + 3, found => simp [List.getElem?_eq_none (by omega : s.threads.length ≤ j + 3)] at found }
  refine ⟨s, ran, run_map ran (f := (·.stopEvent)) (by decide), run_map ran (f := (·.stopTs)) (by decide),
    stalled.handle, sems, stalled.joining, run_map ran (f := (·.threads[2]?)) (by decide), ?_⟩
  intro actions s' notData continued
  have after := stalled.run notData continued
  exact ⟨after.joining, after.noPermit, after.waiting⟩

end FtlStream.Lifecycle
