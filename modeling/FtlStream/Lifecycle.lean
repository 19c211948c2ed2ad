import FtlStream.Queue
import FtlStream.Send

set_option autoImplicit false

/-!
`struct ftl_stream`, its three worker threads (connect, send and status), the host's
control thread (`ftl_stream_start`, `ftl_stream_stop`, `ftl_stream_destroy`) and its
producer thread (`ftl_stream_data`) are one state, with a step function over
interleaved atomic steps. A step is one access to shared state, or a stretch of
thread-local code next to one; a read-modify-write of a counter is a load step and a
store step. `pthread_t` handles are indices of created threads and `os_sem_t *`
handles indices of created semaphores. `os_sem_wait` reads the handle in one step and
returns in a later one, once the semaphore it read has a permit; a semaphore that
`reset_semaphore` destroyed keeps the permits it had. `pthread_join` is two steps: the
call, which reads the handle, and the return, once the target has exited. A join of a
thread that is detached, already joined or never created is undefined in C; the model
returns from it at once, as glibc's `EINVAL` or `ESRCH` would.
-/

namespace FtlStream.Lifecycle

inductive OutputCode
  | success
  | badPath
  | connectFailed
  | error
  | disconnected
  deriving DecidableEq, Repr

/-- `ftl_status_t` values that `ftl-stream.c` distinguishes; `unknown` is any other. -/
inductive FtlStatus
  | success | socketNotConnected | mallocFailure | internalError | configError
  | notActiveStream | notConnected | alreadyConnected | statusTimeout | queueFull
  | statusWaitingForKeyFrame | queueEmpty | notInitialized | badRequest | dnsFailure
  | connectError | unsupportedMediaType | oldVersion | unauthorized | audioSsrcCollision
  | videoSsrcCollision | streamRejected | badOrInvalidStreamKey | channelInUse
  | regionUnsupported | noMediaTimeout | userDisconnect | unknown
  deriving DecidableEq, Repr

def ftlErrorToObsError : FtlStatus → OutputCode
  | .success | .userDisconnect => .success
  | .badRequest | .dnsFailure | .connectError | .unsupportedMediaType | .oldVersion
  | .unauthorized | .audioSsrcCollision | .videoSsrcCollision | .streamRejected
  | .badOrInvalidStreamKey | .channelInUse | .regionUnsupported => .connectFailed
  | .noMediaTimeout => .disconnected
  | _ => .error

inductive StatusMsg
  | disconnectedEvent (apiRequest : Bool)
  | otherEvent
  | log
  | videoPackets
  | videoPacketsInstant
  | video
  | other
  deriving DecidableEq, Repr

inductive Event
  | beginDataCapture
  | endDataCapture
  | signalStop (code : OutputCode)
  | ingestCreate
  | ingestDisconnect
  | ingestDestroy
  deriving DecidableEq, Repr

inductive ConnectPc
  | start
  | joinSend
  | waitSend (target : Nat)
  | freePackets
  | initConnect
  | tryConnect
  | createStatus
  | resetSemaphore
  | createSend
  | setActive
  | finish (ret : OutputCode)
  | detachUnlessStopping
  | clearConnecting
  | exited
  deriving DecidableEq, Repr

inductive Call
  | header (packet : EncoderPacket)
  | frame
  deriving DecidableEq, Repr

/-- Where a send worker is inside `send_packet`, with its locals `i` and `bytes_sent`
and the value a counter's load step read. -/
inductive PacketPc
  | split
  | media (index : Nat) (bytesSent : Int)
  | loadFrames (index : Nat) (bytesSent : Int)
  | storeFrames (index : Nat) (bytesSent : Int) (framesSent : Int)
  | loadBytes (bytesSent : Int)
  | storeBytes (bytesSent : Int) (totalBytesSent : Nat)
  deriving DecidableEq, Repr

inductive SendPc
  | wait
  | waitOn (sem : Nat)
  | checkStop
  | dequeue
  | checkDeadline (packet : EncoderPacket)
  | transmit (packet : EncoderPacket)
  | sending (packet : EncoderPacket) (call : Call) (pc : PacketPc)
  | exitSignal
  | exitDisconnect
  | exitFree
  | exitReset
  | exitClear
  | exited
  deriving DecidableEq, Repr

inductive StatusPc
  | loop
  | signal
  | detach
  | exited
  deriving DecidableEq, Repr

inductive Worker
  | connect (pc : ConnectPc)
  | send (pc : SendPc)
  | status (pc : StatusPc)
  deriving DecidableEq, Repr

structure Thread where
  worker : Worker
  detached : Bool
  joined : Bool
  deriving DecidableEq, Repr

inductive Control
  | idle
  | stopTestConnecting (ts : Nat)
  | stopJoinStatus (ts : Nat)
  | stopJoinConnect (ts : Nat)
  | stopSignal (ts : Nat)
  | stopPost
  | destroyTestRunning
  | destroyTestConnecting
  | destroyJoinSend
  | destroyJoinStatus
  | destroyJoinConnect
  | destroySignal
  | destroyPost
  | destroyJoinSendActive
  | destroyFree
  | destroyed
  | join (target : Nat) (next : Control)
  deriving DecidableEq, Repr

inductive Producer
  | idle
  | locking (packet : EncoderPacket)
  | posting
  deriving DecidableEq, Repr

/-- `sent` and `events` are ghosts: the packets `send_packet` has returned from, and
the calls into the host and the ingest. -/
structure State where
  queue : Queue
  connecting : Bool
  active : Bool
  disconnected : Bool
  stopEvent : Bool
  stopTs : Nat
  sendSem : Option Nat
  sems : List Nat
  peakKbps : Int
  sender : Sender
  connectThread : Option Nat
  statusThread : Option Nat
  sendThread : Option Nat
  threads : List Thread
  control : Control
  producer : Producer
  sent : List EncoderPacket
  events : List Event
  deriving DecidableEq, Repr

def initial : State :=
  { queue := ⟨[], 0, 0, 0, 0, 0⟩
    connecting := false
    active := false
    disconnected := false
    stopEvent := false
    stopTs := 0
    sendSem := none
    sems := []
    peakKbps := -1
    sender := ⟨[], 0, 0, false, []⟩
    connectThread := none
    statusThread := none
    sendThread := none
    threads := []
    control := .idle
    producer := .idle
    sent := []
    events := [] }

def Worker.exited : Worker → Bool
  | .connect .exited | .send .exited | .status .exited => true
  | _ => false

def Thread.alive (thread : Thread) : Bool := !thread.worker.exited

/-- `pthread_create`: the new thread's index is `s.threads.length`. -/
@[simps]
def State.spawn (s : State) (worker : Worker) : State :=
  { s with threads := s.threads ++ [⟨worker, false, false⟩] }

@[simps]
def State.setWorker (s : State) (id : Nat) (worker : Worker) : State :=
  { s with threads := s.threads.modify (fun thread => { thread with worker := worker }) id }

@[simps]
def State.detach (s : State) (handle : Option Nat) : State :=
  { s with
    threads := match handle with
      | some id => s.threads.modify (fun thread => { thread with detached := true }) id
      | none => s.threads }

def State.joinable (s : State) : Option Nat → Option Nat
  | some id =>
    match s.threads[id]? with
    | some thread => if !thread.detached && !thread.joined then some id else none
    | none => none
  | none => none

def State.reap (s : State) (id : Nat) : Option State :=
  match s.threads[id]? with
  | some thread =>
    if !thread.detached && thread.worker.exited then
      some { s with threads := s.threads.modify (fun thread => { thread with joined := true }) id }
    else none
  | none => none

@[simps]
def State.emit (s : State) (event : Event) : State := { s with events := s.events ++ [event] }

/-- `os_sem_post(stream->send_sem)`; libobs' `os_sem_post` ignores a null semaphore. -/
@[simps]
def State.post (s : State) : State :=
  { s with
    sems := match s.sendSem with
      | some sem => s.sems.modify (· + 1) sem
      | none => s.sems }

def Worker.isSend : Worker → Bool
  | .send _ => true
  | _ => false

def Worker.isStatus : Worker → Bool
  | .status _ => true
  | _ => false

def Worker.isConnect : Worker → Bool
  | .connect _ => true
  | _ => false

def State.liveSendWorkers (s : State) : Nat :=
  s.threads.countP fun thread => thread.alive && thread.worker.isSend

def State.liveConnectWorkers (s : State) : Nat :=
  s.threads.countP fun thread => thread.alive && thread.worker.isConnect

theorem Thread.alive_send {thread : Thread} {pc : SendPc} (worker : thread.worker = .send pc)
    (live : pc ≠ .exited) : (thread.alive && thread.worker.isSend) = true := by
  rw [Thread.alive, worker]
  cases pc <;> first | exact absurd rfl live | rfl

theorem Thread.alive_connect {thread : Thread} {pc : ConnectPc} (worker : thread.worker = .connect pc)
    (live : pc ≠ .exited) : (thread.alive && thread.worker.isConnect) = true := by
  rw [Thread.alive, worker]
  cases pc <;> first | exact absurd rfl live | rfl

section ThreadTable

variable {s : State} {id j : Nat}

theorem State.setWorker_other (worker : Worker) (other : j ≠ id) :
    (s.setWorker id worker).threads[j]? = s.threads[j]? := by
  simp [State.setWorker, List.getElem?_modify, Ne.symm other]

theorem State.detach_other {handle : Option Nat} (notHandle : handle ≠ some j) :
    (s.detach handle).threads[j]? = s.threads[j]? := by
  cases handle with
  | none => rfl
  | some k =>
    have : k ≠ j := fun same => notHandle (same ▸ rfl)
    simp [State.detach, List.getElem?_modify, this]

@[simp] theorem State.setWorker_workers (worker : Worker) :
    ((s.setWorker id worker).threads[j]?).map Thread.worker =
      ((s.threads[j]?).map Thread.worker).map fun old => if id = j then worker else old := by
  simp only [State.setWorker, List.getElem?_modify]
  cases s.threads[j]? with
  | none => rfl
  | some thread => by_cases same : id = j <;> simp [same]

@[simp] theorem State.detach_workers (handle : Option Nat) :
    ((s.detach handle).threads[j]?).map Thread.worker = (s.threads[j]?).map Thread.worker := by
  cases handle with
  | none => rfl
  | some k =>
    simp only [State.detach, List.getElem?_modify]
    cases s.threads[j]? <;> simp [apply_ite]

end ThreadTable

def ftlStreamStart (s : State) (spawned : Bool) : State :=
  let s := { s with sender := { s.sender with framesSent := 0 }, connecting := true }
  if spawned then { s.spawn (.connect .start) with connectThread := some s.threads.length } else s

def ftlStreamStop (s : State) (ts : Nat) : State :=
  if s.stopEvent then s else { s with control := .stopTestConnecting ts }

def ftlStreamDestroy (s : State) : State :=
  { s with control := if s.stopEvent && !s.connecting then .destroyJoinSend else .destroyTestRunning }

def State.callJoin (s : State) (handle : Option Nat) (next : Control) : State :=
  match s.joinable handle with
  | some target => { s with control := .join target next }
  | none => { s with control := next }

def controlStep (s : State) : Control → Option State
  | .idle | .destroyed => none
  | .join target next => (s.reap target).map ({ · with control := next })
  | .stopTestConnecting ts =>
    some { s with control := if s.connecting then .stopJoinStatus ts else .stopSignal ts }
  | .stopJoinStatus ts => some (s.callJoin s.statusThread (.stopJoinConnect ts))
  | .stopJoinConnect ts => some (s.callJoin s.connectThread (.stopSignal ts))
  | .stopSignal ts => some { s with stopTs := ts / 1000, stopEvent := true, control := .stopPost }
  | .stopPost =>
    some { (if s.active && s.stopTs == 0 then s.post else s) with control := .idle }
  | .destroyTestRunning =>
    some { s with control := if s.connecting || s.active then .destroyTestConnecting else .destroyFree }
  | .destroyTestConnecting =>
    some { s with control := if s.connecting then .destroyJoinStatus else .destroySignal }
  | .destroyJoinSend => some (s.callJoin s.sendThread .destroyFree)
  | .destroyJoinStatus => some (s.callJoin s.statusThread .destroyJoinConnect)
  | .destroyJoinConnect => some (s.callJoin s.connectThread .destroySignal)
  | .destroySignal => some { s with stopTs := 0, stopEvent := true, control := .destroyPost }
  | .destroyPost =>
    if s.active then some { (s.post.emit .endDataCapture) with control := .destroyJoinSendActive }
    else some { s with control := .destroyFree }
  | .destroyJoinSendActive => some (s.callJoin s.sendThread .destroyFree)
  | .destroyFree =>
    some { (s.emit .ingestDestroy) with queue := (freePackets s.queue).1, control := .destroyed }

def ftlStreamData (s : State) (packet : EncoderPacket) : State :=
  if s.disconnected || !s.active then s else { s with producer := .locking packet }

def producerStep (s : State) : Producer → Option State
  | .idle => none
  | .locking packet =>
    if s.disconnected then some { s with producer := .idle }
    else
      let added := addStreamPacket s.queue packet
      some { s with queue := added.1, producer := if added.2.1 then .posting else .idle }
  | .posting => some { s.post with producer := .idle }

/-- The outcomes of the outside world a worker step may depend on: the encoder's
parameter sets for `send_video_header`, the fuel of `avc_get_video_frame`, and what
`ftl_ingest_send_media_dts` returns. -/
inductive Choice
  | go
  | spawn (ok : Bool)
  | initConnect (service : Bool) (created : Bool) (dropThresholdMs : Int)
  | tryConnect (pathEmpty : Bool) (status : FtlStatus) (speedTest : Option Int)
  | header (bytes : List UInt8)
  | parse (fuel : Nat)
  | media (returned : Int)
  | status (code : FtlStatus) (msg : StatusMsg)

/-- `connect_thread` with `init_connect`, `try_connect` and `init_send` inlined. -/
def connectStep (s : State) (id : Nat) (choice : Choice) : ConnectPc → Option State
  | .start =>
    some (s.setWorker id (.connect (if s.stopEvent then .joinSend else .freePackets)))
  | .joinSend =>
    match s.joinable s.sendThread with
    | some target => some (s.setWorker id (.connect (.waitSend target)))
    | none => some (s.setWorker id (.connect .freePackets))
  | .waitSend target => (s.reap target).map (·.setWorker id (.connect .freePackets))
  | .freePackets => some ({ s with queue := (freePackets s.queue).1 }.setWorker id (.connect .initConnect))
  | .initConnect =>
    match choice with
    | .initConnect service created dropThresholdMs =>
      if !service then
        some ((s.emit (.signalStop .badPath)).setWorker id (.connect .exited))
      else
        let s := { s with
          disconnected := false
          sender := { s.sender with totalBytesSent := 0 }
          queue := { s.queue with droppedFrames := 0, minDropDtsUsec := 0, minPriority := 0 } }
        let s := s.emit .ingestCreate
        if !created then some ((s.emit (.signalStop .badPath)).setWorker id (.connect .exited))
        else
          some ({ s with queue := { s.queue with dropThresholdUsec := dropThresholdMs * 1000 } }.setWorker
            id (.connect .tryConnect))
    | _ => none
  | .tryConnect =>
    match choice with
    | .tryConnect pathEmpty status speedTest =>
      if pathEmpty then some (s.setWorker id (.connect (.finish .badPath)))
      else if status != .success then
        some (s.setWorker id (.connect (.finish (ftlErrorToObsError status))))
      else
        let peakKbps := if s.peakKbps < 0 then speedTest.getD s.peakKbps else s.peakKbps
        some ({ s with peakKbps := peakKbps }.setWorker id (.connect .createStatus))
    | _ => none
  | .createStatus =>
    match choice with
    | .spawn ok =>
      let s := s.setWorker id (.connect .resetSemaphore)
      if ok then some { s.spawn (.status .loop) with statusThread := some s.threads.length }
      else some s
    | _ => none
  | .resetSemaphore =>
    some ({ s with sems := s.sems ++ [0], sendSem := some s.sems.length }.setWorker id (.connect .createSend))
  | .createSend =>
    match choice with
    | .spawn ok =>
      if ok then
        let s := s.setWorker id (.connect .setActive)
        some { s.spawn (.send .wait) with sendThread := some s.threads.length }
      else some (s.setWorker id (.connect (.finish .error)))
    | _ => none
  | .setActive =>
    some (({ s with active := true }.emit .beginDataCapture).setWorker id (.connect (.finish .success)))
  | .finish ret =>
    let s := if ret != .success then s.emit (.signalStop ret) else s
    some (s.setWorker id (.connect .detachUnlessStopping))
  | .detachUnlessStopping =>
    let s := if !s.stopEvent then s.detach s.connectThread else s
    some (s.setWorker id (.connect .clearConnecting))
  | .clearConnecting => some ({ s with connecting := false }.setWorker id (.connect .exited))
  | .exited => none

/-- `send_packet` returns its `ret`, which is initialised to 0 and never assigned. -/
def sendPacketReturn : Int := 0

def Call.packet (packet : EncoderPacket) : Call → EncoderPacket
  | .header built => built
  | .frame => packet

def Call.isHeader : Call → Bool
  | .header _ => true
  | .frame => false

def packetStep (s : State) (id : Nat) (choice : Choice) (packet : EncoderPacket) (call : Call) :
    PacketPc → Option State
  | .split =>
    let sending := call.packet packet
    match sending.type, choice with
    | .video, .parse fuel =>
      match avcGetVideoFrame fuel sending call.isHeader [] with
      | some (nalus, .returned _) =>
        some ({ s with sender := { s.sender with codedPicBuffer := nalus } }.setWorker id
          (.send (.sending packet call (.media 0 0))))
      | _ => none
    | .audio, .media returned =>
      let sent : MediaCall := ⟨.audio, sending.dtsUsec, 0, sending.size, false⟩
      some ({ s with sender := { s.sender with media := s.sender.media ++ [sent] } }.setWorker id
        (.send (.sending packet call (.loadBytes (int32 (0 + returned))))))
    | _, _ => none
  | .media index bytesSent =>
    match s.sender.codedPicBuffer[index]?, choice with
    | some nalu, .media returned =>
      let sent := naluCall (call.packet packet).dtsUsec nalu
      let bytesSent := int32 (bytesSent + returned)
      some ({ s with sender := { s.sender with media := s.sender.media ++ [sent] } }.setWorker id
        (.send (.sending packet call
          (if nalu.sendMarkerBit then .loadFrames index bytesSent else .media (index + 1) bytesSent))))
    | none, _ => some (s.setWorker id (.send (.sending packet call (.loadBytes bytesSent))))
    | _, _ => none
  | .loadFrames index bytesSent =>
    some (s.setWorker id (.send (.sending packet call (.storeFrames index bytesSent s.sender.framesSent))))
  | .storeFrames index bytesSent framesSent =>
    some ({ s with sender := { s.sender with framesSent := framesSent + 1 } }.setWorker id
      (.send (.sending packet call (.media (index + 1) bytesSent))))
  | .loadBytes bytesSent =>
    some (s.setWorker id (.send (.sending packet call (.storeBytes bytesSent s.sender.totalBytesSent))))
  | .storeBytes bytesSent totalBytesSent =>
    let s := { s with sender := { s.sender with totalBytesSent := (totalBytesSent + toUInt64 bytesSent) % 2 ^ 64 } }
    match call with
    | .header _ =>
      if sendPacketReturn < 0 then some ({ s with disconnected := true }.setWorker id (.send .exitSignal))
      else some (s.setWorker id (.send (.sending packet .frame .split)))
    | .frame =>
      let s := { s with sent := s.sent ++ [packet] }
      if sendPacketReturn < 0 then some ({ s with disconnected := true }.setWorker id (.send .exitSignal))
      else some (s.setWorker id (.send .wait))

def sendStep (s : State) (id : Nat) (choice : Choice) : SendPc → Option State
  | .wait =>
    match s.sendSem with
    | some sem => some (s.setWorker id (.send (.waitOn sem)))
    | none => some (s.setWorker id (.send .exitSignal))
  | .waitOn sem =>
    match s.sems[sem]? with
    | some (permits + 1) => some ({ s with sems := s.sems.set sem permits }.setWorker id (.send .checkStop))
    | _ => none
  | .checkStop =>
    some (s.setWorker id (.send (if s.stopEvent && s.stopTs == 0 then .exitSignal else .dequeue)))
  | .dequeue =>
    match getNextPacket s.queue with
    | (_, none) => some (s.setWorker id (.send .wait))
    | (queue, some packet) => some ({ s with queue := queue }.setWorker id (.send (.checkDeadline packet)))
  | .checkDeadline packet =>
    some (s.setWorker id (.send
      (if s.stopEvent && decide (packet.sysDtsUsec ≥ toInt64 s.stopTs) then .exitSignal
       else .transmit packet)))
  | .transmit packet =>
    if packet.keyframe then
      match choice with
      | .header bytes =>
        some ({ s with sender := { s.sender with sentHeaders := true } }.setWorker id
          (.send (.sending packet (.header (headerPacket bytes packet.dtsUsec)) .split)))
      | _ => none
    else some (s.setWorker id (.send (.sending packet .frame .split)))
  | .sending packet call pc => packetStep s id choice packet call pc
  | .exitSignal =>
    let s := if !s.stopEvent then (s.detach s.sendThread).emit (.signalStop .disconnected)
      else s.emit .endDataCapture
    some (s.setWorker id (.send .exitDisconnect))
  | .exitDisconnect => some ((s.emit .ingestDisconnect).setWorker id (.send .exitFree))
  | .exitFree => some ({ s with queue := (freePackets s.queue).1 }.setWorker id (.send .exitReset))
  | .exitReset => some ({ s with stopEvent := false }.setWorker id (.send .exitClear))
  | .exitClear =>
    some ({ s with active := false, sender := { s.sender with sentHeaders := false } }.setWorker id
      (.send .exited))
  | .exited => none

def statusStep (s : State) (id : Nat) (choice : Choice) : StatusPc → Option State
  | .loop =>
    if s.disconnected then some (s.setWorker id (.status .detach))
    else
      match choice with
      | .status code msg =>
        if code == .statusTimeout || code == .queueEmpty then some s
        else if code == .notInitialized then some (s.setWorker id (.status .detach))
        else
          match msg with
          | .disconnectedEvent true => some (s.setWorker id (.status .detach))
          | .disconnectedEvent false => some (s.setWorker id (.status .signal))
          | _ => some s
      | _ => none
  | .signal => some ((s.emit (.signalStop .disconnected)).setWorker id (.status .exited))
  | .detach => some ((s.detach s.statusThread).setWorker id (.status .exited))
  | .exited => none

def workerStep (s : State) (id : Nat) (choice : Choice) : Worker → Option State
  | .connect pc => connectStep s id choice pc
  | .send pc => sendStep s id choice pc
  | .status pc => statusStep s id choice pc

inductive Action
  | start (spawned : Bool)
  | stop (ts : Nat)
  | destroy
  | control
  | data (packet : EncoderPacket)
  | produce
  | worker (id : Nat) (choice : Choice)

def step (s : State) : Action → Option State
  | .start spawned => if s.control == .idle then some (ftlStreamStart s spawned) else none
  | .stop ts => if s.control == .idle then some (ftlStreamStop s ts) else none
  | .destroy => if s.control == .idle then some (ftlStreamDestroy s) else none
  | .control => controlStep s s.control
  | .data packet =>
    if s.producer == .idle && s.control != .destroyed then some (ftlStreamData s packet) else none
  | .produce => producerStep s s.producer
  | .worker id choice =>
    match s.threads[id]? with
    | some thread => workerStep s id choice thread.worker
    | none => none

section StepCases

variable {s s' : State}

theorem step_start {spawned : Bool} (stepped : step s (.start spawned) = some s') :
    s' = ftlStreamStart s spawned := by
  simp only [step, Option.ite_none_right_eq_some, Option.some.injEq] at stepped
  exact stepped.2.symm

theorem step_stop {ts : Nat} (stepped : step s (.stop ts) = some s') : s' = ftlStreamStop s ts := by
  simp only [step, Option.ite_none_right_eq_some, Option.some.injEq] at stepped
  exact stepped.2.symm

theorem step_destroy (stepped : step s .destroy = some s') : s' = ftlStreamDestroy s := by
  simp only [step, Option.ite_none_right_eq_some, Option.some.injEq] at stepped
  exact stepped.2.symm

theorem step_data {packet : EncoderPacket} (stepped : step s (.data packet) = some s') :
    s.producer = .idle ∧ s' = ftlStreamData s packet := by
  simp only [step, Option.ite_none_right_eq_some, Option.some.injEq, Bool.and_eq_true,
    beq_iff_eq] at stepped
  exact ⟨stepped.1.1, stepped.2.symm⟩

theorem step_worker {id : Nat} {choice : Choice} (stepped : step s (.worker id choice) = some s') :
    ∃ thread, s.threads[id]? = some thread ∧ workerStep s id choice thread.worker = some s' := by
  simp only [step] at stepped
  split at stepped
  · exact ⟨_, ‹_›, stepped⟩
  · cases stepped

end StepCases

def run : State → List Action → Option State
  | s, [] => some s
  | s, action :: rest => (step s action).bind (run · rest)

inductive Reachable : State → Prop
  | initial : Reachable initial
  | step {s s' : State} {action : Action} : Reachable s → step s action = some s' → Reachable s'

theorem run_preserves (P : State → Prop) {s s' : State} {actions : List Action}
    (preserve : ∀ {s s' : State} {action : Action}, action ∈ actions → P s →
      step s action = some s' → P s')
    (holds : P s) (ran : run s actions = some s') : P s' := by
  induction actions generalizing s with
  | nil =>
    simp only [Lifecycle.run, Option.some.injEq] at ran
    exact ran ▸ holds
  | cons action rest ih =>
    simp only [Lifecycle.run, Option.bind_eq_some] at ran
    obtain ⟨next, stepped, ran⟩ := ran
    exact ih (fun member => preserve (List.mem_cons_of_mem _ member))
      (preserve (List.mem_cons_self _ _) holds stepped) ran

theorem run_map {s₀ s : State} {actions : List Action} (ran : run s₀ actions = some s) {α : Type}
    {f : State → α} {v : α} (computed : (run s₀ actions).map f = some v) : f s = v := by
  rw [ran] at computed
  exact Option.some.inj computed

theorem Reachable.run {s s' : State} {actions : List Action} (reachable : Reachable s)
    (ran : run s actions = some s') : Reachable s' :=
  run_preserves Reachable (fun _ holds stepped => holds.step stepped) reachable ran

section Frames

variable {s s' : State} {id : Nat} {choice : Choice}

theorem State.reap_frame {target : Nat} (reaped : s.reap target = some s') :
    s' = { s with threads := s'.threads } := by
  unfold State.reap at reaped
  split at reaped
  · split at reaped
    · cases reaped; rfl
    · cases reaped
  · cases reaped

theorem State.callJoin_frame (handle : Option Nat) (next : Control) :
    s.callJoin handle next = { s with control := (s.callJoin handle next).control } := by
  unfold State.callJoin; split <;> rfl

def Control.raisesStop : Control → Bool
  | .stopSignal _ | .destroySignal => true
  | _ => false

theorem controlStep_flags {control : Control} (stepped : controlStep s control = some s') :
    s'.stopEvent = (control.raisesStop || s.stopEvent) ∧ s'.disconnected = s.disconnected := by
  cases control <;> simp only [controlStep] at stepped
  case join target next =>
    obtain ⟨r, reaped, rfl⟩ := Option.map_eq_some'.mp stepped
    rw [State.reap_frame reaped]
    exact ⟨rfl, rfl⟩
  all_goals
    repeat' split at stepped
    all_goals first
      | (cases stepped; rw [State.callJoin_frame]; exact ⟨rfl, rfl⟩)
      | (cases stepped; simp [Control.raisesStop, State.emit, apply_ite State.stopEvent,
          apply_ite State.disconnected])
      | cases stepped

theorem producerStep_flags {producer : Producer} (stepped : producerStep s producer = some s') :
    s'.stopEvent = s.stopEvent ∧ s'.disconnected = s.disconnected := by
  cases producer <;> simp only [producerStep] at stepped
  all_goals
    repeat' split at stepped
    all_goals first | (cases stepped; exact ⟨rfl, rfl⟩) | cases stepped

theorem connectStep_flags {pc : ConnectPc} (stepped : connectStep s id choice pc = some s') :
    s'.stopEvent = s.stopEvent ∧ (s'.disconnected = s.disconnected ∨ s'.disconnected = false) := by
  cases pc <;> simp only [connectStep] at stepped
  case waitSend target =>
    obtain ⟨r, reaped, rfl⟩ := Option.map_eq_some'.mp stepped
    rw [State.reap_frame reaped]
    exact ⟨rfl, .inl rfl⟩
  all_goals
    repeat' split at stepped
    all_goals first
      | (cases stepped; simp [State.setWorker, State.emit, State.detach, State.spawn])
      | cases stepped

def PacketPc.returns : PacketPc → Bool
  | .storeBytes _ _ => true
  | _ => false

theorem packetStep_frame {packet : EncoderPacket} {call : Call} {pc : PacketPc}
    (stepped : packetStep s id choice packet call pc = some s') :
    s' = { s with
      sender := s'.sender
      sent := s'.sent
      disconnected := s'.disconnected
      threads := s'.threads } ∧
    ∃ pc', s'.threads = (s.setWorker id (.send pc')).threads ∧
      if pc.returns then pc' = .wait ∨ pc' = .exitSignal ∨ ∃ inner, pc' = .sending packet .frame inner
      else (∃ inner, pc' = .sending packet call inner) ∧ s'.sent = s.sent := by
  cases pc <;> simp only [packetStep] at stepped
  all_goals
    repeat' split at stepped
    all_goals first
      | (cases stepped; exact ⟨rfl, _, rfl, by simp [PacketPc.returns]⟩)
      | cases stepped

theorem packetStep_disconnected_of {packet : EncoderPacket} {call : Call} {pc : PacketPc}
    (stepped : packetStep s id choice packet call pc = some s') :
    s'.disconnected = (s.disconnected || (pc.returns && decide (sendPacketReturn < 0))) := by
  cases pc <;> simp only [packetStep] at stepped
  all_goals
    repeat' split at stepped
    all_goals first
      | (cases stepped; simp [PacketPc.returns, *])
      | cases stepped

def SendPc.failsSend : SendPc → Bool
  | .sending _ _ pc => pc.returns && decide (sendPacketReturn < 0)
  | _ => false

theorem sendStep_flags {pc : SendPc} (stepped : sendStep s id choice pc = some s') :
    s'.stopEvent = (s.stopEvent && pc != .exitReset) ∧ s'.disconnected = (s.disconnected || pc.failsSend) := by
  cases pc <;> simp only [sendStep] at stepped
  case sending packet call pc =>
    have failed := packetStep_disconnected_of stepped
    rw [(packetStep_frame stepped).1]
    exact ⟨by simp, failed⟩
  all_goals
    repeat' split at stepped
    all_goals first
      | (cases stepped; simp [State.setWorker, State.emit, State.detach, SendPc.failsSend])
      | cases stepped

theorem workerStep_exited {worker : Worker} (exited : worker.exited = true) :
    workerStep s id choice worker = none := by
  rcases worker with (pc | pc | pc) <;> cases pc <;> first | rfl | cases exited

theorem statusStep_cases {pc : StatusPc} (stepped : statusStep s id choice pc = some s') :
    s' = s ∨ (∃ pc', s' = s.setWorker id (.status pc')) ∨
      s' = (s.emit (.signalStop .disconnected)).setWorker id (.status .exited) ∨
      s' = (s.detach s.statusThread).setWorker id (.status .exited) := by
  cases pc <;> simp only [statusStep] at stepped
  all_goals
    repeat' split at stepped
    all_goals cases stepped
  all_goals first
    | exact .inl rfl
    | exact .inr (.inl ⟨_, rfl⟩)
    | exact .inr (.inr (.inl rfl))
    | exact .inr (.inr (.inr rfl))

theorem statusStep_frame {pc : StatusPc} (stepped : statusStep s id choice pc = some s') :
    s' = { s with threads := s'.threads, events := s'.events } := by
  rcases statusStep_cases stepped with rfl | ⟨_, rfl⟩ | rfl | rfl <;> rfl

theorem statusStep_thread {pc : StatusPc} (stepped : statusStep s id choice pc = some s') {j : Nat}
    (other : j ≠ id) (notHandle : s.statusThread ≠ some j) : s'.threads[j]? = s.threads[j]? := by
  rcases statusStep_cases stepped with rfl | ⟨_, rfl⟩ | rfl | rfl <;>
    simp only [State.setWorker_other _ other, State.emit_threads, State.detach_other notHandle]

theorem statusStep_worker {pc : StatusPc} (stepped : statusStep s id choice pc = some s') {j : Nat}
    {thread' : Thread} (found : s'.threads[j]? = some thread') :
    (∃ pc', thread'.worker = .status pc') ∨
      ∃ thread, s.threads[j]? = some thread ∧ thread.worker = thread'.worker := by
  have workers := congrArg (Option.map Thread.worker) found
  rcases statusStep_cases stepped with rfl | ⟨_, rfl⟩ | rfl | rfl
  · exact .inr ⟨thread', found, rfl⟩
  all_goals
    simp only [State.setWorker_workers, State.detach_workers, State.emit_threads,
      Option.map_some'] at workers
    obtain ⟨w, before, same⟩ := Option.map_eq_some'.mp workers
    obtain ⟨thread, old, rfl⟩ := Option.map_eq_some'.mp before
    split_ifs at same
    · exact .inl ⟨_, same.symm⟩
    · exact .inr ⟨thread, old, same⟩

end Frames

def openSession : List Action :=
  [.start true, .worker 0 .go, .worker 0 .go, .worker 0 (.initConnect true true 0),
   .worker 0 (.tryConnect false .success none), .worker 0 (.spawn true), .worker 0 .go,
   .worker 0 (.spawn true), .worker 0 .go, .worker 0 .go, .worker 0 .go, .worker 0 .go]

def silence : EncoderPacket := ⟨[0], 0, 0, .audio, false, 0, 0, 1⟩

example : (run initial openSession).map (fun s => (s.liveSendWorkers, s.active, s.connecting)) =
    some (1, true, false) := by decide

end FtlStream.Lifecycle
