import OciRuntime.Agent.Output

/-!
# `OciRuntime.Agent.SessionSupervisor` — the process that outlives the host

A session supervisor (`agent/src/executor/session_supervisor/mod.rs`) is the parent of the launchers
of a container. It holds the write ends of their standard inputs and drains their outputs, so that
a host that dies can be replaced by one that reattaches. It answers one request at a time over its
control connection; when the connection breaks it waits for the next host, writes its identity to it
and goes on.

## Contents
- **Data.** `ChildOutcome`, `LauncherRequest`, `SupervisorReply`, `Launcher`.
- **Requests.** One handler for each message and their dispatch `Launcher.handle`.
- **Runs.** `LauncherEvent`, `Launcher.step`; `SupervisorEvent`, `SessionSupervisor.step`,
  `SessionSupervisor.run`.

The tables of the supervisor and the children the kernel knows are keyed by process id, and every
request names one. `Launcher` is what is found under one id. A spawn is the birth of a child; one
that fails changes nothing. A read that waits is an event at the moment it is answered. A shutdown
ends the supervisor and with it the run.
-/

namespace OciRuntime

/-! ## Data -/

inductive ChildOutcome
  | exited (code : Nat)
  | signaled (signal : Nat)
  deriving DecidableEq

/-- The wait status that `handle_wait_request` makes of an outcome. -/
def ChildOutcome.status : ChildOutcome → Nat
  | .exited code => code <<< 8
  | .signaled signal => signal

/-- A request about one launcher; a descriptor is named by the pipe end it stands for. -/
inductive LauncherRequest
  | wait
  | depositStdin (stdin : Nat)
  | takeStdin
  | closeDepositedStdin
  | depositOutput (flags : Nat)
  | readOutput (afterSequence maxBytes : Nat)

def LauncherRequest.operation : LauncherRequest → String
  | .wait => "wait"
  | .depositStdin _ => "stdin deposit"
  | .takeStdin => "stdin take"
  | .closeDepositedStdin => "stdin close"
  | .depositOutput _ => "output deposit"
  | .readOutput .. => "read-output"

inductive SupervisorReply
  | waited (status : Nat)
  | deposited
  | stdinTaken (stdin : Nat)
  | depositClosed
  | outputDeposited
  | outputChunks (chunks : List OutputChunk)
  | error (message : String)
  deriving DecidableEq

/-- What is found under one process id: the child, with its outcome once it has ended and until it
    is reaped, and the entries of the tables `deposited_stdin` and `deposited_output`. -/
structure Launcher where
  child : Option (Option ChildOutcome)
  stdin : Option Nat
  output : Option OutputState

namespace Launcher

/-! ## Requests -/

/-- Nothing where the supervisor is blocked because the child still runs. -/
def handleWaitRequest (l : Launcher) : Option (Launcher × SupervisorReply) :=
  match l.child with
  | none => some (l, .error "reap namespace child process failed: No child processes (os error 10)")
  | some none => none
  | some (some outcome) =>
    -- the child is reaped and its input closed; its output buffer is kept
    some ({ l with child := none, stdin := none }, .waited outcome.status)

def handleDepositStdin (l : Launcher) (pid : Int) (stdin : Nat) : Launcher × SupervisorReply :=
  if l.stdin.isSome then
    (l, .error s!"session supervisor already holds a stdin deposit for launcher PID {pid}")
  else ({ l with stdin := some stdin }, .deposited)

def handleTakeStdin (l : Launcher) (pid : Int) : Launcher × SupervisorReply :=
  match l.stdin with
  | none => (l, .error s!"session supervisor has no deposited stdin for launcher PID {pid}")
  | some stdin => ({ l with stdin := none }, .stdinTaken stdin)

def handleDepositOutput (l : Launcher) (pid : Int) (flags : Nat) : Launcher × SupervisorReply :=
  if flags > 3 then
    (l, .error ("session supervisor output deposit flags 0x" ++
      String.ofList (Nat.toDigits 16 flags) ++ " are invalid"))
  else if flags = 0 then
    (l, .error "session supervisor output deposit requires stdout and/or stderr flags")
  else if l.output.isSome then
    (l, .error ("session supervisor already holds exclusive capture drains for launcher PID " ++
      toString pid))
  else ({ l with output := some (.new (flags % 2 + flags / 2)) }, .outputDeposited)

def handleReadOutput (l : Launcher) (pid : Int) (afterSequence maxBytes : Nat) : SupervisorReply :=
  match l.output with
  | none =>
    .error s!"session supervisor has no deposited capture output for launcher PID {pid}"
  | some buffer => match OutputBuffer.readOnce buffer afterSequence maxBytes false with
    | some (.ok chunks) => .outputChunks chunks
    | some (.error error) => .error error.message
    | none => .outputChunks []

/-- The answer of the service loop to a request about `pid`, and what is held afterwards. -/
def handle (l : Launcher) (pid : Int) (request : LauncherRequest) :
    Option (Launcher × SupervisorReply) :=
  if pid ≤ 0 then
    some (l, .error s!"session supervisor {request.operation} requires a positive PID; received {pid}")
  else match request with
    | .wait => l.handleWaitRequest
    | .depositStdin stdin => some (l.handleDepositStdin pid stdin)
    | .takeStdin => some (l.handleTakeStdin pid)
    | .closeDepositedStdin => some ({ l with stdin := none }, .depositClosed)
    | .depositOutput flags => some (l.handleDepositOutput pid flags)
    | .readOutput afterSequence maxBytes =>
      some (l, l.handleReadOutput pid afterSequence maxBytes)

/-- The reply to `request`, were it sent now. -/
def reply (l : Launcher) (pid : Int) (request : LauncherRequest) : Option SupervisorReply :=
  (l.handle pid request).map Prod.snd

end Launcher

/-! ## Runs -/

/-- What happens under one process id. `born` is a spawn, or the adoption of an orphan by the
    supervisor, which is a subreaper. `delivered` says whether the host that sent the request
    received the reply; it may have died after the supervisor acted. -/
inductive LauncherEvent
  | born
  | request (request : LauncherRequest) (delivered : Bool)
  | exited (outcome : ChildOutcome)
  | drained (stream : OutputStream) (data : List UInt8)
  | finished (stream : OutputStream) (error : Option String)

namespace Launcher

/-- One event, unless it cannot happen. The kernel gives a new child an id that no child has, and
    the id of a child that is not reaped is still taken. -/
def step (pid : Int) (l : Launcher) : LauncherEvent → Option Launcher
  | .born => if 0 < pid ∧ l.child = none then some { l with child := some none } else none
  | .request request _ => (l.handle pid request).map Prod.fst
  | .exited outcome =>
    if l.child = some none then some { l with child := some (some outcome) } else none
  | .drained stream data => l.output.map fun buffer =>
    { l with output := some (OutputBuffer.append buffer stream data) }
  | .finished stream error => l.output.map fun buffer =>
    { l with output := some (OutputBuffer.finish buffer stream error) }

/-- Nothing is held under the process id. -/
def empty : Launcher := ⟨none, none, none⟩

/-- What is found under `pid` after `events`. -/
def run (pid : Int) (events : List LauncherEvent) : Option Launcher :=
  events.foldlM (step pid) empty

theorem run_concat (pid : Int) (events : List LauncherEvent) (event : LauncherEvent) :
    run pid (events ++ [event]) = (run pid events).bind (step pid · event) := by
  unfold run
  rw [List.foldlM_append]
  cases events.foldlM (step pid) empty <;> simp

end Launcher

/-- What happens to a supervisor. `hostDied` is the death of a host between two requests, or before
    its request is complete, which leaves everything as it is; so does the failure of a spawn.
    `reattachFailed` is an error of `accept_control_reattach`: the host that connects is gone before
    `READY` is written to it, or none connects in time. -/
inductive SupervisorEvent
  | hostDied
  | reattached
  | reattachFailed
  | launcher (pid : Int) (event : LauncherEvent)

/-- The control connection: to a host, broken, or gone with the supervisor. -/
inductive SupervisorControl
  | attached
  | waiting
  | ended
  deriving DecidableEq

structure SessionSupervisor where
  control : SupervisorControl
  launchers : Int → Launcher

namespace SessionSupervisor

def initial : SessionSupervisor := ⟨.attached, fun _ => .empty⟩

/-- The connection after an event under some process id. A request needs a host; a reply that is not
    delivered makes the supervisor wait for the next one. -/
def controlAfter (control : SupervisorControl) : LauncherEvent → Option SupervisorControl
  | .request _ delivered =>
    if control = .attached then some (if delivered then .attached else .waiting) else none
  | _ => if control = .ended then none else some control

/-- One event. A supervisor that fails to reattach ends with an error, and the kernel closes what it
    holds and kills its launchers. -/
def step (s : SessionSupervisor) : SupervisorEvent → Option SessionSupervisor
  | .hostDied => if s.control = .attached then some { s with control := .waiting } else none
  | .reattached => if s.control = .waiting then some { s with control := .attached } else none
  | .reattachFailed => if s.control = .waiting then some ⟨.ended, fun _ => .empty⟩ else none
  | .launcher pid event => do
    let control ← controlAfter s.control event
    let launcher ← (s.launchers pid).step pid event
    some ⟨control, Function.update s.launchers pid launcher⟩

def run (events : List SupervisorEvent) : Option SessionSupervisor :=
  events.foldlM step initial

/-- The events under `pid`. -/
def history (pid : Int) (events : List SupervisorEvent) : List LauncherEvent :=
  events.filterMap fun
    | .launcher other event => if other = pid then some event else none
    | _ => none

end SessionSupervisor

end OciRuntime
