import Mathlib.Data.List.Induction
import OciRuntime.Agent.SessionSupervisor
import OciRuntime.Agent.OutputLog

/-!
# `OciRuntime.Property.SessionSupervisor` — what a supervisor keeps across hosts and children

Two laws of the supervisor's runs. A host may die at any point of a request, and what the supervisor
holds must not be lost with it; this is true as long as the replies that hand something over are
received and a host that connects stays until it is greeted. The kernel may give the process id of a
reaped child to a new one, and what is kept under an id must belong to the child that has it; this is
true as long as the id of a new child has no entry left in a table.

## Contents
- **Steps.** What an event does to each part of what is held: `step_child`, `step_stdin`,
  `step_output`; the part of a run under one process id is a run unless the supervisor has ended:
  `run_launcher`.
- **Host death.** `LosesNothing`, `host_death_loses_nothing`.
- **Reused process ids.** `OwnOnly`, `children_have_their_own`.
-/

namespace OciRuntime

/-- What the event adds to the captured output. -/
def LauncherEvent.captures : LauncherEvent → List OutputEntry
  | .drained stream data => outputEntries stream data false
  | .finished stream _ => outputEntries stream [] true
  | _ => []

namespace Launcher

variable {pid : Int} {l l' : Launcher} {event : LauncherEvent} {pre mid events : List LauncherEvent}

/-! ## Steps -/

theorem step_child (h : l.step pid event = some l') : l'.child = l.child ∧ event ≠ .born ∨
    event = .born ∧ 0 < pid ∧ l.child = none ∧ l'.child = some none ∨
    (∃ oc, event = .exited oc ∧ l.child = some none ∧ l'.child = some (some oc)) ∨
    ∃ oc d, event = .request .wait d ∧ l.child = some (some oc) ∧ l'.child = none := by
  cases event with
  | request request d =>
    obtain ⟨⟨after, answer⟩, hh, rfl⟩ := Option.map_eq_some_iff.mp h
    cases request with
    | wait => grind [handle, handleWaitRequest]
    | _ =>
      -- the other requests leave the child alone
      grind [handle, handleDepositStdin, handleTakeStdin, handleDepositOutput]
  | _ => grind [step, Option.map_eq_some_iff]

theorem step_stdin (h : l.step pid event = some l') : l'.stdin = l.stdin ∨
    (∃ stdin d, event = .request (.depositStdin stdin) d ∧
      l.reply pid (.depositStdin stdin) = some .deposited ∧ l'.stdin = some stdin) ∨
    (∃ stdin d, event = .request .takeStdin d ∧ l.stdin = some stdin ∧
      l.reply pid .takeStdin = some (.stdinTaken stdin) ∧ l'.stdin = none) ∨
    (∃ d, event = .request .closeDepositedStdin d ∧ l'.stdin = none) ∨
    ∃ status d, event = .request .wait d ∧ l.reply pid .wait = some (.waited status) ∧
      l'.stdin = none := by
  cases event with
  | request request d =>
    obtain ⟨⟨after, answer⟩, hh, rfl⟩ := Option.map_eq_some_iff.mp h
    cases request with
    | wait => grind [handle, handleWaitRequest, reply]
    | depositStdin stdin => grind [handle, handleDepositStdin, reply]
    | takeStdin => grind [handle, handleTakeStdin, reply]
    | _ => grind [handle, handleDepositOutput]
  | _ => grind [step, Option.map_eq_some_iff]

theorem step_output (h : l.step pid event = some l') : l'.output = l.output ∧ event.captures = [] ∨
    (∃ flags d streams, event = .request (.depositOutput flags) d ∧
      l.reply pid (.depositOutput flags) = some .outputDeposited ∧ l.output = none ∧
      l'.output = some (.new streams)) ∨
    ∃ buffer after, l.output = some buffer ∧ l'.output = some after ∧
      ∀ log, Retains log buffer → Extends log event.captures buffer after := by
  cases event with
  | request request d =>
    obtain ⟨⟨after, answer⟩, hh, rfl⟩ := Option.map_eq_some_iff.mp h
    cases request with
    | wait => grind [handle, handleWaitRequest, LauncherEvent.captures]
    | depositOutput flags =>
      cases hhl : l.output <;> grind [handle, handleDepositOutput, reply, LauncherEvent.captures]
    | _ => grind [handle, handleDepositStdin, handleTakeStdin, LauncherEvent.captures]
  | drained stream data =>
    obtain ⟨buffer, hb, rfl⟩ := Option.map_eq_some_iff.mp h
    exact .inr (.inr ⟨buffer, _, hb, rfl, fun log hl =>
      OutputBuffer.append_extends hl stream data⟩)
  | finished stream error =>
    obtain ⟨buffer, hb, rfl⟩ := Option.map_eq_some_iff.mp h
    exact .inr (.inr ⟨buffer, _, hb, rfl, fun log hl =>
      OutputBuffer.finish_extends hl stream error⟩)
  | _ => grind [step, LauncherEvent.captures]

/-- What holds after `pre` and is kept by every event holds after every run that goes on from
    `pre`. -/
theorem run_induction (pre : List LauncherEvent) {P : List LauncherEvent → Launcher → Prop}
    (hbs : ∀ l, run pid pre = some l → P [] l)
    (hs : ∀ mid l event l', run pid (pre ++ mid) = some l → P mid l →
      l.step pid event = some l' → P (mid ++ [event]) l')
    (hr : run pid (pre ++ mid) = some l) : P mid l := by
  induction mid using List.reverseRecOn generalizing l with
  | nil => exact hbs l (by simpa using hr)
  | append_singleton mid event ih =>
    rw [← List.append_assoc, run_concat, Option.bind_eq_some_iff] at hr
    obtain ⟨before, hb, ha⟩ := hr
    exact hs mid before event l hb (ih hb) ha

end Launcher

open Launcher
open SessionSupervisor (history controlAfter)

theorem controlAfter_ne_ended {before after : SupervisorControl}
    (h : controlAfter before event = some after) : after ≠ .ended := by
  cases event <;> grind [controlAfter]

theorem history_concat (pid : Int) (events : List SupervisorEvent) (event : SupervisorEvent) :
    history pid (events ++ [event]) = history pid events ++ history pid [event] :=
  List.filterMap_append

/-- A supervisor has failed to reattach and holds nothing, or what it holds under a process id is
    what the events under that id made of it. -/
theorem run_launcher (hr : SessionSupervisor.run events = some s) :
    .reattachFailed ∈ events ∧ s = ⟨.ended, fun _ => .empty⟩ ∨
      s.control ≠ .ended ∧
        ∀ pid, Launcher.run pid (history pid events) = some (s.launchers pid) := by
  unfold SessionSupervisor.run at *
  induction events using List.reverseRecOn generalizing s with
  | nil =>
    cases hr
    exact .inr ⟨by decide, fun pid => rfl⟩
  | append_singleton events event ih =>
    rw [List.foldlM_append] at hr
    obtain ⟨before, hb, ha⟩ := Option.bind_eq_some_iff.mp hr
    obtain ⟨_, hs, hd⟩ := Option.bind_eq_some_iff.mp ha
    cases hd
    simp only [history_concat]
    rcases ih hb with ⟨-, rfl⟩ | ⟨hn, hl⟩
    · -- nothing happens to a supervisor that has ended
      rcases event with _ | _ | _ | ⟨pid, _ | _ | _ | _ | _⟩ <;> cases hs
    · cases event with
      | hostDied =>
        obtain ⟨-, hs⟩ := Option.ite_none_right_eq_some.mp hs
        cases hs
        exact .inr ⟨by simp, by simpa [history] using hl⟩
      | reattached =>
        obtain ⟨-, hs⟩ := Option.ite_none_right_eq_some.mp hs
        cases hs
        exact .inr ⟨by simp, by simpa [history] using hl⟩
      | reattachFailed =>
        obtain ⟨-, hs⟩ := Option.ite_none_right_eq_some.mp hs
        cases hs
        exact .inl ⟨by simp, rfl⟩
      | launcher other event =>
        obtain ⟨control, hc, hs⟩ := Option.bind_eq_some_iff.mp hs
        obtain ⟨after, hst, hs⟩ := Option.bind_eq_some_iff.mp hs
        cases hs
        refine .inr ⟨controlAfter_ne_ended hc, fun pid => ?_⟩
        dsimp only
        by_cases ht : other = pid
        · subst ht
          have hh : history other [.launcher other event] = [event] := by simp [history]
          rw [hh, Launcher.run_concat, hl other, Function.update_self]
          exact hst
        · have hh : history pid [.launcher other event] = [] := by simp [history, ht]
          rw [hh, List.append_nil, hl pid, Function.update_of_ne (Ne.symm ht)]

section
variable {pid : Int} {l l' : Launcher} {event : LauncherEvent} {pre mid events : List LauncherEvent}

/-! ## Host death -/

/-- Among the events of `mid`, which follow those of `pre`, is one that meets `p` where it
    happens. -/
def HappensIn (pid : Int) (pre mid : List LauncherEvent) (p : Launcher → LauncherEvent → Prop) :
    Prop :=
  ∃ head event tail l, mid = head ++ event :: tail ∧ run pid (pre ++ head) = some l ∧ p l event

/-- `request` gets `answer` after the events of `pre`. -/
def Replied (pid : Int) (pre : List LauncherEvent) (request : LauncherRequest)
    (answer : SupervisorReply) : Prop :=
  ∃ l, run pid pre = some l ∧ l.reply pid request = some answer

/-- A host obtains the exit of the child, with this status. -/
def Obtained (pid : Int) (status : Nat) (l : Launcher) (event : LauncherEvent) : Prop :=
  event = .request .wait true ∧ l.reply pid .wait = some (.waited status)

/-- A host receives the deposited end, asks to close it or obtains the exit of the child. -/
def Released (pid : Int) (stdin : Nat) (l : Launcher) (event : LauncherEvent) : Prop :=
  event = .request .takeStdin true ∧ l.reply pid .takeStdin = some (.stdinTaken stdin) ∨
  (∃ delivered, event = .request .closeDepositedStdin delivered) ∨
  ∃ status, Obtained pid status l event

/-- The output captured by `events`: what the buffer had sequences for. -/
def captured (events : List LauncherEvent) : List OutputEntry :=
  events.foldl (fun log event => log ++ admitted (log.length + 1) event.captures) []

/-- A read from `afterSequence` returns the output of `log` that follows; where there is none, it
    may report that a stream could not be drained. -/
def ReadsOn (pid : Int) (l : Launcher) (log : List OutputEntry) (afterSequence maxBytes : Nat) :
    Prop :=
  ∃ chunks, TakesFrom (log.drop afterSequence) afterSequence maxBytes chunks ∧
    (l.reply pid (.readOutput afterSequence maxBytes) = some (.outputChunks chunks) ∨ chunks = [] ∧
      ∃ message, l.reply pid (.readOutput afterSequence maxBytes) = some (.error message))

/-- Nothing that was held under `pid` at some point of the run to `l` has been lost since. -/
structure LosesNothing (pid : Int) (events : List LauncherEvent) (l : Launcher) : Prop where
  exit : ∀ pre outcome mid, events = pre ++ [.exited outcome] ++ mid →
    l.reply pid .wait = some (.waited outcome.status) ∨
      HappensIn pid (pre ++ [.exited outcome]) mid (Obtained pid outcome.status)
  stdin : ∀ pre stdin d mid, events = pre ++ [.request (.depositStdin stdin) d] ++ mid →
    Replied pid pre (.depositStdin stdin) .deposited →
    l.stdin = some stdin ∨
      HappensIn pid (pre ++ [.request (.depositStdin stdin) d]) mid (Released pid stdin)
  output : ∀ pre flags d mid, events = pre ++ [.request (.depositOutput flags) d] ++ mid →
    Replied pid pre (.depositOutput flags) .outputDeposited →
    ∃ buffer, l.output = some buffer ∧ ∀ afterSequence maxBytes,
      buffer.droppedThrough ≤ afterSequence → afterSequence ≤ (captured mid).length →
        ReadsOn pid l (captured mid) afterSequence maxBytes

theorem captured_concat : captured (mid ++ [event]) =
    captured mid ++ admitted ((captured mid).length + 1) event.captures := by
  unfold captured
  rw [List.foldl_append]
  rfl

theorem output_kept (hd : Replied pid pre (.depositOutput flags) .outputDeposited)
    (hrn : run pid (pre ++ [.request (.depositOutput flags) d] ++ mid) = some l) :
    ∃ buffer, l.output = some buffer ∧ Retains (captured mid) buffer := by
  refine run_induction _ (P := fun mid l => ∃ buffer, l.output = some buffer ∧
    Retains (captured mid) buffer) (fun l hl => ?_) (fun mid l event l' _ hh h => ?_) hrn
  · obtain ⟨before, hb, hrp⟩ := hd
    rw [run_concat, hb, Option.bind_some] at hl
    obtain ⟨hs, -⟩ | ⟨_, _, streams, -, -, -, hnw⟩ | ⟨buffer, _, hold, -⟩ := step_output hl
    · grind [step, reply, handle, handleDepositOutput]
    · exact ⟨_, hnw, retains_new streams⟩
    · grind [step, reply, handle, handleDepositOutput]
  · obtain ⟨buffer, hbf, hr⟩ := hh
    rw [captured_concat]
    obtain ⟨hs, hn⟩ | ⟨_, _, _, -, -, hnn, -⟩ | ⟨_, after, hb, ha, hx⟩ :=
      step_output h
    · rw [hs, hn]
      exact ⟨buffer, hbf, (extends_nothing hr).retains⟩
    · simp [hbf] at hnn
    · cases hbf.symm.trans hb
      exact ⟨after, ha, (hx _ hr).retains⟩

end

/-- With a host that connects and dies before `READY` everything is lost. -/
theorem reattachFailed_loses_exit : ∃ s, SessionSupervisor.run [.launcher 7 .born, .hostDied,
      .launcher 7 (.exited (.exited 3)), .reattachFailed] = some s ∧
    ¬ LosesNothing 7 [.born, .exited (.exited 3)] (s.launchers 7) := by
  refine ⟨_, rfl, fun h => ?_⟩
  obtain hw | ⟨head, _, tail, -, hmd, -⟩ := h.exit [.born] (.exited 3) [] rfl
  · revert hw
    decide +kernel
  · simp at hmd

section
variable {pid : Int} {l l' : Launcher} {event : LauncherEvent} {events : List LauncherEvent}
  {p : Launcher → LauncherEvent → Prop}

/-- Since the last birth an event has met `p`. -/
def Since (pid : Int) (events : List LauncherEvent) (p : Launcher → LauncherEvent → Prop) : Prop :=
  ∃ pre event mid l, events = pre ++ event :: mid ∧ run pid pre = some l ∧ p l event ∧ .born ∉ mid

/-- The event is a deposit that the supervisor accepts. -/
def Deposits (pid : Int) (request : LauncherRequest) (answer : SupervisorReply) (l : Launcher)
    (event : LauncherEvent) : Prop :=
  (∃ delivered, event = .request request delivered) ∧ l.reply pid request = some answer

/-- What there is for the child with the id `pid` was put there for it, not for an earlier one: the
    status a wait returns, the input a take returns or a close closes, the deposits because of which
    another one is refused, and the output a read returns. -/
structure OwnOnly (pid : Int) (events : List LauncherEvent) (l : Launcher) : Prop where
  waited : ∀ status, l.reply pid .wait = some (.waited status) → ∃ outcome,
    status = ChildOutcome.status outcome ∧ Since pid events fun _ event => event = .exited outcome
  taken : ∀ stdin, l.reply pid .takeStdin = some (.stdinTaken stdin) →
    Since pid events (Deposits pid (.depositStdin stdin) .deposited)
  closed : ∀ stdin, l.stdin = some stdin →
    Since pid events (Deposits pid (.depositStdin stdin) .deposited)
  refusedStdin : ∀ stdin, 0 < pid → l.reply pid (.depositStdin stdin) ≠ some .deposited →
    ∃ held, Since pid events (Deposits pid (.depositStdin held) .deposited)
  refusedOutput : ∀ flags, 0 < pid → 0 < flags → flags ≤ 3 →
    l.reply pid (.depositOutput flags) ≠ some .outputDeposited →
    ∃ held, Since pid events (Deposits pid (.depositOutput held) .outputDeposited)
  read : ∀ afterSequence maxBytes chunks,
    l.reply pid (.readOutput afterSequence maxBytes) = some (.outputChunks chunks) →
    ∃ pre flags d mid, events = pre ++ [.request (.depositOutput flags) d] ++ mid ∧
      Replied pid pre (.depositOutput flags) .outputDeposited ∧ .born ∉ mid ∧
      TakesFrom ((captured mid).drop afterSequence) afterSequence maxBytes chunks

/-- Whenever a child is born under `pid`, the tables hold nothing for it. -/
def FreshPid (pid : Int) (events : List LauncherEvent) : Prop :=
  ∀ pre post l, events = pre ++ .born :: post → run pid pre = some l →
    l.stdin = none ∧ l.output = none

theorem Since.concat (h : Since pid events p) (hb : event ≠ .born) :
    Since pid (events ++ [event]) p := by
  obtain ⟨pre, first, mid, l, rfl, hr, hp, hl⟩ := h
  refine ⟨pre, first, mid ++ [event], l, by simp, hr, hp, fun hm => ?_⟩
  rcases List.mem_append.mp hm with hmd | hls
  · exact hl hmd
  · exact hb (List.mem_singleton.mp hls).symm

theorem since_last (hr : run pid events = some l) (hp : p l event) :
    Since pid (events ++ [event]) p :=
  ⟨events, event, [], l, rfl, hr, hp, by simp⟩

/-- What is held was put there since the last birth. -/
structure HeldSince (pid : Int) (events : List LauncherEvent) (l : Launcher) : Prop where
  exit : ∀ outcome, l.child = some (some outcome) →
    Since pid events fun _ event => event = .exited outcome
  stdin : ∀ stdin, l.stdin = some stdin →
    Since pid events (Deposits pid (.depositStdin stdin) .deposited)
  output : l.output ≠ none →
    ∃ flags, Since pid events (Deposits pid (.depositOutput flags) .outputDeposited)

theorem HeldSince.step (h : HeldSince pid events l) (hr : run pid events = some l)
    (hf : event = .born → l.stdin = none ∧ l.output = none)
    (hst : l.step pid event = some l') : HeldSince pid (events ++ [event]) l' where
  exit outcome hend := by
    obtain ⟨hs, hbr⟩ | ⟨-, -, -, hn⟩ | ⟨_, rfl, -, hn⟩ | ⟨_, _, -, -, hnn⟩ :=
      step_child hst
    · exact (h.exit outcome (hs ▸ hend)).concat hbr
    · simp [hn] at hend
    · cases hn.symm.trans hend
      exact since_last hr rfl
    · simp [hnn] at hend
  stdin stdin hhl := by
    obtain hs | ⟨_, d, rfl, hrp, hn⟩ | ⟨_, _, -, -, -, hnn⟩ | ⟨_, -, hnn⟩ |
      ⟨_, _, -, -, hnn⟩ := step_stdin hst
    · rw [hs] at hhl
      refine (h.stdin stdin hhl).concat fun hbr => ?_
      simp [(hf hbr).1] at hhl
    · cases hn.symm.trans hhl
      exact since_last hr ⟨⟨d, rfl⟩, hrp⟩
    all_goals simp [hnn] at hhl
  output hhl := by
    have hold (hhl : l.output ≠ none) : ∃ flags, Since pid (events ++ [event])
        (Deposits pid (.depositOutput flags) .outputDeposited) := by
      obtain ⟨flags, hsn⟩ := h.output hhl
      exact ⟨flags, hsn.concat fun hbr => hhl (hf hbr).2⟩
    obtain ⟨hs, -⟩ | ⟨flags, d, _, rfl, hrp, -⟩ | ⟨_, _, hb, -⟩ := step_output hst
    · exact hold (hs ▸ hhl)
    · exact ⟨flags, since_last hr ⟨⟨d, rfl⟩, hrp⟩⟩
    · exact hold (by simp [hb])

theorem heldSince (hr : run pid events = some l) (hf : FreshPid pid events) :
    HeldSince pid events l := by
  refine run_induction [] (P := fun events l => FreshPid pid events → HeldSince pid events l) ?_ ?_
    hr hf
  · intro l hs _
    cases hs
    exact ⟨nofun, nofun, fun h => absurd rfl h⟩
  · intro mid l event l' hr ih hst hf
    have hea : FreshPid pid mid := fun pre post l hm =>
      hf pre (post ++ [event]) l (by simp [hm])
    exact (ih hea).step hr (fun hb => hf mid [] l (hb ▸ rfl) hr) hst

/-- A read that returns chunks returns what was captured from its cursor on. -/
theorem takesFrom_of_reply (hb : l.output = some buffer) (hr : Retains log buffer)
    (h : l.reply pid (.readOutput afterSequence maxBytes) = some (.outputChunks chunks)) :
    TakesFrom (log.drop afterSequence) afterSequence maxBytes chunks := by
  have hp : 0 < pid := by grind [reply, handle]
  simp only [reply, handle, handleReadOutput, hb, if_neg (not_le.mpr hp), Option.map_some] at h
  by_cases hc : afterSequence ≤ log.length
  · have ha := OutputBuffer.readOnce_spec hr hc maxBytes false
    generalize OutputBuffer.readOnce buffer afterSequence maxBytes false = answer at ha h
    cases ha with
    | output ht =>
      cases h
      exact ht
    | waits hd => cases hd
    | _ => cases h
  · -- a cursor beyond the log is refused
    have hn := hr.next
    have hd := hr.dropped
    rw [OutputBuffer.readOnce, OutputState.poll, if_neg (by omega), if_pos (by omega)] at h
    cases h

theorem HeldSince.ownOnly (h : HeldSince pid events l) (hr : run pid events = some l) :
    OwnOnly pid events l where
  waited status hrp := by
    have hen : ∃ outcome, l.child = some (some outcome) ∧ status = ChildOutcome.status outcome := by
      grind [reply, handle, handleWaitRequest]
    exact hen.imp fun outcome hen => ⟨hen.2, h.exit outcome hen.1⟩
  taken stdin hrp := h.stdin stdin (by grind [reply, handle, handleTakeStdin])
  closed := h.stdin
  refusedStdin stdin hp hrp := by
    cases hs : l.stdin with
    | none => grind [reply, handle, handleDepositStdin]
    | some held => exact ⟨held, h.stdin held hs⟩
  refusedOutput flags hp hps hm hrp := by
    refine h.output fun hn => hrp ?_
    simp [reply, handle, handleDepositOutput, not_le.mpr hp, hn, not_lt.mpr hm, hps.ne']
  read afterSequence maxBytes chunks hrp := by
    obtain ⟨flags, pre, _, mid, before, rfl, hb, ⟨⟨d, rfl⟩, hd⟩, hm⟩ := h.output fun hn => by
      grind [reply, handle, handleReadOutput]
    rw [List.append_cons] at hr
    obtain ⟨buffer, hl, hrt⟩ := output_kept ⟨before, hb, hd⟩ hr
    exact ⟨pre, flags, d, mid, List.append_cons .., ⟨before, hb, hd⟩, hm,
      takesFrom_of_reply hl hrt hrp⟩

end

theorem ownOnly_empty (pid : Int) (events : List LauncherEvent) : OwnOnly pid events .empty where
  waited status h := by grind [reply, handle, handleWaitRequest, Launcher.empty]
  taken stdin h := by grind [reply, handle, handleTakeStdin, Launcher.empty]
  closed stdin h := by cases h
  refusedStdin stdin hp h := by grind [reply, handle, handleDepositStdin, Launcher.empty]
  refusedOutput flags hp hps hm h := by grind [reply, handle, handleDepositOutput, Launcher.empty]
  read afterSequence maxBytes chunks h := by
    grind [reply, handle, handleReadOutput, Launcher.empty]

/-- **Each child has only its own** in a run in which every child is born with a process id under
    which neither table still holds an entry. -/
theorem children_have_their_own {events : List SupervisorEvent} {s : SessionSupervisor}
    (hrun : SessionSupervisor.run events = some s)
    (hfresh : ∀ pid, FreshPid pid (history pid events)) (pid : Int) :
    OwnOnly pid (history pid events) (s.launchers pid) := by
  rcases run_launcher hrun with ⟨-, rfl⟩ | ⟨-, hl⟩
  · exact ownOnly_empty pid _
  · exact (heldSince (hl pid) (hfresh pid)).ownOnly (hl pid)

/-- Each child has only its own, in whatever run. -/
def ChildrenHaveTheirOwn : Prop :=
  ∀ events s pid, SessionSupervisor.run events = some s →
    OwnOnly pid (history pid events) (s.launchers pid)

/-- A child whose output is captured is reaped, and the next child gets its process id. -/
def Sample.reusedPid : List SupervisorEvent :=
  [.launcher 7 .born, .launcher 7 (.request (.depositOutput 1) true),
    .launcher 7 (.exited (.exited 0)), .launcher 7 (.request .wait true), .launcher 7 .born]

theorem reused_pid_refuses_deposit : ¬ ChildrenHaveTheirOwn := by
  intro h
  obtain ⟨held, pre, event, mid, l, hev, hr, ⟨⟨d, rfl⟩, hrp⟩, hlt⟩ :=
    (h Sample.reusedPid _ 7 rfl).refusedOutput 1 (by decide) (by decide) (by decide) (by decide)
  -- the deposit comes before the second birth, with which the run ends
  have hl := congrArg List.getLast? hev
  rcases List.eq_nil_or_concat mid with rfl | ⟨init, last, rfl⟩
  · simp [Sample.reusedPid, history] at hl
  · rw [List.concat_eq_append, ← List.cons_append, ← List.append_assoc, List.getLast?_concat] at hl
    injection hl with hl
    exact hlt (by simp [← hl])

/-- A child with a deposited input is reaped, and the next child gets its process id, an input of its
    own and a buffer for its output. -/
def Sample.freshPid : List SupervisorEvent :=
  [.launcher 7 .born, .launcher 7 (.request (.depositStdin 4) true),
    .launcher 7 (.exited (.exited 0)), .launcher 7 (.request .wait true), .launcher 7 .born,
    .launcher 7 (.request (.depositStdin 5) true), .launcher 7 (.request (.depositOutput 1) true),
    .launcher 7 (.drained .stdout [104, 105]), .launcher 7 (.exited (.exited 3))]

theorem fresh_pids_have_their_own : ∃ s, SessionSupervisor.run Sample.freshPid = some s ∧
    (s.launchers 7).reply 7 .takeStdin = some (.stdinTaken 5) ∧
    (s.launchers 7).reply 7 .wait = some (.waited 768) ∧
    (s.launchers 7).reply 7 (.readOutput 0 1) =
      some (.outputChunks [⟨1, .stdout, [104], false⟩]) ∧
    OwnOnly 7 (history 7 Sample.freshPid) (s.launchers 7) := by
  refine ⟨_, rfl, by decide +kernel, by decide +kernel, by decide +kernel, ?_⟩
  refine children_have_their_own rfl (fun pid pre post l hev hr => ?_) 7
  by_cases hp : 7 = pid
  · subst hp
    rcases pre with _ | ⟨_, _ | ⟨_, _ | ⟨_, _ | ⟨_, _ | ⟨_, pre⟩⟩⟩⟩⟩
    · cases hr
      exact ⟨rfl, rfl⟩
    · simp [history, Sample.freshPid] at hev
    · simp [history, Sample.freshPid] at hev
    · simp [history, Sample.freshPid] at hev
    · cases hev
      cases hr
      exact ⟨rfl, rfl⟩
    · -- there are two births only
      have hm : .born ∈ (history 7 Sample.freshPid).drop 5 := by simp [hev]
      simp [history, Sample.freshPid] at hm
  · simp [history, Sample.freshPid, hp] at hev

end OciRuntime
