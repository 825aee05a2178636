import OciRuntime.State.Journal

/-!
# `OciRuntime.State.Event` — the durable event journal

Appending an event (`state/event.rs`) takes three commits: advance the sequence cursor, claim the
event's identity with its full contents, and store the record under its sequence. An event whose
identity is already claimed is not appended again; its record is only completed.
-/

namespace OciRuntime

open Durable Program

/-! ## Identities -/

def EventSuffix.text : EventSuffix → String
  | .creating => "creating" | .created => "created" | .started => "started"
  | .stopped => "stopped" | .deleted => "deleted" | .exited => "exited"
  | .restoring => "restoring" | .restoreCreated => "restore-created"
  | .restoreStarted => "restore-started" | .restorePaused => "restore-paused"
  | .pause => "pause" | .resume => "resume" | .resourcesUpdated => "resources-updated"
  | .attested => "attested"

/-- The identity string whose hash names the claim file. -/
def EventIdentity.text : EventIdentity → String
  | .container id generation suffix =>
    s!"container:{id.value}:{generation}:{suffix.text}"
  | .process id generation processId suffix =>
    s!"process:{id.value}:{generation}:{processId.value}:{suffix.text}"
  | .operation operationId suffix => s!"operation:{operationId.value}:{suffix.text}"

/-- `event_identity_hash`: the digits after the algorithm's name in `sha256:<hex>`. -/
def eventIdentityHash (sdk : Sdk) (identity : String) : String :=
  String.ofList ((sdk.sha256 identity).toList.drop 7)

/-- The claim file of an identity. -/
def eventClaimName (sdk : Sdk) (identity : EventIdentity) : String :=
  eventIdentityHash sdk identity.text ++ ".json"

/-! ## Checks -/

/-- Runtime events name an exact, nonzero generation. -/
def exactTargetKey (target : ContainerTarget) : Result Nat :=
  match target.generation with
  | none => .error (stateError .invalidArgument "append-runtime-event"
      "runtime events require an exact container generation")
  | some generation =>
    if generation = 0 then
      .error (stateError .invalidArgument "append-runtime-event"
        "runtime events require a nonzero container generation")
    else .ok generation

def eventAttribute (attributes : List (String × String)) (key : String) : Option String :=
  attributes.lookup key

/-- Events about one process name it; events about the container do not. -/
def RuntimeEventKind.isProcess : RuntimeEventKind → Bool
  | .processCreated | .processStarted | .processExited => true
  | _ => false

def validateExactEventTarget (event : RuntimeEvent) : Result Unit := do
  let _ ← exactTargetKey event.container
  let invalid := stateError .failedPrecondition "validate-runtime-event"
  rejectIf (event.sequence = 0 ∨ event.timestampUnixNs = 0)
    (invalid "runtime event sequence and timestamp must be nonzero")
  rejectIf (event.operationId.isSome ∧
      eventAttribute event.attributes "operation-id" ≠ event.operationId.map (·.value))
    (invalid "typed runtime event operation identity does not match its compatibility attribute")
  rejectIf (event.kind.isProcess ∧ event.processId.isNone)
    (invalid "process runtime event has no process identity")
  rejectIf (!event.kind.isProcess ∧ event.processId.isSome)
    (invalid "container runtime event unexpectedly has a process identity")

/-- Only operation-scoped identities carry an operation ID, and it is their own. -/
def validateEventIdentity (identity : EventIdentity) (event : RuntimeEvent) : Result Unit :=
  let invalid := stateError .failedPrecondition "validate-runtime-event"
  match identity with
  | .operation operationId _ =>
    let observed := (event.operationId.map (·.value)).or (eventAttribute event.attributes "operation-id")
    if observed ≠ some operationId.value then
      .error (invalid "operation runtime event does not match its durable identity")
    else .ok ()
  | _ =>
    if event.operationId.isSome ∨ (eventAttribute event.attributes "operation-id").isSome then
      .error (invalid "non-operation runtime event carries an operation identity projection")
    else .ok ()

/-- A repeated append must describe the event that was claimed. -/
def validateClaimedEvent (event : RuntimeEvent) (target : ContainerTarget)
    (operationId : Option OperationId) (processId : Option ProcessId) (kind : RuntimeEventKind)
    (attributes : List (String × String)) : Result Unit :=
  let operationMatches := event.operationId = operationId ∨
    (event.operationId.isNone ∧ operationId.isSome ∧
      eventAttribute event.attributes "operation-id" = operationId.map (·.value))
  if event.container = target ∧ operationMatches ∧ event.processId = processId ∧
      event.kind = kind ∧ event.attributes = attributes then .ok ()
  else .error (stateError .conflict "append-runtime-event"
    "runtime event identity was reused with different contents")

/-! ## Loading -/

def loadEventCursor (s : Store) : Result Nat :=
  match s.events.cursor with
  | none => .ok 0
  | some cursor =>
    if cursor.schemaVersion ≠ eventCursorSchemaVersion then
      .error (stateError .failedPrecondition "load-runtime-event-cursor"
        "invalid durable runtime event cursor sequence.json")
    else .ok cursor.lastSequence

/-- Check a claim that was found under `identity`. -/
def loadEventClaim (identity : EventIdentity) (claim : StoredEventClaim) (s : Store) :
    Result StoredEventClaim := do
  rejectIf (claim.schemaVersion ≠ eventClaimSchemaVersion ∨ claim.identity ≠ identity)
    (stateError .failedPrecondition "load-runtime-event-claim"
      s!"invalid durable runtime event claim for {identity.text}")
  validateExactEventTarget claim.event
  validateEventIdentity claim.identity claim.event
  let lastSequence ← loadEventCursor s
  rejectIf (claim.event.sequence = 0 ∨ claim.event.sequence > lastSequence)
    (stateError .failedPrecondition "load-runtime-event-claim"
      (s!"runtime event claim sequence {claim.event.sequence} exceeds durable cursor " ++
        s!"{lastSequence}"))
  return claim

/-! ## Commits -/

def Store.writeCursor (s : Store) (lastSequence : Nat) : Store :=
  { s with events := { s.events with
      cursor := some ⟨eventCursorSchemaVersion, lastSequence⟩, cursorTransaction := false } }

def Store.writeEventClaim (s : Store) (claim : StoredEventClaim) : Store :=
  { s with events := { s.events with keys := s.events.keys.write claim.identity claim } }

def Store.writeEventRecord (s : Store) (record : StoredEventRecord) : Store :=
  { s with events := { s.events with
      records := s.events.records.write record.event.sequence record } }

/-- Store the record of a claimed event unless it is already there. -/
def ensureEventRecord (event : RuntimeEvent) : StoreM Unit := do
  let expected : StoredEventRecord := ⟨eventRecordSchemaVersion, event⟩
  let stored ← read fun s => .ok (s.events.records.get? event.sequence)
  match stored with
  | some actual =>
    rejectIf (actual ≠ expected) (stateError .conflict "store-runtime-event"
      s!"runtime event sequence {event.sequence} is already bound to different contents")
  | none => commit (·.writeEventRecord expected)

/-- The timestamp of a new event. -/
def eventTimestamp (clock : Clock) (sequence : Nat) : Result Nat :=
  match clock.stampNanos sequence with
  | none => .error (stateError .internal "append-runtime-event"
      "system clock precedes the Unix epoch")
  | some nanos =>
    if nanos > u64Max then
      .error (stateError .resourceExhausted "append-runtime-event"
        "runtime event timestamp does not fit u64")
    else .ok nanos

/-- Claim and store an event that has not been journaled before. -/
def appendNewEvent (clock : Clock) (identity : EventIdentity) (target : ContainerTarget)
    (operationId : Option OperationId) (processId : Option ProcessId) (kind : RuntimeEventKind)
    (attributes : List (String × String)) : StoreM Unit := do
  let lastSequence ← read loadEventCursor
  rejectIf (lastSequence ≥ u64Max) (stateError .resourceExhausted "append-runtime-event"
    "runtime event sequence is exhausted")
  let sequence := lastSequence + 1
  commit (·.writeCursor sequence)
  let timestampUnixNs ← check (eventTimestamp clock sequence)
  let event : RuntimeEvent :=
    { sequence, timestampUnixNs, container := target, operationId, processId, kind, attributes }
  check (validateExactEventTarget event)
  commit (·.writeEventClaim ⟨eventClaimSchemaVersion, identity, event⟩)
  ensureEventRecord event

/-- Append an event, or complete the one already claimed under its identity. -/
def appendEvent (clock : Clock) (identity : EventIdentity) (target : ContainerTarget)
    (operationId : Option OperationId) (processId : Option ProcessId) (kind : RuntimeEventKind)
    (attributes : List (String × String)) : StoreM Unit := do
  let _ ← check (exactTargetKey target)
  let claimed ← read fun s => .ok (s.events.keys.get? identity)
  match claimed with
  | some stored => do
    let claim ← read (loadEventClaim identity stored)
    check (validateClaimedEvent claim.event target operationId processId kind attributes)
    ensureEventRecord claim.event
  | none => appendNewEvent clock identity target operationId processId kind attributes

def appendContainerEvent (clock : Clock) (suffix : EventSuffix) (id : ContainerId)
    (generation : Nat) (kind : RuntimeEventKind) (attributes : List (String × String)) :
    StoreM Unit :=
  appendEvent clock (.container id generation suffix) (.exact id generation) none none kind
    attributes

def appendProcessEvent (clock : Clock) (suffix : EventSuffix) (id : ContainerId)
    (generation : Nat) (processId : ProcessId) (kind : RuntimeEventKind)
    (attributes : List (String × String)) : StoreM Unit :=
  appendEvent clock (.process id generation processId suffix) (.exact id generation) none
    (some processId) kind attributes

def appendOperationEvent (clock : Clock) (operationId : OperationId) (suffix : EventSuffix)
    (target : ContainerTarget) (kind : RuntimeEventKind) (attributes : List (String × String)) :
    StoreM Unit :=
  appendEvent clock (.operation operationId suffix) target (some operationId) none kind attributes

/-- The attribute every operation-scoped event carries. -/
def operationAttributes (operationId : OperationId) : List (String × String) :=
  [("operation-id", operationId.value)]

end OciRuntime
