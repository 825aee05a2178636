import OciRuntime.State.StartupAudit

/-!
# `OciRuntime.State.EventPoll` — polling the event journal

A poll (`poll_events` of `state/event.rs`) first stores the records of events that an interrupted
append has only claimed, and then returns one page of the records after a sequence. The `events`
call of the store repeats polls, each from the `nextSequence` of the one before, until one of them
returns an event or its deadline has passed.

## Contents
- **Repair.** `repairPendingEventRecords`.
- **Pages.** `eventMatchesFilter`, `collectEventRecords`, `fillPage`.
- **The poll.** `pollEvents`.
-/

namespace OciRuntime

open Durable Program

/-! ## Repair -/

def invalidEventEntry (label name : String) : Error :=
  stateError .failedPrecondition "poll-runtime-events"
    s!"{label} directory contains invalid entry {name.quote}"

/-- Check every claim and store the records that are missing; the result lists the claimed
    sequences. -/
def repairEventClaims (lastSequence : Nat) (claimedSequences : List Nat) :
    List (EventIdentity × StoredEventClaim) → StoreM (List Nat)
  | [] => pure claimedSequences
  | (identity, claim) :: rest => do
    let name := "repair-runtime-events"
    rejectIf (claim.schemaVersion ≠ eventClaimSchemaVersion ∨ claim.identity ≠ identity ∨
        claim.event.sequence = 0 ∨ claim.event.sequence > lastSequence)
      (stateError .failedPrecondition name
        s!"invalid durable runtime event claim {identity.text.quote}")
    check (validateExactEventTarget claim.event)
    check (validateEventIdentity claim.identity claim.event)
    rejectIf (claim.event.sequence ∈ claimedSequences) (stateError .failedPrecondition name
      (s!"runtime event sequence {claim.event.sequence} has more than one durable identity " ++
        "claim"))
    ensureEventRecord claim.event
    repairEventClaims lastSequence (claim.event.sequence :: claimedSequences) rest

/-- The entries of an event directory; transaction files are skipped. -/
def listEvents {κ ν : Type} (label : String) (directory : Directory κ ν) : Result (List (κ × ν)) :=
  match directory.strays with
  | name :: _ => .error (invalidEventEntry label name)
  | [] => .ok directory.entries

def repairPendingEventRecords : StoreM (List Nat) := do
  let lastSequence ← read loadEventCursor
  let claims ← read fun s => listEvents "runtime event claim" s.events.keys
  repairEventClaims lastSequence [] claims

/-! ## Pages -/

def eventMatchesFilter (event : RuntimeEvent) : Option ContainerTarget → Bool
  | none => true
  | some filter => filter.id = event.container.id ∧
      filter.generation.all fun generation => event.container.generation = some generation

/-- The events of the records after a sequence, in directory order; every record has a claim. -/
def collectEventRecords (lastSequence : Nat) (claimedSequences : List Nat) (afterSequence : Nat) :
    List (Nat × StoredEventRecord) → Result (List RuntimeEvent)
  | [] => .ok []
  | (sequence, stored) :: rest => do
    validateEventRecord stored sequence lastSequence
    rejectIf (sequence ∉ claimedSequences) (stateError .failedPrecondition "poll-runtime-events"
        s!"runtime event sequence {sequence} has no durable identity claim")
    let events ← collectEventRecords lastSequence claimedSequences afterSequence rest
    return if sequence > afterSequence then stored.event :: events else events

def sortEvents (events : List RuntimeEvent) : List RuntimeEvent :=
  events.insertionSort fun a b => a.sequence ≤ b.sequence

/-- Two neighbours have one sequence. -/
def hasDuplicateSequences : List RuntimeEvent → Bool
  | first :: second :: rest =>
    first.sequence = second.sequence || hasDuplicateSequences (second :: rest)
  | _ => false

structure EventBatch where
  events : List RuntimeEvent
  nextSequence : Nat

/-- Take the matching events until the page is full; `nextSequence` follows the last event that was
    looked at, and goes on to the cursor when none is left. -/
def fillPage (filter : Option ContainerTarget) (limit lastSequence : Nat)
    (events : List RuntimeEvent) (nextSequence : Nat) : List RuntimeEvent → EventBatch
  | [] => ⟨events, max nextSequence lastSequence⟩
  | event :: rest =>
    if eventMatchesFilter event filter then
      let events := events ++ [event]
      if events.length = limit then ⟨events, event.sequence⟩
      else fillPage filter limit lastSequence events event.sequence rest
    else fillPage filter limit lastSequence events event.sequence rest

/-! ## The poll -/

def pollEvents (filter : Option ContainerTarget) (afterSequence limit : Nat) :
    StoreM EventBatch := do
  let claimedSequences ← repairPendingEventRecords
  let lastSequence ← read loadEventCursor
  let stored ← read fun s => listEvents "runtime event record" s.events.records
  let records ← check (collectEventRecords lastSequence claimedSequences afterSequence stored)
  let records := sortEvents records
  rejectIf (hasDuplicateSequences records) (stateError .failedPrecondition "poll-runtime-events"
    "runtime event journal contains duplicate sequences")
  return fillPage filter limit lastSequence [] afterSequence records

end OciRuntime
