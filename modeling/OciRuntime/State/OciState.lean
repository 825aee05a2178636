import OciRuntime.State.Model

/-!
# `OciRuntime.State.OciState` — building and rebuilding OCI state documents

The functions of `state/oci_state.rs`. A rebuilt state keeps the version, the ID, the bundle and the
caller's annotations; the only annotation the runtime writes itself is the freezer state.
-/

namespace OciRuntime

/-- An annotation map is stored only when it is not empty. -/
def nonEmptyAnnotations (annotations : Annotations) : Option Annotations :=
  if annotations = ∅ then none else some annotations

/-- Build the state of a new container from its bundle. -/
def buildState (id : ContainerId) (bundle : OciBundle) (status : ContainerState)
    (pid : Option Int) : Result State :=
  let state (annotations : Option Annotations) : State :=
    { version := bundle.spec.version, id := id.value, status, pid,
      bundle := bundle.directory, annotations }
  match bundle.spec.annotations with
  | none => .ok (state none)
  | some annotations =>
    if pausedStateAnnotation ∈ annotations then
      .error (stateError .invalidArgument "build-oci-state"
        s!"OCI annotation {pausedStateAnnotation} is reserved for runtime state")
    else .ok (state (nonEmptyAnnotations annotations))

/-- Replace status and process ID; a stopped container is no longer paused. -/
def rebuildState (state : State) (status : ContainerState) (pid : Option Int) : State :=
  { state with
    status, pid
    annotations := state.annotations.bind fun annotations =>
      nonEmptyAnnotations
        (if status = .stopped then annotations.erase pausedStateAnnotation else annotations) }

/-- Set or clear the freezer annotation of a running container. -/
def rebuildPausedState (state : State) (paused : Bool) : Result State :=
  if state.status ≠ .running then
    .error (stateError .failedPrecondition "update-container-freezer-state"
      s!"container {state.id} cannot change freezer state while {state.status.text}")
  else
    let annotations := state.annotations.getD ∅
    .ok { state with
      annotations := nonEmptyAnnotations
        (if paused then annotations.insert pausedStateAnnotation "true"
         else annotations.erase pausedStateAnnotation) }

def isPaused (state : State) : Bool :=
  (state.annotations.bind (·.lookup pausedStateAnnotation)) == some "true"

def containerState : LifecycleState → ContainerState
  | .creating => .creating
  | .created => .created
  | .running => .running
  | .stopped => .stopped

/-- The inverse embedding, used where a status is advanced by the lifecycle machine. -/
def lifecycleState : ContainerState → LifecycleState
  | .creating => .creating
  | .created => .created
  | .running => .running
  | .stopped => .stopped

/-! ## What rebuilding keeps -/

/-- A freezer change keeps everything but the annotations of a running container. -/
theorem rebuildPausedState_ok (h : rebuildPausedState state paused = .ok rebuilt) :
    state.status = .running ∧ rebuilt.version = state.version ∧ rebuilt.id = state.id ∧
      rebuilt.bundle = state.bundle ∧ rebuilt.status = state.status ∧ rebuilt.pid = state.pid := by
  unfold rebuildPausedState at h
  split at h
  · cases h
  · rename_i hr
    cases h
    exact ⟨not_not.mp hr, rfl, rfl, rfl, rfl, rfl⟩

theorem buildState_ok {id : ContainerId} (h : buildState id bundle status pid = .ok state) :
    state.id = id.value ∧ state.bundle = bundle.directory ∧ state.status = status ∧
      state.pid = pid := by
  unfold buildState at h
  split at h
  · cases h
    exact ⟨rfl, rfl, rfl, rfl⟩
  · split at h
    · cases h
    · cases h
      exact ⟨rfl, rfl, rfl, rfl⟩

end OciRuntime
