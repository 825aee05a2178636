import OciRuntime.Commit.Steps
import OciRuntime.State.Calls

/-!
# `OciRuntime.Property.RetryIdentity` — which requests count as retries of a journaled one

Every prepare call compares its request with the journal entry found under its operation id.
`RetryForm` is what it passes to the comparison, for each kind of request, and `retryCheck` is the
comparison. The digests leave the deadline out; a checkpoint, a restore and an attestation are also
compared as a whole, and their retry with another deadline is refused. The digest of an exec depends
on the order in which the capability sets of its process are iterated, so a retry that was decoded
again may be refused; the digests of the first schema depend on the order of maps as well.
-/

namespace OciRuntime

open Durable

/-- The requests that are journaled. -/
inductive DurableRequest
  | create (request : CreateRequest) (inheritedDescriptors : Option String)
  | restore (request : RestoreRequest)
  | start (request : StartRequest)
  | kill (request : KillRequest)
  | delete (request : DeleteRequest)
  | freezer (request : ContainerOperationRequest) (action : FreezerAction)
  | update (request : UpdateRequest)
  | file (request : FileRequest)
  | filesystem (request : FilesystemRequest)
  | checkpoint (request : CheckpointRequest)
  | attest (request : TeeAttestationRequest)
  | exec (request : ExecRequest)
  | signalProcess (request : SignalProcessRequest)
  | writeStdin (request : WriteStdinRequest)
  | closeStdin (request : CloseStdinRequest)
  | resize (request : ResizeRequest)

structure RetryForm where
  context : OperationContext
  kind : StoredOperationKind
  containerId : ContainerId
  processId : Option ProcessId
  fingerprint : RequestFingerprint
  name : String

def OperationContext.dropDeadline (context : OperationContext) : OperationContext :=
  { context with deadlineUnixMs := none }

namespace DurableRequest

/-- What each prepare call compares; a restore must have a reference and a mutation a context. -/
def form : DurableRequest → Option RetryForm
  | .create r fds => some ⟨r.context, .create, r.id, none,
      .create r.id r.bundle r.isolation r.attachments fds, "prepare-create"⟩
  | .restore r => r.reference.map fun reference => ⟨r.context, .restore, r.id, none,
      .restore r.id r.bundle r.artifactPath r.isolation r.attachments reference, "restore"⟩
  | .start r => some ⟨r.context, .start, r.target.id, none, .start r.target, "prepare-start"⟩
  | .kill r => some ⟨r.context, .kill, r.target.id, none, .kill r.target r.signal r.all,
      "prepare-kill"⟩
  | .delete r => some ⟨r.context, .delete, r.target.id, none, .delete r.target r.mode,
      "prepare-delete"⟩
  | .freezer r action => some ⟨r.context, action.kind, r.target.id, none, .freezer r.target,
      action.name⟩
  | .update r => some ⟨r.context, .update, r.target.id, none, .update r.target r.resources,
      "update"⟩
  | .file r => r.context.map fun context => ⟨context, .file, r.target.id, none,
      .file r.target r.op r.path r.data r.user, "file"⟩
  | .filesystem r => r.context.map fun context => ⟨context, .filesystem, r.target.id, none,
      .filesystem r.target r.op r.path r.destination r.depth r.user, "filesystem"⟩
  | .checkpoint r => some ⟨r.context, .checkpoint, r.target.id, none,
      .checkpoint r.target r.artifactPath r.quiesce, "checkpoint"⟩
  | .attest r => some ⟨r.context, .attest, r.target.id, none, .attest r.target r.reportData,
      "attest"⟩
  | .exec r => some ⟨r.context, .exec, r.container.id, some r.processId,
      .exec r.container r.processId r.process r.io, "prepare-exec"⟩
  | .signalProcess r => some ⟨r.context, .signalProcess, r.process.container.id,
      some r.process.processId, .signalProcess r.process r.signal, "prepare-signal-process"⟩
  | .writeStdin r => some ⟨r.context, .writeStdin, r.process.container.id,
      some r.process.processId, .writeStdin r.process r.data, "write-stdin"⟩
  | .closeStdin r => some ⟨r.context, .closeStdin, r.process.container.id,
      some r.process.processId, .closeStdin r.process, "close-stdin"⟩
  | .resize r => some ⟨r.context, .resize, r.process.container.id, some r.process.processId,
      .resize r.process r.size, "resize"⟩

/-- The request a checkpoint, a restore or an attestation retains and compares. -/
def compared : DurableRequest → Option StoredOperationRequest
  | .checkpoint r => some (.checkpoint r)
  | .restore r => some (.restore r)
  | .attest r => some (.attest r)
  | _ => none

/-- The comparison of a request with the entry that was found. -/
def retryCheck (sdk : Sdk) (stored : StoredOperation) (request : DurableRequest)
    (form : RetryForm) : Result Unit :=
  let digests := sdk.requestDigest form.fingerprint
  let operationId := form.context.operationId
  match request with
  | .checkpoint r => do
    validateRetry stored operationId form.kind form.containerId digests form.name
    rejectIf (stored.request ≠ some (.checkpoint r)) (stateError .failedPrecondition form.name
      s!"operation ID {operationId.value} was already used for a different checkpoint request")
  | .restore r => validateRestoreRetry stored r digests
  | .attest r => validateAttestationRetry stored r digests
  | _ =>
    match form.processId with
    | some processId => validateProcessRetry stored operationId form.kind form.containerId
        processId digests form.name
    | none => validateRetry stored operationId form.kind form.containerId digests form.name

def dropDeadline : DurableRequest → DurableRequest
  | .create r fds => .create { r with context := r.context.dropDeadline } fds
  | .restore r => .restore { r with context := r.context.dropDeadline }
  | .start r => .start { r with context := r.context.dropDeadline }
  | .kill r => .kill { r with context := r.context.dropDeadline }
  | .delete r => .delete { r with context := r.context.dropDeadline }
  | .freezer r action => .freezer { r with context := r.context.dropDeadline } action
  | .update r => .update { r with context := r.context.dropDeadline }
  | .file r => .file { r with context := r.context.map (·.dropDeadline) }
  | .filesystem r => .filesystem { r with context := r.context.map (·.dropDeadline) }
  | .checkpoint r => .checkpoint { r with context := r.context.dropDeadline }
  | .attest r => .attest { r with context := r.context.dropDeadline }
  | .exec r => .exec { r with context := r.context.dropDeadline }
  | .signalProcess r => .signalProcess { r with context := r.context.dropDeadline }
  | .writeStdin r => .writeStdin { r with context := r.context.dropDeadline }
  | .closeStdin r => .closeStdin { r with context := r.context.dropDeadline }
  | .resize r => .resize { r with context := r.context.dropDeadline }

/-- The document of a request that has sets or maps. -/
def document : DurableRequest → Option Document
  | .exec r => some r.process
  | .update r => some r.resources
  | _ => none

def mapDocument (h : Document → Document) : DurableRequest → DurableRequest
  | .exec r => .exec { r with process := h r.process }
  | .update r => .update { r with resources := h r.resources }
  | request => request

end DurableRequest

/-- The same document: sets and maps may be iterated in another order. -/
structure Document.Same (first second : Document) : Prop where
  text : first.text = second.text
  sets : List.Forall₂ List.Perm first.sets second.sets
  maps : List.Forall₂ List.Perm first.maps second.maps

def Document.empty : Document := ⟨"", [], [], Document.noMaps⟩

/-- What the digest of an entry in the schema depends on. -/
def Document.seenBy (schemaVersion : OperationSchema) (document : Document) : Document :=
  if schemaVersion = .v1 then document else document.sortKeys

@[simp] theorem Document.text_seenBy (schemaVersion : OperationSchema) (document : Document) :
    (document.seenBy schemaVersion).text = document.text := by
  unfold seenBy
  split <;> rfl

/-- The digest of an entry in the schema sees no other order. -/
def Document.InOrder (schemaVersion : OperationSchema) (first second : Document) : Prop :=
  first.sets = second.sets ∧ (schemaVersion = .v1 → first.maps = second.maps)

theorem Document.ext {first second : Document} (ht : first.text = second.text)
    (hs : first.sets = second.sets) (hm : first.maps = second.maps) : first = second := by
  cases first
  cases second
  simp_all

theorem map_mergeSort_eq_iff : ∀ {first second : List (List (String × String))},
    (∀ map ∈ first, (map.map Prod.fst).Nodup) →
    (first.map (·.mergeSort keyLe) = second.map (·.mergeSort keyLe) ↔
      List.Forall₂ List.Perm first second)
  | [], [], _ | [], _ :: _, _ | _ :: _, [], _ => by simp
  | map :: first, map' :: second, h => by
    obtain ⟨hm, hf⟩ := List.forall_mem_cons.mp h
    simp only [List.map_cons, List.cons.injEq, List.forall₂_cons, mergeSort_keyLe_eq_iff hm,
      map_mergeSort_eq_iff hf]

theorem Document.InOrder.refl (schemaVersion : OperationSchema) (document : Document) :
    document.InOrder schemaVersion document :=
  ⟨rfl, fun _ => rfl⟩

theorem Document.Same.refl (document : Document) : document.Same document :=
  ⟨rfl, List.forall₂_same.mpr fun set _ => .refl set, List.forall₂_same.mpr fun map _ => .refl map⟩

/-- Documents are seen alike exactly if they are the same and nothing is seen in another order. -/
theorem Document.seenBy_eq_iff {first second : Document} :
    first.seenBy schemaVersion = second.seenBy schemaVersion ↔
      first.Same second ∧ first.InOrder schemaVersion second := by
  unfold seenBy InOrder
  split
  · next hv =>
    constructor
    · rintro rfl
      exact ⟨.refl _, rfl, fun _ => rfl⟩
    · rintro ⟨hs, hst, hm⟩
      exact Document.ext hs.text hst (hm hv)
  · next hv =>
    constructor
    · intro h
      obtain ⟨ht, hs, hm⟩ := Document.mk.inj h
      refine ⟨⟨ht, ?_, (map_mergeSort_eq_iff first.uniqueKeys).mp hm⟩, hs, fun h => absurd h hv⟩
      exact hs ▸ List.forall₂_same.mpr fun set _ => .refl set
    · rintro ⟨hs, hst, -⟩
      exact Document.ext hs.text hst ((map_mergeSort_eq_iff first.uniqueKeys).mpr hs.maps)

namespace DurableRequest

variable {sdk : Sdk} {a b : DurableRequest} {f g : RetryForm} {stored : StoredOperation}

/-- The same request: the deadline may differ, and the order of sets and maps. -/
def Same (b a : DurableRequest) : Prop :=
  (b.mapDocument fun _ => .empty).dropDeadline = (a.mapDocument fun _ => .empty).dropDeadline ∧
    Option.Rel Document.Same b.document a.document

/-- The digest of an entry in the schema sees no other order. -/
def InOrder (schemaVersion : OperationSchema) (b a : DurableRequest) : Prop :=
  ∀ x ∈ b.document, ∀ y ∈ a.document, x.InOrder schemaVersion y

theorem Same.refl (request : DurableRequest) : request.Same request := by
  refine ⟨rfl, ?_⟩
  cases request.document with
  | none => exact .none
  | some document => exact .some (.refl document)

theorem InOrder.refl (schemaVersion : OperationSchema) (request : DurableRequest) :
    InOrder schemaVersion request request := by
  intro x hx y hy
  cases hx.symm.trans hy
  exact .refl schemaVersion x

section Documents

variable (h : Document → Document) (request : DurableRequest)

@[simp] theorem document_dropDeadline : request.dropDeadline.document = request.document := by
  cases request <;> rfl

theorem dropDeadline_mapDocument :
    (request.mapDocument h).dropDeadline = request.dropDeadline.mapDocument h := by
  cases request <;> rfl

theorem form_mapDocument : (request.mapDocument h).form = request.form.map fun form =>
    { form with fingerprint := form.fingerprint.mapDocument h } := by
  cases request <;> simp [form, mapDocument, RequestFingerprint.mapDocument, Function.comp_def]

theorem form_mapDocument_of (hb : b.form = some g) : (b.mapDocument h).form =
    some { g with fingerprint := g.fingerprint.mapDocument h } := by
  rw [form_mapDocument, hb, Option.map_some]

theorem eq_exec_of_mapDocument (he : request.mapDocument h = .exec x) :
    ∃ r, request = .exec r ∧ x = { r with process := h r.process } := by
  cases request <;> simp_all [mapDocument]

theorem compared_mapDocument : (request.mapDocument h).compared = request.compared := by
  cases request <;> rfl

/-- Requests are mapped to the same one if their documents are and the rest is the same. -/
theorem mapDocument_eq_iff : b.mapDocument h = a.mapDocument h ↔
    b.mapDocument (fun _ => .empty) = a.mapDocument (fun _ => .empty) ∧
      b.document.map h = a.document.map h := by
  cases b <;> cases a <;> simp [mapDocument, document]
  all_goals grind

end Documents

/-- What the digest of an entry sees of two requests is the same exactly if the requests are and
    nothing is seen in another order. -/
theorem seenBy_eq_iff : (b.mapDocument (.seenBy schemaVersion)).dropDeadline =
      (a.mapDocument (.seenBy schemaVersion)).dropDeadline ↔
    b.Same a ∧ InOrder schemaVersion b a := by
  rw [dropDeadline_mapDocument, dropDeadline_mapDocument, mapDocument_eq_iff, Same,
    dropDeadline_mapDocument, dropDeadline_mapDocument, and_assoc]
  refine and_congr_right fun _ => ?_
  rw [document_dropDeadline, document_dropDeadline, InOrder]
  cases b.document <;> cases a.document <;> simp [Document.seenBy_eq_iff]

/-- A digest depends on what the schema sees. -/
theorem forSchema_eq {x y : RequestFingerprint}
    (h : x.mapDocument (.seenBy schemaVersion) = y.mapDocument (.seenBy schemaVersion)) :
    (sdk.requestDigest x).forSchema schemaVersion = (sdk.requestDigest y).forSchema schemaVersion := by
  have hv1 : ∀ x : RequestFingerprint, x.mapDocument (.seenBy .v1) = x := by
    intro x
    cases x <;> rfl
  cases schemaVersion with
  | v1 =>
    rw [hv1, hv1] at h
    rw [h]
  | other => rfl
  | _ => exact congrArg (fun x => some (sdk.canonicalDigest x)) h

/-- The entry of a request, in any schema and with any outcome. -/
structure Journaled (sdk : Sdk) (request : DurableRequest) (form : RetryForm)
    (stored : StoredOperation) : Prop where
  formed : request.form = some form
  kind : stored.kind = form.kind
  containerId : stored.containerId = form.containerId
  processId : stored.processId = form.processId
  digest : (sdk.requestDigest form.fingerprint).forSchema stored.schemaVersion =
    some stored.requestDigest
  compared : ∀ r, request.compared = some r → stored.request = some r

theorem retryCheck_eq_ok (hb : b.form = some g) : retryCheck sdk stored b g = .ok () ↔
      (stored.kind = g.kind ∧ stored.containerId = g.containerId ∧
        (sdk.requestDigest g.fingerprint).forSchema stored.schemaVersion =
          some stored.requestDigest) ∧
      (g.processId.isSome → stored.processId = g.processId) ∧
      ∀ r, b.compared = some r → stored.request = some r := by
  cases b with
  | restore r =>
    obtain ⟨reference, -, rfl⟩ := Option.map_eq_some_iff.mp hb
    simp [retryCheck, validateRestoreRetry, compared, unit_bind_eq_ok, validateRetry_eq_ok,
      rejectIf_eq_ok, and_assoc]
  | file r =>
    obtain ⟨context, -, rfl⟩ := Option.map_eq_some_iff.mp hb
    simp [retryCheck, compared, validateRetry_eq_ok]
  | filesystem r =>
    obtain ⟨context, -, rfl⟩ := Option.map_eq_some_iff.mp hb
    simp [retryCheck, compared, validateRetry_eq_ok]
  | _ =>
    cases hb
    simp [retryCheck, validateAttestationRetry, validateProcessRetry, compared, unit_bind_eq_ok,
      validateRetry_eq_ok, rejectIf_eq_ok, and_assoc]

theorem form_dropDeadline (a : DurableRequest) : a.dropDeadline.form = a.form.map fun form =>
      { form with context := form.context.dropDeadline } := by
  cases a <;> simp [form, dropDeadline, Function.comp_def]

/-- Between requests of one kind the fingerprint tells all fields apart from the context. -/
theorem dropDeadline_eq_of_fingerprint (ha : a.form = some f) (hb : b.form = some g)
    (hk : f.kind = g.kind) (hi : f.context.operationId = g.context.operationId)
    (hp : f.fingerprint = g.fingerprint) (hc : b.compared = none)
    (hexec : ∀ x y, a = .exec x → b = .exec y → x.process.text = y.process.text →
      x.terminal = y.terminal) : b.dropDeadline = a.dropDeadline := by
  have hcn : ∀ c d : OperationContext, c.operationId = d.operationId →
      d.dropDeadline = c.dropDeadline := by
    intro c d h
    rw [OperationContext.dropDeadline, OperationContext.dropDeadline, h]
  cases b <;> cases a <;> simp only [form, Option.map_eq_some_iff, Option.some.injEq] at ha hb
  -- requests of two kinds have different fingerprints, but for pause and resume
  all_goals grind [dropDeadline, compared, FreezerAction.kind, cases FreezerAction]

theorem eq_of_compared (ha : a.form = some f) (hb : b.form = some g) (hk : f.kind = g.kind)
    (hr : b.compared = some r) (hs : a.compared = none ∨ a.compared = some r) : b = a := by
  cases b <;> simp only [compared, reduceCtorEq, Option.some.injEq] at hr <;> cases a <;>
    simp only [form, Option.map_eq_some_iff, Option.some.injEq] at ha hb
  all_goals grind [compared, FreezerAction.kind, cases FreezerAction]

theorem form_eq_of_dropDeadline (ha : a.form = some f) (h : b.dropDeadline = a.dropDeadline) :
    ∃ context, b.form = some { f with context } := by
  have hf := congrArg form h
  rw [form_dropDeadline, form_dropDeadline, ha] at hf
  obtain ⟨g, hg, hd⟩ := Option.map_eq_some_iff.mp hf
  refine ⟨g.context, hg.trans (congrArg some ?_)⟩
  cases f
  cases g
  simp only [RetryForm.mk.injEq] at hd ⊢
  exact ⟨trivial, hd.2⟩

/-- The request is taken for the one journaled in the entry. -/
def Accepted (sdk : Sdk) (stored : StoredOperation) (request : DurableRequest) : Prop :=
  ∃ form, request.form = some form ∧ retryCheck sdk stored request form = .ok ()

/-- An accepted request is the journaled one as far as it is compared. -/
theorem Accepted.same (hjrnl : Journaled sdk a f stored)
    (hid : ∀ g, b.form = some g → f.context.operationId = g.context.operationId)
    (hsha : ∀ g, b.form = some g → f.kind = g.kind →
      (sdk.requestDigest f.fingerprint).forSchema stored.schemaVersion =
        (sdk.requestDigest g.fingerprint).forSchema stored.schemaVersion →
      f.fingerprint.mapDocument (.seenBy stored.schemaVersion) =
        g.fingerprint.mapDocument (.seenBy stored.schemaVersion))
    (hexec : ∀ x y, a = .exec x → b = .exec y → x.process.text = y.process.text →
      x.terminal = y.terminal) (h : b.Accepted sdk stored) :
    (b.compared.isSome → b = a) ∧ b.Same a ∧ InOrder stored.schemaVersion b a := by
  obtain ⟨g, hb, hch⟩ := h
  obtain ⟨⟨hk, -, hdg⟩, -, hw⟩ := (retryCheck_eq_ok hb).mp hch
  have hk := hjrnl.kind.symm.trans hk
  cases hc : b.compared with
  | none =>
    refine ⟨by simp, seenBy_eq_iff.mp ?_⟩
    have hp := hsha g hb hk (hjrnl.digest.trans hdg.symm)
    refine dropDeadline_eq_of_fingerprint (form_mapDocument_of _ hjrnl.formed)
      (form_mapDocument_of _ hb) hk (hid g hb) hp (by rw [compared_mapDocument, hc]) ?_
    intro x y hx hy ht
    obtain ⟨x, rfl, rfl⟩ := eq_exec_of_mapDocument _ _ hx
    obtain ⟨y, rfl, rfl⟩ := eq_exec_of_mapDocument _ _ hy
    exact hexec x y rfl rfl (by simpa using ht)
  | some r =>
    have heq : b = a := by
      refine eq_of_compared hjrnl.formed hb hk hc ?_
      cases hj : a.compared with
      | none => exact .inl rfl
      | some r' => exact .inr ((hjrnl.compared r' hj).symm.trans (hw r hc))
    subst heq
    exact ⟨fun _ => rfl, .refl b, .refl _ b⟩

/-- A request that is seen like the journaled one is accepted, if what it retains is the same. -/
theorem Journaled.accepts (hjrnl : Journaled sdk a f stored) (hsm : b.Same a)
    (hord : InOrder stored.schemaVersion b a)
    (hw : ∀ r, b.compared = some r → stored.request = some r) : b.Accepted sdk stored := by
  obtain ⟨context, hb⟩ := form_eq_of_dropDeadline (form_mapDocument_of _ hjrnl.formed)
    (seenBy_eq_iff.mpr ⟨hsm, hord⟩)
  rw [form_mapDocument] at hb
  obtain ⟨g, hg, hgf⟩ := Option.map_eq_some_iff.mp hb
  obtain ⟨-, hk, hc, hp, hfp, -⟩ := RetryForm.mk.inj hgf
  refine ⟨g, hg, (retryCheck_eq_ok hg).mpr ⟨⟨?_, ?_, ?_⟩, fun _ => ?_, hw⟩⟩
  · exact hjrnl.kind.trans hk.symm
  · exact hjrnl.containerId.trans hc.symm
  · exact (forSchema_eq hfp).trans hjrnl.digest
  · exact hjrnl.processId.trans hp.symm

/-- **Retries.** Under the same operation id a request is taken for the journaled one exactly when it
    is the same request up to the deadline, unless it is a checkpoint, a restore or an attestation with
    another deadline, or the digest sees a set or map of it in another order. -/
theorem retry_accepted_iff (hjrnl : Journaled sdk a f stored)
    (hid : ∀ g, b.form = some g → f.context.operationId = g.context.operationId)
    (hsha : ∀ g, b.form = some g → f.kind = g.kind →
      (sdk.requestDigest f.fingerprint).forSchema stored.schemaVersion =
        (sdk.requestDigest g.fingerprint).forSchema stored.schemaVersion →
      f.fingerprint.mapDocument (.seenBy stored.schemaVersion) =
        g.fingerprint.mapDocument (.seenBy stored.schemaVersion))
    (hexec : ∀ x y, a = .exec x → b = .exec y → x.process.text = y.process.text →
      x.terminal = y.terminal) :
    (b.Accepted sdk stored ↔ b.Same a) ↔
      (b.Same a → (b.compared.isSome → b = a) ∧ InOrder stored.schemaVersion b a) := by
  have hac : b.Accepted sdk stored → _ := Accepted.same hjrnl hid hsha hexec
  constructor
  · intro hi hsm
    have h := hac (hi.mpr hsm)
    exact ⟨h.1, h.2.2⟩
  · intro hd
    refine ⟨fun h => (hac h).2.1, fun hsm => ?_⟩
    obtain ⟨heq, hord⟩ := hd hsm
    refine hjrnl.accepts hsm hord fun r hr => ?_
    exact hjrnl.compared r (heq (by simp [hr]) ▸ hr)

end DurableRequest

namespace Sample

def checkpointBy (deadline : Option Nat) : DurableRequest :=
  .checkpoint ⟨⟨opA, deadline⟩, .exact web 1, "/artifact", .paused, none⟩

/-- The entry of a checkpoint without a deadline. -/
def checkpointEntry : StoredOperation :=
  preparedOperation opA .checkpoint web 1 none
    (some (.checkpoint ⟨⟨opA, none⟩, .exact web 1, "/artifact", .paused, none⟩))
    ⟨"legacy", "canonical"⟩

def checkpointForm (deadline : Option Nat) : RetryForm :=
  ⟨⟨opA, deadline⟩, .checkpoint, web, none, .checkpoint (.exact web 1) "/artifact" .paused,
    "checkpoint"⟩

theorem checkpoint_journaled :
    (checkpointBy none).Journaled sdk (checkpointForm none) checkpointEntry := by
  refine ⟨rfl, rfl, rfl, rfl, rfl, ?_⟩
  rintro r ⟨⟩
  rfl

/-- The resources of an update, with a map in the order in which it is iterated. -/
def unified (map : List (String × String)) (h : (map.map Prod.fst).Nodup) : Document :=
  ⟨"", [], [map], by simpa using h⟩

def limits : Document := unified [("memory.low", "0"), ("memory.high", "1")] (by decide)

def limitsReordered : Document := unified [("memory.high", "1"), ("memory.low", "0")] (by decide)

def updateBy (deadline : Option Nat) (resources : Document) : DurableRequest :=
  .update ⟨⟨opA, deadline⟩, .exact web 1, resources⟩

def updateEntry : StoredOperation :=
  preparedOperation opA .update web 1 none none ⟨"legacy", "canonical"⟩

theorem update_journaled : (updateBy none limits).Journaled sdk
    ⟨⟨opA, none⟩, .update, web, none, .update (.exact web 1) limits, "update"⟩ updateEntry := by
  refine ⟨rfl, rfl, rfl, rfl, rfl, fun r h => ?_⟩
  simp [updateBy, DurableRequest.compared] at h

theorem limits_same : limitsReordered.Same limits :=
  ⟨rfl, .nil, .cons (.swap _ _ _) .nil⟩

/-- The digest of an exec tells the sets of its process apart. -/
def setsDigest : Sdk :=
  { sdk with
    canonicalDigest := fun
      | .exec _ _ process _ => ",".intercalate process.sets.flatten
      | _ => "" }

def execBy (capabilities : List String) : DurableRequest :=
  .exec ⟨⟨opA, none⟩, .exact web 1, shell, ⟨"", [capabilities], [], Document.noMaps⟩, false, "io"⟩

def execEntry : StoredOperation :=
  { preparedOperation opA .exec web 1 none none ⟨"legacy", "CAP_KILL,CAP_CHOWN"⟩ with
    processId := some shell }

end Sample

theorem checkpoint_with_another_deadline_is_refused :
    (Sample.checkpointBy none).Journaled Sample.sdk (Sample.checkpointForm none)
        Sample.checkpointEntry ∧
      (Sample.checkpointBy (some 5)).Same (Sample.checkpointBy none) ∧
      ¬(Sample.checkpointBy (some 5)).Accepted Sample.sdk Sample.checkpointEntry := by
  refine ⟨Sample.checkpoint_journaled, ⟨rfl, .none⟩, ?_⟩
  rintro ⟨form, ⟨⟩, hc⟩
  exact absurd (congrArg Except.isOk hc) (by decide +kernel)

/-- A retry of the exec whose process was decoded again may iterate its capabilities in another
    order. -/
theorem exec_with_reordered_capabilities_is_refused :
    (Sample.execBy ["CAP_KILL", "CAP_CHOWN"]).Accepted Sample.setsDigest Sample.execEntry ∧
      (Sample.execBy ["CAP_CHOWN", "CAP_KILL"]).Same (Sample.execBy ["CAP_KILL", "CAP_CHOWN"]) ∧
      ¬(Sample.execBy ["CAP_CHOWN", "CAP_KILL"]).Accepted Sample.setsDigest Sample.execEntry := by
  refine ⟨⟨_, rfl, by decide +kernel⟩, ⟨rfl, .some ⟨rfl, .cons (.swap _ _ _) .nil, .nil⟩⟩, ?_⟩
  rintro ⟨form, ⟨⟩, hc⟩
  exact absurd (congrArg Except.isOk hc) (by decide +kernel)

/-- The digest puts the keys of maps in order and leaves the deadline out. -/
theorem update_with_reordered_map_is_accepted :
    (Sample.updateBy (some 5) Sample.limitsReordered).Accepted Sample.sdk Sample.updateEntry := by
  have hord : Sample.limitsReordered.InOrder .v6 Sample.limits := ⟨rfl, nofun⟩
  refine ((DurableRequest.retry_accepted_iff Sample.update_journaled ?_ ?_ ?_).mpr
    fun _ => ⟨fun h => absurd h (by decide), ?_⟩).mpr ⟨rfl, .some Sample.limits_same⟩
  · rintro g ⟨⟩
    rfl
  · rintro g ⟨⟩ - -
    exact congrArg (RequestFingerprint.update (.exact Sample.web 1))
      (Document.seenBy_eq_iff.mpr ⟨Sample.limits_same, hord⟩).symm
  · rintro x y ⟨⟩
  · rintro x ⟨⟩ y ⟨⟩
    exact hord

end OciRuntime
