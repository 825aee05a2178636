import OciRuntime.Service.Lifecycle

/-!
# `OciRuntime.Service.Open` — opening the host service on an existing store

`open_with_drivers_and_fault_injector` of `service.rs`, once the drivers are registered: the store is
audited and listed, and every listed container is handed to the driver that its record names. What
the driver reports is recorded before the next container is looked at; the first error ends the
opening.
-/

namespace OciRuntime

open Durable Program

namespace LifecycleHost

variable {γ : Type} (host : LifecycleHost γ)

end LifecycleHost

end OciRuntime
