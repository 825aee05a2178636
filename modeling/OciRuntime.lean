import OciRuntime.Property.Startup
import OciRuntime.Property.Listing
import OciRuntime.Property.Generations
import OciRuntime.Property.Fence
import OciRuntime.Property.Scope
import OciRuntime.Property.Residence
import OciRuntime.Property.Journal
import OciRuntime.Property.Transactions
import OciRuntime.Property.Output
import OciRuntime.Property.DeviceInventory
import OciRuntime.Property.Framing
import OciRuntime.Property.FrameLimit
import OciRuntime.Property.GuestJournal
import OciRuntime.Property.GuestIsolation
import OciRuntime.Property.ExitEvents
import OciRuntime.Property.OutputDelivery
import OciRuntime.Property.StdinDelivery
import OciRuntime.Property.OperationIds
import OciRuntime.Property.SessionSupervisor
import OciRuntime.Property.CanonicalJson
import OciRuntime.Property.RecoveryReport
import OciRuntime.Property.RetryIdentity
import OciRuntime.Property.SeccompInstall
import OciRuntime.Property.IdMappings
import OciRuntime.Property.FailedCreation
import OciRuntime.Property.MountAttributes
import OciRuntime.Property.CgroupPlan
