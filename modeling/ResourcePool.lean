import ResourcePool.Json.Reader
import ResourcePool.Main
import ResourcePool.Proofs.Ends.Clearing
import ResourcePool.Proofs.Ends.Prefilling
import ResourcePool.Proofs.Ends.Unwinding
import ResourcePool.Proofs.Json.RoundTrip
import ResourcePool.Proofs.Metrics.Labelling
import ResourcePool.Proofs.Plain.Lending
import ResourcePool.Proofs.Plain.Losses
import ResourcePool.Proofs.Plain.Returning
import ResourcePool.Proofs.Plain.Separation
import ResourcePool.Proofs.Session.Accounting
import ResourcePool.Proofs.Session.Closing
import ResourcePool.Proofs.Session.Counters
import ResourcePool.Proofs.Session.Deserted
import ResourcePool.Proofs.Session.Reports
import ResourcePool.Proofs.Session.Surrender
import ResourcePool.Proofs.Session.Vigil
import ResourcePool.Proofs.Store.Retries
import ResourcePool.Scenario.Run
import ResourcePool.Scenario.StoreTrial
