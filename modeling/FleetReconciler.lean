import FleetReconciler.Dispatcher.Script
import FleetReconciler.Main
import FleetReconciler.Session.Interference
import FleetReconciler.Proofs.Serial
import FleetReconciler.Proofs.Creation
import FleetReconciler.Proofs.DeletionDrain
import FleetReconciler.Proofs.DeliveryLedger
import FleetReconciler.Proofs.InstanceHistory
import FleetReconciler.Proofs.ConsistentRuns
import FleetReconciler.Proofs.ConcurrentSaves
import FleetReconciler.Proofs.StoreRuns
import FleetReconciler.Proofs.DeletionPasses
import FleetReconciler.Proofs.DiscoveredLists
import FleetReconciler.Proofs.DiscoveredUrls
import FleetReconciler.Proofs.KeyWords
import FleetReconciler.Proofs.RecordRoundTrip
import FleetReconciler.Proofs.ContestedTransaction
import FleetReconciler.Proofs.ReportedChanges
import FleetReconciler.Proofs.FailedDiscovery
import FleetReconciler.Proofs.RepeatedDiscovery
import FleetReconciler.Proofs.DrainBound
import FleetReconciler.Proofs.DrainReports
import FleetReconciler.Proofs.Rounds
import FleetReconciler.Proofs.RetryDelay
import FleetReconciler.Proofs.InstanceNames
import FleetReconciler.Proofs.Locality
