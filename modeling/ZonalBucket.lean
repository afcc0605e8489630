import ZonalBucket.Log.History
import ZonalBucket.Main
import ZonalBucket.Timestamp.Iso
import ZonalBucket.Http.App
import ZonalBucket.Session
import ZonalBucket.Proofs.CompleteEmptying
import ZonalBucket.Proofs.ConsistentResults
import ZonalBucket.Proofs.CleanupMasking
import ZonalBucket.Proofs.ScenarioRestoration
import ZonalBucket.Proofs.ServiceFailures
import ZonalBucket.Proofs.RouteFailures
import ZonalBucket.Proofs.StoreView
import ZonalBucket.Proofs.DeclaredAnswers
import ZonalBucket.Proofs.PartsOfSessions
import ZonalBucket.Proofs.ClientRelease
import ZonalBucket.Proofs.DeleteScenario
import ZonalBucket.Proofs.ExitCodes
import ZonalBucket.Proofs.BucketState
import ZonalBucket.Proofs.BucketIsolation
import ZonalBucket.Proofs.ObjectLifecycle
import ZonalBucket.Proofs.LogSetup
import ZonalBucket.Proofs.ListingEnds
import ZonalBucket.Proofs.InterruptedEmptying
import ZonalBucket.Proofs.AnsweredEmptying
import ZonalBucket.Proofs.EmptyingReports
import ZonalBucket.Proofs.UniformReports
import ZonalBucket.Proofs.HeadProtocol
import ZonalBucket.Proofs.PathPatterns
import ZonalBucket.Proofs.DistinctNames
import ZonalBucket.Proofs.WrittenTimes
import ZonalBucket.Proofs.DocumentForms
import ZonalBucket.Proofs.LogOutputs
