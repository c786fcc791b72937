import Gridwalk.Phrase
import Gridwalk.Text.Blank
import Gridwalk.Text.Numeral
import Gridwalk.Text.Quoted
import Gridwalk.Text.Encoding
import Gridwalk.Json.Shortest
import Gridwalk.Json.Printer
import Gridwalk.Json.Reader
import Gridwalk.Settings
import Gridwalk.Actor
import Gridwalk.Routine
import Gridwalk.Observable
import Gridwalk.Catalog
import Gridwalk.Lifecycle
import Gridwalk.UnixTime
import Gridwalk.Event
import Gridwalk.Run
import Gridwalk.Dispatch
import Gridwalk.Reactive
import Gridwalk.Session
import Gridwalk.Schedule
import Gridwalk.Pacing
import Gridwalk.Live
import Gridwalk.Http.Service
import Gridwalk.Proofs.Fleet
import Gridwalk.Proofs.RoutineContracts
import Gridwalk.Proofs.Effect
import Gridwalk.Proofs.Agreement
import Gridwalk.Proofs.Amendment
import Gridwalk.Proofs.Execution
import Gridwalk.Proofs.Expansion
import Gridwalk.Proofs.ExpandedRun
import Gridwalk.Proofs.DeedOutcomes
import Gridwalk.Proofs.FlatRun
import Gridwalk.Proofs.UnbrokenRuns
import Gridwalk.Proofs.Undoing
import Gridwalk.Proofs.History
import Gridwalk.Proofs.CallInvariants
import Gridwalk.Proofs.Lattice
import Gridwalk.Proofs.Saturation
import Gridwalk.Proofs.Change
import Gridwalk.Proofs.Placement
import Gridwalk.Proofs.Depth
import Gridwalk.Proofs.RunProgressShown
import Gridwalk.Proofs.Calls
import Gridwalk.Proofs.Presence
import Gridwalk.Proofs.LeaseKey
import Gridwalk.Proofs.SingleFlight
import Gridwalk.Proofs.Course
import Gridwalk.Proofs.ActionCounts
import Gridwalk.Proofs.Interruption
import Gridwalk.Proofs.MatchedStages
import Gridwalk.Proofs.OrdinaryFaults
import Gridwalk.Proofs.PassingFaults
import Gridwalk.Proofs.AnsweredPauses
import Gridwalk.Proofs.SightIndependence
import Gridwalk.Proofs.Composition
import Gridwalk.Proofs.Invocation
import Gridwalk.Proofs.Records
import Gridwalk.Proofs.Subscriptions
import Gridwalk.Proofs.Refusals
import Gridwalk.Proofs.Undisturbed
import Gridwalk.Proofs.Figures
import Gridwalk.Proofs.Spelling
import Gridwalk.Proofs.Rereading
import Gridwalk.Proofs.Account
import Gridwalk.Proofs.Publication
import Gridwalk.Proofs.StreamHistory
import Gridwalk.Proofs.Feed
import Gridwalk.Proofs.Payload
import Gridwalk.Proofs.Notification
import Gridwalk.Proofs.PendingPayloads
import Gridwalk.Proofs.ClientHistories
import Gridwalk.Proofs.ClientTraceAgreement
import Gridwalk.Proofs.Fanout
import Gridwalk.Proofs.Isolation
import Gridwalk.Proofs.Audience
import Gridwalk.Proofs.TurnedRuns
import Gridwalk.Proofs.RunLog
import Gridwalk.Proofs.RequestTasks
import Gridwalk.Proofs.RequestsJudged
import Gridwalk.Proofs.Loading
import Gridwalk.Proofs.Reach
import Gridwalk.Proofs.Delivery
import Gridwalk.Proofs.Levels
