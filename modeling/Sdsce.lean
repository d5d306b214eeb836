import Sdsce.Theory.Bytes
import Sdsce.Theory.Program
import Sdsce.Theory.Sequential
import Sdsce.Theory.Custody
import Sdsce.Theory.RelyGuarantee
import Sdsce.Theory.Table
import Sdsce.Theory.Trace
import Sdsce.Theory.Recording
import Sdsce.Theory.Knowledge
import Sdsce.Theory.Progress
import Sdsce.Theory.Protocol
import Sdsce.Theory.Refinement
import Sdsce.Theory.Composition
import Sdsce.Theory.Cumulative
import Sdsce.Theory.Base64
import Sdsce.Source.Wire
import Sdsce.Source.Repository
import Sdsce.Source.Messages
import Sdsce.Source.World
import Sdsce.Source.InMemory
import Sdsce.Source.Runtime
import Sdsce.Source.Handlers
import Sdsce.Source.Operator
import Sdsce.Source.Collector
import Sdsce.Source.System
import Sdsce.Source.Workers
import Sdsce.Source.SessionPool
import Sdsce.Source.Psql
import Sdsce.Source.Consumer
import Sdsce.Source.PaymentClient
import Sdsce.Source.Encodings
import Sdsce.Source.Metering
import Sdsce.Source.Discovery
import Sdsce.Source.Processes
import Sdsce.Guarantees.Discipline
import Sdsce.Guarantees.RepositoryTriples
import Sdsce.Guarantees.Coupling
import Sdsce.Guarantees.Policy
import Sdsce.Guarantees.RuntimeTasks
import Sdsce.Guarantees.HandlerTasks
import Sdsce.Guarantees.CollectorTasks
import Sdsce.Guarantees.Completion
import Sdsce.Guarantees.SessionHistory
import Sdsce.Guarantees.PaymentCoverage
import Sdsce.Guarantees.ValueOrder
import Sdsce.Guarantees.SettlementTuple
import Sdsce.Guarantees.CollectedPaid
import Sdsce.Guarantees.SettleableForm
import Sdsce.Guarantees.SubmissionAnswers
import Sdsce.Guarantees.Statements
import Sdsce.Guarantees.ReadConsistency
import Sdsce.Guarantees.Spending.SidecarSpending
import Sdsce.Guarantees.FreshSessions
import Sdsce.Guarantees.Termination
import Sdsce.Guarantees.CollectionLifecycle
import Sdsce.Guarantees.CollectedFloor
import Sdsce.Guarantees.SessionUpdates
import Sdsce.Guarantees.Streams.Protocol
import Sdsce.Guarantees.Streams.RuntimeEntries
import Sdsce.Guarantees.Streams.Binding
import Sdsce.Guarantees.Streams.EvaluationOrder
import Sdsce.Guarantees.Quotas.WorkerQuota
import Sdsce.Guarantees.Quotas.WorkerLimits
import Sdsce.Guarantees.WorkerReturns
import Sdsce.Guarantees.ClientGenerations
import Sdsce.Guarantees.SessionStores
import Sdsce.Guarantees.RavEncodings
import Sdsce.Guarantees.MeteringConservation
import Sdsce.Guarantees.NetworkNames
import Sdsce.Guarantees.SessionPricing
import Sdsce.Guarantees.Alone
import Sdsce.Guarantees.CallOutcomes
import Sdsce.Guarantees.RuntimeDecision
import Sdsce.Guarantees.Streams.FieldAccesses
import Sdsce.Guarantees.Backoff
import Sdsce.Guarantees.Aggregation
import Sdsce.Guarantees.Spending.RequestSigning
import Sdsce.Guarantees.Progress
import Sdsce.Guarantees.FiniteEnds
import Sdsce.Guarantees.Sweeps
import Sdsce.Guarantees.Entries
import Sdsce.Guarantees.Receivers
import Sdsce.Guarantees.ReceiptSignatures
import Sdsce.Guarantees.TypedData
import Sdsce.Guarantees.AmountTexts
import Sdsce.Guarantees.UsageCosts
import Sdsce.Guarantees.UsageReports
import Sdsce.Guarantees.Authentication
import Sdsce.Guarantees.AuthorizationFreshness
import Sdsce.Guarantees.OperatorTexts
import Sdsce.Guarantees.BlocksEstimate
import Sdsce.Guarantees.Quotas.LimitSpellings
import Sdsce.Guarantees.Catalogs
import Sdsce.Guarantees.NetworkResolution
import Sdsce.Guarantees.Reservations
import Sdsce.Guarantees.RecordHistory
import Sdsce.Guarantees.SessionOrder
import Sdsce.Guarantees.FreshSessions.MeteredCharges
