import AutoGpt.PixCdkUsage.History
import AutoGpt.PixCdkUsage.TerminalMarks
import AutoGpt.DeliveryCards.Idempotency
import AutoGpt.DeliveryCards.FailedRedeems
import AutoGpt.DeliveryCards.RepairPasses
import AutoGpt.WebSessionLease.Routing
import AutoGpt.TaskRuntime.Expiry
import AutoGpt.DomainRotation.LinkQuality
import AutoGpt.AccountFilters.Sorting
import AutoGpt.AccountFilters.Normalization
import AutoGpt.AdminAuth.ChallengesKept
import AutoGpt.AdminAuth.Lifetimes
import AutoGpt.AdminAuth.TotpRoute
import AutoGpt.AdminAuth.ClientAddress
import AutoGpt.AccessTokens.Exclusivity
import AutoGpt.SubscriptionLinks.Endings
import AutoGpt.IcloudHme.SafeDeletion
import AutoGpt.IcloudHme.PoolExclusivity
import AutoGpt.IcloudHme.RecheckQueue
import AutoGpt.LocalStatus.GateSafety
import AutoGpt.LocalStatus.Generations
import AutoGpt.LocalStatus.Attempts
import AutoGpt.LocalStatus.CandidateReports
import AutoGpt.LocalStatus.Evidence
import AutoGpt.LocalStatus.Rotation
import AutoGpt.LocalStatus.StatusAgreement
import AutoGpt.LocalStatus.CredentialWrites
import AutoGpt.BaxiGptCdk.OrderCredit
import AutoGpt.BaxiGptCdk.ManualDisable
import AutoGpt.PaypalFollowup.Settled
import AutoGpt.EmailChange.Boundary
import AutoGpt.EmailChange.Outcome
import AutoGpt.EmailApi.Accounting
import AutoGpt.PhoneApiRelay.Forwarding
import AutoGpt.SharedConfig.Reads
import AutoGpt.PaymentLinks.PlanCounts
import AutoGpt.PaymentLinks.Tombstone
import AutoGpt.PaymentLinks.PixRollover
import AutoGpt.MailboxState.BeforeIds
import AutoGpt.BoundPhone.Bindings
import AutoGpt.HmeMailbox.Baseline
import AutoGpt.AccountFixedGroups.Scopes
import AutoGpt.AuthLifecycle.DerivedState
import AutoGpt.PhonePool.PrefixSampling
import AutoGpt.PhonePool.LineCodec
import AutoGpt.TaskRuntime.FinishedLogs
import AutoGpt.TaskRuntime.StopReports
import AutoGpt.RegistrationPipeline.Exclusive
import AutoGpt.WebSessionLease.GcashOutcomes
import AutoGpt.PaymentLinks.PlatformAgreement
import AutoGpt.PaymentLinks.Submissions
import AutoGpt.TaskLogging.Covered
import AutoGpt.PaymentLinks.CheckoutTypes
import AutoGpt.PhonePool.ImportLines
import AutoGpt.RegistrationPipeline.OtpBudget
import AutoGpt.LocalStatus.RateLimit
import AutoGpt.DeliveryCards.Limiter
import AutoGpt.ProxyPool.Candidates
import AutoGpt.ProxyPool.ExitRegistry
