import EclServer.Library.Run
import EclServer.Library.Transaction
import EclServer.Auth.Model
import EclServer.Auth.Login
import EclServer.Auth.Lockout
import EclServer.Runs.Model
import EclServer.Runs.Uploads
import EclServer.Runs.StorageIntegrity
import EclServer.Runs.Execution
import EclServer.Runs.Pipeline
import EclServer.Runs.StatusMachine
import EclServer.Library.Hazard
import EclServer.Library.SubStochastic
import EclServer.Engine.Frame
import EclServer.Engine.Pd
import EclServer.Engine.PdTable
import EclServer.Engine.Ead
import EclServer.Engine.EadRows
import EclServer.Engine.EclBound
import EclServer.Engine.DefaultedLoss
import EclServer.Engine.CrossFile
import EclServer.Runs.Validation
import EclServer.Runs.ValidationAgreement
import EclServer.Engine.SnapshotKeys
import EclServer.Library.Columns
import EclServer.Runs.StageResults
import EclServer.Runs.Idempotence
import EclServer.Auth.Refresh
import EclServer.Auth.TokenFamilies
import EclServer.Tenants.Members
import EclServer.Engine.LoanReference
import EclServer.Engine.LoanCoverage
import EclServer.Engine.Lgd
import EclServer.Engine.LgdRows
import EclServer.Engine.CollateralOrder
import EclServer.Engine.CollateralEad
import EclServer.Runs.CollateralRuns
import EclServer.Runs.LoanIdentity
import EclServer.Runs.KeyMatching
import EclServer.Engine.UnknownColumns
import EclServer.Runs.Provisioning
import EclServer.Library.KeyedWrites
import EclServer.Runs.StageProgress
import EclServer.Runs.Visibility
import EclServer.Runs.Dispatch
import EclServer.Auth.Cache
import EclServer.Auth.Accounts
import EclServer.Auth.System
import EclServer.Auth.SessionTables
import EclServer.Auth.LoggedOut
import EclServer.Library.Grouping
import EclServer.Results.Model
import EclServer.Results.Queries
import EclServer.Results.Totals
import EclServer.Results.Confidentiality
import EclServer.Library.Rundown
import EclServer.Engine.Aggregates
import EclServer.Engine.Rundown
import EclServer.Runs.SummaryTotals
import EclServer.Runs.LgdWorkbook
import EclServer.Engine.StageOrder
import EclServer.Engine.NextMonth
import EclServer.Engine.TransitionMass
import EclServer.Runs.PdCoverage
import EclServer.Runs.PdOrder
import EclServer.Auth.Invites
import EclServer.Auth.Services
import EclServer.Auth.PasswordReset
import EclServer.Auth.InviteLifecycle
import EclServer.Auth.InviteMail
import EclServer.Outbox.Delivery
import EclServer.Auth.LiveRows
import EclServer.Auth.CleanupJobs
import EclServer.Engine.SnapshotSchedule
import EclServer.Engine.Amortisation
import EclServer.Engine.RowBounds
import EclServer.Engine.PooledCollateral
import EclServer.Engine.CollateralNames
import EclServer.Engine.AggregateSums
import EclServer.Engine.TimeFactors
import EclServer.Runs.FailedUploads
import EclServer.Auth.ClientIp
import EclServer.Auth.RepeatedLogout
import EclServer.Auth.RememberMe
import EclServer.Tenants.Rejoining
import EclServer.Library.Paging
import EclServer.Results.LoanPages
import EclServer.Engine.IssueCap
import EclServer.Results.ReportedPds
import EclServer.Runs.Announcements
import EclServer.Runs.FailureRecords
import EclServer.Runs.RerunOrder
import EclServer.Library.Csv
import EclServer.Library.Requests
import EclServer.Platform.AuditExport
import EclServer.Platform.EngineVersions
import EclServer.Platform.Impersonation
import EclServer.Library.LiveKeys
import EclServer.Tenants.SegmentDirectory
import EclServer.Engine.Locality
import EclServer.Runs.LoanLocality
import EclServer.Auth.SecondFactor
import EclServer.Engine.Workbooks
import EclServer.Library.Listing
import EclServer.Tenants.MemberPages
import EclServer.Platform.TenantStatus
import EclServer.Tenants.Onboarding
