import PullQuota.Action
import PullQuota.Api
import PullQuota.Probe
import PullQuota.Registry.Inquiry
import PullQuota.Report
import PullQuota.Server
import PullQuota.Settings
import PullQuota.Status
import PullQuota.Store
import PullQuota.Summary
import PullQuota.Proofs.Admission
import PullQuota.Proofs.Cleanup
import PullQuota.Proofs.Deadlines
import PullQuota.Proofs.Patience
import PullQuota.Proofs.Accounts
import PullQuota.Proofs.Concealment
import PullQuota.Proofs.Blame
import PullQuota.Proofs.Logging
import PullQuota.Proofs.Masking
import PullQuota.Proofs.Documents
import PullQuota.Proofs.Sessions
import PullQuota.Proofs.Commands
import PullQuota.Proofs.Answers
import PullQuota.Proofs.Injection
import PullQuota.Proofs.Checks
import PullQuota.Proofs.Fields
import PullQuota.Proofs.Authorization
import PullQuota.Proofs.Tokens
import PullQuota.Proofs.Percentages
import PullQuota.Proofs.Records
import PullQuota.Proofs.Respelling
import PullQuota.Proofs.HalfPercents
import PullQuota.Proofs.Summaries
import PullQuota.Proofs.Decimals
import PullQuota.Proofs.Service
