import LeaseElection.Broker.Address
import LeaseElection.Bucket.Offline
import LeaseElection.Bucket.Reach
import LeaseElection.Election.Hooks
import LeaseElection.Election.Status
import LeaseElection.Election.Resolution
import LeaseElection.Elector.Step
import LeaseElection.Endpoint.Server
import LeaseElection.Host.Log
import LeaseElection.Main
import LeaseElection.Process.Launch
import LeaseElection.Proofs.Course.Basic
import LeaseElection.Rehearsal.Script
import LeaseElection.Rehearsal.Trial
import LeaseElection.Settings.Arguments
import LeaseElection.Startup.Check
import LeaseElection.Startup.Withdrawal
import LeaseElection.Proofs.Course.Account
import LeaseElection.Proofs.Course.Conduct
import LeaseElection.Proofs.Course.Reactions
import LeaseElection.Proofs.Course.Lawful
import LeaseElection.Proofs.Course.Protocol
import LeaseElection.Proofs.Course.Rise
import LeaseElection.Proofs.Course.Timing
import LeaseElection.Proofs.Course.Instants
import LeaseElection.Proofs.Course.RenewDeadline
import LeaseElection.Proofs.Contest.Basic
import LeaseElection.Proofs.Contest.Provenance
import LeaseElection.Proofs.Contest.Preservation
import LeaseElection.Proofs.Election.Resolution
import LeaseElection.Proofs.Contest.History
import LeaseElection.Proofs.Contest.Sovereignty
import LeaseElection.Proofs.Contest.Exclusion
import LeaseElection.Proofs.Contest.Memory
import LeaseElection.Proofs.Time.Calendar
import LeaseElection.Proofs.Text.Decimal
import LeaseElection.Proofs.Time.Rfc3339
import LeaseElection.Proofs.Json.Reading
import LeaseElection.Proofs.Lease.Layout
import LeaseElection.Proofs.Text.Glyph
import LeaseElection.Proofs.Lock.CompareAndSwap
import LeaseElection.Proofs.Bucket.Contents
import LeaseElection.Proofs.Bucket.Refinement
import LeaseElection.Proofs.Bucket.Line
import LeaseElection.Proofs.Bucket.Update
import LeaseElection.Proofs.Course.Renaming
import LeaseElection.Proofs.Course.ClaimRule
import LeaseElection.Proofs.Course.IsolatedFailures
import LeaseElection.Proofs.Solo.Release
import LeaseElection.Proofs.Bucket.Isolation
import LeaseElection.Proofs.Course.Shutdown
import LeaseElection.Proofs.Course.Onlooker
import LeaseElection.Proofs.Course.Appearance
import LeaseElection.Proofs.Course.Showing
import LeaseElection.Proofs.Course.Display
import LeaseElection.Proofs.Election.Validation
import LeaseElection.Proofs.Startup.Check
import LeaseElection.Proofs.Bucket.Creation
import LeaseElection.Proofs.Startup.Withdrawal
import LeaseElection.Proofs.Broker.Connection
import LeaseElection.Proofs.Broker.History
import LeaseElection.Proofs.Json.Composite
import LeaseElection.Proofs.Broker.Layout
import LeaseElection.Proofs.Time.Instant
