import BundleMarkup.Bundle.Output
import BundleMarkup.Bundle.Part
import BundleMarkup.Diagnostic.Catalog
import BundleMarkup.Markup.Journal
import BundleMarkup.PolicyConfig
import BundleMarkup.Proofs.Judging.Plan
import BundleMarkup.Proofs.Judging.Settlement
import BundleMarkup.Proofs.Judging.Walk
import BundleMarkup.Proofs.Judging.Bearer
import BundleMarkup.Proofs.Judging.Isolation
import BundleMarkup.Proofs.Judging.PolicyRuns
import BundleMarkup.Proofs.Markup.Events
import BundleMarkup.Proofs.Markup.Nesting
import BundleMarkup.Proofs.Markup.Writing
import BundleMarkup.Proofs.Markup.WrittenTag
import BundleMarkup.Proofs.Markup.WrittenNames
import BundleMarkup.Proofs.Markup.RoundTrip
import BundleMarkup.Proofs.Markup.Derivation
import BundleMarkup.Proofs.Markup.Places
import BundleMarkup.Proofs.Markup.AttributePlaces
import BundleMarkup.Proofs.Judging.Reach
import BundleMarkup.Proofs.Markup.Scoping
import BundleMarkup.Proofs.Judging.Delegation
import BundleMarkup.Proofs.Judging.Calls
import BundleMarkup.Proofs.Judging.Bare
import BundleMarkup.Proofs.Judging.Rewriting
import BundleMarkup.Proofs.Judging.Resolved
import BundleMarkup.Proofs.Markup.DirectText
import BundleMarkup.Proofs.Markup.ChildForms
import BundleMarkup.Proofs.Markup.DistinctKeys
import BundleMarkup.Proofs.Judging.Lookup
import BundleMarkup.Proofs.Judging.Reordering
import BundleMarkup.Proofs.Markup.DocumentOrder
import BundleMarkup.Proofs.Source.Lines
import BundleMarkup.Proofs.Markup.Containment
import BundleMarkup.Proofs.Judging.Traces
import BundleMarkup.Proofs.Judging.Acceptance
import BundleMarkup.Proofs.Judging.StandardUi
import BundleMarkup.Proofs.Judging.ManagedHost
import BundleMarkup.Proofs.Judging.FirstCondition
import BundleMarkup.Proofs.Markup.EndTags
import BundleMarkup.Proofs.Records.Registry
import BundleMarkup.Proofs.Records.Unambiguous
import BundleMarkup.Proofs.Judging.HostAttributes
import BundleMarkup.Proofs.Judging.EmptyNamespace
import BundleMarkup.Proofs.Judging.Expression
import BundleMarkup.Proofs.Judging.LaunchCondition
import BundleMarkup.Proofs.Judging.Contents
import BundleMarkup.Proofs.Judging.CompleteRows
import BundleMarkup.Proofs.Judging.PartRows
import BundleMarkup.Proofs.Diagnostic.Details
import BundleMarkup.Proofs.Extensions.Entries
import BundleMarkup.Proofs.Extensions.Registration
import BundleMarkup.Proofs.Judging.Accounts
import BundleMarkup.Proofs.Judging.ScopeRuns
