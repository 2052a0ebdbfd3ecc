import Tablewright.Main
import Tablewright.Package.Digest
import Tablewright.Provision.Preview
import Tablewright.Schema.Write
import Tablewright.Proofs.Dependencies.Reachability
import Tablewright.Proofs.Dependencies.Layers
import Tablewright.Proofs.Dependencies.Tiers
import Tablewright.Proofs.Dependencies.Completeness
import Tablewright.Proofs.Checks
import Tablewright.Proofs.Schema.Encoding
import Tablewright.Proofs.Schema.Acceptance
import Tablewright.Proofs.Schema.PrimaryNames
import Tablewright.Proofs.Courses
import Tablewright.Proofs.Provision.Agenda
import Tablewright.Proofs.Provision.Order
import Tablewright.Proofs.Runs
import Tablewright.Proofs.Provision.Schedule
import Tablewright.Proofs.Provision.Performance
import Tablewright.Proofs.Schema.Coherence
import Tablewright.Proofs.Provision.Turns
import Tablewright.Proofs.Provision.Dossiers
import Tablewright.Proofs.Provision.Recounting
import Tablewright.Proofs.Provision.Accounts
import Tablewright.Proofs.Indexes
import Tablewright.Proofs.Store.Holdings
import Tablewright.Proofs.Store.Creations
import Tablewright.Proofs.Store.Keeping
import Tablewright.Proofs.Provision.Effects
import Tablewright.Proofs.Provision.Rerun
import Tablewright.Proofs.Provision.Yields
import Tablewright.Proofs.Provision.Foresight
import Tablewright.Proofs.Provision.Resumption
import Tablewright.Proofs.Text.ByteOrder
import Tablewright.Proofs.Xml.Contents
import Tablewright.Proofs.Package.Calls
import Tablewright.Proofs.Package.Labels
import Tablewright.Proofs.Package.Contents
import Tablewright.Proofs.Package.Reordering
import Tablewright.Proofs.Attribute.Outputs
import Tablewright.Proofs.Relationship.Sources
import Tablewright.Proofs.Provision.Calls
import Tablewright.Proofs.Provision.Preconditions
import Tablewright.Proofs.Entity.PrimaryKinds
import Tablewright.Proofs.Entity.RecordNames
import Tablewright.Proofs.Entity.Attributes
import Tablewright.Proofs.Schema.Documents
import Tablewright.Proofs.Schema.Faults
import Tablewright.Proofs.Schema.JoinedNames
import Tablewright.Proofs.Provision.Repetition
import Tablewright.Proofs.Provision.Traffic
import Tablewright.Proofs.Command.Generation
import Tablewright.Proofs.Attribute.Choices
import Tablewright.Proofs.Store.Identifiers
import Tablewright.Proofs.Store.Accounting
import Tablewright.Proofs.Provision.Names
import Tablewright.Proofs.Xml.Values
import Tablewright.Proofs.Xml.Interpretation
import Tablewright.Proofs.Xml.Selection
import Tablewright.Proofs.Package.Legality
import Tablewright.Proofs.Package.Recovery
import Tablewright.Proofs.Settings.References
import Tablewright.Proofs.Package.CanonicalText
import Tablewright.Proofs.Store.Literals
