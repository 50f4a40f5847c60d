import Placement.Session
import Placement.Script
import Placement.Manifest.Writing
import Placement.Watch.Watcher
import Placement.Proofs.Target
import Placement.Proofs.Roster
import Placement.Proofs.Membership
import Placement.Proofs.Phases
import Placement.Proofs.Host
import Placement.Proofs.Selection
import Placement.Proofs.Attempt
import Placement.Proofs.Session
import Placement.Proofs.Account
import Placement.Proofs.Moves
import Placement.Proofs.Sides
import Placement.Proofs.Failure
import Placement.Proofs.Idle
import Placement.Proofs.Exclusive
import Placement.Proofs.Scoring
import Placement.Proofs.Outcome
import Placement.Proofs.Ratio
import Placement.Proofs.Watch.Key
import Placement.Proofs.Watch.Streams
import Placement.Proofs.Watch.Loading
import Placement.Proofs.Watch.History
import Placement.Proofs.Watch.Mirror
import Placement.Proofs.Watch.Release
import Placement.Proofs.Verdicts
import Placement.Proofs.Conclusion
import Placement.Proofs.Isolation
import Placement.Proofs.Reordering
import Placement.Proofs.Yaml.Written
import Placement.Proofs.Yaml.Plain
import Placement.Proofs.Yaml.Quoted
import Placement.Proofs.Yaml.Block
import Placement.Proofs.Yaml.Lexer
import Placement.Proofs.Yaml.Entry
import Placement.Proofs.Yaml.Document
import Placement.Proofs.Manifest
import Placement.Proofs.Churn
import Placement.Proofs.Repetition
import Placement.Proofs.Contract
import Placement.Proofs.Percentage
import Placement.Proofs.Rescaling
import Placement.Proofs.ByteOrder
import Placement.Proofs.Labels
import Placement.Proofs.Commitment
import Placement.Proofs.Departure
import Placement.Proofs.Namespaced
import Placement.Proofs.Registry
import Placement.Proofs.Catalog
import Placement.Proofs.Filing
import Placement.Proofs.Fields
