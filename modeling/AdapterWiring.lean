import AdapterWiring.Files.Tree
import AdapterWiring.Grammar.Build
import AdapterWiring.Grammar.JsonForm
import AdapterWiring.Hierarchy.Session
import AdapterWiring.Main
import AdapterWiring.Proofs.Hierarchy.Reach
import AdapterWiring.Proofs.Hierarchy.Layers
import AdapterWiring.Proofs.Session.Snapshot
import AdapterWiring.Proofs.Session.Recall
import AdapterWiring.Proofs.Adapter.Narrowing
import AdapterWiring.Proofs.Adapter.Verdict
import AdapterWiring.Proofs.Adapter.Cycles
import AdapterWiring.Proofs.Adapter.Preferences
import AdapterWiring.Proofs.Adapter.Explicit
import AdapterWiring.Proofs.Adapter.Filing
import AdapterWiring.Proofs.Session.Check
import AdapterWiring.Proofs.Check.Wiring
import AdapterWiring.Proofs.Universe.Adapters
import AdapterWiring.Proofs.Check.TypeSafety
import AdapterWiring.Proofs.Universe.Eligibility
import AdapterWiring.Proofs.Universe.Partition
import AdapterWiring.Proofs.Pattern.Gaps
import AdapterWiring.Proofs.Pattern.Search
import AdapterWiring.Proofs.Pattern.Compiled
import AdapterWiring.Proofs.Declaration.Names
import AdapterWiring.Proofs.Declaration.Spelling
import AdapterWiring.Proofs.Grammar.Readers
import AdapterWiring.Proofs.Grammar.Derivation
import AdapterWiring.Proofs.Grammar.Soundness
import AdapterWiring.Proofs.Declaration.Parsing
import AdapterWiring.Proofs.Declaration.Acceptance
import AdapterWiring.Proofs.Text.Words
import AdapterWiring.Proofs.Declaration.Printing
import AdapterWiring.Proofs.Check.Cyclic
import AdapterWiring.Proofs.Check.Findings
import AdapterWiring.Proofs.Check.Locality
import AdapterWiring.Proofs.CommandLine.Commands
import AdapterWiring.Proofs.CommandLine.Accounts
import AdapterWiring.Proofs.CommandLine.Agreement
import AdapterWiring.Proofs.CommandLine.Flags
import AdapterWiring.Proofs.CommandLine.Presentation
import AdapterWiring.Proofs.Hierarchy.Expansion
import AdapterWiring.Proofs.Text.Lines
import AdapterWiring.Proofs.Declaration.Lines
import AdapterWiring.Proofs.Specification.Loading
import AdapterWiring.Proofs.Json.Respelling
import AdapterWiring.Proofs.Json.Forms
import AdapterWiring.Proofs.Adapter.Rotations
import AdapterWiring.Proofs.Grammar.Repetition
import AdapterWiring.Proofs.Adapter.Monotonicity
import AdapterWiring.Proofs.Adapter.TieBreaks
import AdapterWiring.Proofs.Grammar.Lockstep
import AdapterWiring.Proofs.Grammar.Depth
import AdapterWiring.Proofs.Grammar.Calls
import AdapterWiring.Proofs.Grammar.Shapes
import AdapterWiring.Proofs.Grammar.Reordering
import AdapterWiring.Proofs.Grammar.Layout
import AdapterWiring.Proofs.Declaration.Alternatives
import AdapterWiring.Proofs.Declaration.Layout
import AdapterWiring.Proofs.Text.Runs
import AdapterWiring.Proofs.Check.Clauses
import AdapterWiring.Proofs.Grammar.Building
import AdapterWiring.Proofs.Grammar.Anchoring
import AdapterWiring.Proofs.Hierarchy.Subtyping
import AdapterWiring.Proofs.Check.Anchors
import AdapterWiring.Proofs.Check.Overlaps
import AdapterWiring.Proofs.Files.Normalization
import AdapterWiring.Proofs.Files.Store
import AdapterWiring.Proofs.Files.Locations
import AdapterWiring.Proofs.Hierarchy.Rounds
import AdapterWiring.Proofs.Adapter.Visits
import AdapterWiring.Proofs.Grammar.Notation
import AdapterWiring.Proofs.Pattern.Weight
import AdapterWiring.Proofs.Declaration.Table
