import FlowDiagram.Json.Reader
import FlowDiagram.Model.Compile
import FlowDiagram.Model.Grouping
import FlowDiagram.CommandLine.Flag
import FlowDiagram.CommandLine.Options
import FlowDiagram.CommandLine.Run
import FlowDiagram.Main
import FlowDiagram.Proofs.Ownership
import FlowDiagram.Proofs.References
import FlowDiagram.Proofs.Lookups
import FlowDiagram.Proofs.Renaming
import FlowDiagram.Proofs.EdgeOrder
import FlowDiagram.Proofs.Dependencies
import FlowDiagram.Proofs.Skipping
import FlowDiagram.Proofs.Components
import FlowDiagram.Proofs.SharedIds
import FlowDiagram.Proofs.Accounting
import FlowDiagram.Proofs.Declarations
import FlowDiagram.Proofs.Elision
import FlowDiagram.Proofs.Resources
import FlowDiagram.Proofs.Handlers
import FlowDiagram.Proofs.Tasks
import FlowDiagram.Proofs.Telling
import FlowDiagram.Proofs.Tracing
import FlowDiagram.Proofs.Overrides
import FlowDiagram.Proofs.OverrideTypes
import FlowDiagram.Proofs.Folders
import FlowDiagram.Proofs.Opening
import FlowDiagram.Proofs.LogLife
import FlowDiagram.Proofs.LogFilter
import FlowDiagram.Proofs.KeptTypes
import FlowDiagram.Proofs.OverrideFaults
import FlowDiagram.Proofs.TouchedFiles
import FlowDiagram.Proofs.ConditionPattern
import FlowDiagram.Proofs.HandleSides
import FlowDiagram.Proofs.HandleGrammar
import FlowDiagram.Proofs.Labels
import FlowDiagram.Proofs.Indexes
import FlowDiagram.Proofs.WalkLength
