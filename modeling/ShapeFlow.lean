import ShapeFlow.Outcome
import ShapeFlow.Graph.Builder
import ShapeFlow.Graph.Printer
import ShapeFlow.Session
import ShapeFlow.Script.Graph
import ShapeFlow.Settings.Files
import ShapeFlow.Journal.Target
import ShapeFlow.Yaml.Codec
import ShapeFlow.Proofs.Graph.Availability
import ShapeFlow.Proofs.Pass.Sequencing
import ShapeFlow.Proofs.Rule.Reports
import ShapeFlow.Proofs.Graph.Equations
import ShapeFlow.Proofs.Pass.NodeStep
import ShapeFlow.Proofs.Pass.Inputs
import ShapeFlow.Proofs.Pass.Phases
import ShapeFlow.Proofs.Session.Ending
import ShapeFlow.Proofs.Session.Solution
import ShapeFlow.Proofs.Session.OrderCheck
import ShapeFlow.Proofs.Pass.Leniency
import ShapeFlow.Proofs.Session.OtherSettings
import ShapeFlow.Proofs.Session.WellFormed
import ShapeFlow.Proofs.Session.Answers
import ShapeFlow.Proofs.Session.Reordering
import ShapeFlow.Proofs.Session.Freezing
import ShapeFlow.Proofs.Session.Refusal
import ShapeFlow.Proofs.Graph.Additions
import ShapeFlow.Proofs.Session.Construction
import ShapeFlow.Proofs.Script.Definitions
import ShapeFlow.Proofs.Script.Translation
import ShapeFlow.Proofs.Script.Faithfulness
import ShapeFlow.Proofs.Outcome.Chains
import ShapeFlow.Proofs.Pass.Keeping
import ShapeFlow.Proofs.Rule.Sizes
import ShapeFlow.Proofs.Session.Escapes
import ShapeFlow.Proofs.Session.Records
import ShapeFlow.Proofs.Session.ShapesAlone
import ShapeFlow.Proofs.Session.Resizing
import ShapeFlow.Proofs.Session.Lifecycle
import ShapeFlow.Proofs.Yaml.CodecLaws
import ShapeFlow.Proofs.Settings.Merging
import ShapeFlow.Proofs.Settings.TwoSources
import ShapeFlow.Proofs.Settings.Saving
import ShapeFlow.Proofs.Rule.BroadcastLaws
import ShapeFlow.Proofs.Rule.NumberOperand
import ShapeFlow.Proofs.Rule.Bias
import ShapeFlow.Proofs.Rule.Joining
import ShapeFlow.Proofs.Rule.Partition
import ShapeFlow.Proofs.Rule.Misfits
import ShapeFlow.Proofs.Rule.Regrouping
import ShapeFlow.Proofs.Graph.Uses
import ShapeFlow.Proofs.Pass.Writing
import ShapeFlow.Proofs.Pass.BoundFront
import ShapeFlow.Proofs.Outcome.Laws
import ShapeFlow.Proofs.Journal.Configuring
import ShapeFlow.Proofs.Settings.History
