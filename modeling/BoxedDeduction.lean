import BoxedDeduction.Main
import BoxedDeduction.Proposition.Expression
import BoxedDeduction.Proposition.Relabelling
import BoxedDeduction.Rendering.Format
import BoxedDeduction.Settings.Document
import BoxedDeduction.Settings.Merge
import BoxedDeduction.Proofs.Proof.Snapshots
import BoxedDeduction.Proofs.Proof.Soundness
import BoxedDeduction.Proofs.Proof.Completeness
import BoxedDeduction.Proofs.Command.Grammar
import BoxedDeduction.Proofs.Command.Cutting
import BoxedDeduction.Proofs.Command.Parsing
import BoxedDeduction.Proofs.Command.Printing
import BoxedDeduction.Proofs.Command.Arguments
import BoxedDeduction.Proofs.Proof.Rebuilding
import BoxedDeduction.Proofs.Command.Writing
import BoxedDeduction.Proofs.Rendering.Room
import BoxedDeduction.Proofs.Session.Run
import BoxedDeduction.Proofs.Session.Replay
import BoxedDeduction.Proofs.Proof.Reachability
import BoxedDeduction.Proofs.Proof.Recording
import BoxedDeduction.Proofs.Proof.Dependence
import BoxedDeduction.Proofs.Proof.LateFailure
import BoxedDeduction.Proofs.Proof.Placement
import BoxedDeduction.Proofs.Proof.Charting
import BoxedDeduction.Proofs.Proof.Visibility
import BoxedDeduction.Proofs.Proof.Schemas
import BoxedDeduction.Proofs.Rendering.Letters
import BoxedDeduction.Proofs.Rendering.Subproofs
import BoxedDeduction.Proofs.Rendering.Typesetting
import BoxedDeduction.Proofs.Rendering.Framing
import BoxedDeduction.Proofs.Rendering.Drawing
import BoxedDeduction.Proofs.Rendering.Transcription
import BoxedDeduction.Proofs.Command.RuleLines
import BoxedDeduction.Proofs.Command.Digits
import BoxedDeduction.Proofs.Command.Parentheses
import BoxedDeduction.Proofs.Command.Viability
import BoxedDeduction.Proofs.Command.Places
import BoxedDeduction.Proofs.Command.Faults
import BoxedDeduction.Proofs.Session.Answering
import BoxedDeduction.Proofs.Program.Agreement
import BoxedDeduction.Proofs.Settings.Merging
import BoxedDeduction.Proofs.Rule.Registration
import BoxedDeduction.Proofs.Settings.References
import BoxedDeduction.Proofs.Proof.Naming
import BoxedDeduction.Proofs.Rendering.Markup
import BoxedDeduction.Proofs.Rendering.Legality
import BoxedDeduction.Proofs.Proof.ScopeHistory
import BoxedDeduction.Proofs.Proof.Reopening
import BoxedDeduction.Proofs.Proof.Citing
import BoxedDeduction.Proofs.Proposition.Relabelling
