import PolicyTrial.Main
import PolicyTrial.Proofs.Judgement.Evaluation
import PolicyTrial.Settings.Shape
import PolicyTrial.Proofs.Judgement.Replay
import PolicyTrial.Proofs.Judgement.Quotation
import PolicyTrial.Proofs.Judgement.StartupExit
import PolicyTrial.Proofs.Judgement.SilentFailure
import PolicyTrial.Proofs.Run.Certainty
import PolicyTrial.Proofs.Host.Contract
import PolicyTrial.Proofs.Run.Sharing
import PolicyTrial.Proofs.Run.Possible
import PolicyTrial.Proofs.Host.Fairness
import PolicyTrial.Proofs.Run.Completeness
import PolicyTrial.Proofs.Host.Interleaving
import PolicyTrial.Proofs.Engine.Governed
import PolicyTrial.Proofs.Engine.Trials
import PolicyTrial.Proofs.Engine.PortText
import PolicyTrial.Proofs.Engine.Scopes
import PolicyTrial.Proofs.Engine.Canonical
import PolicyTrial.Proofs.Artifacts.OwnFiles
import PolicyTrial.Proofs.Judgement.Streams
import PolicyTrial.Proofs.Judgement.Joining
import PolicyTrial.Proofs.Judgement.Combination
import PolicyTrial.Proofs.Judgement.Categories
import PolicyTrial.Proofs.Judgement.Vocabulary
import PolicyTrial.Proofs.Run.Lateness
import PolicyTrial.Proofs.Run.PortsApart
import PolicyTrial.Proofs.Judgement.Document
import PolicyTrial.Proofs.Manifest.Exactness
import PolicyTrial.Proofs.Manifest.Selection
import PolicyTrial.Proofs.Host.Lifecycle
import PolicyTrial.Proofs.Host.Logging
import PolicyTrial.Proofs.Run.Conversation
import PolicyTrial.Proofs.Host.Readiness
import PolicyTrial.Proofs.CommandLine.Precedence
import PolicyTrial.Proofs.CommandLine.ExitCode
import PolicyTrial.Proofs.Host.ErrorStream
import PolicyTrial.Proofs.Run.Pooling
import PolicyTrial.Proofs.Artifacts.Confinement
