import TargetConfig.Json.Reader
import TargetConfig.Main
import TargetConfig.Proofs.Arch.Grammar
import TargetConfig.Proofs.Command.Agreement
import TargetConfig.Proofs.Command.Traces
import TargetConfig.Proofs.Config.Coherence
import TargetConfig.Proofs.Config.Reload
import TargetConfig.Proofs.FileTree.Ascent
import TargetConfig.Proofs.FileTree.Nearest
import TargetConfig.Proofs.Profile.Parse
import TargetConfig.Proofs.Profile.Recapture
import TargetConfig.Proofs.Registry.Subset
import TargetConfig.Proofs.Request.Dependence
import TargetConfig.Proofs.Request.Discovered
import TargetConfig.Proofs.Request.Features
import TargetConfig.Proofs.Request.FixedPoint
import TargetConfig.Proofs.Request.Flags
import TargetConfig.Proofs.Request.Template
import TargetConfig.Proofs.Setting.Agreement
import TargetConfig.Proofs.Triple.Parts
import TargetConfig.Proofs.Config.Events
import TargetConfig.Proofs.Request.Events
import TargetConfig.Proofs.Json.Scalars
import TargetConfig.Proofs.Json.Pretty
import TargetConfig.Proofs.Config.Rendering
import TargetConfig.Proofs.CommandLine.Options
import TargetConfig.Proofs.CommandLine.Request
