import LaunchPolicy.Log.Clock
import LaunchPolicy.Log.Method
import LaunchPolicy.Log.Template
import LaunchPolicy.Main
import LaunchPolicy.Proofs.Cluster.Snapshot
import LaunchPolicy.Proofs.CommandLine.Run
import LaunchPolicy.Proofs.Compile.Arguments
import LaunchPolicy.Proofs.Compile.Assembly
import LaunchPolicy.Proofs.Compile.BareImage
import LaunchPolicy.Proofs.Compile.Calls
import LaunchPolicy.Proofs.Compile.Defaults
import LaunchPolicy.Proofs.Compile.Environment
import LaunchPolicy.Proofs.Compile.Escape
import LaunchPolicy.Proofs.Compile.Frame
import LaunchPolicy.Proofs.Compile.Independent
import LaunchPolicy.Proofs.Compile.Nullable
import LaunchPolicy.Proofs.Compile.Pinned
import LaunchPolicy.Proofs.Compile.Precedence
import LaunchPolicy.Proofs.Compile.ReadOnly
import LaunchPolicy.Proofs.Compile.Recompile
import LaunchPolicy.Proofs.Compile.Security
import LaunchPolicy.Proofs.Compile.Story
import LaunchPolicy.Proofs.Image.Fields
import LaunchPolicy.Proofs.Image.Inspection
import LaunchPolicy.Proofs.Log.Line
import LaunchPolicy.Proofs.Manifest.Blame
import LaunchPolicy.Proofs.Manifest.InPlace
import LaunchPolicy.Proofs.Manifest.Toggled
import LaunchPolicy.Proofs.Policy.Read
import LaunchPolicy.Proofs.Policy.Removal
import LaunchPolicy.Proofs.Rules.Services
import LaunchPolicy.Proofs.Settings.Environment
import LaunchPolicy.Proofs.Settings.Fields
import LaunchPolicy.Proofs.Settings.File
import LaunchPolicy.Proofs.Settled
import LaunchPolicy.Proofs.Text.Base64
import LaunchPolicy.Proofs.Yaml.Composed
