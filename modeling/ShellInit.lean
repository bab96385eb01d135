import ShellInit.Main
import ShellInit.Version
import ShellInit.Proofs.Order.Release
import ShellInit.Proofs.Order.Projection
import ShellInit.Proofs.Arrangement
import ShellInit.Proofs.Arrangement.Part
import ShellInit.Proofs.Compile.Deletion
import ShellInit.Proofs.Compile.Restriction
import ShellInit.Proofs.Toml.Overlay
import ShellInit.Proofs.Config.Loading
import ShellInit.Proofs.Order.Readiness
import ShellInit.Proofs.Order.Shortcut
import ShellInit.Proofs.Compile.Comparison
import ShellInit.Proofs.Compile.Dependency
import ShellInit.Proofs.Compile.Target
import ShellInit.Proofs.Compile.Renaming
import ShellInit.Proofs.Compile.Permutation
import ShellInit.Proofs.Order.Precedence
import ShellInit.Proofs.Arrangement.Depth
import ShellInit.Proofs.Compile.Layering
import ShellInit.Proofs.Compile.Guarding
import ShellInit.Proofs.Compile.Respelling
import ShellInit.Proofs.Compile.Labels
import ShellInit.Proofs.Compile.SearchPath
import ShellInit.Proofs.Files.Writing
import ShellInit.Proofs.Run.Effect
import ShellInit.Proofs.Order.ReleasePoint
import ShellInit.Proofs.Order.Countdown
import ShellInit.Proofs.Toml.Layers
import ShellInit.Proofs.Toml.Grouping
import ShellInit.Proofs.Config.Decoding
import ShellInit.Proofs.Compile.GuardedLines
import ShellInit.Proofs.Config.LabelCounts
import ShellInit.Proofs.Run.Warnings
