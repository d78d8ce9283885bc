import BlockSync.Config.Workspace
import BlockSync.Main
import BlockSync.Proofs.Merge.Reversal
import BlockSync.Proofs.Run.Convergence
import BlockSync.Proofs.Run.Reversal
import BlockSync.Proofs.Merge.Independence
import BlockSync.Proofs.Merge.Insertion
import BlockSync.Proofs.Merge.Commutation
import BlockSync.Proofs.Merge.Crlf
import BlockSync.Proofs.Run.Preview
import BlockSync.Proofs.Cli.ExitCode
import BlockSync.Proofs.Merge.LineEnds
import BlockSync.Proofs.Merge.Withdrawal
import BlockSync.Proofs.Merge.Refresh
import BlockSync.Proofs.Block.Pairs
import BlockSync.Proofs.Run.Removal
import BlockSync.Proofs.Fragment.Containment
import BlockSync.Proofs.Config.Layers
import BlockSync.Proofs.Config.Snapshots
import BlockSync.Proofs.Run.Failure
import BlockSync.Proofs.Block.Selection
import BlockSync.Proofs.Anchor.Location
import BlockSync.Proofs.Regex.Escaped
import BlockSync.Proofs.Block.Recognition
import BlockSync.Proofs.Config.Override
import BlockSync.Proofs.FileTree.Alike
import BlockSync.Proofs.FileTree.PathOrder
import BlockSync.Proofs.Targets
import BlockSync.Proofs.Run.Assignment
import BlockSync.Proofs.Merge.Flags
import BlockSync.Proofs.Log.Level
import BlockSync.Proofs.Cli.StartUp
import BlockSync.Proofs.Config.Collected
import BlockSync.Proofs.Diff.Preview
