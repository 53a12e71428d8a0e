import RadixForest.Datum
import RadixForest.Main
import RadixForest.Proofs.Trie.Dispatch
import RadixForest.Proofs.Trie.Rendering
import RadixForest.Proofs.Trie.Structure
import RadixForest.Proofs.Registry.Runs
import RadixForest.Proofs.Registry.Slots
import RadixForest.Proofs.Registry.Generations
import RadixForest.Proofs.Registry.Isolation
import RadixForest.Proofs.Registry.Bookkeeping
import RadixForest.Proofs.KeyFile.Loading
import RadixForest.Proofs.KeyFile.LineEnds
import RadixForest.Proofs.Trie.Paths
import RadixForest.Proofs.Trie.Statistics
import RadixForest.Proofs.Trie.Commuting
import RadixForest.Proofs.Document.Alike
import RadixForest.Proofs.Document.Paths
import RadixForest.Proofs.Settings.Fields
import RadixForest.Proofs.Settings.Variables
import RadixForest.Proofs.Settings.Layers
import RadixForest.Proofs.Settings.Unordered
import RadixForest.Proofs.Cli.Loading
import RadixForest.Proofs.Document.Lines
import RadixForest.Proofs.Settings.Written
import RadixForest.Proofs.Trie.Places
import RadixForest.Proofs.Trie.Refusals
import RadixForest.Proofs.Trie.Replay
import RadixForest.Proofs.Trie.Guarded
import RadixForest.Proofs.Trie.Faultless
import RadixForest.Proofs.KeyFile.Written
import RadixForest.Proofs.Trie.Repeating
import RadixForest.Proofs.KeyFile.Reloading
import RadixForest.Proofs.Text.Offsets
import RadixForest.Proofs.Text.Settled
import RadixForest.Proofs.Trie.NormalForm
