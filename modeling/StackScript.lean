import StackScript.CommandLine.Folder
import StackScript.Main
import StackScript.Proofs.Compilation.Correctness
import StackScript.Proofs.Compilation.Grammar
import StackScript.Proofs.Program.Image
import StackScript.Proofs.Program.Paths
import StackScript.Proofs.Tree.Construction
import StackScript.Proofs.Machine.Accounting
import StackScript.Proofs.Compilation.Memory
import StackScript.Proofs.Machine.Output
import StackScript.Proofs.Machine.Truncation
import StackScript.Proofs.Phrase.Renaming
import StackScript.Proofs.Tree.Renaming
import StackScript.Proofs.Compilation.Renaming
import StackScript.Proofs.Machine.Bounds
import StackScript.Proofs.Token.Written
import StackScript.Proofs.Token.Partition
import StackScript.Proofs.Phrase.Progress
import StackScript.Proofs.Tree.Checks
import StackScript.Proofs.Compilation.Interning
import StackScript.Proofs.Compilation.Resumption
import StackScript.Proofs.Compilation.Ending
import StackScript.Proofs.Machine.Conversion
import StackScript.Proofs.Machine.Input
import StackScript.Proofs.Program.Listing
import StackScript.Proofs.Program.Statistics
import StackScript.Proofs.Machine.Steps
import StackScript.Proofs.Machine.Allocation
import StackScript.Proofs.LinkedCode.Linkage
import StackScript.Proofs.Compilation.CheckLines
import StackScript.Proofs.Compilation.EndLine
