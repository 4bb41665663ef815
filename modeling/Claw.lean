import Claw.Assembler
import Claw.CommandLine.Run
import Claw.Files.Tree
import Claw.Main
import Claw.Proofs.Accounting
import Claw.Proofs.Agreement
import Claw.Proofs.Binary.Correct
import Claw.Proofs.CommandLine.Status
import Claw.Proofs.CommandLine.Switches
import Claw.Proofs.Concatenation
import Claw.Proofs.Configuration
import Claw.Proofs.Continuation
import Claw.Proofs.Definitions
import Claw.Proofs.Grammar.Data
import Claw.Proofs.Grammar.Instruction
import Claw.Proofs.Grammar.Integer
import Claw.Proofs.Independence
import Claw.Proofs.Infinite
import Claw.Proofs.LineBreaks
import Claw.Proofs.Memory
import Claw.Proofs.Overlong
import Claw.Proofs.Pattern.Overlap
import Claw.Proofs.Program.RoundTrip
import Claw.Proofs.Repetition
import Claw.Proofs.Rows
import Claw.Proofs.Session
import Claw.Proofs.Singles
import Claw.Proofs.Unreported
import Claw.Proofs.Values
