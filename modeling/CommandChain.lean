import CommandChain.Chain.WellFormed
import CommandChain.Main
import CommandChain.Process.Playbook
import CommandChain.Session
import CommandChain.Shell.ShortCircuit
import CommandChain.Proofs.Evaluation.ShortCircuit
import CommandChain.Proofs.Line.RoundTrip
import CommandChain.Proofs.Line.Spacing
import CommandChain.Proofs.Line.Grouping
import CommandChain.Proofs.Line.OperatorPlaces
import CommandChain.Proofs.Line.Separation
import CommandChain.Proofs.Options.Choices
import CommandChain.Proofs.Options.Spellings
import CommandChain.Proofs.Evaluation.Announcements
import CommandChain.Proofs.Evaluation.RawStatus
import CommandChain.Proofs.Evaluation.Recovery
import CommandChain.Proofs.Session.ProcessCalls
import CommandChain.Proofs.Evaluation.Sequence
import CommandChain.Proofs.Evaluation.Prefix
import CommandChain.Proofs.Evaluation.Operand
import CommandChain.Proofs.Evaluation.Diagnostics
import CommandChain.Proofs.Evaluation.Agreement
import CommandChain.Proofs.Evaluation.LeftAssociative
import CommandChain.Proofs.Exit.Final
import CommandChain.Proofs.Exit.Argument
import CommandChain.Proofs.Line.Input
import CommandChain.Proofs.Loop.Turns
import CommandChain.Proofs.Loop.Reading
import CommandChain.Proofs.Loop.JoinedLines
import CommandChain.Proofs.Loop.InputBytes
import CommandChain.Proofs.Loop.Terminal
import CommandChain.Proofs.Exit
import CommandChain.Proofs.Lockstep.Calls
import CommandChain.Proofs.Lockstep.Rules
import CommandChain.Proofs.Lockstep.Session
import CommandChain.Proofs.Options.Reading
import CommandChain.Proofs.Options.Recognition
import CommandChain.Proofs.Options.Spellings
