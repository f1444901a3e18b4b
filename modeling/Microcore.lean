import Microcore.Alu
import Microcore.Addressing
import Microcore.Main
import Microcore.Instruction.Text
import Microcore.Text.Template
import Microcore.Proofs.Edge
import Microcore.Proofs.Failure
import Microcore.Proofs.Reachable
import Microcore.Proofs.WellFormed
import Microcore.Proofs.Run
import Microcore.Proofs.Bubbles
import Microcore.Proofs.WrongPath
import Microcore.Proofs.Sequential
import Microcore.Proofs.Instruction
import Microcore.Proofs.Refinement
import Microcore.Proofs.Assembly.Columns
import Microcore.Proofs.Assembly.Fields
import Microcore.Proofs.Assembly.Meaning
import Microcore.Proofs.Assembly.Reading
import Microcore.Proofs.Assembly.TwoPass
import Microcore.Proofs.Assembly.Written
import Microcore.Proofs.Assembly.Grammar
import Microcore.Proofs.Assembly.Relisting
import Microcore.Proofs.Assembly.Disassembly
import Microcore.Proofs.HexImage
import Microcore.Proofs.CommandLine.Arguments
import Microcore.Proofs.CommandLine.Run
import Microcore.Proofs.CommandLine.SavedImage
import Microcore.Proofs.NoOperation
import Microcore.Proofs.SelfJump
import Microcore.Proofs.Recording
import Microcore.Proofs.Printing
import Microcore.Proofs.Reporting
import Microcore.Proofs.Assembly.Reporting
import Microcore.Proofs.Observation
import Microcore.Proofs.Assembly.Entries
import Microcore.Proofs.Assembly.Rejected
import Microcore.Proofs.Assembly.LabelLocations
import Microcore.Proofs.Assembly.Regions
import Microcore.Proofs.MemoryMap
import Microcore.Proofs.Assembly.Spelling
import Microcore.Proofs.CommandLine.ImageFile
import Microcore.Proofs.CommandLine.SourceFile
import Microcore.Proofs.CommandLine.LineEndings
import Microcore.Proofs.ImageFaults
import Microcore.Proofs.Stack
import Microcore.Proofs.InstructionSet
