import Mips32.AssemblyError
import Mips32.ByteOrder
import Mips32.Catalog
import Mips32.Command
import Mips32.CommandLine.FileTree
import Mips32.CommandLine.Options
import Mips32.CommandLine.Run
import Mips32.CommandLine.World
import Mips32.ConfigFile
import Mips32.Encoding
import Mips32.Field
import Mips32.Image
import Mips32.Instruction
import Mips32.InstructionForm
import Mips32.Label
import Mips32.LabelTable
import Mips32.Literal
import Mips32.Main
import Mips32.Opcode
import Mips32.Pseudo
import Mips32.Register
import Mips32.Report
import Mips32.Request
import Mips32.Resolution
import Mips32.Session
import Mips32.Source.Diagnostic
import Mips32.Source.Meaning
import Mips32.Source.Session
import Mips32.Source.Statement
import Mips32.Text.Blank
import Mips32.Text.CaseRuns
import Mips32.Text.Casing
import Mips32.Text.CharRange
import Mips32.Text.Combining
import Mips32.Text.ControlSequence
import Mips32.Text.Json
import Mips32.Text.Lowercase
import Mips32.Text.Numeral
import Mips32.Text.Quoted
import Mips32.Text.Split
import Mips32.Text.Unprintable
import Mips32.Width
import Mips32.Proofs.Outcome
import Mips32.Proofs.Packing
import Mips32.Proofs.MachineTarget
import Mips32.Proofs.History
import Mips32.Proofs.AppendOnly
import Mips32.Proofs.Image
import Mips32.Proofs.StableImage
import Mips32.Proofs.Relocation
import Mips32.Proofs.ByteOrder
import Mips32.Proofs.ControlFlow
import Mips32.Proofs.Shape
import Mips32.Proofs.TwoPass.Reference
import Mips32.Proofs.SourceSession
import Mips32.Proofs.TwoPass.Encoding
import Mips32.Proofs.TwoPass.Agreement
import Mips32.Proofs.SourceRun
import Mips32.Proofs.DefinedLabels
import Mips32.Proofs.Unambiguous
import Mips32.Proofs.CatalogAgreement
import Mips32.Proofs.FinishErrors
import Mips32.Proofs.Attribution
import Mips32.Proofs.Machine
import Mips32.Proofs.PseudoMeaning
import Mips32.Proofs.LiteralTarget
import Mips32.Proofs.Layout
import Mips32.Proofs.Spacing
import Mips32.Proofs.Identifier
import Mips32.Proofs.Mention
import Mips32.Proofs.LineGrammar
import Mips32.Proofs.Renaming
import Mips32.Proofs.RenamedRun
import Mips32.Proofs.WriteOnce
import Mips32.Proofs.NamesAndSlots
import Mips32.Proofs.AllOrNothing
import Mips32.Proofs.MemoryOperand
import Mips32.Proofs.Numeral
import Mips32.Proofs.NumberLiteral
import Mips32.Proofs.AddressLiteral
import Mips32.Proofs.RegisterText
import Mips32.Proofs.ExactPacking
import Mips32.Proofs.EntryRequest
import Mips32.Proofs.TargetsInReach
import Mips32.Proofs.WordArithmetic
import Mips32.Proofs.OutputForms
import Mips32.Proofs.FailedLine
