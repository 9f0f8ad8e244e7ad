import Gemini.Semantics.Run
import Gemini.Semantics.Program
import Gemini.Data.Delivery
import Gemini.Data.RoundRobin
import Gemini.Data.AssociationList
import Gemini.Daemon.IpcProtocol
import Gemini.Daemon.IpcTryRead
import Gemini.Daemon.ChannelOutput
import Gemini.Daemon.OutputFraming
import Gemini.Daemon.IpcServer
import Gemini.Daemon.ServerFraming
import Gemini.Daemon.CooperativeRunner
import Gemini.Daemon.RunnerBrackets
import Gemini.Daemon.SessionWorkers
import Gemini.Daemon.LostWakeup
import Gemini.Daemon.SchedulerProgress
import Gemini.Daemon.DaemonRunner
import Gemini.Daemon.Binding
import Gemini.Locking.LockTable
import Gemini.PickFS.StructuredRecord
import Gemini.PickFS.FileSystem
import Gemini.PickFS.Changes
import Gemini.PickFS.RecordLocking
import Gemini.PickFS.RootIsolation
import Gemini.PickShell.GeminiSession
import Gemini.Daemon.IpcCodec
import Gemini.PickShell.SessionTable
import Gemini.PickShell.LockOwners
import Gemini.PickFS.RecordStore
import Gemini.VM.Instruction
import Gemini.VM.Machine
import Gemini.VM.Environment
import Gemini.VM.LanguageRegistry
import Gemini.VM.CoreInstructions
import Gemini.VM.FileInstructions
import Gemini.VM.Runtime
import Gemini.VM.Parser
import Gemini.VM.ControlFlow
import Gemini.Data.Checked
import Gemini.Basic.Ast
import Gemini.Basic.Analyzer
import Gemini.Basic.Emitter
import Gemini.Basic.Layout
import Gemini.VM.StackHeights
import Gemini.VM.StackDiscipline
import Gemini.Basic.Shape
import Gemini.Basic.Targets
import Gemini.Basic.Heights
import Gemini.Semantics.Simulation
import Gemini.VM.Rows
import Gemini.Basic.Interpreter
import Gemini.VM.InstructionEffects
import Gemini.Basic.Evaluation
import Gemini.Basic.Correctness
import Gemini.PickFS.RecordCells
import Gemini.VM.ArrayRecords
import Gemini.PickFS.FailedOperations
import Gemini.English.Parser
import Gemini.English.RoundTrip
import Gemini.PickShell.SelectCommand
import Gemini.Basic.SourceText
import Gemini.Basic.StoredPrograms
import Gemini.PickShell.BasicDebugger
import Gemini.VM.InputFrame
import Gemini.PickShell.VmDebugger
import Gemini.VM.Frames
import Gemini.VM.RecordWrites
import Gemini.English.DictionaryResolver
import Gemini.PickVoc.VocResolver
import Gemini.PickShell.VocCache
import Gemini.Basic.ForLoops
import Gemini.VM.DefinedArithmetic
import Gemini.VM.TryForms
import Gemini.PickShell.FileElse
import Gemini.Basic.ErrorHandlers
import Gemini.VM.LockConflicts
import Gemini.PickShell.LockHandling
import Gemini.Basic.BranchArms
import Gemini.Basic.ExpressionLexer
import Gemini.Basic.ExpressionParser
import Gemini.Basic.ExpressionGrammar
import Gemini.Basic.ExpressionText
import Gemini.Basic.StatementParser
import Gemini.Basic.DanglingElse
import Gemini.Conversion.Codes
import Gemini.Conversion.Decimals
import Gemini.Conversion.OneTable
import Gemini.Conversion.Dates
import Gemini.Data.Occurrences
import Gemini.VM.StringBuiltins
import Gemini.Proc.SessionNames
import Gemini.English.Numbers
import Gemini.English.Sorting
import Gemini.English.Formatter
import Gemini.English.Pages
import Gemini.Data.Descent
import Gemini.English.IExpressionLexer
import Gemini.English.IExpressionParser
import Gemini.English.IExpressionGrammar
import Gemini.English.IExpressionPrinter
import Gemini.Data.Padding
import Gemini.English.IExpressionRoundTrip
import Gemini.Data.Walks
import Gemini.PickShell.Tokenizer
import Gemini.PickVoc.VerbNames
import Gemini.PickShell.TclCommands
import Gemini.English.ReportTemplates
import Gemini.PickShell.LineRecordEditor
import Gemini.Data.Nesting
import Gemini.Proc.Labels
import Gemini.Proc.Loops
import Gemini.English.DictItems
import Gemini.English.IExpressionEvaluator
import Gemini.PickShell.ReadNext
import Gemini.VM.BytecodeText
import Gemini.Basic.Compiler
import Gemini.Basic.StoredCode
import Gemini.Login.Accounts
import Gemini.Login.Console
import Gemini.English.Executor
import Gemini.English.Verbs
import Gemini.PickShell.EnglishCommands
import Gemini.English.Listing
import Gemini.Basic.Renumber
