import LineShell.Command.Parse
import LineShell.Command.Requote
import LineShell.Text.Escape
import LineShell.Banner
import LineShell.Builtin.Basic
import LineShell.Builtin.Echo
import LineShell.Builtin.Files
import LineShell.Builtin.Help
import LineShell.Builtin.Host
import LineShell.Builtin.Processes
import LineShell.Builtin.Tree
import LineShell.Command.Launcher
import LineShell.Command.Pipeline
import LineShell.Command.Redirect
import LineShell.Dispatch
import LineShell.Environment.Definition
import LineShell.Environment.File
import LineShell.Input.Completion
import LineShell.Input.Reader
import LineShell.Machine.Basic
import LineShell.Machine.Layout
import LineShell.Main
import LineShell.Proofs.EchoStored
import LineShell.Proofs.PlanPrint
import LineShell.Proofs.Verdict
import LineShell.Proofs.Tiling
import LineShell.Proofs.Writing
import LineShell.Proofs.Segments
import LineShell.Proofs.Effect
import LineShell.Proofs.History
import LineShell.Proofs.JobTable
import LineShell.Proofs.Reaping
import LineShell.Proofs.Composition
import LineShell.Proofs.AppendLog
import LineShell.Proofs.Refusal
import LineShell.Proofs.ShellWords
import LineShell.Proofs.Moving
import LineShell.Proofs.Copying
import LineShell.Proofs.Reading
import LineShell.Proofs.Colours
import LineShell.Proofs.AfterCd
import LineShell.Proofs.Spelling
import LineShell.Proofs.FirstFault
import LineShell.Proofs.Recall
import LineShell.Proofs.SideBySide
import LineShell.Proofs.Slices
import LineShell.Proofs.Subshell
import LineShell.Proofs.Removal
import LineShell.Proofs.DirectoryCopy
import LineShell.Proofs.Victim
import LineShell.Proofs.TreeChains
import LineShell.Proofs.StatFormat
import LineShell.Proofs.HelpHint
import LineShell.Proofs.CompletedWord
import LineShell.Proofs.Tilde
import LineShell.Proofs.MemoryTable
import LineShell.Proofs.CarefulPlan
import LineShell.Proofs.WordUnderCursor
