import RegexHost.Build.Builder
import RegexHost.Build.CommandLine
import RegexHost.Build.Error
import RegexHost.Build.Mode
import RegexHost.Build.Profile
import RegexHost.Build.Tool
import RegexHost.Bundle.Collect
import RegexHost.Bundle.Embedded
import RegexHost.Bundle.Source
import RegexHost.Config
import RegexHost.Engine.Facade
import RegexHost.Engine.Host
import RegexHost.Engine.Linked
import RegexHost.Engine.Scripted
import RegexHost.Environment
import RegexHost.Error
import RegexHost.Files.Fault
import RegexHost.Files.FileSystem
import RegexHost.Files.Path
import RegexHost.Load.Extraction
import RegexHost.Load.Gate
import RegexHost.Load.LibraryLoader
import RegexHost.Load.Linker
import RegexHost.Load.Race
import RegexHost.Main
import RegexHost.Match
import RegexHost.Native.Abi
import RegexHost.Native.Exports
import RegexHost.Native.Fault
import RegexHost.Pattern.Bracket
import RegexHost.Pattern.CharKind
import RegexHost.Pattern.CharSet
import RegexHost.Pattern.Clue
import RegexHost.Pattern.Code
import RegexHost.Pattern.Diagnostic
import RegexHost.Pattern.Extent
import RegexHost.Pattern.Machine
import RegexHost.Pattern.Parser
import RegexHost.Pattern.Quantifier
import RegexHost.Pattern.Search
import RegexHost.Pattern.Subject
import RegexHost.Pattern.Syntax
import RegexHost.Pattern.Token
import RegexHost.Pattern.Tuning
import RegexHost.Platform
import RegexHost.Regex
import RegexHost.Session
import RegexHost.Text.Blank
import RegexHost.Text.CaseFold
import RegexHost.Text.Category
import RegexHost.Text.CodeSet
import RegexHost.Text.LowerCase
import RegexHost.Text.Offset
import RegexHost.Text.Pieces
import RegexHost.Text.Property
import RegexHost.Text.Quoted
import RegexHost.Text.UnitText
import RegexHost.Text.Utf16
import RegexHost.Text.Utf8
import RegexHost.Text.Utf8Cells
import RegexHost.Proofs.Text.Boundary
import RegexHost.Proofs.Text.Utf16
import RegexHost.Proofs.Text.Place
import RegexHost.Proofs.Text.Rounding
import RegexHost.Proofs.Text.Prefix
import RegexHost.Proofs.Text.WellFormed
import RegexHost.Proofs.Text.Lossy
import RegexHost.Proofs.Search.Answers
import RegexHost.Proofs.Search.Captures
import RegexHost.Proofs.Search.Translation
import RegexHost.Proofs.Search.Scan
import RegexHost.Proofs.Load.Consistent
import RegexHost.Proofs.Load.OneLoad
import RegexHost.Proofs.Load.Publication
import RegexHost.Proofs.Load.StateCell
import RegexHost.Proofs.Engine.Calls
import RegexHost.Proofs.Engine.Linked
import RegexHost.Proofs.Search.Checks
import RegexHost.Proofs.Search.Progress
import RegexHost.Proofs.Ownership.Ledger
import RegexHost.Proofs.Ownership.Actions
import RegexHost.Proofs.Ownership.Kept
import RegexHost.Proofs.Ownership.Session
import RegexHost.Proofs.Memory.Loan
import RegexHost.Proofs.Memory.Exchange
import RegexHost.Proofs.Memory.Settled
import RegexHost.Proofs.Search.Paths
import RegexHost.Proofs.Files.Walks
import RegexHost.Proofs.Files.Nodes
import RegexHost.Proofs.Files.Paths
import RegexHost.Proofs.Files.Tree
import RegexHost.Proofs.Load.Attempts
import RegexHost.Proofs.Load.Bookkeeping
import RegexHost.Proofs.Load.Confined
import RegexHost.Proofs.Bundle.Table
import RegexHost.Proofs.Files.Descent
import RegexHost.Proofs.Files.Entries
import RegexHost.Proofs.Files.Writing
import RegexHost.Proofs.Runs
import RegexHost.Proofs.Build.Stage
import RegexHost.Proofs.Build.Shelf
import RegexHost.Proofs.Build.Layout
import RegexHost.Proofs.Build.Product
import RegexHost.Proofs.Text.Sides
import RegexHost.Proofs.Engine.Wire
import RegexHost.Proofs.Engine.Diagnostics
import RegexHost.Proofs.Build.Attempt
import RegexHost.Proofs.Build.Entries
import RegexHost.Proofs.Text.Casing
import RegexHost.Proofs.Platform.Recognition
