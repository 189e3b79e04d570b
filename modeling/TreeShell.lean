import TreeShell.Banner
import TreeShell.Bureau
import TreeShell.Command
import TreeShell.CommandLine
import TreeShell.Config.Error
import TreeShell.Config.KeyPath
import TreeShell.Config.Layers
import TreeShell.Config.Section
import TreeShell.Config.Value
import TreeShell.Console
import TreeShell.Disk
import TreeShell.Document
import TreeShell.Environment
import TreeShell.Event
import TreeShell.FilePath
import TreeShell.Interpreter
import TreeShell.Json.Number
import TreeShell.Json.Reader
import TreeShell.Json.Token
import TreeShell.Json.Writer
import TreeShell.Log.Directive
import TreeShell.Log.Filter
import TreeShell.Log.Line
import TreeShell.Log.Pattern
import TreeShell.Log.Setup
import TreeShell.Main
import TreeShell.Manifest
import TreeShell.Manifest.File
import TreeShell.Name
import TreeShell.Node
import TreeShell.Number.Binary64
import TreeShell.Number.Decimal
import TreeShell.Number.Digits
import TreeShell.Number.Integer
import TreeShell.Path
import TreeShell.Program
import TreeShell.Proofs.Addresses
import TreeShell.Proofs.Ascent
import TreeShell.Proofs.Batches
import TreeShell.Proofs.Commands
import TreeShell.Proofs.Config.Fields
import TreeShell.Proofs.Config.Keys
import TreeShell.Proofs.Config.Literal
import TreeShell.Proofs.Config.Loading
import TreeShell.Proofs.Config.Merging
import TreeShell.Proofs.Config.Precedence
import TreeShell.Proofs.Config.Sections
import TreeShell.Proofs.Config.Values
import TreeShell.Proofs.Evaluation
import TreeShell.Proofs.Expansion
import TreeShell.Proofs.Formats
import TreeShell.Proofs.Insertions
import TreeShell.Proofs.Isolation
import TreeShell.Proofs.Json
import TreeShell.Proofs.Lines
import TreeShell.Proofs.Listings
import TreeShell.Proofs.Locations
import TreeShell.Proofs.Lookup
import TreeShell.Proofs.LowerCase
import TreeShell.Proofs.Manifest
import TreeShell.Proofs.Manifest.FirstDefect
import TreeShell.Proofs.Manifest.ReadBack
import TreeShell.Proofs.Names
import TreeShell.Proofs.Navigation
import TreeShell.Proofs.Resolution
import TreeShell.Proofs.Runs
import TreeShell.Proofs.Streams
import TreeShell.Proofs.Targets
import TreeShell.Proofs.Trail
import TreeShell.Proofs.Utf8
import TreeShell.Proofs.Walks
import TreeShell.Proofs.Words
import TreeShell.Session
import TreeShell.Settings
import TreeShell.Terminal
import TreeShell.Text.Alphanumeric
import TreeShell.Text.Blank
import TreeShell.Text.LetterCase
import TreeShell.Text.Lines
import TreeShell.Text.Printable
import TreeShell.Text.Quoted
import TreeShell.Text.Split
import TreeShell.Text.Utf8
import TreeShell.Toml.Date
import TreeShell.Toml.DateTable
import TreeShell.Toml.Number
import TreeShell.Toml.Reader
import TreeShell.Toml.Table
import TreeShell.Toml.Text
import TreeShell.Tree
import TreeShell.Proofs.Rooted
import TreeShell.Proofs.Tokens
import TreeShell.Proofs.Manifest.Decoding
import TreeShell.Proofs.Disk
import TreeShell.Proofs.Log.Setup
