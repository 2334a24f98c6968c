import DriverValidation.Component
import DriverValidation.Config
import DriverValidation.Config.Load
import DriverValidation.Config.OfTable
import DriverValidation.Duration
import DriverValidation.Duration.Printer
import DriverValidation.Duration.Reader
import DriverValidation.Event
import DriverValidation.Failure
import DriverValidation.Feature
import DriverValidation.FeatureStatus
import DriverValidation.Files.Path
import DriverValidation.Files.Subtree
import DriverValidation.Files.Tree
import DriverValidation.IoError
import DriverValidation.LogFilter
import DriverValidation.Main
import DriverValidation.Manifest.Json
import DriverValidation.Manifest.Source
import DriverValidation.Manifest.Yaml
import DriverValidation.Number.Binary64
import DriverValidation.Number.Decimal
import DriverValidation.Options
import DriverValidation.Pod
import DriverValidation.Pod.Build
import DriverValidation.Pod.Decode
import DriverValidation.Pod.Encode
import DriverValidation.Pod.Template
import DriverValidation.Probe
import DriverValidation.Probe.Command
import DriverValidation.Program
import DriverValidation.Program.Footprint
import DriverValidation.Proofs.Config.Commands
import DriverValidation.Proofs.Config.Fields
import DriverValidation.Proofs.Config.Timeout
import DriverValidation.Proofs.Duration.RoundTrip
import DriverValidation.Proofs.Failure.ReadBack
import DriverValidation.Proofs.FeatureStatus.Agreement
import DriverValidation.Proofs.FeatureStatus.Flags
import DriverValidation.Proofs.FeatureStatus.Flat
import DriverValidation.Proofs.FeatureStatus.Judgement
import DriverValidation.Proofs.FeatureStatus.Load
import DriverValidation.Proofs.Files.Again
import DriverValidation.Proofs.Files.Directories
import DriverValidation.Proofs.Files.File
import DriverValidation.Proofs.Files.Outside
import DriverValidation.Proofs.Files.Path
import DriverValidation.Proofs.Files.Tree
import DriverValidation.Proofs.Files.Variant
import DriverValidation.Proofs.Pod.Builds
import DriverValidation.Proofs.Pod.Labels
import DriverValidation.Proofs.Pod.Merge
import DriverValidation.Proofs.Probe.Alone
import DriverValidation.Proofs.Probe.Command
import DriverValidation.Proofs.Program.Start
import DriverValidation.Proofs.Run.Again
import DriverValidation.Proofs.Run.Attempts
import DriverValidation.Proofs.Run.Commands
import DriverValidation.Proofs.Run.Components
import DriverValidation.Proofs.Run.Effect
import DriverValidation.Proofs.Run.Fate
import DriverValidation.Proofs.Run.Flags
import DriverValidation.Proofs.Run.Outside
import DriverValidation.Proofs.Run.Recording
import DriverValidation.Proofs.Run.Session
import DriverValidation.Proofs.Run.Simulation
import DriverValidation.Proofs.Run.Stages
import DriverValidation.Proofs.Text.Ascii
import DriverValidation.Proofs.Text.Lenient
import DriverValidation.Proofs.Text.Utf8
import DriverValidation.Proofs.Toml.Line
import DriverValidation.Proofs.Validation.Acts
import DriverValidation.Proofs.Validation.Cancellation
import DriverValidation.Proofs.Validation.Diary
import DriverValidation.Proofs.Validation.Errors
import DriverValidation.Proofs.Validation.Journal
import DriverValidation.Proofs.Validation.Preservation
import DriverValidation.Proofs.Validation.Verdict
import DriverValidation.Proofs.Yaml.Blank
import DriverValidation.Proofs.Yaml.Flat.Text
import DriverValidation.Proofs.Yaml.Flat.Tokens
import DriverValidation.Proofs.Yaml.Flat.Value
import DriverValidation.Proofs.Yaml.Keys
import DriverValidation.Reason
import DriverValidation.Regex.Basic
import DriverValidation.Regex.Bracket
import DriverValidation.Regex.OfChars
import DriverValidation.Regex.Usable
import DriverValidation.Rehearsal
import DriverValidation.Rehearsal.Scripted
import DriverValidation.Run
import DriverValidation.Shell.Builtin
import DriverValidation.Shell.Expansion
import DriverValidation.Shell.Fields
import DriverValidation.Shell.Glob
import DriverValidation.Shell.Glob.Paths
import DriverValidation.Shell.Machine
import DriverValidation.Shell.Pattern
import DriverValidation.Shell.Reader.Command
import DriverValidation.Shell.Reader.Token
import DriverValidation.Shell.Reader.Word
import DriverValidation.Shell.Redirection
import DriverValidation.Shell.Running
import DriverValidation.Shell.Script
import DriverValidation.Shell.Signal
import DriverValidation.Shell.Source
import DriverValidation.Shell.Sum
import DriverValidation.Shell.Syntax
import DriverValidation.Shell.Token
import DriverValidation.Shell.Utility
import DriverValidation.Shell.Utility.Condition
import DriverValidation.Shell.Utility.Expression
import DriverValidation.Shell.Utility.Files
import DriverValidation.Shell.Utility.Options
import DriverValidation.Shell.Utility.Program
import DriverValidation.Shell.Utility.Search
import DriverValidation.Shell.Utility.Text
import DriverValidation.Text.Blank
import DriverValidation.Text.Code
import DriverValidation.Text.Letter
import DriverValidation.Text.Printable
import DriverValidation.Text.Quoted
import DriverValidation.Text.Utf8
import DriverValidation.Toml.Document
import DriverValidation.Toml.Item
import DriverValidation.Toml.Scalar
import DriverValidation.Toml.Text
import DriverValidation.Toml.Value
import DriverValidation.Validation
import DriverValidation.ValidationError
import DriverValidation.Yaml.Character
import DriverValidation.Yaml.Cursor
import DriverValidation.Yaml.Document
import DriverValidation.Yaml.Error
import DriverValidation.Yaml.Node
import DriverValidation.Yaml.Node.OfTokens
import DriverValidation.Yaml.Scalar.Block
import DriverValidation.Yaml.Scalar.Gap
import DriverValidation.Yaml.Scalar.Meaning
import DriverValidation.Yaml.Scalar.Plain
import DriverValidation.Yaml.Scalar.Quoted
import DriverValidation.Yaml.Tag
import DriverValidation.Yaml.Token
import DriverValidation.Yaml.Token.Lexer
import DriverValidation.Yaml.Token.Property
import DriverValidation.Yaml.Value
import DriverValidation.Yaml.Value.OfDocument
