import WalletRecovery.Bytes
import WalletRecovery.CommandLine.Arguments
import WalletRecovery.CommandLine.Console
import WalletRecovery.CommandLine.Folder
import WalletRecovery.CommandLine.Number
import WalletRecovery.CommandLine.Parameter
import WalletRecovery.CommandLine.Parser
import WalletRecovery.CommandLine.Run
import WalletRecovery.CommandLine.Session
import WalletRecovery.CommandLine.Usage
import WalletRecovery.Curve.Compressed
import WalletRecovery.Curve.Field
import WalletRecovery.Curve.Jacobian
import WalletRecovery.Curve.Point
import WalletRecovery.Curve.Scalar
import WalletRecovery.Decimal.Binary64
import WalletRecovery.Decimal.Shortest
import WalletRecovery.Diagnosis
import WalletRecovery.Document.Toml.Lexeme
import WalletRecovery.Document.Toml.Reader
import WalletRecovery.Document.Toml.Scalar
import WalletRecovery.Document.Toml.Tree
import WalletRecovery.Document.Toml.Writer
import WalletRecovery.Document.Value
import WalletRecovery.Encoding.Base58
import WalletRecovery.Encoding.Bech32
import WalletRecovery.Hash.Hmac
import WalletRecovery.Hash.Ripemd160
import WalletRecovery.Hash.Sha2
import WalletRecovery.ImportScript.Job
import WalletRecovery.ImportScript.Line
import WalletRecovery.ImportScript.Sink
import WalletRecovery.ImportScript.Strategy
import WalletRecovery.Key.Codec
import WalletRecovery.Key.Derivation
import WalletRecovery.Key.Extended
import WalletRecovery.Key.Representation
import WalletRecovery.Key.Root
import WalletRecovery.Key.Walk
import WalletRecovery.Log.Directive
import WalletRecovery.Log.Event
import WalletRecovery.Log.FieldValue
import WalletRecovery.Log.Filter
import WalletRecovery.Log.Identity
import WalletRecovery.Log.Pattern.Basic
import WalletRecovery.Log.Pattern.Bracket
import WalletRecovery.Log.Pattern.Escape
import WalletRecovery.Log.Pattern.Parser
import WalletRecovery.Log.Pattern.Support
import WalletRecovery.Log.Threshold
import WalletRecovery.Main
import WalletRecovery.Mnemonic.Basic
import WalletRecovery.Mnemonic.WordList
import WalletRecovery.Network
import WalletRecovery.Numeral
import WalletRecovery.Path.Basic
import WalletRecovery.Path.ChildNumber
import WalletRecovery.Path.Parser
import WalletRecovery.Rescan.Height
import WalletRecovery.Settings.Basic
import WalletRecovery.Settings.File
import WalletRecovery.Settings.Plan
import WalletRecovery.Settings.Reader
import WalletRecovery.Text.Alphanumeric
import WalletRecovery.Text.Blank
import WalletRecovery.Text.CharRange
import WalletRecovery.Text.CombiningClass
import WalletRecovery.Text.DecompositionTable
import WalletRecovery.Text.Normalize
import WalletRecovery.Text.Quoted
import WalletRecovery.Text.Terminal
import WalletRecovery.Text.Unshown
import WalletRecovery.Time.Birthday
import WalletRecovery.Time.Calendar
import WalletRecovery.Time.Instant
import WalletRecovery.Time.Scan
import WalletRecovery.Time.Timestamp
import WalletRecovery.Proofs.Curve.Group
import WalletRecovery.Proofs.Curve.Multiple
import WalletRecovery.Proofs.Key.Derivation
import WalletRecovery.Proofs.Key.Neuter
import WalletRecovery.Proofs.ImportScript.Draft
import WalletRecovery.Proofs.ImportScript.Run
import WalletRecovery.Proofs.Settings.Overlay
import WalletRecovery.Proofs.Rescan.Height
import WalletRecovery.Proofs.Settings.RescanHeight
import WalletRecovery.Proofs.ImportScript.Interruption
import WalletRecovery.Proofs.Numeral
import WalletRecovery.Proofs.Path.Grammar
import WalletRecovery.Proofs.Encoding.Base58
import WalletRecovery.Proofs.Curve.Compressed
import WalletRecovery.Proofs.Key.Codec
import WalletRecovery.Proofs.Key.Representation
import WalletRecovery.Proofs.ImportScript.KeyLine
import WalletRecovery.Proofs.ImportScript.WatchOnly
import WalletRecovery.Proofs.Key.Walk
import WalletRecovery.Proofs.Encoding.Bech32
import WalletRecovery.Proofs.Key.Address
import WalletRecovery.Proofs.CommandLine.Birthday
import WalletRecovery.Proofs.CommandLine.Effects
import WalletRecovery.Proofs.CommandLine.Staging
import WalletRecovery.Proofs.CommandLine.Outcome
import WalletRecovery.Proofs.ImportScript.Failure
import WalletRecovery.Proofs.CommandLine.Confidentiality
import WalletRecovery.Proofs.CommandLine.Kind
import WalletRecovery.Proofs.Text.Reader
import WalletRecovery.Proofs.Time.Calendar
import WalletRecovery.Proofs.Time.Timestamp
import WalletRecovery.Proofs.Document.Toml.Lexeme
import WalletRecovery.Proofs.Document.Toml.Lines
import WalletRecovery.Proofs.Settings.RoundTrip
import WalletRecovery.Proofs.Key.Course
import WalletRecovery.Proofs.Rescan.Estimate
import WalletRecovery.Proofs.Time.Rfc3339
import WalletRecovery.Proofs.Time.Strict
import WalletRecovery.Proofs.Time.Birthday
import WalletRecovery.Proofs.Time.Tolerance
import WalletRecovery.Proofs.Settings.StoredBirthday
import WalletRecovery.Proofs.CommandLine.Flag
import WalletRecovery.Proofs.CommandLine.Place
import WalletRecovery.Proofs.Text.Pieces
import WalletRecovery.Proofs.Path.Fault
import WalletRecovery.Proofs.Settings.Choice
import WalletRecovery.Proofs.CommandLine.Repetition
import WalletRecovery.Proofs.Mnemonic.Checksum
import WalletRecovery.Proofs.Key.Master
import WalletRecovery.Proofs.Settings.Layers
import WalletRecovery.Proofs.CommandLine.Sources
