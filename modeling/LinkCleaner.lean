import LinkCleaner.Backoff
import LinkCleaner.Cache
import LinkCleaner.Checked
import LinkCleaner.Clean
import LinkCleaner.Cli.Arguments
import LinkCleaner.Cli.Command
import LinkCleaner.Cli.Help
import LinkCleaner.Cli.Run
import LinkCleaner.Decimal.Binary64
import LinkCleaner.Decimal.Shortest
import LinkCleaner.Disk
import LinkCleaner.Event
import LinkCleaner.Fault
import LinkCleaner.Files
import LinkCleaner.Form
import LinkCleaner.Http.Location
import LinkCleaner.Http.Network
import LinkCleaner.Json.Basic
import LinkCleaner.Json.Reader
import LinkCleaner.Json.Shown
import LinkCleaner.Json.Writer
import LinkCleaner.Lenient
import LinkCleaner.Lenient.Number
import LinkCleaner.Main
import LinkCleaner.Options
import LinkCleaner.Options.Stored
import LinkCleaner.Pattern.Basic
import LinkCleaner.Pattern.Lexeme
import LinkCleaner.Pattern.Match
import LinkCleaner.Pattern.Parse
import LinkCleaner.Percent
import LinkCleaner.Proofs.Checked
import LinkCleaner.Proofs.Clean
import LinkCleaner.Proofs.Contract
import LinkCleaner.Proofs.Form.RoundTrip
import LinkCleaner.Proofs.Keep
import LinkCleaner.Proofs.Rules.Apply
import LinkCleaner.Proofs.Strip
import LinkCleaner.Proofs.Text.Ascii
import LinkCleaner.Proofs.Text.Cut
import LinkCleaner.Proofs.Text.Lowered
import LinkCleaner.Proofs.Text.SmallForms
import LinkCleaner.Proofs.Text.Utf8
import LinkCleaner.Proofs.Url.Address
import LinkCleaner.Proofs.Url.Authority
import LinkCleaner.Proofs.Url.RoundTrip
import LinkCleaner.Proofs.Url.Sound
import LinkCleaner.Redirector
import LinkCleaner.Refresh
import LinkCleaner.Result
import LinkCleaner.Rules.Apply
import LinkCleaner.Rules.Compile
import LinkCleaner.Rules.Provider
import LinkCleaner.Settings
import LinkCleaner.Sha256
import LinkCleaner.Strip
import LinkCleaner.Surroundings
import LinkCleaner.Text.Basic
import LinkCleaner.Text.Case
import LinkCleaner.Text.Case.Table
import LinkCleaner.Text.Case.Variants
import LinkCleaner.Text.Class
import LinkCleaner.Text.Utf8
import LinkCleaner.Tracking
import LinkCleaner.Url.Address
import LinkCleaner.Url.Basic
import LinkCleaner.Url.Error
import LinkCleaner.Url.Parse
import LinkCleaner.Variables
import LinkCleaner.Variables.File
import LinkCleaner.Yaml.Cursor
import LinkCleaner.Yaml.Datum
import LinkCleaner.Yaml.Node
import LinkCleaner.Yaml.Plain
import LinkCleaner.Yaml.Scalar
import LinkCleaner.Yaml.Token
import LinkCleaner.Proofs.Form.Size
import LinkCleaner.Proofs.Redirector
import LinkCleaner.Proofs.Again
import LinkCleaner.Proofs.Disk
import LinkCleaner.Proofs.Refresh.Step
import LinkCleaner.Proofs.Refresh.Integrity
import LinkCleaner.Proofs.Refresh.Promise
import LinkCleaner.Proofs.Refresh.Schedule
import LinkCleaner.Proofs.Rules.Parameters
import LinkCleaner.Proofs.Rules.Reading
import LinkCleaner.Proofs.Rules.Tidy
import LinkCleaner.Proofs.Rules.Untouched
import LinkCleaner.Proofs.Pattern.Exact
import LinkCleaner.Proofs.Rules.Observed
import LinkCleaner.Proofs.NoFragment
import LinkCleaner.Proofs.Unchanged
import LinkCleaner.Proofs.Provenance
import LinkCleaner.Proofs.Text.Digits
import LinkCleaner.Proofs.Decimal.Rounding
import LinkCleaner.Proofs.Decimal.Shortest
import LinkCleaner.Proofs.Json.Number
import LinkCleaner.Proofs.Json.RoundTrip
import LinkCleaner.Proofs.Refresh.Digest
import LinkCleaner.Proofs.Refresh.Reload
import LinkCleaner.Proofs.Pattern.Opening
import LinkCleaner.Proofs.Rules.Placed
import LinkCleaner.Proofs.Agreement
import LinkCleaner.Proofs.Rules.TakenOver
import LinkCleaner.Proofs.Unwanted
import LinkCleaner.Proofs.Written
import LinkCleaner.Proofs.Cli.OneLine
import LinkCleaner.Proofs.Repeated
import LinkCleaner.Proofs.Url.Page
import LinkCleaner.Proofs.Rules.Kept
import LinkCleaner.Proofs.Wrapped
import LinkCleaner.Proofs.Pattern.Target
import LinkCleaner.Proofs.Rules.Nested
import LinkCleaner.Proofs.Text.Apart
import LinkCleaner.Proofs.Url.Host
import LinkCleaner.Proofs.Http.Attempts
import LinkCleaner.Proofs.Refresh.Attempts
import LinkCleaner.Proofs.Cli.KeptOptions
