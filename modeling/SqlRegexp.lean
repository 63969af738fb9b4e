import SqlRegexp.Unicode.Identifier
import SqlRegexp.Unicode.Script
import SqlRegexp.Unicode.CaseFolding
import SqlRegexp.Unicode.Lowercase
import SqlRegexp.Unicode.WordBreak
import SqlRegexp.Text.Numeral
import SqlRegexp.Text.Padded
import SqlRegexp.Text.Utf8
import SqlRegexp.Text.Base64
import SqlRegexp.Pattern.Options
import SqlRegexp.Pattern.Property
import SqlRegexp.Pattern.Node
import SqlRegexp.Match.Search
import SqlRegexp.Pattern.Source
import SqlRegexp.Pattern.Literal
import SqlRegexp.Pattern.Bracket
import SqlRegexp.Pattern.Compile
import SqlRegexp.Value.Shown
import SqlRegexp.Value.RealLayout
import SqlRegexp.Engine.Basic
import SqlRegexp.Engine.Reference
import SqlRegexp.Dialect.Argument
import SqlRegexp.Dialect.Mode
import SqlRegexp.Dialect.PatternText
import SqlRegexp.Dialect.Functions
import SqlRegexp.Settings.Basic
import SqlRegexp.Verification.Table
import SqlRegexp.Files.Tree
import SqlRegexp.Files.Resolve
import SqlRegexp.Yaml.Token
import SqlRegexp.Yaml.Graph
import SqlRegexp.Yaml.Content
import SqlRegexp.Yaml.Reading
import SqlRegexp.Settings.File
import SqlRegexp.Settings.Discovery
import SqlRegexp.Time.Format
import SqlRegexp.Logging.Template
import SqlRegexp.Logging.Setup
import SqlRegexp.CommandLine.Arguments
import SqlRegexp.CommandLine.Run
import SqlRegexp.Main
import SqlRegexp.Proofs.Walk
import SqlRegexp.Proofs.Locate
import SqlRegexp.Proofs.Match.Renumbering
import SqlRegexp.Proofs.Match.Attempts
import SqlRegexp.Proofs.Match.Enclosing
import SqlRegexp.Proofs.Pattern.Onward
import SqlRegexp.Proofs.Pattern.Raised
import SqlRegexp.Proofs.Pattern.Counterpart
import SqlRegexp.Proofs.Pattern.Abreast.Basic
import SqlRegexp.Proofs.Pattern.Abreast.Escape
import SqlRegexp.Proofs.Pattern.Abreast.Bracket
import SqlRegexp.Proofs.Text.Numeral
import SqlRegexp.Proofs.Pattern.Abreast.Reference
import SqlRegexp.Proofs.Pattern.Abreast.Quantifier
import SqlRegexp.Proofs.Pattern.Abreast.Level
import SqlRegexp.Proofs.Pattern.Abreast.Parenthesis
import SqlRegexp.Proofs.Pattern.Abreast.Sequence
import SqlRegexp.Proofs.Functions
import SqlRegexp.Proofs.Position
import SqlRegexp.Proofs.Pattern.Abreast.Whole
import SqlRegexp.Proofs.Pattern.Abreast.Compile
import SqlRegexp.Proofs.Pattern.Clear
import SqlRegexp.Proofs.Engine
import SqlRegexp.Proofs.Enclosing
import SqlRegexp.Proofs.Occurrences
import SqlRegexp.Proofs.Mode
import SqlRegexp.Proofs.Range
import SqlRegexp.Proofs.Failures
import SqlRegexp.Proofs.WholeGroup
import SqlRegexp.Proofs.Precedence
import SqlRegexp.Proofs.CommandLine
import SqlRegexp.Proofs.Pattern.Literal
import SqlRegexp.Proofs.Match.Text
import SqlRegexp.Proofs.Literal
import SqlRegexp.Proofs.Match.Leftmost
import SqlRegexp.Proofs.Presence
import SqlRegexp.Proofs.Pattern.Token
import SqlRegexp.Proofs.Pattern.Shifted
import SqlRegexp.Proofs.Pattern.Pinned.Node
import SqlRegexp.Proofs.Pattern.Pinned.Text
import SqlRegexp.Proofs.Pattern.Pinned.Follow
import SqlRegexp.Proofs.Pattern.Pinned.Escape
import SqlRegexp.Proofs.Pattern.Pinned.Group
import SqlRegexp.Proofs.Pattern.Pinned.Parenthesis
import SqlRegexp.Proofs.Pattern.Pinned.Whole
import SqlRegexp.Proofs.Pattern.Pinned.Arranging
import SqlRegexp.Proofs.Pattern.Pinned.Compile
import SqlRegexp.Proofs.EndAnchors
import SqlRegexp.Proofs.Settings
import SqlRegexp.Proofs.Yaml.Keeps
import SqlRegexp.Proofs.Yaml.Scalar
import SqlRegexp.Proofs.Yaml.Content
import SqlRegexp.Proofs.Yaml.Escape
import SqlRegexp.Proofs.Yaml.Graph
import SqlRegexp.Proofs.Yaml.Reading
import SqlRegexp.Proofs.SettingsFile
import SqlRegexp.Proofs.Unicode.Digit
import SqlRegexp.Proofs.Pattern.Numbered
import SqlRegexp.Proofs.Pattern.Commuting
import SqlRegexp.Proofs.References
import SqlRegexp.Proofs.Files
import SqlRegexp.Proofs.Discovery
import SqlRegexp.Proofs.Logging.Line
import SqlRegexp.Proofs.Logging
