import Signpost.Binary64
import Signpost.Cache
import Signpost.Dispatch
import Signpost.Failure
import Signpost.Forest
import Signpost.Pattern
import Signpost.Placeholder
import Signpost.Proofs.Cache
import Signpost.Proofs.Capture
import Signpost.Proofs.Forest
import Signpost.Proofs.Forest.Map
import Signpost.Proofs.Forest.Place
import Signpost.Proofs.Greedy
import Signpost.Proofs.Integer
import Signpost.Proofs.Pattern
import Signpost.Proofs.Placeholder
import Signpost.Proofs.Regex.Greedy
import Signpost.Proofs.Regex.Group
import Signpost.Proofs.Regex.GroupName
import Signpost.Proofs.Regex.Language
import Signpost.Proofs.Regex.Linear
import Signpost.Proofs.Regex.Link
import Signpost.Proofs.Regex.Meaning
import Signpost.Proofs.Regex.Names
import Signpost.Proofs.Regex.Row
import Signpost.Proofs.Regex.Size
import Signpost.Proofs.Regex.Steady
import Signpost.Proofs.Regex.Taken
import Signpost.Proofs.Regex.Way
import Signpost.Proofs.Reversal
import Signpost.Proofs.Router.Add
import Signpost.Proofs.Router.Checked
import Signpost.Proofs.Router.Dispatch
import Signpost.Proofs.Router.InTurn
import Signpost.Proofs.Router.Lazy
import Signpost.Proofs.Router.Named
import Signpost.Proofs.Router.Names
import Signpost.Proofs.Router.Nested
import Signpost.Proofs.Router.Pipeline
import Signpost.Proofs.Router.Policy
import Signpost.Proofs.Router.Reached
import Signpost.Proofs.Router.Register
import Signpost.Proofs.Router.Repeated
import Signpost.Proofs.Router.RoundTrip
import Signpost.Proofs.Router.Scan
import Signpost.Proofs.Router.Spelling
import Signpost.Proofs.Router.Under
import Signpost.Proofs.Settings
import Signpost.Proofs.Settings.Document
import Signpost.Proofs.Settings.Environment
import Signpost.Proofs.Target.Character
import Signpost.Proofs.Target.Path
import Signpost.Proofs.Target.Percent
import Signpost.Proofs.Target.Written
import Signpost.Proofs.Template.Alignment
import Signpost.Proofs.Template.Compiled
import Signpost.Proofs.Template.Expression
import Signpost.Proofs.Template.Filling
import Signpost.Proofs.Template.Join
import Signpost.Proofs.Template.Joint
import Signpost.Proofs.Template.Kind
import Signpost.Proofs.Template.Segments
import Signpost.Proofs.Template.Slash
import Signpost.Proofs.Template.Substitution
import Signpost.Proofs.Template.Unique
import Signpost.Proofs.Text.Utf8
import Signpost.Proofs.Toml.Table
import Signpost.Regex.Bracket
import Signpost.Regex.CharSet
import Signpost.Regex.Compile
import Signpost.Regex.Expr
import Signpost.Regex.Flags
import Signpost.Regex.Prog
import Signpost.Regex.Read
import Signpost.Regex.Search
import Signpost.Regex.Size
import Signpost.Regex.Token
import Signpost.Route
import Signpost.RouteError
import Signpost.Router
import Signpost.Settings
import Signpost.Settings.Document
import Signpost.Settings.Environment
import Signpost.Target
import Signpost.Target.Percent
import Signpost.Target.Uri
import Signpost.Template
import Signpost.Text
import Signpost.Text.Digit
import Signpost.Text.Quoted
import Signpost.Text.Utf8
import Signpost.Toml.DateTime
import Signpost.Toml.Layout
import Signpost.Toml.Number
import Signpost.Toml.Read
import Signpost.Toml.Value
import Signpost.Toml.Word
import Signpost.Unicode.Age
import Signpost.Unicode.Break
import Signpost.Unicode.CaseFold
import Signpost.Unicode.Category
import Signpost.Unicode.Character
import Signpost.Unicode.Property
import Signpost.Unicode.Query
import Signpost.Unicode.Ranges
import Signpost.Unicode.Recent
import Signpost.Unicode.Script
import Signpost.Value
import Signpost.Vars
