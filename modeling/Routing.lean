import Routing.Text.Blank
import Routing.Text.Ascii
import Routing.Text.Pieces
import Routing.Unicode.RangeTable
import Routing.Unicode.Category
import Routing.Unicode.Property
import Routing.Unicode.Script
import Routing.Unicode.ScriptExtension
import Routing.Unicode.CaseFold
import Routing.Regex.CharSet
import Routing.Regex.Node
import Routing.Unicode.Letter
import Routing.Unicode.Name
import Routing.Regex.Parser
import Routing.Regex.Match
import Routing.Regex.Basic
import Routing.Regex.Escape
import Routing.Template.Defect
import Routing.Template.Basic
import Routing.Template.Placeholder
import Routing.Template.Pattern
import Routing.Text.Utf8
import Routing.Text.Percent
import Routing.Form
import Routing.Json
import Routing.Unicode.Uppercase
import Routing.Text.Quoted
import Routing.Error
import Routing.Method
import Routing.Params
import Routing.Request
import Routing.Response
import Routing.Breadcrumb
import Routing.Config
import Routing.Handler
import Routing.Registry
import Routing.Route
import Routing.Table
import Routing.Router
import Routing.Unicode.CombiningClass
import Routing.Unicode.Composition
import Routing.Unicode.Normal
import Routing.Url.Scheme
import Routing.Url.Ipv4
import Routing.Url.Ipv6
import Routing.Url.Path
import Routing.Url.Domain.Mapping
import Routing.Url.Domain.Direction
import Routing.Url.Domain.Joiner
import Routing.Url.Domain.Punycode
import Routing.Url.Domain.Basic
import Routing.Url.Host
import Routing.Url.Basic
import Routing.Target
import Routing.RawRequest
import Routing.Log.Level
import Routing.Log.Directive
import Routing.Log.Filter
import Routing.Log.Config
import Routing.Proofs.Threads
import Routing.Proofs.Positions
import Routing.Proofs.Sequence
import Routing.Proofs.Lookahead
import Routing.Proofs.Nesting
import Routing.Proofs.Reader
import Routing.Proofs.TemplateTree
import Routing.Proofs.Runs
import Routing.Proofs.BuiltIn
import Routing.Proofs.Anchoring
import Routing.Proofs.TemplateText
import Routing.Proofs.Decomposition
import Routing.Proofs.Matching
import Routing.Proofs.Acceptance
import Routing.Proofs.Captures
import Routing.Proofs.Dispatch
import Routing.Proofs.Registration
import Routing.Proofs.Priority
import Routing.Proofs.Enforcement
import Routing.Proofs.Merge
import Routing.Proofs.Defects
import Routing.Proofs.PropertyNames
import Routing.Proofs.Quiet
import Routing.Proofs.Consumption
import Routing.Proofs.Tokens
import Routing.Proofs.Enclosed
import Routing.Proofs.Fragments
import Routing.Proofs.Groups
import Routing.Proofs.Language
import Routing.Proofs.Repetition
import Routing.Proofs.Assembly
import Routing.Proofs.SelfContained
import Routing.Proofs.Replacement
import Routing.Proofs.ByteOrder
import Routing.Proofs.Resolution
import Routing.Proofs.NormalForm
import Routing.Proofs.Operations
import Routing.Proofs.Rendering
import Routing.Proofs.Containment
import Routing.Proofs.Coherence
import Routing.Proofs.Printing
import Routing.Proofs.Renaming
import Routing.Proofs.Incoming
import Routing.Proofs.PercentCoding
import Routing.Proofs.PathSegments
import Routing.Proofs.TargetForms
import Routing.Proofs.RoutedPath
import Routing.Proofs.FormFields
import Routing.Proofs.Stability
import Routing.Proofs.Trails
import Routing.Proofs.Headers
import Routing.Proofs.Settings
import Routing.Proofs.Specificity
import Routing.Proofs.DirectiveText
import Routing.Proofs.Filters
import Routing.Proofs.JsonText
import Routing.Proofs.JsonReader
import Routing.Proofs.Serialization
