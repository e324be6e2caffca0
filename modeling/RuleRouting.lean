import RuleRouting.Cli.Arguments
import RuleRouting.Cli.Filter
import RuleRouting.Cli.Program
import RuleRouting.Cli.Similarity
import RuleRouting.Config.Build
import RuleRouting.Config.Dispatcher
import RuleRouting.Config.File
import RuleRouting.Config.Read
import RuleRouting.Data.OrderedMap
import RuleRouting.Error
import RuleRouting.Http.Message
import RuleRouting.Http.Uri
import RuleRouting.Log
import RuleRouting.Main
import RuleRouting.Pattern.Delimited
import RuleRouting.Pattern.Rule
import RuleRouting.Proofs.AbsoluteRedirects
import RuleRouting.Proofs.BackReferences
import RuleRouting.Proofs.ConfigValidation
import RuleRouting.Proofs.ConfiguredRouters
import RuleRouting.Proofs.DelimitedSyntax
import RuleRouting.Proofs.FormDecoding
import RuleRouting.Proofs.Groups
import RuleRouting.Proofs.HostPriority
import RuleRouting.Proofs.OrderedMap
import RuleRouting.Proofs.PathPairs
import RuleRouting.Proofs.PrefixedRules
import RuleRouting.Proofs.QueryPrecedence
import RuleRouting.Proofs.RegexRoutes
import RuleRouting.Proofs.RegistrationErrors
import RuleRouting.Proofs.RequestExtraction
import RuleRouting.Proofs.Registrations
import RuleRouting.Proofs.Reloads
import RuleRouting.Proofs.RuleMatching
import RuleRouting.Proofs.SearchFuel
import RuleRouting.Proofs.Sendable
import RuleRouting.Proofs.Slicing
import RuleRouting.Proofs.VerbatimRequests
import RuleRouting.Proofs.Walk
import RuleRouting.Query.Basic
import RuleRouting.Query.Form
import RuleRouting.Query.PathPairs
import RuleRouting.Regex.CharSet
import RuleRouting.Regex.Compiled
import RuleRouting.Regex.Flags
import RuleRouting.Regex.Parse
import RuleRouting.Regex.Program
import RuleRouting.Regex.Property
import RuleRouting.Regex.Report
import RuleRouting.Regex.Search
import RuleRouting.Regex.Syntax
import RuleRouting.Route.Basic
import RuleRouting.Route.Decompose
import RuleRouting.Route.Domain
import RuleRouting.Route.Handler
import RuleRouting.Route.Method
import RuleRouting.Route.Option
import RuleRouting.Route.Request
import RuleRouting.Route.Resolve
import RuleRouting.Route.Router
import RuleRouting.Route.Table
import RuleRouting.Route.Target
import RuleRouting.Server.Admin
import RuleRouting.Server.Lifecycle
import RuleRouting.Service.Dispatch
import RuleRouting.Service.Envelope
import RuleRouting.Text.BinaryProperty
import RuleRouting.Text.Blank
import RuleRouting.Text.CaseFold
import RuleRouting.Text.Category
import RuleRouting.Text.CodeRanges
import RuleRouting.Text.Letter
import RuleRouting.Text.Lowercase
import RuleRouting.Text.Number
import RuleRouting.Text.Script
import RuleRouting.Text.Split
import RuleRouting.Text.Utf8
import RuleRouting.Text.Word
import RuleRouting.Yaml.Decode
import RuleRouting.Yaml.Node
import RuleRouting.Yaml.Parse
