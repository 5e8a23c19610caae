import ShaderVariants.Text.Bytes
import ShaderVariants.Text.Utf8
import ShaderVariants.Text.Blank
import ShaderVariants.Text.Printable
import ShaderVariants.Text.Quoted
import ShaderVariants.Text.Base64
import ShaderVariants.Table
import ShaderVariants.Path
import ShaderVariants.Token
import ShaderVariants.Document
import ShaderVariants.Source
import ShaderVariants.Problem
import ShaderVariants.Document.Parser
import ShaderVariants.Document.Outline
import ShaderVariants.Expansion
import ShaderVariants.Diagnostic
import ShaderVariants.Shader
import ShaderVariants.Text.Case
import ShaderVariants.Text.Digit
import ShaderVariants.Decimal.Shortest
import ShaderVariants.Validation
import ShaderVariants.Config
import ShaderVariants.Config.Value
import ShaderVariants.Config.Overrides
import ShaderVariants.Cache.Sha256
import ShaderVariants.Cache
import ShaderVariants.Config.Decode
import ShaderVariants.Config.Load
import ShaderVariants.Decimal.Read
import ShaderVariants.Yaml.Token
import ShaderVariants.Yaml.Token.Lexer
import ShaderVariants.Yaml.Node
import ShaderVariants.Yaml.Scalar
import ShaderVariants.Yaml.Document
import ShaderVariants.Disk
import ShaderVariants.Batch
import ShaderVariants.Text.Letter
import ShaderVariants.Starlark.Token
import ShaderVariants.Starlark.Token.Lexer
import ShaderVariants.Starlark.Syntax
import ShaderVariants.Starlark.Syntax.Parser
import ShaderVariants.Starlark.Scope
import ShaderVariants.Starlark.Value
import ShaderVariants.Starlark.Operator
import ShaderVariants.Starlark.Args
import ShaderVariants.Starlark.Method
import ShaderVariants.Starlark.Builtin
import ShaderVariants.Starlark.Eval
import ShaderVariants.Starlark.Program
import ShaderVariants.Toml.Expression
import ShaderVariants.Toml.Expression.Parser
import ShaderVariants.Toml.Document
import ShaderVariants.Main
import ShaderVariants.Proofs.Sweep
import ShaderVariants.Proofs.ParseInduction
import ShaderVariants.Proofs.LiveExpansion
import ShaderVariants.Proofs.LineTokens
import ShaderVariants.Proofs.SourceMap
import ShaderVariants.Proofs.DiagnosticTrace
import ShaderVariants.Proofs.TokenStream
import ShaderVariants.Proofs.Grammar
import ShaderVariants.Proofs.ParseErrors
import ShaderVariants.Proofs.FlagReads
import ShaderVariants.Proofs.IncludeTree
import ShaderVariants.Proofs.FlagDependence
import ShaderVariants.Proofs.IncludeDepth
import ShaderVariants.Proofs.LoaderCalls
import ShaderVariants.Proofs.FlagWords
import ShaderVariants.Proofs.NameChecks
import ShaderVariants.Proofs.OutputPaths
import ShaderVariants.Proofs.DecodingOrder
import ShaderVariants.Proofs.CacheFiles
import ShaderVariants.Proofs.CacheLedger
import ShaderVariants.Proofs.CacheConcurrency
import ShaderVariants.Proofs.FaultMessages
import ShaderVariants.Proofs.LineSpelling
import ShaderVariants.Proofs.BatchSchedule
import ShaderVariants.Proofs.CachedBuilds
import ShaderVariants.Proofs.CacheKeys
import ShaderVariants.Proofs.PermutationNames
import ShaderVariants.Proofs.FlagAssignments
import ShaderVariants.Proofs.JobCount
import ShaderVariants.Proofs.DocumentShape
import ShaderVariants.Proofs.PlainText
import ShaderVariants.Proofs.LineOrigins
