import ScopeLexer.Artifact.Build
import ScopeLexer.Artifact.Checkout
import ScopeLexer.Artifact.Revision
import ScopeLexer.CommandLine
import ScopeLexer.Cson
import ScopeLexer.Decimal.Numeral
import ScopeLexer.Decimal.Shortest
import ScopeLexer.Document
import ScopeLexer.Error
import ScopeLexer.Files.Disk
import ScopeLexer.Files.Operations
import ScopeLexer.Files.Path
import ScopeLexer.Grammar.Assembly
import ScopeLexer.Grammar.Candidates
import ScopeLexer.Grammar.Check
import ScopeLexer.Grammar.Error
import ScopeLexer.Grammar.Rule
import ScopeLexer.Json.Draft
import ScopeLexer.Json.Number
import ScopeLexer.Json.Printer
import ScopeLexer.Json.Quoted
import ScopeLexer.Json.Value
import ScopeLexer.Main
import ScopeLexer.Pattern.Anchors
import ScopeLexer.Pattern.Basic
import ScopeLexer.Pattern.Piece
import ScopeLexer.Plist.Data
import ScopeLexer.Plist.Date
import ScopeLexer.Plist.Element
import ScopeLexer.Plist.Markup
import ScopeLexer.Plist.Plain
import ScopeLexer.Plist.Printer
import ScopeLexer.Proofs.Acceptance
import ScopeLexer.Proofs.Arena
import ScopeLexer.Proofs.Assembling
import ScopeLexer.Proofs.AtomicBuilds
import ScopeLexer.Proofs.BareRepositories
import ScopeLexer.Proofs.BestMatch
import ScopeLexer.Proofs.Boundary
import ScopeLexer.Proofs.BoundedDocuments
import ScopeLexer.Proofs.ByteScopes
import ScopeLexer.Proofs.CacheTransparency
import ScopeLexer.Proofs.CarriedStacks
import ScopeLexer.Proofs.ContentScopes
import ScopeLexer.Proofs.ContinuedSpans
import ScopeLexer.Proofs.CsonText
import ScopeLexer.Proofs.DecimalDigits
import ScopeLexer.Proofs.DisabledElements
import ScopeLexer.Proofs.DisabledRules
import ScopeLexer.Proofs.DiskFiles
import ScopeLexer.Proofs.EmptyCycles
import ScopeLexer.Proofs.Flattening
import ScopeLexer.Proofs.GrammarShape
import ScopeLexer.Proofs.IncludedGroups
import ScopeLexer.Proofs.InnerScopes
import ScopeLexer.Proofs.JsonRoundTrip
import ScopeLexer.Proofs.JsonText
import ScopeLexer.Proofs.KeptStacks
import ScopeLexer.Proofs.LexicalScope
import ScopeLexer.Proofs.Likeness
import ScopeLexer.Proofs.LiteralSearch
import ScopeLexer.Proofs.MatchInText
import ScopeLexer.Proofs.MatchReach
import ScopeLexer.Proofs.NestedGroups
import ScopeLexer.Proofs.NestedScans
import ScopeLexer.Proofs.Outcome
import ScopeLexer.Proofs.Parentheses
import ScopeLexer.Proofs.PastGroups
import ScopeLexer.Proofs.PatternPieces
import ScopeLexer.Proofs.PatternValidation
import ScopeLexer.Proofs.Placeholders
import ScopeLexer.Proofs.Placement
import ScopeLexer.Proofs.PlistRoundTrip
import ScopeLexer.Proofs.PlistText
import ScopeLexer.Proofs.RegistryCoherence
import ScopeLexer.Proofs.RenamedGrammars
import ScopeLexer.Proofs.Renaming
import ScopeLexer.Proofs.Renumbering
import ScopeLexer.Proofs.RuleOrder
import ScopeLexer.Proofs.ScanCovers
import ScopeLexer.Proofs.ScanEnds
import ScopeLexer.Proofs.ScanSteps
import ScopeLexer.Proofs.ScopePrefixes
import ScopeLexer.Proofs.Simulation
import ScopeLexer.Proofs.SortedSources
import ScopeLexer.Proofs.SoundSources
import ScopeLexer.Proofs.SoundValues
import ScopeLexer.Proofs.StackEquality
import ScopeLexer.Proofs.StackLayers
import ScopeLexer.Proofs.StackMoves
import ScopeLexer.Proofs.SweepSteps
import ScopeLexer.Proofs.Tiling
import ScopeLexer.Proofs.TokenGrowth
import ScopeLexer.Proofs.WrittenSources
import ScopeLexer.Regex.Bracket
import ScopeLexer.Regex.Bytes
import ScopeLexer.Regex.CharSet
import ScopeLexer.Regex.Error
import ScopeLexer.Regex.Escape
import ScopeLexer.Regex.GroupName
import ScopeLexer.Regex.Matcher
import ScopeLexer.Regex.Options
import ScopeLexer.Regex.Parser
import ScopeLexer.Regex.Program
import ScopeLexer.Regex.Quantifier
import ScopeLexer.Regex.Search
import ScopeLexer.Regex.Syntax
import ScopeLexer.Regex.Token
import ScopeLexer.Registry
import ScopeLexer.Scope
import ScopeLexer.ScopeName
import ScopeLexer.Sorted
import ScopeLexer.Source.Decode
import ScopeLexer.Source.Format
import ScopeLexer.Source.Json
import ScopeLexer.Source.Names
import ScopeLexer.Source.Plist
import ScopeLexer.Source.Rule
import ScopeLexer.Source.Yaml
import ScopeLexer.Text.Basic
import ScopeLexer.Text.Offset
import ScopeLexer.Text.Quoted
import ScopeLexer.Tokenize.Captures
import ScopeLexer.Tokenize.Finder
import ScopeLexer.Tokenize.Line
import ScopeLexer.Tokenize.Options
import ScopeLexer.Tokenize.Scan
import ScopeLexer.Tokenize.Session
import ScopeLexer.Tokenize.Stack
import ScopeLexer.Tokenize.Token
import ScopeLexer.Tokenize.TokenJson
import ScopeLexer.Unicode.AgeData
import ScopeLexer.Unicode.BlockData
import ScopeLexer.Unicode.CaseData
import ScopeLexer.Unicode.Category
import ScopeLexer.Unicode.GraphemeData
import ScopeLexer.Unicode.Letter
import ScopeLexer.Unicode.LetterData
import ScopeLexer.Unicode.Property
import ScopeLexer.Unicode.PropertyData
import ScopeLexer.Unicode.RangeTable
import ScopeLexer.Unicode.ScriptData
import ScopeLexer.Unicode.Segment
import ScopeLexer.Unicode.WordBreakData
import ScopeLexer.Yaml.Event
import ScopeLexer.Yaml.Kind
import ScopeLexer.Yaml.Place
import ScopeLexer.Yaml.Scalar
import ScopeLexer.Yaml.Tag
import ScopeLexer.Yaml.Token
import ScopeLexer.Yaml.Tree
