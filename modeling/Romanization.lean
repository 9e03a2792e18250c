import Romanization.Catalog.Basic
import Romanization.Catalog.Registry
import Romanization.Catalog.RuleFile
import Romanization.Catalog.RulesFolder
import Romanization.Check
import Romanization.Cluster
import Romanization.CodePoint
import Romanization.Decimal.Binary64
import Romanization.Decimal.Integer
import Romanization.Decimal.Shortest
import Romanization.Dictionary
import Romanization.Error
import Romanization.Http.App
import Romanization.Http.Client
import Romanization.Http.Host
import Romanization.Http.Name
import Romanization.Http.Payload
import Romanization.Http.Response
import Romanization.Http.Url
import Romanization.Json.Basic
import Romanization.Json.Quoted
import Romanization.Json.Reader
import Romanization.Json.Writable
import Romanization.Romanizer
import Romanization.RuleTable.Basic
import Romanization.RuleTable.Build
import Romanization.RuleTable.Key
import Romanization.RuleTable.Lookup
import Romanization.RuleTable.Unchecked
import Romanization.Scheme.Brahmic
import Romanization.Scheme.BuiltIn
import Romanization.Scheme.Cyrillic
import Romanization.Script.Basic
import Romanization.Script.Run
import Romanization.Service
import Romanization.Session
import Romanization.Settings.Basic
import Romanization.Settings.EnvFile
import Romanization.Text.Basic
import Romanization.Text.Blank
import Romanization.Text.Buffer
import Romanization.Text.Case
import Romanization.Text.Encoding
import Romanization.Text.Punycode
import Romanization.Text.Quoted
import Romanization.Text.Utf8
import Romanization.Unicode.CaseContext
import Romanization.Unicode.CaseMapping
import Romanization.Unicode.Category
import Romanization.Unicode.CombiningClass
import Romanization.Unicode.Composition
import Romanization.Unicode.Decomposition
import Romanization.Unicode.NameUnit
import Romanization.Unicode.NormalForm
import Romanization.Proofs.Dictionary
import Romanization.Proofs.RuleTable.Longest
import Romanization.Proofs.RuleTable.Segmentation
import Romanization.Proofs.RuleTable.Built
import Romanization.Proofs.RuleTable.Tiling
import Romanization.Proofs.RuleTable.Cut
import Romanization.Proofs.RuleTable.Merge
import Romanization.Proofs.RuleTable.Respelling
import Romanization.Proofs.Text.Buffer
import Romanization.Proofs.Scheme.Brahmic.Places
import Romanization.Proofs.Scheme.Brahmic.Consonants
import Romanization.Proofs.Scheme.Brahmic.Rules
import Romanization.Proofs.Scheme.Brahmic.Reading
import Romanization.Proofs.Scheme.Brahmic.InherentVowel
import Romanization.Proofs.Scheme.Brahmic.Respelling
import Romanization.Proofs.Script.Tokens
import Romanization.Proofs.Script.Runs
import Romanization.Proofs.RuleTable.ByScript
import Romanization.Proofs.Scheme.BuiltIn
import Romanization.Proofs.Catalog.Standard
import Romanization.Proofs.Romanizer
import Romanization.Proofs.Catalog.Respelling
import Romanization.Proofs.Service
import Romanization.Proofs.Service.Routing
import Romanization.Proofs.Catalog.Additions
import Romanization.Proofs.Catalog.RulesFolder
import Romanization.Proofs.Catalog.Build
import Romanization.Proofs.Catalog.Contents
import Romanization.Proofs.Catalog.Reachable
import Romanization.Proofs.Catalog.RuleFile
import Romanization.Proofs.Catalog.Failure
import Romanization.Proofs.Session
import Romanization.Proofs.Http.Gate
import Romanization.Proofs.Catalog.Custom
import Romanization.Proofs.Catalog.Thorough
import Romanization.Proofs.Catalog.Legible
import Romanization.Proofs.Service.Whole
import Romanization.Proofs.Http.Reload
import Romanization.Proofs.Http.Scripts
import Romanization.Proofs.Http.Transliteration
import Romanization.Proofs.RuleTable.Union
import Romanization.Proofs.Scheme.Cyrillic
import Romanization.Proofs.RuleTable.Locality
import Romanization.Proofs.RuleTable.Offence
import Romanization.Proofs.RuleTable.Order
import Romanization.Proofs.Service.Words
import Romanization.Proofs.Text.Growth
import Romanization.Proofs.Text.Trimmed
import Romanization.Proofs.Service.Trimmed
import Romanization.Proofs.Catalog.Shape
import Romanization.Proofs.Offsets
import Romanization.Proofs.Room
import Romanization.Proofs.RuleTable.Ending
