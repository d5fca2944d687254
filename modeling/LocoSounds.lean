import LocoSounds.Binary64
import LocoSounds.Binary64.Arithmetic
import LocoSounds.Binary64.Shortest
import LocoSounds.Binary64.Text
import LocoSounds.Bundled
import LocoSounds.Car
import LocoSounds.Date
import LocoSounds.DateTime
import LocoSounds.Draw
import LocoSounds.Draw.Seeded
import LocoSounds.Draw.Twister
import LocoSounds.Evaluation
import LocoSounds.Field
import LocoSounds.FilePath
import LocoSounds.FileTree
import LocoSounds.Journal
import LocoSounds.Journal.Output
import LocoSounds.Json
import LocoSounds.Library
import LocoSounds.Library.Files
import LocoSounds.Location
import LocoSounds.ParseError
import LocoSounds.Proofs.Evaluation.Inlining
import LocoSounds.Proofs.Evaluation.Walk
import LocoSounds.Proofs.Registry.Build
import LocoSounds.Proofs.Registry.Resolution
import LocoSounds.Proofs.Rule.Parts
import LocoSounds.Proofs.Rule.References
import LocoSounds.Proofs.Success
import LocoSounds.Registry
import LocoSounds.Registry.Build
import LocoSounds.Registry.Resolution
import LocoSounds.Rule
import LocoSounds.Rule.Choice
import LocoSounds.Rule.Grammar
import LocoSounds.Rule.Outline
import LocoSounds.Rule.References
import LocoSounds.Selector
import LocoSounds.Selector.Setup
import LocoSounds.Settings
import LocoSounds.Skin
import LocoSounds.Skin.Cache
import LocoSounds.Skin.Modules
import LocoSounds.Sound
import LocoSounds.Sound.Grammar
import LocoSounds.SoundSet
import LocoSounds.Text.Base64
import LocoSounds.Text.BaseNumeral
import LocoSounds.Text.CaseTable
import LocoSounds.Text.Codes
import LocoSounds.Text.Lines
import LocoSounds.Text.Lowercase
import LocoSounds.Text.Numeral
import LocoSounds.Text.Quoted
import LocoSounds.Text.VisibleTable
import LocoSounds.Token
import LocoSounds.Token.Text
import LocoSounds.Yaml.Block
import LocoSounds.Yaml.Composition
import LocoSounds.Yaml.Document
import LocoSounds.Yaml.Fault
import LocoSounds.Yaml.Kind
import LocoSounds.Yaml.Lexeme
import LocoSounds.Yaml.Lexer
import LocoSounds.Yaml.Node
import LocoSounds.Yaml.Plain
import LocoSounds.Yaml.Quoted
import LocoSounds.Yaml.Scalar
import LocoSounds.Yaml.Spot
import LocoSounds.Yaml.TagName
import LocoSounds.Proofs.Evaluation.Locality
import LocoSounds.Proofs.Library.Loading
import LocoSounds.Proofs.Selector.Requests
import LocoSounds.Proofs.Binary64.Rounding
import LocoSounds.Proofs.Rule.Grammar
import LocoSounds.Proofs.Registry.Faults
import LocoSounds.Proofs.Registry.Pruning
import LocoSounds.Proofs.Evaluation.Conditions
import LocoSounds.Proofs.Evaluation.Simulation
import LocoSounds.Proofs.SoundSet
import LocoSounds.Proofs.Evaluation.Observation
import LocoSounds.Proofs.Evaluation.CarTypes
import LocoSounds.Proofs.Evaluation.Provenance
import LocoSounds.Proofs.Library.Merging
import LocoSounds.Proofs.Library.Union
import LocoSounds.Proofs.Library.Directory
import LocoSounds.Proofs.Library.Extension
import LocoSounds.Proofs.Registry.Outcomes
import LocoSounds.Proofs.Binary64.Exactness
import LocoSounds.Proofs.Rule.Thresholds
import LocoSounds.Proofs.Skin.Cache
import LocoSounds.Proofs.Rule.Shares
import LocoSounds.Proofs.Evaluation.Drawing
import LocoSounds.Proofs.Evaluation.Repetition
import LocoSounds.Proofs.Registry.FirstFault
import LocoSounds.Proofs.Rule.Fault
import LocoSounds.Proofs.Rule.Reading
import LocoSounds.Proofs.Rule.FirstFault
import LocoSounds.Proofs.Text.Lowercase
import LocoSounds.Proofs.Rule.Edits
import LocoSounds.Proofs.Sound.Grammar
import LocoSounds.Proofs.Evaluation.Reentry
import LocoSounds.Proofs.Selector.EntryPoints
import LocoSounds.Proofs.Selector.Reports
import LocoSounds.Proofs.Sound.Spelling
import LocoSounds.Proofs.Binary64.Characters
import LocoSounds.Proofs.Rule.Outline
import LocoSounds.Proofs.Draw.Seeded
import LocoSounds.Proofs.Skin.Replies
import LocoSounds.Proofs.Evaluation.Visits
import LocoSounds.Proofs.Evaluation.Replay
