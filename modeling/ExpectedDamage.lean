import ExpectedDamage.Adventure
import ExpectedDamage.Area.Estimate
import ExpectedDamage.Area.TargetRule
import ExpectedDamage.Area.Template
import ExpectedDamage.Area.Wording
import ExpectedDamage.Breakpoint.CheatSheet
import ExpectedDamage.Breakpoint.Report
import ExpectedDamage.Breakpoint.Resource
import ExpectedDamage.Breakpoint.Sweep
import ExpectedDamage.Character.Basic
import ExpectedDamage.Combat.Ability
import ExpectedDamage.Combat.Attack
import ExpectedDamage.Combat.Chance
import ExpectedDamage.Combat.Context
import ExpectedDamage.CommandLine.Arguments
import ExpectedDamage.CommandLine.Command
import ExpectedDamage.CommandLine.Display
import ExpectedDamage.CommandLine.Event
import ExpectedDamage.CommandLine.Plain
import ExpectedDamage.CommandLine.Run
import ExpectedDamage.CommandLine.Script
import ExpectedDamage.Dice.Expression
import ExpectedDamage.Dice.Parser
import ExpectedDamage.Dice.Printer
import ExpectedDamage.Dice.Roll
import ExpectedDamage.Dice.Scaling
import ExpectedDamage.Dice.Statistics
import ExpectedDamage.Document.Cursor
import ExpectedDamage.Document.Json.Printer
import ExpectedDamage.Document.Json.Reader
import ExpectedDamage.Document.Yaml.Node
import ExpectedDamage.Document.Yaml.Reader
import ExpectedDamage.Document.Yaml.Scalar
import ExpectedDamage.Document.Yaml.Token
import ExpectedDamage.Keyed
import ExpectedDamage.Library.Folder
import ExpectedDamage.Library.Loading
import ExpectedDamage.Library.Settings
import ExpectedDamage.Library.Variables
import ExpectedDamage.Main
import ExpectedDamage.Notice
import ExpectedDamage.Number.Amount
import ExpectedDamage.Number.Binary64
import ExpectedDamage.Number.Decimal
import ExpectedDamage.Number.Fault
import ExpectedDamage.Number.Figure
import ExpectedDamage.Number.Rounding
import ExpectedDamage.Number.WholeSum
import ExpectedDamage.Number.WholeText
import ExpectedDamage.Number.WrittenDecimal
import ExpectedDamage.Number.WrittenWhole
import ExpectedDamage.Proofs.Breakpoint.PowerAttack
import ExpectedDamage.Proofs.Breakpoint.PowerTrade
import ExpectedDamage.Proofs.Breakpoint.Table
import ExpectedDamage.Proofs.Combat.Chance
import ExpectedDamage.Proofs.Combat.ExpectedDamage
import ExpectedDamage.Proofs.Dice.Canonical
import ExpectedDamage.Proofs.Dice.Grammar
import ExpectedDamage.Proofs.Dice.Phrase
import ExpectedDamage.Proofs.Dice.Reading
import ExpectedDamage.Proofs.Dice.Roll
import ExpectedDamage.Proofs.Dice.Search
import ExpectedDamage.Proofs.Dice.SurroundingWords
import ExpectedDamage.Proofs.Dice.Validity
import ExpectedDamage.Proofs.Number.AccumulatedError
import ExpectedDamage.Proofs.Number.RoundingError
import ExpectedDamage.Proofs.Number.Success
import ExpectedDamage.Proofs.Text.Numeral
import ExpectedDamage.Proofs.Text.PieceRow
import ExpectedDamage.Proofs.Text.Spelling
import ExpectedDamage.Record.Checked
import ExpectedDamage.Record.Field
import ExpectedDamage.Record.Scalar
import ExpectedDamage.Record.Value
import ExpectedDamage.Session
import ExpectedDamage.Spell.Analysis
import ExpectedDamage.Spell.AnalysisRecord
import ExpectedDamage.Spell.Basic
import ExpectedDamage.Spell.CantripTier
import ExpectedDamage.Spell.Correction
import ExpectedDamage.Spell.DamageType
import ExpectedDamage.Spell.Duration
import ExpectedDamage.Spell.Efficiency
import ExpectedDamage.Spell.Expectation
import ExpectedDamage.Spell.Ranking
import ExpectedDamage.Spell.Selection
import ExpectedDamage.Spell.Tactics
import ExpectedDamage.Text.Blank
import ExpectedDamage.Text.DecimalDigit
import ExpectedDamage.Text.Hidden
import ExpectedDamage.Text.Lowercase
import ExpectedDamage.Text.Piece
import ExpectedDamage.Text.Quoted
import ExpectedDamage.Text.Search
import ExpectedDamage.Text.Split
import ExpectedDamage.Text.Word
import ExpectedDamage.Text.WordCharacter
import ExpectedDamage.Proofs.Dice.Average
import ExpectedDamage.Proofs.Dice.AverageBounds
import ExpectedDamage.Proofs.Number.Range
import ExpectedDamage.Proofs.Area.Estimate
import ExpectedDamage.Proofs.Spell.Analysis
import ExpectedDamage.Proofs.Document.JsonNumbers
import ExpectedDamage.Proofs.Library.Loading
import ExpectedDamage.Proofs.Number.Magnitude
import ExpectedDamage.Proofs.Dice.Magnitude
import ExpectedDamage.Proofs.Area.Magnitude
import ExpectedDamage.Proofs.Spell.Magnitude
import ExpectedDamage.Proofs.Number.Order
import ExpectedDamage.Proofs.Area.Coverage
import ExpectedDamage.Proofs.Record.Reading
import ExpectedDamage.Proofs.Combat.Overrides
import ExpectedDamage.Proofs.Spell.Ranking
import ExpectedDamage.Proofs.Dice.Scaling
import ExpectedDamage.Proofs.Spell.Upcasting
import ExpectedDamage.Proofs.Record.Outcome
import ExpectedDamage.Proofs.Combat.Independence
import ExpectedDamage.Proofs.Record.Reload
import ExpectedDamage.Proofs.Record.Renaming
import ExpectedDamage.Proofs.Record.Survival
import ExpectedDamage.Proofs.CommandLine.StartingContext
import ExpectedDamage.Proofs.Spell.Toughness
import ExpectedDamage.Proofs.Dice.AddedDice
import ExpectedDamage.Proofs.Dice.StepwiseScaling
import ExpectedDamage.Proofs.Area.Growth
import ExpectedDamage.Proofs.Spell.BestForSlot
import ExpectedDamage.Proofs.Text.FirstPlace
import ExpectedDamage.Proofs.Area.Mention
import ExpectedDamage.Proofs.Record.Refusal
import ExpectedDamage.Proofs.Library.AllOrNothing
import ExpectedDamage.Proofs.Spell.CantripTiers
import ExpectedDamage.Proofs.Area.Recognition
import ExpectedDamage.Proofs.Text.Words
import ExpectedDamage.Proofs.Spell.ChoiceWording
import ExpectedDamage.Proofs.Combat.ChanceOrder
import ExpectedDamage.Proofs.Number.Comparison
import ExpectedDamage.Proofs.Combat.CriticalHits
import ExpectedDamage.Proofs.Dice.Normalization
import ExpectedDamage.Proofs.Dice.SubtractedDice
import ExpectedDamage.Proofs.Area.Crowding
import ExpectedDamage.Proofs.Text.Quantity
import ExpectedDamage.Proofs.Area.LineLength
import ExpectedDamage.Proofs.Spell.DurationRange
import ExpectedDamage.Proofs.Spell.Consistency
import ExpectedDamage.Proofs.CommandLine.Transcript
import ExpectedDamage.Proofs.CommandLine.RowLimit
import ExpectedDamage.Proofs.Record.Merging
import ExpectedDamage.Proofs.CommandLine.CantripBlocks
import ExpectedDamage.Proofs.Text.SmallLetters
import ExpectedDamage.Proofs.Spell.Selection
import ExpectedDamage.Proofs.Spell.BestDamage
import ExpectedDamage.Proofs.Breakpoint.StunningStrike
import ExpectedDamage.Proofs.Breakpoint.Advantage
import ExpectedDamage.Proofs.Dice.KeptAndDropped
import ExpectedDamage.Proofs.Session
