import TaskNotes.Check
import TaskNotes.CommandLine
import TaskNotes.Disk
import TaskNotes.Format.Block
import TaskNotes.Format.Box
import TaskNotes.Format.Escape
import TaskNotes.Format.Inline
import TaskNotes.Gather
import TaskNotes.Json
import TaskNotes.Limiter
import TaskNotes.Log
import TaskNotes.Main
import TaskNotes.Mark.Box
import TaskNotes.Mark.Pattern
import TaskNotes.Mark.ProjectId
import TaskNotes.Mark.TaskId
import TaskNotes.Markup.Blocks
import TaskNotes.Markup.CharRef
import TaskNotes.Markup.Delimiter
import TaskNotes.Markup.Document
import TaskNotes.Markup.Line
import TaskNotes.Markup.Marker
import TaskNotes.Markup.Spans
import TaskNotes.Markup.Syntax
import TaskNotes.Markup.Tag
import TaskNotes.Markup.Target
import TaskNotes.Markup.Tree
import TaskNotes.Node
import TaskNotes.Node.Schema
import TaskNotes.Node.Walk
import TaskNotes.Path
import TaskNotes.Plan
import TaskNotes.Plan.Command
import TaskNotes.Plan.Contents
import TaskNotes.Plan.Index
import TaskNotes.Plan.Links
import TaskNotes.Plan.Merge
import TaskNotes.Plan.Output
import TaskNotes.Proofs.Agreement
import TaskNotes.Proofs.AscendingListings
import TaskNotes.Proofs.Authored
import TaskNotes.Proofs.AuthoredNumbering
import TaskNotes.Proofs.Carriers
import TaskNotes.Proofs.CleanSchedules
import TaskNotes.Proofs.CodeSpans
import TaskNotes.Proofs.Confinement
import TaskNotes.Proofs.Corpus
import TaskNotes.Proofs.DiskAccess
import TaskNotes.Proofs.DiskViews
import TaskNotes.Proofs.DistinctNumbers
import TaskNotes.Proofs.DocumentOrder
import TaskNotes.Proofs.DrawnNumbers
import TaskNotes.Proofs.DryRuns
import TaskNotes.Proofs.DumpedTrees
import TaskNotes.Proofs.Edits
import TaskNotes.Proofs.EscapedBoxes
import TaskNotes.Proofs.EscapedText
import TaskNotes.Proofs.FencedCode
import TaskNotes.Proofs.FilledRegions
import TaskNotes.Proofs.FixedPoint
import TaskNotes.Proofs.GatherSchedules
import TaskNotes.Proofs.Identifier
import TaskNotes.Proofs.InPlace
import TaskNotes.Proofs.IndexTree
import TaskNotes.Proofs.InertInlines
import TaskNotes.Proofs.InertSource
import TaskNotes.Proofs.ItemBoxes
import TaskNotes.Proofs.KeptPlaces
import TaskNotes.Proofs.LinkDestinations
import TaskNotes.Proofs.ListedNumbers
import TaskNotes.Proofs.ListedPlaces
import TaskNotes.Proofs.ListedTasks
import TaskNotes.Proofs.Listings
import TaskNotes.Proofs.Lists
import TaskNotes.Proofs.LiteralCharacters
import TaskNotes.Proofs.Merge
import TaskNotes.Proofs.MergedCommands
import TaskNotes.Proofs.NeighbouringLists
import TaskNotes.Proofs.NumberedText
import TaskNotes.Proofs.NumberedTree
import TaskNotes.Proofs.NumeralLimits
import TaskNotes.Proofs.Outcome
import TaskNotes.Proofs.OutsideRegions
import TaskNotes.Proofs.Percent
import TaskNotes.Proofs.Places
import TaskNotes.Proofs.PlainBlocks
import TaskNotes.Proofs.QuietLines
import TaskNotes.Proofs.Refilled
import TaskNotes.Proofs.RegionBodies
import TaskNotes.Proofs.Relink
import TaskNotes.Proofs.ReplacedRegions
import TaskNotes.Proofs.Resolve
import TaskNotes.Proofs.RoundTrip
import TaskNotes.Proofs.Routes
import TaskNotes.Proofs.Schedules
import TaskNotes.Proofs.Seed
import TaskNotes.Proofs.SingleDocument
import TaskNotes.Proofs.SkippedCommands
import TaskNotes.Proofs.Sortable
import TaskNotes.Proofs.Success
import TaskNotes.Proofs.TextNormalForm
import TaskNotes.Proofs.UpdatedLinks
import TaskNotes.Proofs.Ways
import TaskNotes.Proofs.WordCharacters
import TaskNotes.Proofs.WrittenBlocks
import TaskNotes.Proofs.WrittenLines
import TaskNotes.Region
import TaskNotes.Render.Block
import TaskNotes.Render.Escape
import TaskNotes.Render.Inline
import TaskNotes.Rounding
import TaskNotes.Run
import TaskNotes.Settings
import TaskNotes.Settings.Assignment
import TaskNotes.Task.Allocator
import TaskNotes.Task.Numbering
import TaskNotes.Task.Record
import TaskNotes.Task.Title
import TaskNotes.Text.Alphanumeric
import TaskNotes.Text.BaseLetters
import TaskNotes.Text.Blank
import TaskNotes.Text.Cased
import TaskNotes.Text.Casefold
import TaskNotes.Text.CodeTable
import TaskNotes.Text.Digit
import TaskNotes.Text.Lines
import TaskNotes.Text.NaturalOrder
import TaskNotes.Text.Punctuation
import TaskNotes.Text.Quoted
import TaskNotes.Text.Utf8
import TaskNotes.Url.Address
import TaskNotes.Url.Percent
import TaskNotes.Url.Punycode
import TaskNotes.Url.Reference
