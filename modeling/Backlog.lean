import Backlog.Date.Basic
import Backlog.Date.Threshold
import Backlog.Date.Written
import Backlog.Invocation.Argument
import Backlog.Invocation.Configuration
import Backlog.Invocation.Reading
import Backlog.Main
import Backlog.Program
import Backlog.Proofs.ByteOrder
import Backlog.Proofs.FieldDivision
import Backlog.Proofs.FoundFiles
import Backlog.Proofs.HeadGrammar
import Backlog.Proofs.IdleLines
import Backlog.Proofs.InputLines
import Backlog.Proofs.LineCut
import Backlog.Proofs.OwnDate
import Backlog.Proofs.RemarkSpans
import Backlog.Proofs.SearchVisits
import Backlog.Proofs.SelectionCut
import Backlog.Proofs.SessionCourse
import Backlog.Proofs.SessionOrder
import Backlog.Proofs.StableSort
import Backlog.Proofs.TableLayout
import Backlog.Proofs.TableRecovery
import Backlog.Proofs.ThresholdReading
import Backlog.Proofs.TodoComparison
import Backlog.Proofs.TreePlaces
import Backlog.Proofs.Trimming
import Backlog.Proofs.VisitOrder
import Backlog.Proofs.WrittenFile
import Backlog.Proofs.WrittenRemark
import Backlog.Remark.Head
import Backlog.Remark.Span
import Backlog.Session.Command
import Backlog.Session.Reply
import Backlog.Session.Transcript
import Backlog.Source.Creation
import Backlog.Source.Node
import Backlog.Source.Path
import Backlog.Source.Search
import Backlog.Table.Column
import Backlog.Table.Layout
import Backlog.Text.Basic
import Backlog.Text.Blank
import Backlog.Text.DecimalDigit
import Backlog.Text.Line
import Backlog.Text.Lowercase
import Backlog.Text.Utf8
import Backlog.Todo.Basic
import Backlog.Todo.Fields
import Backlog.Todo.Order
import Backlog.Todo.Selection
import Backlog.Todo.Written
import Backlog.Proofs.SmallLetters
import Backlog.Proofs.LowerCase
import Backlog.Proofs.LetterCase
import Backlog.Proofs.UserCase
import Backlog.Proofs.OwnUser
import Backlog.Proofs.LineEndings
import Backlog.Proofs.TableLines
import Backlog.Proofs.PathResolution
import Backlog.Proofs.ProgramOutcome
import Backlog.Proofs.PrefixSelection
import Backlog.Proofs.DateReading
import Backlog.Proofs.TextLines
import Backlog.Proofs.AskedWords
import Backlog.Proofs.ArgumentKinds
import Backlog.Proofs.WrittenInvocation
import Backlog.Proofs.SortedParts
import Backlog.Proofs.UserBlocks
import Backlog.Proofs.ShownValues
import Backlog.Proofs.WrittenDate
import Backlog.Proofs.ByteEnds
import Backlog.Proofs.FullDateEnd
import Backlog.Proofs.HeadReading
import Backlog.Proofs.FieldMarks
import Backlog.Proofs.RemarkRescan
import Backlog.Proofs.ReorderedRows
import Backlog.Proofs.FindingParts
import Backlog.Proofs.SearchOptions
import Backlog.Proofs.FullDatePlaces
import Backlog.Proofs.SingleSemicolon
