import CodeNotes.CommandLine
import CodeNotes.Main
import CodeNotes.Proofs.Groups
import CodeNotes.Proofs.Slices
import CodeNotes.Proofs.LeftmostReading
import CodeNotes.Proofs.LineReading
import CodeNotes.Proofs.WrittenNotes
import CodeNotes.Proofs.Conversation
import CodeNotes.Proofs.MalformedInput
import CodeNotes.Proofs.DateTokens
import CodeNotes.Proofs.StableOrder
import CodeNotes.Proofs.FileTree
import CodeNotes.Proofs.PathTexts
import CodeNotes.Proofs.FileWalk
import CodeNotes.Proofs.GlobLists
import CodeNotes.Proofs.Selection
import CodeNotes.Proofs.AddedFile
import CodeNotes.Proofs.SortedFilters
import CodeNotes.Proofs.UserOrder
import CodeNotes.Proofs.DirectoryGlobs
import CodeNotes.Proofs.FollowedLinks
import CodeNotes.Proofs.CommandOutcome
import CodeNotes.Proofs.TableLines
import CodeNotes.Proofs.Transcript
import CodeNotes.Proofs.JsonReader
import CodeNotes.Proofs.JsonTexts
import CodeNotes.Proofs.TracedTasks
import CodeNotes.Proofs.CommandGrammar
import CodeNotes.Proofs.QueryDates
import CodeNotes.Proofs.DateCommand
import CodeNotes.Proofs.TableWidths
import CodeNotes.Proofs.TableColumns
import CodeNotes.Proofs.ReorderedTables
import CodeNotes.Proofs.SlicedFields
import CodeNotes.Proofs.SlicedScan
