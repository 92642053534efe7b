import RunBoard.Main
import RunBoard.Proofs.Course
import RunBoard.Proofs.Board.Rows
import RunBoard.Proofs.Board.Steps
import RunBoard.Proofs.Board.Following
import RunBoard.Proofs.Board.Releasing
import RunBoard.Proofs.Realtime.Errands
import RunBoard.Proofs.Realtime.Topics
import RunBoard.Proofs.Realtime.Turns
import RunBoard.Proofs.Realtime.Coherence
import RunBoard.Proofs.Realtime.Handshake
import RunBoard.Proofs.Realtime.Audience
import RunBoard.Proofs.Realtime.Agreement
import RunBoard.Proofs.Run.Succession
import RunBoard.Proofs.Board.Convergence
import RunBoard.Proofs.Board.Progress
import RunBoard.Proofs.Board.Abreast
import RunBoard.Proofs.Board.Currency
import RunBoard.Proofs.Board.Paging
import RunBoard.Proofs.Session.Running
import RunBoard.Proofs.Session.Account
import RunBoard.Proofs.Session.Conduct
import RunBoard.Proofs.Session.Stopping
import RunBoard.Proofs.Text.Numerals
import RunBoard.Proofs.Time.Calendar
import RunBoard.Proofs.Time.Layouts
import RunBoard.Proofs.Json.Members
import RunBoard.Proofs.Json.Records
import RunBoard.Proofs.Run.Wire
import RunBoard.Proofs.Console.Pager
import RunBoard.Proofs.Board.Reporting
import RunBoard.Proofs.Board.Mirroring
import RunBoard.Proofs.Realtime.Delivery
import RunBoard.Proofs.Board.Patching
import RunBoard.Proofs.Board.Aligning
import RunBoard.Proofs.Realtime.Editing
import RunBoard.Proofs.Realtime.Posting
import RunBoard.Proofs.Realtime.Openings
import RunBoard.Proofs.Board.Guarding
import RunBoard.Proofs.Board.Counting
import RunBoard.Proofs.Board.Locality
import RunBoard.Proofs.Board.Selecting
import RunBoard.Proofs.Backend.Parameters
import RunBoard.Proofs.Board.Replacing
import RunBoard.Proofs.Time.Agreement
import RunBoard.Proofs.Run.Rearranging
import RunBoard.Proofs.Console.Deleting
import RunBoard.Proofs.Backend.Removals
import RunBoard.Proofs.Dashboard.Halves
import RunBoard.Proofs.Realtime.Pairs
import RunBoard.Proofs.Realtime.Edges
import RunBoard.Proofs.Run.Ranks
import RunBoard.Proofs.Display.Rows
import RunBoard.Proofs.Console.Numbering
