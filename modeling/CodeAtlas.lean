import CodeAtlas.Conversation.Answer
import CodeAtlas.Main
import CodeAtlas.RunLog.Reading
import CodeAtlas.Search.Points
import CodeAtlas.Search.Question
import CodeAtlas.Service.App
import CodeAtlas.Service.Client
import CodeAtlas.Tool.Dispatch
import CodeAtlas.Proofs.Search.Terms
import CodeAtlas.Proofs.Search.Lookups
import CodeAtlas.Proofs.Search.Ranking
import CodeAtlas.Proofs.Store.Memory
import CodeAtlas.Proofs.Search.InMemory
import CodeAtlas.Proofs.Time.Clock
import CodeAtlas.Proofs.FileTree.Follow
import CodeAtlas.Proofs.Store.Database
import CodeAtlas.Proofs.Store.Texts
import CodeAtlas.Proofs.Store.Requests
import CodeAtlas.Proofs.Store.Agreement
import CodeAtlas.Proofs.Schema.Validation
import CodeAtlas.Proofs.Tool.Dispatch
import CodeAtlas.Proofs.Conversation.Transcript
import CodeAtlas.Proofs.Conversation.Traces
import CodeAtlas.Proofs.Store.Writes
import CodeAtlas.Proofs.FileTree.Paths
import CodeAtlas.Proofs.FileTree.Reading
import CodeAtlas.Proofs.FileTree.Real
import CodeAtlas.Proofs.FileTree.Collecting
import CodeAtlas.Proofs.FileTree.SameBut
import CodeAtlas.Proofs.FileTree.Alike
import CodeAtlas.Proofs.Store.Holdings
import CodeAtlas.Proofs.Index.Run
import CodeAtlas.Proofs.Text.Blank
import CodeAtlas.Proofs.Index.Keywords
import CodeAtlas.Proofs.Index.Committed
import CodeAtlas.Proofs.Text.Pieces
import CodeAtlas.Proofs.Search.Stored
import CodeAtlas.Proofs.Index.Findable
import CodeAtlas.Proofs.Store.Interleaved
import CodeAtlas.Proofs.Search.Agreement
import CodeAtlas.Proofs.RunLog.Kept
import CodeAtlas.Proofs.Text.Halves
import CodeAtlas.Proofs.Service.Responses
import CodeAtlas.Proofs.Service.Runs
import CodeAtlas.Proofs.Index.Entries
import CodeAtlas.Proofs.Index.Again
import CodeAtlas.Proofs.Time.Dates
import CodeAtlas.Proofs.Store.Times
import CodeAtlas.Proofs.Text.Sigmas
import CodeAtlas.Proofs.Search.Verbatim
import CodeAtlas.Proofs.Store.Directories
import CodeAtlas.Proofs.Store.Failures
import CodeAtlas.Proofs.FileTree.PlainNames
import CodeAtlas.Proofs.Index.Mirrored
import CodeAtlas.Proofs.Store.Opened
import CodeAtlas.Proofs.Index.Excluded
import CodeAtlas.Proofs.Search.Reordered
import CodeAtlas.Proofs.Decimal.Finite
import CodeAtlas.Proofs.Tool.Advertised
import CodeAtlas.Proofs.Conversation.Requests
import CodeAtlas.Proofs.Conversation.Loose
import CodeAtlas.Proofs.FileTree.Listed
import CodeAtlas.Proofs.Text.Utf8
import CodeAtlas.Proofs.FileTree.TooLong
import CodeAtlas.Proofs.FileTree.Described
import CodeAtlas.Proofs.FileTree.Spelled
import CodeAtlas.Proofs.Store.Attempts
import CodeAtlas.Proofs.Store.Made
import CodeAtlas.Proofs.Store.Unprepared
import CodeAtlas.Proofs.Index.FirstTags
import CodeAtlas.Proofs.Search.LetterCase
import CodeAtlas.Proofs.RunLog.Newest
import CodeAtlas.Proofs.Text.Tokens
import CodeAtlas.Proofs.Tool.Registering
import CodeAtlas.Proofs.RunLog.Percentile
import CodeAtlas.Proofs.Schema.Integers
import CodeAtlas.Proofs.Service.Listing
import CodeAtlas.Proofs.Logging.Words
import CodeAtlas.Proofs.Logging.Configured
