import Forum.Action
import Forum.Badge.Awarding
import Forum.Badge.Basic
import Forum.Badge.Rule
import Forum.Binary64
import Forum.Binary64.Reading
import Forum.Config.Basic
import Forum.Config.Load
import Forum.Config.LogFilter
import Forum.Config.Tree
import Forum.Content
import Forum.Error
import Forum.Event
import Forum.Http.Change
import Forum.Http.Endpoint
import Forum.Http.Handler
import Forum.Http.Input
import Forum.Http.Language
import Forum.Http.Reply
import Forum.Http.Request
import Forum.Http.Server
import Forum.Instant
import Forum.Json.Decoder
import Forum.Json.Doc
import Forum.Json.Value
import Forum.Memory.Entry
import Forum.Memory.Store
import Forum.Metric
import Forum.Notification
import Forum.Object
import Forum.Program
import Forum.Queue.Basic
import Forum.Rank
import Forum.Reaction
import Forum.Search.Filter
import Forum.Search.Query
import Forum.Search.Service
import Forum.Service
import Forum.Sql.Search
import Forum.Sql.Statement
import Forum.Sql.Value
import Forum.Storage.Basic
import Forum.Storage.Connection
import Forum.Storage.Content
import Forum.Storage.Repository
import Forum.Storage.Session
import Forum.Storage.Setting
import Forum.Text.Alphanumeric
import Forum.Text.Blank
import Forum.Text.Integer
import Forum.Text.LetterCase
import Forum.Text.Letters
import Forum.Text.Pattern
import Forum.Text.Percent
import Forum.Text.Utf8
import Forum.Token
import Forum.Token.Base64url
import Forum.Token.Sha256
import Forum.Toml.Document
import Forum.Toml.Scalar
import Forum.Toml.Time
import Forum.Url
import Forum.User
import Forum.Proofs.World
import Forum.Proofs.Handler
import Forum.Proofs.Plan
import Forum.Proofs.Entitlement
import Forum.Proofs.Layers
import Forum.Proofs.Production
import Forum.Proofs.Rows
import Forum.Proofs.Readings
import Forum.Proofs.Transactions
import Forum.Proofs.Votes
import Forum.Proofs.VoteCount
import Forum.Proofs.Tables
import Forum.Proofs.Locks
import Forum.Proofs.Counts
import Forum.Proofs.Acceptance
import Forum.Proofs.Connection
import Forum.Proofs.AcceptedAnswer
import Forum.Proofs.VoteHistory
import Forum.Proofs.VoteRows
import Forum.Proofs.Transcript
import Forum.Proofs.Steady
import Forum.Proofs.AllOrNothing
import Forum.Proofs.Awards
import Forum.Proofs.Announcement
import Forum.Proofs.Results
import Forum.Proofs.Notified
import Forum.Proofs.Proposals
import Forum.Proofs.Judgements
import Forum.Proofs.Credit
import Forum.Proofs.Ledger
import Forum.Proofs.Isolation
import Forum.Proofs.Producers
import Forum.Proofs.Delivery
import Forum.Proofs.Capacity
import Forum.Proofs.Batch
import Forum.Proofs.Admission
import Forum.Proofs.Decimal
import Forum.Proofs.Spelling
import Forum.Proofs.Grammar
import Forum.Proofs.Exclusion
import Forum.Proofs.Filled
import Forum.Proofs.Conjuncts
import Forum.Proofs.Conditions
import Forum.Proofs.Arrangements
import Forum.Proofs.Matches
import Forum.Proofs.Searches
import Forum.Proofs.Pages
import Forum.Proofs.Placeholders
import Forum.Proofs.LikePatterns
import Forum.Proofs.CountAndPage
import Forum.Proofs.Queries
import Forum.Proofs.YesOrNo
import Forum.Proofs.ObjectIds
import Forum.Proofs.Deletion
import Forum.Proofs.Envelopes
import Forum.Proofs.Reasons
import Forum.Proofs.RequiredRank
import Forum.Proofs.PermissionQueries
import Forum.Proofs.SystemErrors
import Forum.Proofs.JsonIntegers
import Forum.Proofs.CachedSettings
import Forum.Proofs.Reactions
import Forum.Proofs.JsonTexts
import Forum.Proofs.Tokens
import Forum.Proofs.Rounding
import Forum.Proofs.ShortestDecimals
import Forum.Proofs.PlainTexts
import Forum.Proofs.TextSettings
