import ChatApp.Lib.Run
import ChatApp.Lib.Prog
import ChatApp.Lib.Threads
import ChatApp.Lib.Table
import ChatApp.Lib.Text
import ChatApp.Lib.Decoder
import ChatApp.Lib.SortedMap
import ChatApp.Lib.Paging
import ChatApp.Session.WriteQueue
import ChatApp.Database.Types
import ChatApp.Database.Statement
import ChatApp.Database.Methods
import ChatApp.Database.Pairing
import ChatApp.Database.Locking
import ChatApp.Database.Connection
import ChatApp.Database.Tables
import ChatApp.Friends.Store
import ChatApp.Friends.Manager
import ChatApp.Friends.Symmetry
import ChatApp.WebSocket.Frame
import ChatApp.WebSocket.Receive
import ChatApp.WebSocket.Reassembly
import ChatApp.WebSocket.RoundTrip
import ChatApp.Server.Sessions
import ChatApp.Server.Heartbeat
import ChatApp.Server.Sweep
import ChatApp.Server.Registry
import ChatApp.Server.Unique
import ChatApp.Server.Active
import ChatApp.Gateway.State
import ChatApp.Gateway.Threads
import ChatApp.Gateway.Descriptors
import ChatApp.Gateway.Reads
import ChatApp.Gateway.Removal
import ChatApp.Gateway.Logins
import ChatApp.Gateway.Recipients
import ChatApp.Gateway.Presence
import ChatApp.Protocol.MessageType
import ChatApp.Protocol.Json
import ChatApp.Protocol.Codec
import ChatApp.Protocol.Frames
import ChatApp.Session.Calls
import ChatApp.Session.Managers
import ChatApp.Session.Handlers
import ChatApp.Session.Ledger
import ChatApp.Session.Bodies
import ChatApp.Session.Operations
import ChatApp.Session.Replies
import ChatApp.Session.World
import ChatApp.Session.Queries
import ChatApp.Session.Anonymous
import ChatApp.Session.Receipts
import ChatApp.Session.Recall
import ChatApp.Session.Pages
import ChatApp.Session.Erasure
import ChatApp.Gateway.History
import ChatApp.Lib.Workers
import ChatApp.Database.Atomic
import ChatApp.Groups.Store
import ChatApp.Groups.Manager
import ChatApp.Groups.Effects
import ChatApp.Groups.Authority
import ChatApp.Groups.Owners
import ChatApp.Groups.Transfer
import ChatApp.Session.Methods
import ChatApp.Friends.Methods
import ChatApp.Friends.Consent
import ChatApp.Users.Store
import ChatApp.Users.Methods
import ChatApp.Users.Effects
import ChatApp.Users.Names
import ChatApp.Users.Passwords
import ChatApp.Users.Profiles
import ChatApp.Media.Uploads
import ChatApp.Http.Requests
import ChatApp.Lib.Files
import ChatApp.Media.FileServer
import ChatApp.ThreadPool.State
import ChatApp.ThreadPool.Moves
import ChatApp.ThreadPool.Stop
import ChatApp.ThreadPool.Counters
import ChatApp.ThreadPool.Executions
import ChatApp.ThreadPool.Sleepers
import ChatApp.ThreadPool.Progress
import ChatApp.DatabasePool.State
import ChatApp.DatabasePool.Sharing
import ChatApp.Gateway.Messages
import ChatApp.Gateway.Keys
import ChatApp.Gateway.PrivateMessages
import ChatApp.Client.PrivateMessages
import ChatApp.Lib.Lists
import ChatApp.Client.Conversations
import ChatApp.Client.MessageDatabase
import ChatApp.Client.SavedMessages
import ChatApp.Client.ConcurrentSaves
import ChatApp.Client.WebSocketService
import ChatApp.Client.Connections
import ChatApp.Client.NetworkService
import ChatApp.Client.Requests
import ChatApp.Gateway.Responses
import ChatApp.Client.Responses
import ChatApp.Bot.DeepSeekClient
import ChatApp.Bot.Memory
import ChatApp.Bot.ChatCalls
import ChatApp.Media.Downloads
import ChatApp.ThreadPool.Answers
import ChatApp.Session.Refusals
import ChatApp.Pipeline.State
import ChatApp.Pipeline.Moves
import ChatApp.Pipeline.Order
import ChatApp.Pipeline.Numbers
import ChatApp.Pipeline.Logins
import ChatApp.Pipeline.Arrival
import ChatApp.Friends.Refusals
import ChatApp.Lib.Heap
import ChatApp.ThreadPool.Queue
import ChatApp.WebSocket.Limits
import ChatApp.Messages.Unread
import ChatApp.Groups.Invites
import ChatApp.Users.Search
import ChatApp.Session.Ids
import ChatApp.Session.Forwarding
import ChatApp.Lib.Leases
import ChatApp.Lib.Base64
import ChatApp.Media.Base64
import ChatApp.Media.SizeLimit
import ChatApp.Media.Confinement
import ChatApp.Media.Search
import ChatApp.DatabasePool.Query
import ChatApp.DatabasePool.Look
import ChatApp.DatabasePool.Waiting
import ChatApp.DatabasePool.Guards
import ChatApp.Lib.Search
import ChatApp.Media.Multipart
import ChatApp.Media.FormData
import ChatApp.Media.Forms
import ChatApp.Lib.Utf8
import ChatApp.Lib.JsonText
import ChatApp.Media.UploadResponse
import ChatApp.Client.ConversationOrder
import ChatApp.Client.StoredMessages
import ChatApp.Client.RecentMessages
import ChatApp.Client.RecalledMessages
import ChatApp.Bot.LeastRecent
import ChatApp.Bot.History
import ChatApp.Bot.Sessions
import ChatApp.Push.Shorten
import ChatApp.Push.JPushRequest
import ChatApp.Push.Tokens
import ChatApp.WebSocket.Bounds
import ChatApp.Media.Accumulator
import ChatApp.Gateway.GroupMembers
import ChatApp.Client.Reconnects
import ChatApp.Client.ShownMessages
import ChatApp.WebSocket.Delivery
import ChatApp.Protocol.Wire
import ChatApp.Client.Encryption
import ChatApp.Push.Notifications
import ChatApp.Http.Routing
import ChatApp.DatabasePool.Shutdown
import ChatApp.Http.Service
import ChatApp.WebSocket.Handshake
