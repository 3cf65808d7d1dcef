import TransferGateway.Addresses
import TransferGateway.Comparing
import TransferGateway.Config.Agreement
import TransferGateway.Config.Allowlisted
import TransferGateway.Config.App
import TransferGateway.Config.Conditions
import TransferGateway.Config.Counters
import TransferGateway.Config.RandomHosts
import TransferGateway.Config.Ranking
import TransferGateway.Config.Reading
import TransferGateway.Config.RequestHost
import TransferGateway.Config.Routing
import TransferGateway.Config.Sections
import TransferGateway.Config.Selection
import TransferGateway.Config.Vhosts
import TransferGateway.Dns
import TransferGateway.Dns.Shares
import TransferGateway.Downloads
import TransferGateway.Files
import TransferGateway.Ip2region.Location
import TransferGateway.Ip2region.Update
import TransferGateway.Leftovers
import TransferGateway.Lib.Arena
import TransferGateway.Lib.Argmax
import TransferGateway.Lib.Base128
import TransferGateway.Lib.BigEndian
import TransferGateway.Lib.Budget
import TransferGateway.Lib.Grammar
import TransferGateway.Lib.Mixing
import TransferGateway.Lib.Mutex
import TransferGateway.Lib.Pool
import TransferGateway.Lib.Prog
import TransferGateway.Lib.Rotation
import TransferGateway.Lib.Spacing
import TransferGateway.Lib.Steps
import TransferGateway.Lib.Substitution
import TransferGateway.Lib.Threads
import TransferGateway.Lib.Weighted
import TransferGateway.Logging
import TransferGateway.Messages
import TransferGateway.Permits
import TransferGateway.Placeholders
import TransferGateway.Protocol
import TransferGateway.Protocol.Client
import TransferGateway.Protocol.JsonReading
import TransferGateway.Protocol.LegacyReading
import TransferGateway.Protocol.LegacyText
import TransferGateway.Protocol.Packets
import TransferGateway.Protocol.Words
import TransferGateway.Quotas
import TransferGateway.Runtime.Bootstrap
import TransferGateway.Runtime.Cadence
import TransferGateway.Runtime.Coherence
import TransferGateway.Runtime.Footprint
import TransferGateway.Runtime.Freshness
import TransferGateway.Runtime.Interrupted
import TransferGateway.Runtime.Jobs
import TransferGateway.Runtime.Main
import TransferGateway.Runtime.Settling
import TransferGateway.Runtime.Startup
import TransferGateway.Runtime.State
import TransferGateway.Runtime.Timers
import TransferGateway.Runtime.Watcher
import TransferGateway.Runtime.Writers
import TransferGateway.Security.Accepted
import TransferGateway.Security.Blocklists
import TransferGateway.Security.Entries
import TransferGateway.Security.Families
import TransferGateway.Security.IpTrie
import TransferGateway.Security.Lists
import TransferGateway.Security.Update
import TransferGateway.Server.Answers
import TransferGateway.Server.Arrived
import TransferGateway.Server.Backends
import TransferGateway.Server.Budget
import TransferGateway.Server.Connection
import TransferGateway.Server.Frames
import TransferGateway.Server.Interleaving
import TransferGateway.Server.Limiter
import TransferGateway.Server.Login
import TransferGateway.Server.LoginSession
import TransferGateway.Server.Resolution
import TransferGateway.Server.Rotation
import TransferGateway.Server.Run
import TransferGateway.Server.Status
import TransferGateway.Server.StatusSession
import TransferGateway.Server.Stream
import TransferGateway.Server.Varints
import TransferGateway.Std
import TransferGateway.System
import TransferGateway.Toml
