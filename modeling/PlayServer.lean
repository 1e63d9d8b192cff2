import PlayServer.Admin.Http
import PlayServer.Connection.Peer
import PlayServer.Server.Lifecycle
import PlayServer.Proofs.Lobby.Move
import PlayServer.Proofs.Lobby.Run
import PlayServer.Proofs.Lobby.Membership
import PlayServer.Proofs.Lobby.Numbering
import PlayServer.Proofs.Account.Decline
import PlayServer.Proofs.Server.Effect
import PlayServer.Proofs.Login.Standing
import PlayServer.Proofs.Lobby.Admission
import PlayServer.Proofs.Login.Check
import PlayServer.Proofs.Connection.Delivery
import PlayServer.Proofs.Wire.Framing
import PlayServer.Proofs.Wire.Payload
import PlayServer.Proofs.Lobby.Roster
import PlayServer.Proofs.Lobby.Host
import PlayServer.Proofs.Lobby.Pass
import PlayServer.Proofs.Lobby.Retirement
import PlayServer.Proofs.Lobby.Step
import PlayServer.Proofs.Lobby.Interleaving
import PlayServer.Proofs.Lobby.Agreement
import PlayServer.Proofs.Account.Stamp
import PlayServer.Proofs.Wire.Ending
import PlayServer.Proofs.Server.Post
import PlayServer.Proofs.Server.Notice
import PlayServer.Proofs.Server.Turn
import PlayServer.Proofs.Server.Closed
import PlayServer.Proofs.Server.Consistency
import PlayServer.Proofs.Server.Announcement
import PlayServer.Proofs.Server.Serving
import PlayServer.Proofs.Server.Agreement
import PlayServer.Proofs.Server.Noninterference
import PlayServer.Proofs.Server.Isolation
import PlayServer.Proofs.Lobby.Terms
import PlayServer.Proofs.Lobby.Authority
import PlayServer.Proofs.Lobby.Refusal
import PlayServer.Proofs.Lobby.Search
import PlayServer.Proofs.Connection.AddressCap
import PlayServer.Proofs.Server.Reply
import PlayServer.Proofs.Server.Answer
import PlayServer.Proofs.Server.Refusal
import PlayServer.Proofs.Server.View
import PlayServer.Proofs.Server.Listing
import PlayServer.Proofs.Server.Trail
import PlayServer.Proofs.Login.Rejection
import PlayServer.Proofs.Game.Reading
import PlayServer.Proofs.Server.Malformed
import PlayServer.Proofs.Lobby.Orderly
import PlayServer.Proofs.Server.Orderly
import PlayServer.Proofs.Server.Reclamation
import PlayServer.Proofs.Server.Addressing
import PlayServer.Proofs.Server.Discipline
import PlayServer.Proofs.Server.Start
import PlayServer.Proofs.Server.Shutdown
import PlayServer.Proofs.Login.Stamping
import PlayServer.Proofs.Server.Ledger
import PlayServer.Proofs.Text.Prefix
import PlayServer.Proofs.Wire.Cursor
import PlayServer.Proofs.Login.Grammar
import PlayServer.Proofs.Account.CharacterList
import PlayServer.Proofs.Lobby.Broadcast
import PlayServer.Proofs.Server.Readiness
import PlayServer.Proofs.Server.Chat
import PlayServer.Proofs.Text.Pieces
import PlayServer.Proofs.Text.Base64
import PlayServer.Proofs.Text.Numeral
import PlayServer.Proofs.Account.Credential
import PlayServer.Proofs.Account.Run
import PlayServer.Proofs.Account.Integrity
import PlayServer.Proofs.Audit.Line
import PlayServer.Proofs.Audit.Retention
import PlayServer.Proofs.Audit.Accounting
import PlayServer.Proofs.Metrics.Percentile
import PlayServer.Proofs.Text.Trim
import PlayServer.Proofs.Config.Loading
import PlayServer.Proofs.Admin.AuditQuery
import PlayServer.Proofs.Wire.RoundTrip
