import Vortex.KeyDirectory.Handout
import Vortex.Olm.Ratchet
import Vortex.Olm.Checked
import Vortex.Olm.Sealing
import Vortex.KeyDirectory.Formats
import Vortex.Gateway.PublishEvent
import Vortex.Gateway.Authorization
import Vortex.Gateway.Typing
import Vortex.Gateway.Leftovers
import Vortex.Gateway.Unseen
import Vortex.Social.Pairs
import Vortex.Accounts.Redemption
import Vortex.Accounts.Lockout
import Vortex.Channels.Deletions
import Vortex.Channels.Ciphertext
import Vortex.Gateway.WebSessions
import Vortex.Gateway.Replay
import Vortex.Gateway.Revocation
import Vortex.Web.Egress
import Vortex.Channels.Partners
import Vortex.Channels.Retention
import Vortex.Web.Calls
import Vortex.Web.Tabs
import Vortex.Web.Reactions
import Vortex.Web.NotificationCount
import Vortex.Accounts.LastOnline
import Vortex.Views.LogPages
import Vortex.Views.SearchResults
import Vortex.Views.UnreadMarks
import Vortex.Web.SignedBadge
import Vortex.Web.DmList
import Vortex.Web.LocalSearches
import Vortex.Web.LazyCoverage
import Vortex.Sql.Replies
import Vortex.Limits.SlidingWindowLua
import Vortex.Limits.Sockets
import Vortex.Channels.Lifetimes
import Vortex.Channels.Ranges
import Vortex.Accounts.StepUp
import Vortex.Web.Redirects
import Vortex.Web.Polls
import Vortex.Web.ChatOutbox
import Vortex.Web.MessageOutbox
import Vortex.Migration.JsonColumns
import Vortex.Web.OpenGraph
import Vortex.Web.AppearanceSync
import Vortex.Web.TypingList
import Vortex.Accounts.Avatars
import Vortex.Social.Usernames
import Vortex.Accounts.RiskLock
import Vortex.Olm.SafetyNumbers
