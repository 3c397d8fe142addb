import Vespid.Lib.Protocol
import Vespid.Workflow.Topology
import Vespid.Db.WorkflowRuns
import Vespid.Db.WorkflowApprovals
import Vespid.Queue.RunQueue
import Vespid.Worker.Policy
import Vespid.Worker.Termination
import Vespid.Worker.Confluence
import Vespid.Worker.DeadNodes
import Vespid.Workflow.WellFormed
import Vespid.Worker.Upgrade
import Vespid.Scheduler.Calendar
import Vespid.Scheduler.Grammar
import Vespid.Scheduler.Slots
import Vespid.Brain.Commits
import Vespid.Brain.Memory
import Vespid.NodeAgent.AgentRun
import Vespid.NodeAgent.Answers
import Vespid.NodeAgent.Cache
import Vespid.Run.Attempts
import Vespid.Run.Stranded
import Vespid.Run.Gate
import Vespid.Run.Policy
import Vespid.Run.Approval
import Vespid.Edge.Registry
import Vespid.Db.Tenant
import Vespid.Channels.Deliveries
import Vespid.Gateway.Loops
import Vespid.Brain.Dispatch
import Vespid.Edge.Noninterference
import Vespid.Gateway.Messages
import Vespid.Edge.Clients
import Vespid.Edge.Presence
import Vespid.Web.GraphEditor
import Vespid.Brain.Sends
import Vespid.Brain.TurnEvents
import Vespid.Lib.Alone
import Vespid.Brain.Selection
import Vespid.Db.Workflows
import Vespid.Db.Listings
import Vespid.Db.SessionEvents
import Vespid.Channels.Router
import Vespid.Channels.Ingress
import Vespid.Channels.Pairing
import Vespid.Channels.Admission
import Vespid.Lib.Tx
import Vespid.Channels.Outbound
import Vespid.Db.InsertOrRecover
import Vespid.Tokens
import Vespid.AgentRuntime.AgentLoop
import Vespid.AgentRuntime.Allowlist
import Vespid.AgentRuntime.Bookkeeping
import Vespid.AgentRuntime.SessionRouting
import Vespid.AgentRuntime.Routing
import Vespid.AgentRuntime.Tools
import Vespid.AgentRuntime.BestBinding
import Vespid.AgentRuntime.Trimming
import Vespid.AgentRuntime.TeamMap
import Vespid.Channels.Signatures
import Vespid.Api.RunRequests
import Vespid.Api.SettingsUpdates
import Vespid.Api.SettingsDocument
import Vespid.Api.SessionRoute
import Vespid.Api.Sessions
import Vespid.Api.OAuth
import Vespid.Api.OAuthProfile
import Vespid.Api.ExecutorPairing
import Vespid.Api.ToolsetPolicy
import Vespid.Api.Toolsets
import Vespid.Api.ToolsetBuilder
import Vespid.Api.PersonalWorkspace
import Vespid.Api.Roles
import Vespid.Api.Invitations
import Vespid.Api.Quota
import Vespid.Api.Deliveries
import Vespid.Api.Publishing
import Vespid.NodeAgent.Listener
import Vespid.NodeAgent.Turns
import Vespid.NodeAgent.Workdir
import Vespid.Db.Migrations
import Vespid.AgentRuntime.Memory
import Vespid.Api.SharedRuns
import Vespid.Run.EventLog
import Vespid.Api.Secrets
import Vespid.NodeAgent.Skills
import Vespid.Api.SystemAdmins
