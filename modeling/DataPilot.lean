import DataPilot.Agent.ContextBudget
import DataPilot.Agent.Duplicates
import DataPilot.Agent.Nl2SqlAccounting
import DataPilot.Agent.ParallelTools
import DataPilot.Agent.QuestionKept
import DataPilot.Agent.StreamModes
import DataPilot.Api.Throttle
import DataPilot.Artifacts.Downloads
import DataPilot.Artifacts.Persistence
import DataPilot.Auth.Usernames
import DataPilot.Chat.AcknowledgedAborts
import DataPilot.Chat.FailedSubmissions
import DataPilot.Chat.History
import DataPilot.Chat.Reconnection
import DataPilot.Chat.RedisResume
import DataPilot.Chat.ResumePoints
import DataPilot.Chat.Sequences
import DataPilot.Chat.Shutdown
import DataPilot.Chat.SseRoundTrip
import DataPilot.Chat.StreamEnding
import DataPilot.Chat.Workspaces
import DataPilot.Datasets.Tenancy
import DataPilot.Datasets.Workbooks
import DataPilot.Frontend.ChatStreams
import DataPilot.Frontend.ConversationPaging
import DataPilot.Frontend.Export
import DataPilot.Frontend.ToolResults
import DataPilot.Llm.Conservation
import DataPilot.Llm.Provider
import DataPilot.Llm.Retries
import DataPilot.Mcp.Resolution
import DataPilot.Mcp.ToolSync
import DataPilot.Observability.Service
import DataPilot.Sandbox.Container
import DataPilot.Sandbox.QueryResults
import DataPilot.Sandbox.Runner
import DataPilot.Sandbox.WorkRoot
import DataPilot.Tools.PythonTool
