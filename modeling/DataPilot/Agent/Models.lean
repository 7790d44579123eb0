import DataPilot.Tools.Registry

set_option autoImplicit false
set_option linter.dupNamespace false

namespace DataPilot.Agent

open DataPilot.Base DataPilot.Tools

inductive ChatRole where
  | system
  | user
  | assistant
  | tool
deriving DecidableEq

inductive AgentStatus where
  | completed
  | maxSteps
  | toolBudgetExceeded
  | tokenBudgetExceeded
  | loopDetected
deriving DecidableEq

def AgentStatus.text : AgentStatus → String
  | .completed => "completed"
  | .maxSteps => "max_steps"
  | .toolBudgetExceeded => "tool_budget_exceeded"
  | .tokenBudgetExceeded => "token_budget_exceeded"
  | .loopDetected => "loop_detected"

structure ToolCall where
  id : String
  name : String
  arguments : Dict
  idNonempty : id ≠ ""
  nameNonempty : name ≠ ""

structure ChatMessage where
  role : ChatRole
  content : Option String := none
  name : Option String := none
  toolCallId : Option String := none
  toolCalls : List ToolCall := []

-- message.content or ""
def ChatMessage.text (message : ChatMessage) : String := message.content.getD ""

structure TokenUsage where
  inputTokens : Nat := 0
  outputTokens : Nat := 0
deriving DecidableEq

def TokenUsage.totalTokens (usage : TokenUsage) : Nat := usage.inputTokens + usage.outputTokens

def TokenUsage.add (usage other : TokenUsage) : TokenUsage :=
  ⟨usage.inputTokens + other.inputTokens, usage.outputTokens + other.outputTokens⟩

structure LLMResponse where
  content : Option String := none
  toolCalls : List ToolCall := []
  usage : TokenUsage := {}
  finishReason : Option String := none

structure ToolExecution where
  toolCallId : String
  toolName : String
  arguments : Dict
  result : PyValue := .null
  error : Option String := none

structure AgentStep where
  step : Nat
  assistantContent : Option String
  toolCalls : List ToolCall
  toolExecutions : List ToolExecution := []
  usage : TokenUsage

structure AgentConfig where
  maxSteps : Nat := 10
  maxTotalTokens : Nat := 49152
  maxToolCallsPerStep : Nat := 3
  maxToolBudgetRetries : Nat := 1
  maxParallelTools : Nat := 3
  contextCharBudget : Nat := 24000
  keepRecentToolResults : Nat := 6
  parallelToolCalls : Bool := true
  streamModel : Bool := true
  maxToolResultChars : Nat := 16000
  steps : 1 ≤ maxSteps := by decide
  totalTokens : 1 ≤ maxTotalTokens := by decide
  toolCallsPerStep : 1 ≤ maxToolCallsPerStep := by decide
  toolBudgetRetries : maxToolBudgetRetries ≤ 2 := by decide
  parallelTools : 1 ≤ maxParallelTools := by decide
  charBudget : 4000 ≤ contextCharBudget := by decide
  recentToolResults : 1 ≤ keepRecentToolResults ∧ keepRecentToolResults ≤ 20 := by decide
  toolResultChars : 256 ≤ maxToolResultChars := by decide

structure AgentRunResult where
  status : AgentStatus
  output : Option String
  terminationReason : Option String := none
  messages : List ChatMessage
  steps : List AgentStep
  usage : TokenUsage

inductive AgentStreamEvent where
  | textDelta (text : String)
  | textReset
  | step (step : AgentStep)
  | completed (result : AgentRunResult)

structure ToolCallDelta where
  index : Nat
  id : Option String := none
  name : Option String := none
  argumentsDelta : Option String := none

inductive StreamEvent where
  | textDelta (content : Option String)
  | toolCallDelta (delta : Option ToolCallDelta)
  | usage (usage : Option TokenUsage)
  | finish (reason : Option String)

-- What an iteration over chat_stream yields, and the exception that ends it.
structure ModelStream where
  events : List StreamEvent
  failure : Option PyException := none

-- A model may answer differently each time; it is told which call this is.
-- A model without chat_stream is only called through chat.
structure ChatModel where
  chat : Nat → List ChatMessage → List ToolDefinition → Except PyException LLMResponse
  chatStream : Option (Nat → List ChatMessage → List ToolDefinition → ModelStream)

structure Agent where
  model : ChatModel
  tools : ToolRegistry
  config : AgentConfig

theorem total_tokens_add (usage other : TokenUsage) :
    (usage.add other).totalTokens = usage.totalTokens + other.totalTokens := by
  simp only [TokenUsage.totalTokens, TokenUsage.add]
  omega

end DataPilot.Agent
