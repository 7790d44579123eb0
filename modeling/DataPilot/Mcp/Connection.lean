import DataPilot.Base.JsonParse
import DataPilot.Mcp.Owner
import DataPilot.Tools.ReplacePrefix

set_option autoImplicit false

-- The connection of the client: what the owner task does between two requests.
namespace DataPilot.Mcp.Connection

open DataPilot.Base DataPilot.Tools.Shared

-- What the methods raise. MCPConnectionError is a subclass of MCPToolCallError.
inductive Raised where
  | connection (text : String)
  | toolCall (text : String)
  | other (failure : PyException)

def Raised.typeName : Raised → String
  | .connection _ => "MCPConnectionError"
  | .toolCall _ => "MCPToolCallError"
  | .other failure => failure.typeName

def Raised.text : Raised → String
  | .connection text => text
  | .toolCall text => text
  | .other failure => failure.text

-- types.Tool; the schema is a dict object.
structure Tool where
  name : String
  description : Option String
  title : Option String
  inputSchema : Nat

inductive Content where
  | text (text : String)
  | image (mimeType data : String)
  | other (dump : Json)

structure CallToolResult where
  isError : Bool
  content : List Content
  structuredContent : Option Dict

-- How the await of a tool call ends.
abbrev Answer := Except PyException CallToolResult

-- The arguments of the constructor, and what a registered tool does when it is called.
structure Settings where
  connectAttempts : Nat := 3
  toolRefreshInterval : Rat := 300
  callRetryAttempts : Nat := 1
  callTool : String → Nat → List (String × PyValue) → Except PyException PyValue

structure MCPClient where
  closed : Bool := false
  stack : Option Nat := none
  session : Option Nat := none
  tools : List Tool := []
  registry : Option ToolRegistry := none
  serverName : Option String := none
  protocolVersion : Option String := none
  lastError : Option String := none
  lastConnectedAt : Option Rat := none
  lastPingAt : Option Rat := none
  lastToolRefreshAt : Rat := 0
  reconnectCount : Nat := 0
  toolRefreshCount : Nat := 0
  everConnected : Bool := false

inductive ClientEvent where
  | connected
  | disconnected
  | sent (name : String) (arguments : Dict) (answer : Answer)

-- The client after an operation, what happened on the way, and how it ends.
structure Ran (α : Type) where
  client : MCPClient
  log : List ClientEvent
  result : Except Raised α

section Ran

variable {α β : Type}

def Ran.andThen (ran : Ran α) (next : α → MCPClient → Ran β) : Ran β :=
  match ran.result with
  | .error raised => ⟨ran.client, ran.log, .error raised⟩
  | .ok value =>
      let after := next value ran.client
      ⟨after.client, ran.log ++ after.log, after.result⟩

def Ran.recovering (ran : Ran α) (handler : Raised → MCPClient → Ran α) : Ran α :=
  match ran.result with
  | .ok _ => ran
  | .error raised =>
      let after := handler raised ran.client
      ⟨after.client, ran.log ++ after.log, after.result⟩

theorem and_then_ok (ran : Ran α) (next : α → MCPClient → Ran β) (value : α) (done : ran.result = .ok value) :
    ran.andThen next =
      ⟨(next value ran.client).client, ran.log ++ (next value ran.client).log, (next value ran.client).result⟩ := by
  rw [Ran.andThen, done]

theorem and_then_error (ran : Ran α) (next : α → MCPClient → Ran β) (raised : Raised)
    (failed : ran.result = .error raised) : ran.andThen next = ⟨ran.client, ran.log, .error raised⟩ := by
  rw [Ran.andThen, failed]

theorem recovering_ok (ran : Ran α) (handler : Raised → MCPClient → Ran α) (value : α) (done : ran.result = .ok value) :
    ran.recovering handler = ran := by
  rw [Ran.recovering, done]

theorem recovering_error (ran : Ran α) (handler : Raised → MCPClient → Ran α) (raised : Raised)
    (failed : ran.result = .error raised) :
    ran.recovering handler =
      ⟨(handler raised ran.client).client, ran.log ++ (handler raised ran.client).log,
        (handler raised ran.client).result⟩ := by
  rw [Ran.recovering, failed]

theorem recovering_front (front : List ClientEvent) (ran : Ran α) (handler : Raised → MCPClient → Ran α) :
    (⟨(ran.recovering handler).client, front ++ (ran.recovering handler).log, (ran.recovering handler).result⟩ : Ran α) =
      (⟨ran.client, front ++ ran.log, ran.result⟩ : Ran α).recovering handler := by
  cases done : ran.result with
  | ok value => rw [recovering_ok ran handler value done, recovering_ok _ handler value rfl, done]
  | error raised =>
      rw [recovering_error ran handler raised done, recovering_error _ handler raised rfl]
      dsimp only
      rw [List.append_assoc]

end Ran

-- The schema dicts at the moment of a synchronisation, and the new ones it makes
-- for tools whose own schema is empty.
structure Schemas where
  memory : Memory
  fallback : Tool → Nat
  made : ∀ tool, memory (fallback tool) = [("type", .str "object"), ("properties", .obj [])]

def Settings.toRegisteredTool (settings : Settings) (schemas : Schemas) (tool : Tool) : RegisteredTool where
  name := "mcp__" ++ tool.name
  description := "[MCP] " ++ textOr tool.description (textOr tool.title tool.name)
  inputModel := none
  handler := settings.callTool tool.name
  parallelSafe := false
  inputSchema := some (if (schemas.memory tool.inputSchema).isEmpty then schemas.fallback tool else tool.inputSchema)

def MCPClient.connected (client : MCPClient) : Bool := client.session.isSome

def MCPClient.setError (client : MCPClient) (raised : Raised) : MCPClient :=
  { client with lastError := some s!"{raised.typeName}: {raised.text}" }

variable (same : Tools.ToolDefinition → Tools.ToolDefinition → Bool) (settings : Settings)

-- A failure of replace_prefix is noted and swallowed.
def MCPClient.syncRegistry (client : MCPClient) (schemas : Schemas) : MCPClient × ToolRegistrationDiff :=
  match client.registry with
  | none => (client, {})
  | some registry =>
      let replaced :=
        registry.replacePrefix same schemas.memory "mcp__" (client.tools.map (settings.toRegisteredTool schemas))
      match replaced.result with
      | .ok diff => ({ client with registry := some replaced.registry }, diff)
      | .error failure => ({ client with registry := some replaced.registry }.setError (.other failure), {})

def MCPClient.registerTools (client : MCPClient) (registry : ToolRegistry) (schemas : Schemas) :
    MCPClient × ToolRegistrationDiff :=
  { client with registry := some registry }.syncRegistry same settings schemas

-- The argument is what the close of the old connection raises, if it does.
def MCPClient.disconnect (client : MCPClient) (closing : Option PyException) : MCPClient × List ClientEvent :=
  let idle := { client with stack := none, session := none }
  match client.stack with
  | none => (idle, [])
  | some _ =>
      match closing with
      | none => (idle, [.disconnected])
      | some failure => (idle.setError (.other failure), [.disconnected])

-- What a server that has been started answers, and the clocks.
structure Opened where
  stack : Nat
  session : Nat
  tools : List Tool
  serverName : String
  protocolVersion : String
  connectedAt : Rat
  refreshedAt : Rat
  schemas : Schemas

-- How an attempt to connect goes: the close of the old connection, then the awaits
-- under the timeout.
structure Connecting where
  closing : Option PyException
  opened : Except PyException Opened

-- A new connection that fails is closed; what its close raises is only logged.
def MCPClient.connectOnce (client : MCPClient) (connecting : Connecting) : Ran Unit :=
  let disconnected := client.disconnect connecting.closing
  let idle := disconnected.1
  match connecting.opened with
  | .error failure => ⟨{ idle with stack := none, session := none }, disconnected.2, .error (.other failure)⟩
  | .ok opened =>
      let live := { idle with
        stack := some opened.stack
        session := some opened.session
        tools := opened.tools
        serverName := some opened.serverName
        protocolVersion := some opened.protocolVersion
        lastConnectedAt := some opened.connectedAt
        lastPingAt := some opened.connectedAt
        lastToolRefreshAt := opened.refreshedAt
        lastError := none
        reconnectCount := if idle.everConnected then idle.reconnectCount + 1 else idle.reconnectCount
        everConnected := true }
      ⟨(live.syncRegistry same settings opened.schemas).1, disconnected.2 ++ [.connected], .ok ()⟩

def connectEach (attempts : Nat) : List Connecting → MCPClient → Ran Unit
  | [], client =>
      ⟨client, [], .error (.connection s!"Unable to connect to MCP server after {attempts} attempts.")⟩
  | connecting :: rest, client =>
      (client.connectOnce same settings connecting).recovering fun raised client =>
        connectEach attempts rest (client.setError raised)

def MCPClient.connectWithRetries (client : MCPClient) (attempts : Nat) (connecting : Nat → Connecting) : Ran Unit :=
  connectEach same settings (max 1 attempts) ((List.range (max 1 attempts)).map connecting) client

structure Listed where
  tools : List Tool
  refreshedAt : Rat
  schemas : Schemas

def notConnected : Raised := .connection "MCP client is not connected."

def MCPClient.refreshTools (client : MCPClient) (listed : Except PyException Listed) : Ran ToolRegistrationDiff :=
  match client.session with
  | none => ⟨client, [], .error notConnected⟩
  | some _ =>
      match listed with
      | .error failure => ⟨client, [], .error (.other failure)⟩
      | .ok listed =>
          let fresh := { client with
            tools := listed.tools
            lastToolRefreshAt := listed.refreshedAt
            toolRefreshCount := client.toolRefreshCount + 1 }
          let synced := fresh.syncRegistry same settings listed.schemas
          ⟨synced.1, [], .ok synced.2⟩

-- if not self.connected: await self._connect_with_retries(self._connect_attempts)
def MCPClient.ensureConnected (client : MCPClient) (connecting : Nat → Connecting) : Ran Unit :=
  if client.connected then ⟨client, [], .ok ()⟩
  else client.connectWithRetries same settings settings.connectAttempts connecting

def MCPClient.handleRefresh (client : MCPClient) (connecting : Nat → Connecting) (listed : Except PyException Listed) :
    Ran ToolRegistrationDiff :=
  (client.ensureConnected same settings connecting).andThen fun _ client => client.refreshTools same settings listed

-- self._set_error(exc), then await self._disconnect()
def MCPClient.giveUp (client : MCPClient) (raised : Raised) (closing : Option PyException) : Ran Unit :=
  let disconnected := (client.setError raised).disconnect closing
  ⟨disconnected.1, disconnected.2, .ok ()⟩

def MCPClient.handlePing (client : MCPClient) (ping : Except PyException Rat) (closing : Option PyException) : Ran Bool :=
  match client.session with
  | none => ⟨client, [], .ok false⟩
  | some _ =>
      match ping with
      | .error failure => (client.giveUp (.other failure) closing).andThen fun _ client => ⟨client, [], .ok false⟩
      | .ok pingedAt => ⟨{ client with lastPingAt := some pingedAt }, [], .ok true⟩

-- The awaits and the clock of a maintenance round.
structure Maintaining where
  connecting : Connecting
  ping : Except PyException Rat
  pingClosing : Option PyException
  now : Rat
  listed : Except PyException Listed
  closing : Option PyException

def MCPClient.refreshDue (client : MCPClient) (now : Rat) : Bool :=
  client.connected && decide (0 < settings.toolRefreshInterval) &&
    decide (settings.toolRefreshInterval ≤ now - client.lastToolRefreshAt)

def MCPClient.maintenance (client : MCPClient) (world : Maintaining) : Ran Unit :=
  if client.closed then ⟨client, [], .ok ()⟩
  else
    let checked : Ran Bool :=
      if client.connected then client.handlePing world.ping world.pingClosing
      else
        (client.connectWithRetries same settings 1 fun _ => world.connecting).andThen fun _ client =>
          ⟨client, [], .ok true⟩
    let body : Ran Unit :=
      checked.andThen fun alive client =>
        if alive && client.refreshDue settings world.now then
          (client.refreshTools same settings world.listed).andThen fun _ client => ⟨client, [], .ok ()⟩
        else ⟨client, [], .ok ()⟩
    body.recovering fun raised client => client.giveUp raised world.closing

variable (loads : JsonLoads)

def parseText (value : String) : Except PyException Json :=
  match loads value with
  | .ok parsed => .ok parsed
  | .error .decode => .ok (.str value)
  | .error (.other failure) => .error failure

def Content.value : Content → Except PyException Json
  | .text written => parseText loads written
  | .image mimeType data => .ok (.obj [("type", .str "image"), ("mime_type", .str mimeType), ("data", .str data)])
  | .other dump => .ok dump

def contentValues : List Content → Except PyException (List Json)
  | [] => .ok []
  | content :: rest =>
      match content.value loads with
      | .error failure => .error failure
      | .ok value => (contentValues rest).map (value :: ·)

def parseContent (result : CallToolResult) : Except PyException Json :=
  match contentValues loads result.content with
  | .error failure => .error failure
  | .ok [value] => .ok value
  | .ok values => .ok (.arr values)

def Content.plain : Content → Option String
  | .text written => some written
  | _ => none

def resultText (result : CallToolResult) : String := "\n".intercalate (result.content.filterMap Content.plain)

-- The value of an answer that is no error.
def CallToolResult.value (result : CallToolResult) : Except PyException Json :=
  match result.structuredContent with
  | some fields => .ok (.obj fields)
  | none => parseContent loads result

def MCPClient.callOnce (client : MCPClient) (name : String) (arguments : Dict) (answer : Answer) : Ran Json :=
  match client.session with
  | none => ⟨client, [], .error notConnected⟩
  | some _ =>
      match answer with
      | .error failure =>
          ⟨client, [.sent name arguments answer],
            .error (.connection s!"MCP transport failed while calling '{name}': {failure.text}")⟩
      | .ok result =>
          if result.isError then
            ⟨client, [.sent name arguments answer],
              .error (.toolCall (orElseText (resultText result) s!"MCP tool failed: {name}"))⟩
          else
            match result.value loads with
            | .ok value => ⟨client, [.sent name arguments answer], .ok value⟩
            | .error failure => ⟨client, [.sent name arguments answer], .error (.other failure)⟩

-- How one round of the retry loop goes.
structure Retry where
  connecting : Connecting
  answer : Answer
  closing : Option PyException

structure Calling where
  connecting : Nat → Connecting
  answer : Answer
  closing : Option PyException
  retries : Nat → Retry

def retryCall (name : String) (arguments : Dict) : List Retry → MCPClient → Ran Json
  | [], client => ⟨client, [], .error (.connection s!"MCP tool '{name}' failed after reconnect.")⟩
  | retry :: rest, client =>
      let attempt := (client.connectWithRetries same settings 1 fun _ => retry.connecting).andThen fun _ client =>
        client.callOnce loads name arguments retry.answer
      attempt.recovering fun raised client =>
        match raised with
        | .toolCall text => ⟨client, [], .error (.toolCall text)⟩
        | raised => (client.giveUp raised retry.closing).andThen fun _ client => retryCall name arguments rest client

def MCPClient.handleCall (client : MCPClient) (request : PendingRequest) (world : Calling) : Ran Json :=
  match request.name with
  | none => ⟨client, [], .error (.connection "MCP tool name is missing.")⟩
  | some name =>
      let arguments := request.arguments.getD []
      (client.ensureConnected same settings world.connecting).andThen fun _ client =>
        (client.callOnce loads name arguments world.answer).recovering fun raised client =>
          match raised with
          | .toolCall text => ⟨client, [], .error (.toolCall text)⟩
          | raised =>
              (client.giveUp raised world.closing).andThen fun _ client =>
                retryCall same settings loads name arguments ((List.range settings.callRetryAttempts).map world.retries) client

-- A server without tools, for the runs on fixed outcomes.
def sampleSettings : Settings := { callTool := fun _ _ _ => .ok .null }

def sampleSchemas : Schemas := ⟨fun _ => [("type", .str "object"), ("properties", .obj [])], fun _ => 0, fun _ => rfl⟩

def sampleOpened : Opened := ⟨1, 1, [], "server", "2025-11-25", 0, 0, sampleSchemas⟩

end DataPilot.Mcp.Connection
