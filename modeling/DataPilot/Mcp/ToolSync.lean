import DataPilot.Mcp.Calls

set_option autoImplicit false

namespace DataPilot.Mcp.Connection

open DataPilot.Base DataPilot.Tools.Shared

inductive ClientStep where
  | registerTools (registry : ToolRegistry) (schemas : Schemas)
  | connect (connecting : Nat → Connecting)
  | refresh (connecting : Nat → Connecting) (listed : Except PyException Listed)
  | call (request : PendingRequest) (world : Calling)
  | ping (ping : Except PyException Rat) (closing : Option PyException)
  | maintenance (world : Maintaining)
  | disconnect (closing : Option PyException)
  | close

variable (same : Tools.ToolDefinition → Tools.ToolDefinition → Bool) (settings : Settings)
variable (loads : JsonLoads)

def Ran.after {α : Type} (ran : Ran α) : MCPClient × List ClientEvent := (ran.client, ran.log)

def MCPClient.perform (client : MCPClient) : ClientStep → MCPClient × List ClientEvent
  | .registerTools registry schemas => ((client.registerTools same settings registry schemas).1, [])
  | .connect connecting => (client.connectWithRetries same settings settings.connectAttempts connecting).after
  | .refresh connecting listed => (client.handleRefresh same settings connecting listed).after
  | .call request world => (client.handleCall same settings loads request world).after
  | .ping ping closing => (client.handlePing ping closing).after
  | .maintenance world => (client.maintenance same settings world).after
  | .disconnect closing => client.disconnect closing
  | .close => ({ client with closed := true }, [])

def performAll : List ClientStep → MCPClient → MCPClient × List ClientEvent
  | [], client => (client, [])
  | step :: rest, client =>
      let first := client.perform same settings loads step
      let later := performAll rest first.1
      (later.1, first.2 ++ later.2)

def ClientEvent.isConnected : ClientEvent → Bool
  | .connected => true
  | _ => false

def connects (log : List ClientEvent) : Nat := (log.filter ClientEvent.isConnected).length

-- Every tool of the list is registered under its prefixed name, and no other name with
-- the prefix is.
structure Synced (registry : ToolRegistry) (tools : List Tool) : Prop where
  registered : ∀ tool ∈ tools, ∃ schemas, registry.get ("mcp__" ++ tool.name) = some (settings.toRegisteredTool schemas tool)
  only : ∀ name, startsWith name "mcp__" = true → (registry.get name).isSome = true →
    ∃ tool ∈ tools, name = "mcp__" ++ tool.name

def Describable (registry : ToolRegistry) : Prop :=
  ∀ name tool, startsWith name "mcp__" = true → registry.get name = some tool → tool.readable = true

-- What holds of the client between two of its updates, and what holds of it after an
-- operation.
structure Steady (client : MCPClient) (count : Nat) : Prop where
  paired : client.session.isSome = client.stack.isSome
  counted : client.reconnectCount = count - 1
  ever : client.everConnected = decide (0 < count)
  readable : ∀ registry, client.registry = some registry → Describable registry

structure Sound (client : MCPClient) (count : Nat) : Prop extends Steady client count where
  synced : ∀ registry, client.registry = some registry → (client.tools.map Tool.name).Nodup →
    Synced settings registry client.tools

section Registry

theorem starts_with_own (name : String) : startsWith ("mcp__" ++ name) "mcp__" = true := by
  rw [startsWith, String.toList_append, List.isPrefixOf_iff_prefix]
  exact List.prefix_append _ _

theorem own_name_injective (one other : String) (same : "mcp__" ++ one = "mcp__" ++ other) : one = other := by
  have letters := congrArg String.toList same
  rw [String.toList_append, String.toList_append] at letters
  exact String.toList_inj.mp (List.append_cancel_left letters)

theorem registered_names (schemas : Schemas) (tools : List Tool) :
    (tools.map (settings.toRegisteredTool schemas)).map RegisteredTool.name =
      (tools.map Tool.name).map fun name => "mcp__" ++ name := by
  rw [List.map_map, List.map_map]
  rfl

theorem registered_admitted (schemas : Schemas) (tools : List Tool) :
    Admitted "mcp__" (tools.map (settings.toRegisteredTool schemas)) ↔ (tools.map Tool.name).Nodup := by
  constructor
  · rintro ⟨_, _, distinct⟩
    rw [registered_names] at distinct
    exact distinct.of_map
  · intro distinct
    refine ⟨by decide, ?_, ?_⟩
    · intro tool member
      obtain ⟨own, _, rfl⟩ := List.mem_map.mp member
      exact starts_with_own own.name
    · rw [registered_names]
      exact distinct.map fun one other => own_name_injective one other

theorem synced_exact (memory : Memory) (schemas : Schemas) (registry final : ToolRegistry) (diff : ToolRegistrationDiff)
    (tools : List Tool)
    (exact : Exact same memory registry "mcp__" (tools.map (settings.toRegisteredTool schemas)) final diff) :
    Synced settings final tools ∧ Describable final := by
  have only : ∀ name, startsWith name "mcp__" = true → (final.get name).isSome = true →
      ∃ tool ∈ tools, name = "mcp__" ++ tool.name := by
    intro name starts registered
    by_contra absent
    have missing : name ∉ (tools.map (settings.toRegisteredTool schemas)).map RegisteredTool.name := by
      rw [registered_names, List.map_map]
      intro member
      obtain ⟨tool, inside, rfl⟩ := List.mem_map.mp member
      exact absent ⟨tool, inside, rfl⟩
    rw [exact.only name starts missing] at registered
    cases registered
  have registered : ∀ tool ∈ tools, final.get ("mcp__" ++ tool.name) = some (settings.toRegisteredTool schemas tool) :=
    fun tool member => exact.inside _ (List.mem_map_of_mem member)
  refine ⟨⟨fun tool member => ⟨schemas, registered tool member⟩, only⟩, fun name tool starts found => ?_⟩
  obtain ⟨own, member, rfl⟩ := only name starts (by rw [found]; rfl)
  rw [registered own member] at found
  cases found
  rfl

theorem sync_frame (client : MCPClient) (schemas : Schemas) :
    (client.syncRegistry same settings schemas).1.session = client.session ∧
      (client.syncRegistry same settings schemas).1.stack = client.stack ∧
      (client.syncRegistry same settings schemas).1.tools = client.tools ∧
      (client.syncRegistry same settings schemas).1.reconnectCount = client.reconnectCount ∧
      (client.syncRegistry same settings schemas).1.everConnected = client.everConnected ∧
      (client.syncRegistry same settings schemas).1.registry = client.registry.map fun registry =>
        (registry.replacePrefix same schemas.memory "mcp__" (client.tools.map (settings.toRegisteredTool schemas))).registry := by
  unfold MCPClient.syncRegistry
  cases attached : client.registry with
  | none => exact ⟨rfl, rfl, rfl, rfl, rfl, attached⟩
  | some registry =>
      dsimp only
      cases (registry.replacePrefix same schemas.memory "mcp__"
        (client.tools.map (settings.toRegisteredTool schemas))).result with
      | ok diff => exact ⟨rfl, rfl, rfl, rfl, rfl, rfl⟩
      | error failure => exact ⟨rfl, rfl, rfl, rfl, rfl, rfl⟩

theorem replace_synced (schemas : Schemas) (registry : ToolRegistry) (tools : List Tool) (readable : Describable registry) :
    Describable (registry.replacePrefix same schemas.memory "mcp__" (tools.map (settings.toRegisteredTool schemas))).registry ∧
      ((tools.map Tool.name).Nodup → Synced settings
        (registry.replacePrefix same schemas.memory "mcp__" (tools.map (settings.toRegisteredTool schemas))).registry tools) := by
  by_cases admitted : Admitted "mcp__" (tools.map (settings.toRegisteredTool schemas))
  · have comparable : ∀ tool ∈ tools.map (settings.toRegisteredTool schemas), registry.comparable tool = true := by
      intro tool member
      rw [ToolRegistry.comparable]
      cases found : registry.get tool.name with
      | none => rfl
      | some previous =>
          dsimp only
          rw [readable tool.name previous (admitted.starting tool member) found, Bool.true_and]
          obtain ⟨own, _, rfl⟩ := List.mem_map.mp member
          rfl
    obtain ⟨diff, _, exact⟩ := replace_exact same schemas.memory registry "mcp__" _ admitted comparable
    obtain ⟨synced, described⟩ := synced_exact same settings schemas.memory schemas registry _ diff tools exact
    exact ⟨described, fun _ => synced⟩
  · obtain ⟨failure, refused⟩ := replace_refused same schemas.memory registry "mcp__" _ admitted
    rw [refused]
    exact ⟨readable, fun distinct => absurd ((registered_admitted settings schemas tools).mpr distinct) admitted⟩

theorem sync_sound (client : MCPClient) (schemas : Schemas) (count : Nat) (steady : Steady client count) :
    Sound settings (client.syncRegistry same settings schemas).1 count := by
  obtain ⟨session, stack, tools, reconnects, ever, registry⟩ := sync_frame same settings client schemas
  have replaced : ∀ final, (client.syncRegistry same settings schemas).1.registry = some final → Describable final ∧
      ((client.tools.map Tool.name).Nodup → Synced settings final client.tools) := by
    intro final attached
    rw [registry] at attached
    cases before : client.registry with
    | none =>
        rw [before] at attached
        cases attached
    | some old =>
        rw [before] at attached
        cases attached
        exact replace_synced same settings schemas old client.tools (steady.readable old before)
  refine ⟨⟨?_, ?_, ?_, fun final attached => (replaced final attached).1⟩, fun final attached distinct => ?_⟩
  · rw [session, stack, steady.paired]
  · rw [reconnects, steady.counted]
  · rw [ever, steady.ever]
  · rw [tools] at distinct ⊢
    exact (replaced final attached).2 distinct

end Registry

section Operations

variable {α β : Type}

def Preserves (client : MCPClient) (after : MCPClient × List ClientEvent) : Prop :=
  ∀ count, Sound settings client count → Sound settings after.1 (count + connects after.2)

theorem connects_append (front back : List ClientEvent) : connects (front ++ back) = connects front + connects back := by
  rw [connects, List.filter_append, List.length_append]
  rfl

theorem preserves_chain (client middle final : MCPClient) (front back : List ClientEvent)
    (first : Preserves settings client (middle, front)) (second : Preserves settings middle (final, back)) :
    Preserves settings client (final, front ++ back) := by
  intro count sound
  rw [connects_append, ← Nat.add_assoc]
  exact second _ (first count sound)

theorem preserves_and_then (client : MCPClient) (ran : Ran α) (next : α → MCPClient → Ran β)
    (first : Preserves settings client ran.after) (second : ∀ value client, Preserves settings client (next value client).after) :
    Preserves settings client (ran.andThen next).after := by
  rw [Ran.andThen]
  cases ran.result with
  | error raised => exact first
  | ok value => exact preserves_chain settings client ran.client _ ran.log _ first (second value ran.client)

theorem preserves_recovering (client : MCPClient) (ran : Ran α) (handler : Raised → MCPClient → Ran α)
    (first : Preserves settings client ran.after)
    (second : ∀ raised client, Preserves settings client (handler raised client).after) :
    Preserves settings client (ran.recovering handler).after := by
  rw [Ran.recovering]
  cases ran.result with
  | ok value => exact first
  | error raised => exact preserves_chain settings client ran.client _ ran.log _ first (second raised ran.client)

theorem preserves_same (client : MCPClient) : Preserves settings client (client, []) := fun _ sound => sound

theorem disconnect_sound (client : MCPClient) (closing : Option PyException) (count : Nat)
    (sound : Sound settings client count) :
    Sound settings (client.disconnect closing).1 count ∧ connects (client.disconnect closing).2 = 0 := by
  have idle : Sound settings { client with stack := none, session := none } count :=
    ⟨⟨rfl, sound.counted, sound.ever, sound.readable⟩, sound.synced⟩
  unfold MCPClient.disconnect
  cases client.stack with
  | none => exact ⟨idle, rfl⟩
  | some _ =>
      cases closing with
      | none => exact ⟨idle, rfl⟩
      | some failure => exact ⟨⟨⟨rfl, sound.counted, sound.ever, sound.readable⟩, sound.synced⟩, rfl⟩

theorem preserves_disconnect (client : MCPClient) (closing : Option PyException) :
    Preserves settings client (client.disconnect closing) := by
  intro count sound
  obtain ⟨kept, idle⟩ := disconnect_sound settings client closing count sound
  rw [idle]
  exact kept

theorem preserves_give_up (client : MCPClient) (raised : Raised) (closing : Option PyException) :
    Preserves settings client (client.giveUp raised closing).after := by
  intro count sound
  apply preserves_disconnect settings (client.setError raised) closing count
  exact ⟨⟨sound.paired, sound.counted, sound.ever, sound.readable⟩, sound.synced⟩

theorem preserves_connect_once (client : MCPClient) (connecting : Connecting) :
    Preserves settings client (client.connectOnce same settings connecting).after := by
  intro count sound
  obtain ⟨idle, rested⟩ := disconnect_sound settings client connecting.closing count sound
  rw [MCPClient.connectOnce]
  cases connecting.opened with
  | error failure =>
      dsimp only [Ran.after]
      rw [rested]
      exact ⟨⟨rfl, idle.counted, idle.ever, idle.readable⟩, idle.synced⟩
  | ok opened =>
      dsimp only [Ran.after]
      rw [connects_append, rested, Nat.zero_add]
      apply sync_sound same settings
      refine ⟨rfl, ?_, ?_, idle.readable⟩
      · dsimp only
        rw [idle.ever, idle.counted]
        by_cases first : 0 < count
        · rw [decide_eq_true first, if_pos rfl]
          show count - 1 + 1 = count + 1 - 1
          omega
        · rw [decide_eq_false first, if_neg Bool.false_ne_true]
          show count - 1 = count + 1 - 1
          omega
      · exact (decide_eq_true (Nat.succ_pos count)).symm

theorem preserves_connect_each (attempts : Nat) (connecting : List Connecting) (client : MCPClient) :
    Preserves settings client (connectEach same settings attempts connecting client).after := by
  induction connecting generalizing client with
  | nil => exact preserves_same settings client
  | cons first rest ih =>
      apply preserves_recovering settings client _ _ (preserves_connect_once same settings client first)
      intro raised client count sound
      apply ih (client.setError raised) count
      exact ⟨⟨sound.paired, sound.counted, sound.ever, sound.readable⟩, sound.synced⟩

theorem preserves_connect (attempts : Nat) (connecting : Nat → Connecting) (client : MCPClient) :
    Preserves settings client (client.connectWithRetries same settings attempts connecting).after :=
  preserves_connect_each same settings _ _ client

theorem preserves_ensure (connecting : Nat → Connecting) (client : MCPClient) :
    Preserves settings client (client.ensureConnected same settings connecting).after := by
  rw [MCPClient.ensureConnected]
  by_cases connected : client.connected = true
  · rw [if_pos connected]
    exact preserves_same settings client
  · rw [if_neg connected]
    exact preserves_connect same settings _ connecting client

theorem preserves_refresh (client : MCPClient) (listed : Except PyException Listed) :
    Preserves settings client (client.refreshTools same settings listed).after := by
  unfold MCPClient.refreshTools
  cases session : client.session with
  | none => exact preserves_same settings client
  | some _ =>
      cases listed with
      | error failure => exact preserves_same settings client
      | ok listed =>
          intro count sound
          have paired := session ▸ sound.paired
          exact sync_sound same settings _ listed.schemas count ⟨paired, sound.counted, sound.ever, sound.readable⟩

theorem preserves_ping (client : MCPClient) (ping : Except PyException Rat) (closing : Option PyException) :
    Preserves settings client (client.handlePing ping closing).after := by
  unfold MCPClient.handlePing
  cases session : client.session with
  | none => exact preserves_same settings client
  | some _ =>
      cases ping with
      | error failure =>
          apply preserves_and_then settings client _ _ (preserves_give_up settings client (.other failure) closing)
          exact fun _ client => preserves_same settings client
      | ok pingedAt =>
          intro count sound
          have paired := session ▸ sound.paired
          exact ⟨⟨paired, sound.counted, sound.ever, sound.readable⟩, sound.synced⟩

theorem preserves_maintenance (client : MCPClient) (world : Maintaining) :
    Preserves settings client (client.maintenance same settings world).after := by
  rw [MCPClient.maintenance]
  by_cases closed : client.closed = true
  · rw [if_pos closed]
    exact preserves_same settings client
  · rw [if_neg closed]
    apply preserves_recovering settings client _ _ _ fun raised client =>
      preserves_give_up settings client raised world.closing
    apply preserves_and_then settings client
    · by_cases connected : client.connected = true
      · rw [if_pos connected]
        exact preserves_ping settings client world.ping world.pingClosing
      · rw [if_neg connected]
        apply preserves_and_then settings client _ _ (preserves_connect same settings 1 _ client)
        exact fun _ client => preserves_same settings client
    · intro alive client
      by_cases due : (alive && client.refreshDue settings world.now) = true
      · rw [if_pos due]
        apply preserves_and_then settings client _ _ (preserves_refresh same settings client world.listed)
        exact fun _ client => preserves_same settings client
      · rw [if_neg due]
        exact preserves_same settings client

theorem preserves_call_once (client : MCPClient) (name : String) (arguments : Dict) (answer : Answer) :
    Preserves settings client (client.callOnce loads name arguments answer).after := by
  have silent : Preserves settings client (client, [.sent name arguments answer]) := fun count sound => sound
  unfold MCPClient.callOnce
  cases client.session with
  | none => exact preserves_same settings client
  | some _ =>
      cases answer with
      | error failure => exact silent
      | ok result =>
          dsimp only
          by_cases failed : result.isError = true
          · rw [if_pos failed]
            exact silent
          · rw [if_neg failed]
            cases result.value loads <;> exact silent

theorem preserves_retry (name : String) (arguments : Dict) (retries : List Retry) (client : MCPClient) :
    Preserves settings client (retryCall same settings loads name arguments retries client).after := by
  induction retries generalizing client with
  | nil => exact preserves_same settings client
  | cons retry rest ih =>
      apply preserves_recovering settings client
      · apply preserves_and_then settings client _ _ (preserves_connect same settings 1 _ client)
        exact fun _ client => preserves_call_once settings loads client name arguments retry.answer
      · intro raised client
        have later := preserves_and_then settings client (client.giveUp raised retry.closing)
          (fun _ client => retryCall same settings loads name arguments rest client)
          (preserves_give_up settings client raised retry.closing) fun _ client => ih client
        cases raised with
        | toolCall text => exact preserves_same settings client
        | connection text => exact later
        | other failure => exact later

theorem preserves_call (client : MCPClient) (request : PendingRequest) (world : Calling) :
    Preserves settings client (client.handleCall same settings loads request world).after := by
  rw [MCPClient.handleCall]
  cases request.name with
  | none => exact preserves_same settings client
  | some name =>
      apply preserves_and_then settings client _ _ (preserves_ensure same settings world.connecting client)
      intro _ client
      apply preserves_recovering settings client _ _ (preserves_call_once settings loads client name _ world.answer)
      intro raised client
      have later := preserves_and_then settings client (client.giveUp raised world.closing)
        (fun _ client => retryCall same settings loads name (request.arguments.getD [])
          ((List.range settings.callRetryAttempts).map world.retries) client)
        (preserves_give_up settings client raised world.closing)
        fun _ client => preserves_retry same settings loads name _ _ client
      cases raised with
      | toolCall text => exact preserves_same settings client
      | connection text => exact later
      | other failure => exact later

def ClientStep.Attaches : ClientStep → Prop
  | .registerTools registry _ => Describable registry
  | _ => True

theorem preserves_step (client : MCPClient) (step : ClientStep) (attaches : step.Attaches) :
    Preserves settings client (client.perform same settings loads step) := by
  cases step with
  | registerTools registry schemas =>
      intro count sound
      apply sync_sound same settings _ schemas count
      refine ⟨sound.paired, sound.counted, sound.ever, fun attached here => ?_⟩
      cases here
      exact attaches
  | connect connecting => exact preserves_connect same settings _ connecting client
  | refresh connecting listed =>
      apply preserves_and_then settings client _ _ (preserves_ensure same settings connecting client)
      exact fun _ client => preserves_refresh same settings client listed
  | call request world => exact preserves_call same settings loads client request world
  | ping ping closing => exact preserves_ping settings client ping closing
  | maintenance world => exact preserves_maintenance same settings client world
  | disconnect closing => exact preserves_disconnect settings client closing
  | close => exact fun count sound => ⟨⟨sound.paired, sound.counted, sound.ever, sound.readable⟩, sound.synced⟩

theorem preserves_run (steps : List ClientStep) (client : MCPClient) (attaches : ∀ step ∈ steps, step.Attaches) :
    Preserves settings client (performAll same settings loads steps client) := by
  induction steps generalizing client with
  | nil => exact preserves_same settings client
  | cons step rest ih =>
      apply preserves_chain settings client _ _ _ _
        (preserves_step same settings loads client step (attaches step (List.mem_cons_self ..)))
      exact ih _ fun later member => attaches later (List.mem_cons_of_mem _ member)

end Operations

theorem sound_new : Sound settings {} 0 := by
  refine ⟨⟨rfl, rfl, rfl, ?_⟩, ?_⟩
  · intro registry attached
    cases attached
  · intro registry attached
    cases attached

theorem client_state_sound (steps : List ClientStep) (attaches : ∀ step ∈ steps, step.Attaches) :
    (performAll same settings loads steps {}).1.session.isSome = (performAll same settings loads steps {}).1.stack.isSome ∧
      (performAll same settings loads steps {}).1.reconnectCount =
        connects (performAll same settings loads steps {}).2 - 1 ∧
      ((performAll same settings loads steps {}).1.connected = true →
        ∀ registry, (performAll same settings loads steps {}).1.registry = some registry →
          ((performAll same settings loads steps {}).1.tools.map Tool.name).Nodup →
          Synced settings registry (performAll same settings loads steps {}).1.tools) := by
  have sound := preserves_run same settings loads steps {} attaches 0 (sound_new settings)
  rw [Nat.zero_add] at sound
  exact ⟨sound.paired, sound.counted, fun _ => sound.synced⟩

theorem describable_empty : Describable ToolRegistry.empty := by
  intro name tool _ found
  cases found

def sampleTool : Tool := ⟨"a", none, none, 1⟩

-- A registry is attached and a server connected that lists these tools.
def sampleSteps (tools : List Tool) : List ClientStep :=
  [.registerTools .empty sampleSchemas, .connect fun _ => ⟨none, .ok { sampleOpened with tools }⟩]

theorem sample_attaches (tools : List Tool) : ∀ step ∈ sampleSteps tools, step.Attaches := by
  intro step member
  rcases List.mem_pair.mp member with rfl | rfl
  · exact describable_empty
  · trivial

-- The server lists a tool twice, and the registry stays as it was.
theorem client_registry_not_synced :
    ¬ ∀ steps : List ClientStep, (∀ step ∈ steps, step.Attaches) →
      (performAll (fun _ _ => true) sampleSettings limitedLoads steps {}).1.connected = true →
      ∀ registry, (performAll (fun _ _ => true) sampleSettings limitedLoads steps {}).1.registry = some registry →
        Synced sampleSettings registry (performAll (fun _ _ => true) sampleSettings limitedLoads steps {}).1.tools := by
  intro always
  have synced := always (sampleSteps [sampleTool, sampleTool]) (sample_attaches _) rfl ToolRegistry.empty rfl
  obtain ⟨schemas, found⟩ := synced.registered sampleTool (List.mem_cons_self ..)
  cases found

theorem client_state_sound_sample :
    (performAll (fun _ _ => true) sampleSettings limitedLoads (sampleSteps [sampleTool]) {}).1.reconnectCount =
        connects (performAll (fun _ _ => true) sampleSettings limitedLoads (sampleSteps [sampleTool]) {}).2 - 1 ∧
      ∃ registry, (performAll (fun _ _ => true) sampleSettings limitedLoads (sampleSteps [sampleTool]) {}).1.registry =
        some registry ∧ Synced sampleSettings registry [sampleTool] := by
  have sound := client_state_sound (fun _ _ => true) sampleSettings limitedLoads (sampleSteps [sampleTool]) (sample_attaches _)
  refine ⟨sound.2.1, _, rfl, ?_⟩
  exact sound.2.2 rfl _ rfl (List.nodup_singleton _)

end DataPilot.Mcp.Connection
