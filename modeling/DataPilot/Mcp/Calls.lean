import DataPilot.Base.JsonText
import DataPilot.Mcp.Connection

set_option autoImplicit false

namespace DataPilot.Mcp.Connection

open DataPilot.Base DataPilot.Tools.Shared

def ClientEvent.isSent : ClientEvent → Bool
  | .sent _ _ _ => true
  | _ => false

def ClientEvent.isAnswered : ClientEvent → Bool
  | .sent _ _ (.ok _) => true
  | _ => false

def Quiet (log : List ClientEvent) : Prop := ∀ event ∈ log, event.isSent = false

section Events

variable (same : Tools.ToolDefinition → Tools.ToolDefinition → Bool) (settings : Settings)

theorem quiet_append (front back : List ClientEvent) : Quiet (front ++ back) ↔ Quiet front ∧ Quiet back := by
  rw [Quiet, List.forall_mem_append]
  exact Iff.rfl

theorem quiet_filter (log : List ClientEvent) (quiet : Quiet log) : log.filter ClientEvent.isSent = [] :=
  List.filter_eq_nil_iff.mpr fun event member => Bool.eq_false_iff.mp (quiet event member)

theorem disconnect_quiet (client : MCPClient) (closing : Option PyException) : Quiet (client.disconnect closing).2 := by
  unfold MCPClient.disconnect
  cases client.stack with
  | none => simp [Quiet]
  | some _ => cases closing <;> simp [Quiet, ClientEvent.isSent]

theorem sync_connected (client : MCPClient) (schemas : Schemas) :
    (client.syncRegistry same settings schemas).1.connected = client.connected := by
  unfold MCPClient.syncRegistry
  cases client.registry with
  | none => rfl
  | some registry =>
      dsimp only
      cases (registry.replacePrefix same schemas.memory "mcp__"
        (client.tools.map (settings.toRegisteredTool schemas))).result <;> rfl

theorem connect_once_opened (client : MCPClient) (connecting : Connecting) (opened : Opened)
    (answers : connecting.opened = .ok opened) :
    Quiet (client.connectOnce same settings connecting).log ∧
      (client.connectOnce same settings connecting).client.connected = true ∧
      (client.connectOnce same settings connecting).result = .ok () := by
  rw [MCPClient.connectOnce, answers]
  refine ⟨?_, ?_, rfl⟩
  · apply (quiet_append _ _).mpr ⟨disconnect_quiet client connecting.closing, _⟩
    simp [Quiet, ClientEvent.isSent]
  · rw [sync_connected]
    rfl

theorem connect_once_fails (client : MCPClient) (connecting : Connecting) (failure : PyException)
    (fails : connecting.opened = .error failure) :
    Quiet (client.connectOnce same settings connecting).log ∧
      (client.connectOnce same settings connecting).result = .error (.other failure) := by
  rw [MCPClient.connectOnce, fails]
  exact ⟨disconnect_quiet client connecting.closing, rfl⟩

theorem connect_each_ways (attempts : Nat) (connecting : List Connecting) (client : MCPClient) :
    Quiet (connectEach same settings attempts connecting client).log ∧
      (((∃ one ∈ connecting, one.opened.isOk = true) ∧
          (connectEach same settings attempts connecting client).client.connected = true ∧
          (connectEach same settings attempts connecting client).result = .ok ()) ∨
        ((∀ one ∈ connecting, one.opened.isOk = false) ∧
          ∃ text, (connectEach same settings attempts connecting client).result = .error (.connection text))) := by
  induction connecting generalizing client with
  | nil => exact ⟨by simp [Quiet, connectEach], .inr ⟨by simp, _, rfl⟩⟩
  | cons first rest ih =>
      rw [connectEach, Ran.recovering]
      cases opened : first.opened with
      | ok answers =>
          obtain ⟨quiet, connected, done⟩ := connect_once_opened same settings client first answers opened
          rw [done]
          exact ⟨quiet, .inl ⟨⟨first, List.mem_cons_self .., by rw [opened]; rfl⟩, connected, done⟩⟩
      | error failure =>
          obtain ⟨quiet, failed⟩ := connect_once_fails same settings client first failure opened
          rw [failed]
          dsimp only
          obtain ⟨later, ways⟩ := ih ((client.connectOnce same settings first).client.setError (.other failure))
          refine ⟨(quiet_append _ _).mpr ⟨quiet, later⟩, ?_⟩
          rcases ways with ⟨⟨one, member, opens⟩, connected, done⟩ | ⟨refused, failed⟩
          · exact .inl ⟨⟨one, List.mem_cons_of_mem _ member, opens⟩, connected, done⟩
          · exact .inr ⟨List.forall_mem_cons.mpr ⟨by rw [opened]; rfl, refused⟩, failed⟩

theorem give_up_quiet (client : MCPClient) (raised : Raised) (closing : Option PyException) :
    Quiet (client.giveUp raised closing).log := disconnect_quiet (client.setError raised) closing

end Events

section Calls

variable (same : Tools.ToolDefinition → Tools.ToolDefinition → Bool) (settings : Settings)
variable (loads : JsonLoads) (name : String) (arguments : Dict)

-- What a call on a connected client raises or returns.
def answerOutcome : Answer → Except Raised Json
  | .error failure => .error (.connection s!"MCP transport failed while calling '{name}': {failure.text}")
  | .ok result =>
      if result.isError then .error (.toolCall (orElseText (resultText result) s!"MCP tool failed: {name}"))
      else
        match result.value loads with
        | .ok value => .ok value
        | .error failure => .error (.other failure)

theorem call_connected (client : MCPClient) (answer : Answer) (connected : client.connected = true) :
    client.callOnce loads name arguments answer =
      ⟨client, [.sent name arguments answer], answerOutcome loads name answer⟩ := by
  unfold MCPClient.callOnce answerOutcome
  cases session : client.session with
  | none =>
      rw [MCPClient.connected, session] at connected
      cases connected
  | some _ =>
      cases answer with
      | error failure => rfl
      | ok result =>
          dsimp only
          by_cases failed : result.isError = true
          · rw [if_pos failed, if_pos failed]
          · rw [if_neg failed, if_neg failed]
            cases result.value loads <;> rfl

-- The except clauses around a call, with the rounds that are left.
def retrying (closing : Option PyException) (rest : List Retry) (raised : Raised) (client : MCPClient) : Ran Json :=
  match raised with
  | .toolCall text => ⟨client, [], .error (.toolCall text)⟩
  | raised =>
      (client.giveUp raised closing).andThen fun _ client => retryCall same settings loads name arguments rest client

theorem retrying_goes (closing : Option PyException) (rest : List Retry) (raised : Raised) (client : MCPClient)
    (goes : ∀ text, raised ≠ .toolCall text) :
    ∃ next log, Quiet log ∧ retrying same settings loads name arguments closing rest raised client =
      ⟨(retryCall same settings loads name arguments rest next).client,
        log ++ (retryCall same settings loads name arguments rest next).log,
        (retryCall same settings loads name arguments rest next).result⟩ := by
  refine ⟨(client.giveUp raised closing).client, _, give_up_quiet client raised closing, ?_⟩
  cases raised with
  | toolCall text => exact absurd rfl (goes text)
  | connection text => rfl
  | other failure => rfl

theorem retry_unfold (retry : Retry) (rest : List Retry) (client : MCPClient) :
    retryCall same settings loads name arguments (retry :: rest) client =
      ((client.connectWithRetries same settings 1 fun _ => retry.connecting).andThen fun _ client =>
        client.callOnce loads name arguments retry.answer).recovering
          (retrying same settings loads name arguments retry.closing rest) := rfl

theorem retry_fails (retry : Retry) (rest : List Retry) (client : MCPClient)
    (fails : retry.connecting.opened.isOk = false) :
    ∃ next log, Quiet log ∧ retryCall same settings loads name arguments (retry :: rest) client =
      ⟨(retryCall same settings loads name arguments rest next).client,
        log ++ (retryCall same settings loads name arguments rest next).log,
        (retryCall same settings loads name arguments rest next).result⟩ := by
  obtain ⟨quiet, ways⟩ := connect_each_ways same settings 1 [retry.connecting] client
  rcases ways with ⟨⟨one, member, opens⟩, _⟩ | ⟨_, text, failed⟩
  · rw [List.mem_singleton.mp member, fails] at opens
    cases opens
  · let connecting := client.connectWithRetries same settings 1 fun _ => retry.connecting
    have raised : connecting.result = .error (.connection text) := failed
    obtain ⟨next, log, silent, gone⟩ := retrying_goes same settings loads name arguments retry.closing rest
      (.connection text) connecting.client (by intro text same; cases same)
    refine ⟨next, connecting.log ++ log, (quiet_append _ _).mpr ⟨quiet, silent⟩, ?_⟩
    rw [retry_unfold, and_then_error connecting _ _ raised, recovering_error _ _ _ rfl, gone, List.append_assoc]

theorem retry_sends (retry : Retry) (rest : List Retry) (client : MCPClient)
    (opens : retry.connecting.opened.isOk = true) :
    ∃ next log, Quiet log ∧ next.connected = true ∧ retryCall same settings loads name arguments (retry :: rest) client =
      (⟨next, log ++ [.sent name arguments retry.answer], answerOutcome loads name retry.answer⟩ : Ran Json).recovering
        (retrying same settings loads name arguments retry.closing rest) := by
  obtain ⟨quiet, ways⟩ := connect_each_ways same settings 1 [retry.connecting] client
  rcases ways with ⟨_, connected, done⟩ | ⟨refused, _⟩
  · let connecting := client.connectWithRetries same settings 1 fun _ => retry.connecting
    have opened : connecting.result = .ok () := done
    refine ⟨connecting.client, connecting.log, quiet, connected, ?_⟩
    rw [retry_unfold, and_then_ok connecting _ () opened, call_connected loads name arguments connecting.client _ connected]
  · exact Bool.noConfusion ((refused _ (List.mem_singleton_self _)).symm.trans opens)

theorem send_ways (client : MCPClient) (front : List ClientEvent) (answer : Answer) (closing : Option PyException)
    (rest : List Retry) (ran : Ran Json)
    (made : ran = (⟨client, front ++ [.sent name arguments answer], answerOutcome loads name answer⟩ : Ran Json).recovering
      (retrying same settings loads name arguments closing rest)) :
    (∃ result, answer = .ok result ∧ (result.isError = true ∨ ∃ value, result.value loads = .ok value) ∧
        ran = ⟨client, front ++ [.sent name arguments answer], answerOutcome loads name answer⟩) ∨
      ((∀ result, answer = .ok result → result.isError = false ∧ ∃ failure, result.value loads = .error failure) ∧
        ∃ next log, Quiet log ∧ ran =
          ⟨(retryCall same settings loads name arguments rest next).client,
            front ++ .sent name arguments answer :: (log ++ (retryCall same settings loads name arguments rest next).log),
            (retryCall same settings loads name arguments rest next).result⟩) := by
  have goes : ∀ raised, answerOutcome loads name answer = .error raised → (∀ text, raised ≠ .toolCall text) →
      ∃ next log, Quiet log ∧ ran =
        ⟨(retryCall same settings loads name arguments rest next).client,
          front ++ .sent name arguments answer :: (log ++ (retryCall same settings loads name arguments rest next).log),
          (retryCall same settings loads name arguments rest next).result⟩ := by
    intro raised failed other
    obtain ⟨next, log, quiet, gone⟩ := retrying_goes same settings loads name arguments closing rest raised client other
    refine ⟨next, log, quiet, ?_⟩
    rw [made, recovering_error _ _ raised failed, gone, List.append_assoc, List.singleton_append]
  cases answer with
  | error failure =>
      right
      refine ⟨?_, goes (.connection _) rfl (by intro text same; cases same)⟩
      intro result same
      cases same
  | ok result =>
      by_cases failed : result.isError = true
      · left
        refine ⟨result, rfl, .inl failed, ?_⟩
        have raised : answerOutcome loads name (.ok result) =
            .error (.toolCall (orElseText (resultText result) s!"MCP tool failed: {name}")) := if_pos failed
        rw [made, recovering_error _ _ _ raised, retrying, List.append_nil, raised]
      · have outcome : answerOutcome loads name (.ok result) =
            match result.value loads with | .ok value => .ok value | .error failure => .error (.other failure) := if_neg failed
        cases read : result.value loads with
        | ok value =>
            rw [read] at outcome
            left
            refine ⟨result, rfl, .inr ⟨value, read⟩, ?_⟩
            rw [made, recovering_ok _ _ value outcome]
        | error failure =>
            rw [read] at outcome
            right
            refine ⟨fun other equal => ?_, goes (.other failure) outcome (by intro text same; cases same)⟩
            cases equal
            exact ⟨Bool.eq_false_of_not_eq_true failed, failure, read⟩

-- What the claims about a call need of its log: an answered send is the last one, an
-- error answer is raised on the spot, and a value is that of the last send.
structure Settled (ran : Ran Json) : Prop where
  last : ∀ front back result, ran.log = front ++ .sent name arguments (.ok result) :: back → Quiet back
  raised : ∀ front back result, ran.log = front ++ .sent name arguments (.ok result) :: back → result.isError = true →
    back = [] ∧ ran.client.connected = true ∧
      ran.result = .error (.toolCall (orElseText (resultText result) s!"MCP tool failed: {name}"))
  value : ∀ value, ran.result = .ok value → ∃ front back result,
    ran.log = front ++ .sent name arguments (.ok result) :: back ∧ Quiet back ∧ result.isError = false ∧
      result.value loads = .ok value

theorem split_after (front log before after : List ClientEvent) (event : ClientEvent) (absent : event ∉ front)
    (split : front ++ log = before ++ event :: after) :
    ∃ middle, before = front ++ middle ∧ log = middle ++ event :: after := by
  rcases List.append_eq_append_iff.mp split with ⟨middle, same, rest⟩ | ⟨middle, same, rest⟩
  · exact ⟨middle, same, rest⟩
  · cases middle with
    | nil => exact ⟨[], by rw [same, List.append_nil, List.append_nil], rest.symm⟩
    | cons first others =>
        rw [List.cons_append, List.cons.injEq] at rest
        rw [same, ← rest.1] at absent
        exact absurd (List.mem_append_right before (List.mem_cons_self ..)) absent

theorem settled_frame (front : List ClientEvent) (ran : Ran Json) (unanswered : ∀ event ∈ front, event.isAnswered = false) :
    Settled loads name arguments ⟨ran.client, front ++ ran.log, ran.result⟩ ↔ Settled loads name arguments ran := by
  have absent : ∀ result, ClientEvent.sent name arguments (.ok result) ∉ front := fun result member =>
    Bool.noConfusion (unanswered _ member)
  constructor
  · rintro ⟨last, raised, value⟩
    refine ⟨fun before after result split => ?_, fun before after result split => ?_, fun read done => ?_⟩
    · apply last (front ++ before) after result
      rw [split, List.append_assoc]
    · apply raised (front ++ before) after result
      rw [split, List.append_assoc]
    · obtain ⟨before, after, result, split, quiet, good⟩ := value read done
      obtain ⟨middle, _, rest⟩ := split_after front ran.log before after _ (absent result) split
      exact ⟨middle, after, result, rest, quiet, good⟩
  · rintro ⟨last, raised, value⟩
    refine ⟨fun before after result split => ?_, fun before after result split => ?_, fun read done => ?_⟩
    · obtain ⟨middle, _, rest⟩ := split_after front ran.log before after _ (absent result) split
      exact last middle after result rest
    · obtain ⟨middle, _, rest⟩ := split_after front ran.log before after _ (absent result) split
      exact raised middle after result rest
    · obtain ⟨before, after, result, split, quiet, good⟩ := value read done
      refine ⟨front ++ before, after, result, ?_, quiet, good⟩
      rw [split, List.append_assoc]

theorem quiet_unanswered (log : List ClientEvent) (quiet : Quiet log) : ∀ event ∈ log, event.isAnswered = false := by
  intro event member
  have silent := quiet event member
  cases event with
  | sent _ _ _ => cases silent
  | connected => rfl
  | disconnected => rfl

theorem only_send (front back before after : List ClientEvent) (answer other : Answer) (quiet : Quiet front)
    (later : Quiet back)
    (split : front ++ .sent name arguments answer :: back = before ++ .sent name arguments other :: after) :
    other = answer ∧ after = back := by
  have absent : ClientEvent.sent name arguments other ∉ front := fun member => Bool.noConfusion (quiet _ member)
  obtain ⟨middle, _, rest⟩ := split_after front _ before after _ absent split
  cases middle with
  | nil =>
      rw [List.nil_append, List.cons.injEq, ClientEvent.sent.injEq] at rest
      exact ⟨rest.1.2.2.symm, rest.2.symm⟩
  | cons first others =>
      rw [List.cons_append, List.cons.injEq] at rest
      have member : ClientEvent.sent name arguments other ∈ back := rest.2 ▸ List.mem_append_right _ (List.mem_cons_self ..)
      exact Bool.noConfusion (later _ member)

theorem settled_answered (client : MCPClient) (front : List ClientEvent) (result : CallToolResult) (quiet : Quiet front)
    (connected : client.connected = true) :
    Settled loads name arguments
      ⟨client, front ++ [.sent name arguments (.ok result)], answerOutcome loads name (.ok result)⟩ := by
  have silent : Quiet [] := by simp [Quiet]
  refine ⟨fun before after other split => ?_, fun before after other split failed => ?_, fun value done => ?_⟩
  · rw [(only_send name arguments front [] before after _ _ quiet silent split).2]
    exact silent
  · obtain ⟨same, last⟩ := only_send name arguments front [] before after _ _ quiet silent split
    cases same
    exact ⟨last, connected, if_pos failed⟩
  · refine ⟨front, [], result, rfl, silent, ?_⟩
    dsimp only at done
    rw [answerOutcome] at done
    by_cases failed : result.isError = true
    · rw [if_pos failed] at done
      cases done
    · rw [if_neg failed] at done
      refine ⟨Bool.eq_false_of_not_eq_true failed, ?_⟩
      cases read : result.value loads with
      | error failure =>
          rw [read] at done
          cases done
      | ok answer =>
          rw [read] at done
          cases done
          rfl

theorem settled_unconverted (client : MCPClient) (front back : List ClientEvent) (result : CallToolResult)
    (final : Except Raised Json) (quiet : Quiet front) (good : result.isError = false) (failure : PyException)
    (unread : result.value loads = .error failure) :
    Settled loads name arguments ⟨client, front ++ .sent name arguments (.ok result) :: back, final⟩ ↔
      Quiet back ∧ ∀ value, final ≠ .ok value := by
  constructor
  · rintro ⟨last, _, value⟩
    have later := last front back result rfl
    refine ⟨later, fun read done => ?_⟩
    obtain ⟨before, after, other, split, _, _, converted⟩ := value read done
    obtain ⟨same, _⟩ := only_send name arguments front back before after _ _ quiet later split
    cases same
    rw [unread] at converted
    cases converted
  · rintro ⟨later, fails⟩
    refine ⟨fun before after other split => ?_, fun before after other split failed => ?_, fun value done => ?_⟩
    · rw [(only_send name arguments front back before after _ _ quiet later split).2]
      exact later
    · obtain ⟨same, _⟩ := only_send name arguments front back before after _ _ quiet later split
      cases same
      exact Bool.noConfusion (failed.symm.trans good)
    · exact absurd done (fails value)

theorem retry_silent (rest : List Retry) (client : MCPClient)
    (fails : ∀ retry ∈ rest, retry.connecting.opened.isOk = false) :
    Quiet (retryCall same settings loads name arguments rest client).log ∧
      ∀ value, (retryCall same settings loads name arguments rest client).result ≠ .ok value := by
  induction rest generalizing client with
  | nil =>
      refine ⟨by simp [Quiet, retryCall], fun value done => ?_⟩
      cases done
  | cons retry rest ih =>
      obtain ⟨next, log, quiet, gone⟩ := retry_fails same settings loads name arguments retry rest client
        (fails retry (List.mem_cons_self ..))
      obtain ⟨later, raised⟩ := ih next fun other member => fails other (List.mem_cons_of_mem _ member)
      rw [gone]
      exact ⟨(quiet_append _ _).mpr ⟨quiet, later⟩, raised⟩

theorem retry_loud (rest : List Retry) (client : MCPClient) (retry : Retry) (member : retry ∈ rest)
    (opens : retry.connecting.opened.isOk = true) :
    ¬ Quiet (retryCall same settings loads name arguments rest client).log := by
  induction rest generalizing client with
  | nil => cases member
  | cons first rest ih =>
      cases opened : first.connecting.opened.isOk with
      | true =>
          obtain ⟨next, front, _, _, made⟩ := retry_sends same settings loads name arguments first rest client opened
          have sends : ClientEvent.sent name arguments first.answer ∈
              (retryCall same settings loads name arguments (first :: rest) client).log := by
            rcases send_ways same settings loads name arguments next front first.answer first.closing rest _ made with
              ⟨_, _, _, ended⟩ | ⟨_, _, _, _, gone⟩
            · rw [ended]
              exact List.mem_append_right _ (List.mem_singleton_self _)
            · rw [gone]
              exact List.mem_append_right _ (List.mem_cons_self ..)
          exact fun quiet => Bool.noConfusion (quiet _ sends)
      | false =>
          rcases List.mem_cons.mp member with rfl | later
          · exact Bool.noConfusion (opened.symm.trans opens)
          · obtain ⟨next, log, _, gone⟩ := retry_fails same settings loads name arguments first rest client opened
            rw [gone, quiet_append]
            exact fun quiet => ih next later quiet.2

-- The answers and connections with which no answered call is sent again: an answer that
-- cannot be converted is followed by no round that connects.
def Settles (answer : Answer) : List Retry → Prop
  | [] => True
  | retry :: rest =>
      match answer with
      | .ok result =>
          (result.isError = true ∨ ∃ value, result.value loads = .ok value) ∨
            ∀ later ∈ retry :: rest, later.connecting.opened.isOk = false
      | .error failure =>
          if retry.connecting.opened.isOk = true then Settles retry.answer rest else Settles (.error failure) rest

theorem settled_send (client : MCPClient) (front : List ClientEvent) (answer : Answer) (closing : Option PyException)
    (rest : List Retry) (ran : Ran Json) (quiet : Quiet front) (connected : client.connected = true)
    (made : ran = (⟨client, front ++ [.sent name arguments answer], answerOutcome loads name answer⟩ : Ran Json).recovering
      (retrying same settings loads name arguments closing rest))
    (later : ∀ next failure, Settled loads name arguments (retryCall same settings loads name arguments rest next) ↔
      Settles loads (.error failure) rest) :
    Settled loads name arguments ran ↔ Settles loads answer rest := by
  rcases send_ways same settings loads name arguments client front answer closing rest ran made with
    ⟨result, rfl, ends, ended⟩ | ⟨unread, next, log, silent, gone⟩
  · rw [ended]
    refine ⟨fun _ => ?_, fun _ => settled_answered loads name arguments client front result quiet connected⟩
    cases rest with
    | nil => trivial
    | cons retry rest => exact .inl ends
  · rw [gone]
    cases answer with
    | error failure =>
        have moved : front ++ .sent name arguments (.error failure) ::
            (log ++ (retryCall same settings loads name arguments rest next).log) =
            (front ++ .sent name arguments (.error failure) :: log) ++
              (retryCall same settings loads name arguments rest next).log := by simp
        rw [moved, settled_frame loads name arguments _ (retryCall same settings loads name arguments rest next)]
        · exact later next failure
        · intro event member
          rcases List.mem_append.mp member with inside | inside
          · exact quiet_unanswered front quiet event inside
          · rcases List.mem_cons.mp inside with rfl | inside
            · rfl
            · exact quiet_unanswered log silent event inside
    | ok result =>
        obtain ⟨good, failure, lost⟩ := unread result rfl
        rw [settled_unconverted loads name arguments _ front _ result _ quiet good failure lost, quiet_append]
        constructor
        · rintro ⟨⟨_, still⟩, _⟩
          cases rest with
          | nil => trivial
          | cons retry rest =>
              refine .inr fun other member => ?_
              by_contra opens
              exact retry_loud same settings loads name arguments _ next other member (Bool.eq_true_of_not_eq_false opens) still
        · intro settles
          have fails : ∀ other ∈ rest, other.connecting.opened.isOk = false := by
            cases rest with
            | nil => simp
            | cons retry rest =>
                rcases settles with (failed | ⟨value, read⟩) | fails
                · exact Bool.noConfusion (failed.symm.trans good)
                · rw [lost] at read
                  cases read
                · exact fails
          obtain ⟨still, raised⟩ := retry_silent same settings loads name arguments rest next fails
          exact ⟨⟨silent, still⟩, raised⟩

theorem settled_retry (rest : List Retry) (client : MCPClient) (failure : PyException) :
    Settled loads name arguments (retryCall same settings loads name arguments rest client) ↔
      Settles loads (.error failure) rest := by
  induction rest generalizing client failure with
  | nil =>
      refine ⟨fun _ => trivial, fun _ => ⟨?_, ?_, ?_⟩⟩
      · intro front back result split
        exact absurd split.symm (by simp [retryCall])
      · intro front back result split
        exact absurd split.symm (by simp [retryCall])
      · intro value done
        cases done
  | cons retry rest ih =>
      rw [Settles]
      cases opened : retry.connecting.opened.isOk with
      | true =>
          rw [if_pos rfl]
          obtain ⟨next, front, quiet, connected, made⟩ :=
            retry_sends same settings loads name arguments retry rest client opened
          exact settled_send same settings loads name arguments next front retry.answer retry.closing rest _ quiet connected
            made ih
      | false =>
          obtain ⟨next, log, quiet, gone⟩ := retry_fails same settings loads name arguments retry rest client opened
          rw [if_neg Bool.false_ne_true, gone, settled_frame loads name arguments log
            (retryCall same settings loads name arguments rest next) (quiet_unanswered log quiet)]
          exact ih next failure

structure Bounded (limit : Nat) (log : List ClientEvent) : Prop where
  count : (log.filter ClientEvent.isSent).length ≤ limit
  own : ∀ event ∈ log, event.isSent = true → ∃ answer, event = .sent name arguments answer

theorem bounded_quiet (limit : Nat) (log : List ClientEvent) (quiet : Quiet log) : Bounded name arguments limit log := by
  refine ⟨by simp [quiet_filter log quiet], fun event member sent => ?_⟩
  exact Bool.noConfusion (sent.symm.trans (quiet event member))

theorem bounded_append (first second : Nat) (front back : List ClientEvent) (one : Bounded name arguments first front)
    (other : Bounded name arguments second back) : Bounded name arguments (first + second) (front ++ back) := by
  refine ⟨?_, fun event member sent => ?_⟩
  · rw [List.filter_append, List.length_append]
    exact Nat.add_le_add one.count other.count
  · rcases List.mem_append.mp member with inside | inside
    · exact one.own event inside sent
    · exact other.own event inside sent

theorem bounded_sent (front : List ClientEvent) (answer : Answer) (quiet : Quiet front) :
    Bounded name arguments 1 (front ++ [.sent name arguments answer]) := by
  have single : Bounded name arguments 1 [.sent name arguments answer] := by
    refine ⟨Nat.le_refl 1, fun event member _ => ⟨answer, List.mem_singleton.mp member⟩⟩
  have whole := bounded_append name arguments 0 1 front _ (bounded_quiet name arguments 0 front quiet) single
  rwa [Nat.zero_add] at whole

theorem send_bounded (client : MCPClient) (front : List ClientEvent) (answer : Answer) (closing : Option PyException)
    (rest : List Retry) (ran : Ran Json) (quiet : Quiet front)
    (made : ran = (⟨client, front ++ [.sent name arguments answer], answerOutcome loads name answer⟩ : Ran Json).recovering
      (retrying same settings loads name arguments closing rest))
    (later : ∀ next, Bounded name arguments rest.length (retryCall same settings loads name arguments rest next).log) :
    Bounded name arguments (1 + rest.length) ran.log := by
  rcases send_ways same settings loads name arguments client front answer closing rest ran made with
    ⟨_, _, _, ended⟩ | ⟨_, next, log, silent, gone⟩
  · rw [ended]
    have later := bounded_quiet name arguments rest.length [] (by simp [Quiet])
    have whole := bounded_append name arguments 1 rest.length _ _ (bounded_sent name arguments front answer quiet) later
    rwa [List.append_nil] at whole
  · have silence := bounded_append name arguments 0 rest.length log _ (bounded_quiet name arguments 0 log silent) (later next)
    have whole := bounded_append name arguments 1 _ _ _ (bounded_sent name arguments front answer quiet) silence
    rw [Nat.zero_add, List.append_assoc, List.singleton_append] at whole
    rw [gone]
    exact whole

theorem retry_bounded (rest : List Retry) (client : MCPClient) :
    Bounded name arguments rest.length (retryCall same settings loads name arguments rest client).log := by
  induction rest generalizing client with
  | nil => exact bounded_quiet name arguments 0 _ (by simp [Quiet, retryCall])
  | cons retry rest ih =>
      rw [List.length_cons, Nat.add_comm]
      cases opened : retry.connecting.opened.isOk with
      | true =>
          obtain ⟨next, front, quiet, _, made⟩ := retry_sends same settings loads name arguments retry rest client opened
          exact send_bounded same settings loads name arguments next front retry.answer retry.closing rest _ quiet made ih
      | false =>
          obtain ⟨next, log, quiet, gone⟩ := retry_fails same settings loads name arguments retry rest client opened
          rw [gone]
          exact bounded_append name arguments 1 rest.length log _ (bounded_quiet name arguments 1 log quiet) (ih next)

end Calls

structure SentOnce (loads : JsonLoads) (retries : Nat) (ran : Ran Json) : Prop where
  bounded : (ran.log.filter ClientEvent.isSent).length ≤ 1 + retries
  last : ∀ front back name arguments result, ran.log = front ++ .sent name arguments (.ok result) :: back → Quiet back
  raised : ∀ front back name arguments result, ran.log = front ++ .sent name arguments (.ok result) :: back →
    result.isError = true → back = [] ∧ ran.client.connected = true ∧
      ran.result = .error (.toolCall (orElseText (resultText result) s!"MCP tool failed: {name}"))
  value : ∀ value, ran.result = .ok value → ∃ front back name arguments result,
    ran.log = front ++ .sent name arguments (.ok result) :: back ∧ Quiet back ∧ result.isError = false ∧
      result.value loads = .ok value

section HandleCall

variable (same : Tools.ToolDefinition → Tools.ToolDefinition → Bool) (settings : Settings)
variable (loads : JsonLoads)

theorem sent_once_iff (name : String) (arguments : Dict) (retries : Nat) (ran : Ran Json)
    (bounded : Bounded name arguments (1 + retries) ran.log) :
    SentOnce loads retries ran ↔ Settled loads name arguments ran := by
  have own : ∀ front back other fields result, ran.log = front ++ .sent other fields (.ok result) :: back →
      other = name ∧ fields = arguments := by
    intro front back other fields result split
    obtain ⟨answer, same⟩ := bounded.own (.sent other fields (.ok result))
      (split ▸ List.mem_append_right _ (List.mem_cons_self ..)) rfl
    rw [ClientEvent.sent.injEq] at same
    exact ⟨same.1, same.2.1⟩
  constructor
  · rintro ⟨_, last, raised, value⟩
    refine ⟨fun front back => last front back name arguments, fun front back => raised front back name arguments,
      fun read done => ?_⟩
    obtain ⟨front, back, other, fields, result, split, good⟩ := value read done
    obtain ⟨rfl, rfl⟩ := own front back other fields result split
    exact ⟨front, back, result, split, good⟩
  · rintro ⟨last, raised, value⟩
    refine ⟨bounded.count, fun front back other fields result split => ?_,
      fun front back other fields result split => ?_, fun read done => ?_⟩
    · obtain ⟨rfl, rfl⟩ := own front back other fields result split
      exact last front back result split
    · obtain ⟨rfl, rfl⟩ := own front back other fields result split
      exact raised front back result split
    · obtain ⟨front, back, result, good⟩ := value read done
      exact ⟨front, back, name, arguments, result, good⟩

theorem sent_once_silent (retries : Nat) (ran : Ran Json) (quiet : Quiet ran.log) (fails : ∀ value, ran.result ≠ .ok value) :
    SentOnce loads retries ran := by
  have unsent : ∀ front back name arguments result, ran.log ≠ front ++ .sent name arguments (.ok result) :: back := by
    intro front back name arguments result split
    have member : ClientEvent.sent name arguments (.ok result) ∈ ran.log :=
      split ▸ List.mem_append_right _ (List.mem_cons_self ..)
    exact Bool.noConfusion (quiet _ member)
  refine ⟨by simp [quiet_filter _ quiet], ?_, ?_, fun value done => absurd done (fails value)⟩
  · exact fun front back name arguments result split => absurd split (unsent front back name arguments result)
  · exact fun front back name arguments result split => absurd split (unsent front back name arguments result)

theorem ensure_ways (client : MCPClient) (connecting : Nat → Connecting) :
    Quiet (client.ensureConnected same settings connecting).log ∧
      (((client.connected = true ∨
            ∃ index, index < max 1 settings.connectAttempts ∧ (connecting index).opened.isOk = true) ∧
          (client.ensureConnected same settings connecting).client.connected = true ∧
          (client.ensureConnected same settings connecting).result = .ok ()) ∨
        (¬ (client.connected = true ∨
            ∃ index, index < max 1 settings.connectAttempts ∧ (connecting index).opened.isOk = true) ∧
          ∃ text, (client.ensureConnected same settings connecting).result = .error (.connection text))) := by
  rw [MCPClient.ensureConnected]
  by_cases connected : client.connected = true
  · rw [if_pos connected]
    exact ⟨by simp [Quiet], .inl ⟨.inl connected, connected, rfl⟩⟩
  · rw [if_neg connected]
    obtain ⟨quiet, ways⟩ := connect_each_ways same settings (max 1 settings.connectAttempts)
      ((List.range (max 1 settings.connectAttempts)).map connecting) client
    refine ⟨quiet, ?_⟩
    rcases ways with ⟨⟨one, member, opens⟩, live, done⟩ | ⟨refused, failed⟩
    · obtain ⟨index, inside, rfl⟩ := List.mem_map.mp member
      exact .inl ⟨.inr ⟨index, List.mem_range.mp inside, opens⟩, live, done⟩
    · refine .inr ⟨?_, failed⟩
      rintro (live | ⟨index, inside, opens⟩)
      · exact connected live
      · exact Bool.noConfusion ((refused _ (List.mem_map_of_mem (List.mem_range.mpr inside))).symm.trans opens)

theorem handle_call_named (client : MCPClient) (request : PendingRequest) (world : Calling) (name : String)
    (named : request.name = some name) :
    client.handleCall same settings loads request world =
      (client.ensureConnected same settings world.connecting).andThen fun _ client =>
        (client.callOnce loads name (request.arguments.getD []) world.answer).recovering
          (retrying same settings loads name (request.arguments.getD []) world.closing
            ((List.range settings.callRetryAttempts).map world.retries)) := by
  rw [MCPClient.handleCall, named]
  rfl

theorem handle_call_once_iff (client : MCPClient) (request : PendingRequest) (world : Calling) :
    SentOnce loads settings.callRetryAttempts (client.handleCall same settings loads request world) ↔
      (request.name.isSome = true →
        (client.connected = true ∨
          ∃ index, index < max 1 settings.connectAttempts ∧ (world.connecting index).opened.isOk = true) →
        Settles loads world.answer ((List.range settings.callRetryAttempts).map world.retries)) := by
  cases named : request.name with
  | none =>
      have silent : SentOnce loads settings.callRetryAttempts (client.handleCall same settings loads request world) := by
        rw [MCPClient.handleCall, named]
        apply sent_once_silent loads _ _ (by simp [Quiet])
        intro value done
        cases done
      exact ⟨fun _ none => Bool.noConfusion none, fun _ => silent⟩
  | some name =>
      let arguments := request.arguments.getD []
      let rest := (List.range settings.callRetryAttempts).map world.retries
      have count : rest.length = settings.callRetryAttempts := by simp [rest]
      obtain ⟨quiet, ways⟩ := ensure_ways same settings client world.connecting
      rw [handle_call_named same settings loads client request world name named]
      generalize client.ensureConnected same settings world.connecting = opened at quiet ways ⊢
      rcases ways with ⟨reached, connected, done⟩ | ⟨unreached, text, failed⟩
      · rw [and_then_ok opened _ () done, call_connected loads name arguments opened.client world.answer connected,
          recovering_front]
        generalize made : (⟨opened.client, opened.log ++ [.sent name arguments world.answer],
          answerOutcome loads name world.answer⟩ : Ran Json).recovering
            (retrying same settings loads name arguments world.closing rest) = ran
        have bounded := send_bounded same settings loads name arguments opened.client opened.log world.answer
          world.closing rest ran quiet made.symm (retry_bounded same settings loads name arguments rest)
        rw [count] at bounded
        have settled := settled_send same settings loads name arguments opened.client opened.log world.answer
          world.closing rest ran quiet connected made.symm (settled_retry same settings loads name arguments rest)
        rw [sent_once_iff loads name arguments settings.callRetryAttempts ran bounded, settled]
        exact ⟨fun settles _ _ => settles, fun settles => settles rfl reached⟩
      · rw [and_then_error opened _ _ failed]
        refine ⟨fun _ _ reached => absurd reached unreached, fun _ => ?_⟩
        apply sent_once_silent loads _ _ quiet
        intro value done
        cases done

end HandleCall

-- The server has answered with an integer that Python refuses to read; the client
-- reconnects and sends the call again.
theorem handle_call_sends_again :
    ¬ ∀ (settings : Settings) (client : MCPClient) (request : PendingRequest) (world : Calling),
      SentOnce limitedLoads settings.callRetryAttempts
        (client.handleCall (fun _ _ => true) settings limitedLoads request world) := by
  intro always
  obtain ⟨digits, long⟩ : ∃ digits, 4300 < digits := ⟨4301, Nat.lt_succ_self 4300⟩
  obtain ⟨failure, unread⟩ := huge_integer_raises digits long
  generalize String.ofList (List.replicate digits '1') = integer at unread
  let huge : CallToolResult := ⟨false, [.text integer], none⟩
  let retry : Retry := ⟨⟨none, .ok sampleOpened⟩, .ok ⟨false, [], none⟩, none⟩
  let client : MCPClient := { stack := some 0, session := some 0 }
  let request : PendingRequest := { kind := .call, future := 0, name := some "count" }
  have lost : huge.value limitedLoads = .error failure := by
    rw [CallToolResult.value, parseContent, contentValues, Content.value, parseText, unread]
  have once := always sampleSettings client request ⟨fun _ => retry.connecting, .ok huge, none, fun _ => retry⟩
  have outcome : answerOutcome limitedLoads "count" (.ok huge) = .error (.other failure) := by
    rw [answerOutcome, if_neg Bool.false_ne_true, lost]
  have connected : client.connected = true := rfl
  rw [handle_call_named _ _ _ client request _ "count" rfl, MCPClient.ensureConnected, if_pos connected,
    and_then_ok _ _ () rfl, call_connected _ "count" _ client (.ok huge) connected, recovering_front] at once
  rcases send_ways (fun _ _ => true) sampleSettings limitedLoads "count" [] client [] (.ok huge) none [retry] _ rfl with
    ⟨result, same, ends, _⟩ | ⟨_, next, log, _, gone⟩
  · cases same
    rcases ends with failed | ⟨value, read⟩
    · cases failed
    · rw [lost] at read
      cases read
  · have last := once.last [] _ "count" [] huge (congrArg Ran.log gone)
    exact retry_loud _ _ _ "count" [] [retry] next retry (List.mem_singleton_self _) rfl ((quiet_append _ _).mp last).2

end DataPilot.Mcp.Connection
