import DataPilot.Llm.OpenAiCompat

set_option autoImplicit false

namespace DataPilot.Llm

open DataPilot.Base DataPilot.Agent

def dataLines (lines : List String) : List String :=
  ((lines.filterMap lineData).filter (· ≠ "")).takeWhile (· ≠ "[DONE]")

def closes (lines : List String) : Bool := (lines.filterMap lineData).contains "[DONE]"

def attemptData : Except PyException HttpAnswer → List String
  | .error _ => []
  | .ok answer => if answer.statusError.isNone then dataLines answer.lines else []

variable (library : Library)

def parsedEvents : List String → List StreamEvent
  | [] => []
  | data :: rest =>
      match parseStreamChunk library data with
      | .error _ => []
      | .ok event => event.toList ++ parsedEvents rest

def attemptEvents (answer : Except PyException HttpAnswer) : List StreamEvent := parsedEvents library (attemptData answer)

def Parses (data : List String) : Prop := ∀ text ∈ data, ∃ event, parseStreamChunk library text = .ok event

def EndsCleanly : Except PyException HttpAnswer → Prop
  | .error _ => False
  | .ok answer =>
      answer.statusError = none ∧ Parses library (dataLines answer.lines) ∧
        (answer.broken = none ∨ closes answer.lines = true)

-- The number of the last attempt; the first is 0.
def lastAttempt (answers : Nat → Except PyException HttpAnswer) : Nat → Nat → Nat
  | 0, attempt => attempt
  | left + 1, attempt =>
      match attemptStream library false (answers attempt) with
      | some _ => attempt
      | none => lastAttempt answers left (attempt + 1)

theorem data_lines_silent (line : String) (rest : List String) (silent : (lineData line).getD "" = "") :
    dataLines (line :: rest) = dataLines rest ∧ closes (line :: rest) = closes rest := by
  unfold dataLines closes
  rw [List.filterMap_cons]
  cases said : lineData line with
  | none => exact ⟨rfl, rfl⟩
  | some data =>
      rw [said] at silent
      obtain rfl : data = "" := silent
      exact ⟨rfl, rfl⟩

theorem data_lines_done (line : String) (rest : List String) (said : lineData line = some "[DONE]") :
    dataLines (line :: rest) = [] ∧ closes (line :: rest) = true := by
  unfold dataLines closes
  rw [List.filterMap_cons, said]
  exact ⟨rfl, by simp⟩

theorem data_lines_said (line data : String) (rest : List String) (said : lineData line = some data) (given : data ≠ "")
    (goes : data ≠ "[DONE]") :
    dataLines (line :: rest) = data :: dataLines rest ∧ closes (line :: rest) = closes rest := by
  unfold dataLines closes
  rw [List.filterMap_cons, said]
  simp [given, goes, Ne.symm goes]

inductive LinesEnded (emitted : Bool) (lines : List String) : LinesEnd → Prop where
  | raised (failure : PyException) (parses : ¬ Parses library (dataLines lines)) : LinesEnded emitted lines (.raised failure)
  | returned (parses : Parses library (dataLines lines)) (closed : closes lines = true) : LinesEnded emitted lines .returned
  | exhausted (parses : Parses library (dataLines lines)) (unclosed : closes lines = false) :
      LinesEnded emitted lines (.exhausted (emitted || !(dataLines lines).isEmpty))

theorem parses_cons (data : String) (rest : List String) (event : Option StreamEvent)
    (parsed : parseStreamChunk library data = .ok event) : Parses library (data :: rest) ↔ Parses library rest := by
  constructor
  · intro parses text member
    exact parses text (List.mem_cons_of_mem _ member)
  · intro parses text member
    rcases List.mem_cons.mp member with rfl | later
    · exact ⟨event, parsed⟩
    · exact parses text later

theorem lines_ended_silent (emitted : Bool) (lines rest : List String) (ending : LinesEnd)
    (data : dataLines lines = dataLines rest) (closed : closes lines = closes rest)
    (ended : LinesEnded library emitted rest ending) : LinesEnded library emitted lines ending := by
  cases ended with
  | raised failure parses => exact .raised failure (data ▸ parses)
  | returned parses done => exact .returned (data ▸ parses) (closed.trans done)
  | exhausted parses undone =>
      rw [← data]
      exact .exhausted (data ▸ parses) (closed.trans undone)

theorem lines_ended_said (emitted : Bool) (text : String) (event : Option StreamEvent) (lines rest : List String)
    (ending : LinesEnd) (parsed : parseStreamChunk library text = .ok event) (data : dataLines lines = text :: dataLines rest)
    (closed : closes lines = closes rest) (ended : LinesEnded library true rest ending) :
    LinesEnded library emitted lines ending := by
  have same : Parses library (dataLines lines) ↔ Parses library (dataLines rest) := by
    rw [data]
    exact parses_cons library text _ event parsed
  cases ended with
  | raised failure parses => exact .raised failure fun all => parses (same.mp all)
  | returned parses done => exact .returned (same.mpr parses) (closed.trans done)
  | exhausted parses undone =>
      have flag : (true || !(dataLines rest).isEmpty) = (emitted || !(dataLines lines).isEmpty) := by simp [data]
      rw [flag]
      exact .exhausted (same.mpr parses) (closed.trans undone)

theorem read_lines_silent (emitted : Bool) (line : String) (rest : List String) (silent : (lineData line).getD "" = "") :
    readLines library emitted (line :: rest) = readLines library emitted rest := by
  rw [readLines]
  cases said : lineData line with
  | none => rfl
  | some data =>
      rw [said] at silent
      exact if_pos silent

theorem read_lines_ended (emitted : Bool) (lines : List String) :
    (readLines library emitted lines).1 = parsedEvents library (dataLines lines) ∧
      LinesEnded library emitted lines (readLines library emitted lines).2 := by
  induction lines generalizing emitted with
  | nil =>
      have ended : LinesEnded library emitted [] (.exhausted (emitted || !(dataLines []).isEmpty)) :=
        .exhausted (fun _ member => absurd member List.not_mem_nil) rfl
      rw [show (emitted || !(dataLines []).isEmpty) = emitted from Bool.or_false emitted] at ended
      exact ⟨rfl, ended⟩
  | cons line rest ih =>
      by_cases silent : (lineData line).getD "" = ""
      · obtain ⟨data, closed⟩ := data_lines_silent line rest silent
        obtain ⟨events, ended⟩ := ih emitted
        rw [read_lines_silent library emitted line rest silent, data]
        exact ⟨events, lines_ended_silent library emitted _ rest _ data closed ended⟩
      · cases said : lineData line with
        | none => exact absurd (by rw [said]; rfl) silent
        | some text =>
            have given : text ≠ "" := by simpa [said] using silent
            rw [readLines, said]
            dsimp only
            rw [if_neg given]
            by_cases done : text = "[DONE]"
            · obtain ⟨data, closed⟩ := data_lines_done line rest (done ▸ said)
              rw [if_pos done, data]
              exact ⟨rfl, .returned (data ▸ fun _ member => absurd member List.not_mem_nil) closed⟩
            · obtain ⟨data, closed⟩ := data_lines_said line text rest said given done
              rw [if_neg done, data, parsedEvents]
              cases parsed : parseStreamChunk library text with
              | error failure =>
                  refine ⟨rfl, .raised failure fun parses => ?_⟩
                  obtain ⟨event, other⟩ := parses text (data ▸ List.mem_cons_self ..)
                  rw [parsed] at other
                  cases other
              | ok event =>
                  obtain ⟨events, ended⟩ := ih true
                  dsimp only
                  rw [events]
                  exact ⟨rfl, lines_ended_said library emitted text event _ rest _ parsed data closed ended⟩

theorem retryable_refused (answer : HttpAnswer) (retryable : answer.status ∈ retryableStatusCodes) :
    answer.statusError.isNone = false := by
  rw [answer.raises]
  simp only [retryableStatusCodes, List.mem_cons, List.not_mem_nil, or_false] at retryable
  rcases retryable with same | same | same | same | same <;> rw [same] <;> rfl

inductive Attempted (last : Bool) (answer : Except PyException HttpAnswer) : Option ModelStream → Prop where
  | again (retries : last = false) (silent : attemptData answer = []) : Attempted last answer none
  | ended (failure : Option PyException) (clean : failure = none ↔ EndsCleanly library answer) :
      Attempted last answer (some ⟨attemptEvents library answer, failure⟩)

theorem attempt_refused (last : Bool) (answer : HttpAnswer) (refused : answer.statusError.isNone = false)
    (failure : PyException) : Attempted library last (.ok answer) (some ⟨[], some failure⟩) := by
  have silent : attemptEvents library (.ok answer) = [] := by
    simp only [attemptEvents, attemptData, refused]
    rfl
  have unclean : ¬ EndsCleanly library (.ok answer) := by
    rintro ⟨accepted, _⟩
    rw [accepted] at refused
    cases refused
  have ended : Attempted library last (.ok answer) (some ⟨attemptEvents library (.ok answer), some failure⟩) :=
    .ended (some failure) ⟨fun absent => absurd absent (Option.some_ne_none _), fun clean => absurd clean unclean⟩
  rw [silent] at ended
  exact ended

theorem attempt_stream_attempted (last : Bool) (answer : Except PyException HttpAnswer) :
    Attempted library last answer (attemptStream library last answer) := by
  cases answer with
  | error failure =>
      cases last with
      | false => exact .again rfl rfl
      | true => exact .ended (some failure) ⟨fun absent => absurd absent (Option.some_ne_none _), False.elim⟩
  | ok answer =>
      rw [attemptStream]
      by_cases retried : answer.status ∈ retryableStatusCodes ∧ last = false
      · rw [if_pos retried]
        apply Attempted.again retried.2
        simp only [attemptData, retryable_refused answer retried.1]
        rfl
      · rw [if_neg retried]
        cases accepted : answer.statusError with
        | some failure =>
            have refused : answer.statusError.isNone = false := by rw [accepted]; rfl
            have rejected : ∃ early, answer.rejection = some early := by
              unfold HttpAnswer.rejection
              rw [accepted]
              by_cases retryable : answer.status ∈ retryableStatusCodes
              · rw [if_pos retryable]
                cases answer.broken with
                | none => exact ⟨failure, rfl⟩
                | some cut => exact ⟨cut, rfl⟩
              · rw [if_neg retryable]
                exact ⟨failure, rfl⟩
            obtain ⟨early, rejected⟩ := rejected
            rw [rejected]
            exact attempt_refused library last answer refused early
        | none =>
            have allowed : answer.status ∉ retryableStatusCodes := by
              intro retryable
              have refused := retryable_refused answer retryable
              rw [accepted] at refused
              cases refused
            have taken : answer.rejection = none := by rw [HttpAnswer.rejection, if_neg allowed, accepted]
            rw [taken]
            dsimp only
            obtain ⟨events, ended⟩ := read_lines_ended library false answer.lines
            have data : attemptData (.ok answer) = dataLines answer.lines := by rw [attemptData, accepted]; rfl
            have said : (readLines library false answer.lines).1 = attemptEvents library (.ok answer) := by
              rw [attemptEvents, data, events]
            rw [said]
            have whole : EndsCleanly library (.ok answer) ↔ Parses library (dataLines answer.lines) ∧
                (answer.broken = none ∨ closes answer.lines = true) := ⟨And.right, fun parsed => ⟨accepted, parsed⟩⟩
            generalize (readLines library false answer.lines).2 = ending at ended
            cases ended with
            | raised failure parses =>
                refine .ended (some failure) ⟨fun absent => absurd absent (Option.some_ne_none _), fun clean => ?_⟩
                exact absurd (whole.mp clean).1 parses
            | returned parses closed => exact .ended none ⟨fun _ => whole.mpr ⟨parses, .inr closed⟩, fun _ => rfl⟩
            | exhausted parses unclosed =>
                cases cut : answer.broken with
                | none => exact .ended none ⟨fun _ => whole.mpr ⟨parses, .inl cut⟩, fun _ => rfl⟩
                | some failure =>
                    dsimp only
                    by_cases kept : (false || !(dataLines answer.lines).isEmpty || last) = true
                    · rw [if_pos kept]
                      refine .ended (some failure) ⟨fun absent => absurd absent (Option.some_ne_none _), fun clean => ?_⟩
                      rcases (whole.mp clean).2 with uncut | closed
                      · rw [cut] at uncut
                        cases uncut
                      · rw [unclosed] at closed
                        cases closed
                    · rw [if_neg kept]
                      simp only [Bool.false_or, Bool.or_eq_true, Bool.not_eq_true', List.isEmpty_eq_false_iff, ne_eq,
                        not_or, not_not, Bool.not_eq_true] at kept
                      exact .again kept.2 (data.trans kept.1)

theorem chat_stream_attempts (answers : Nat → Except PyException HttpAnswer) (left attempt : Nat) :
    Attempted library true (answers (lastAttempt library answers left attempt))
        (some (chatStream library answers left attempt)) ∧
      attempt ≤ lastAttempt library answers left attempt ∧ lastAttempt library answers left attempt ≤ attempt + left ∧
      ∀ earlier, attempt ≤ earlier → earlier < lastAttempt library answers left attempt → attemptData (answers earlier) = [] := by
  induction left generalizing attempt with
  | zero =>
      have attempted := attempt_stream_attempted library true (answers attempt)
      refine ⟨?_, Nat.le_refl _, Nat.le_refl _, fun earlier later before => absurd before (Nat.not_lt_of_le later)⟩
      rw [chatStream, lastAttempt]
      generalize attemptStream library true (answers attempt) = outcome at attempted
      cases attempted with
      | again retries => cases retries
      | ended failure clean => exact .ended failure clean
  | succ left ih =>
      have attempted := attempt_stream_attempted library false (answers attempt)
      rw [chatStream, lastAttempt]
      generalize attemptStream library false (answers attempt) = outcome at attempted
      cases attempted with
      | again _ silent =>
          obtain ⟨last, first, few, quiet⟩ := ih (attempt + 1)
          refine ⟨last, Nat.le_of_succ_le first, few.trans (by omega), fun earlier later before => ?_⟩
          by_cases same : earlier = attempt
          · rw [same, silent]
          · exact quiet earlier (by omega) before
      | ended failure clean =>
          exact ⟨.ended failure clean, Nat.le_refl _, Nat.le_add_right .., fun earlier later before =>
            absurd before (Nat.not_lt_of_le later)⟩

theorem stream_is_last_attempt (answers : Nat → Except PyException HttpAnswer) (maxRetries : Nat) :
    (chatStream library answers maxRetries 0).events =
        attemptEvents library (answers (lastAttempt library answers maxRetries 0)) ∧
      lastAttempt library answers maxRetries 0 + 1 ≤ maxRetries + 1 ∧
      (∀ attempt < lastAttempt library answers maxRetries 0, attemptData (answers attempt) = []) ∧
      ((chatStream library answers maxRetries 0).failure = none ↔
        EndsCleanly library (answers (lastAttempt library answers maxRetries 0))) := by
  obtain ⟨attempted, _, few, quiet⟩ := chat_stream_attempts library answers maxRetries 0
  generalize lastAttempt library answers maxRetries 0 = last at *
  generalize chatStream library answers maxRetries 0 = stream at *
  cases attempted with
  | ended failure clean => exact ⟨rfl, by omega, fun attempt before => quiet attempt (Nat.zero_le _) before, clean⟩

end DataPilot.Llm
