import DataPilot.Base.Text

set_option autoImplicit false

namespace DataPilot.Base

-- A cancellation of the task, or the close of a generator at a yield.
inductive Interrupt where
  | cancelled
  | closed
deriving DecidableEq

def Interrupt.typeName : Interrupt → String
  | .cancelled => "CancelledError"
  | .closed => "GeneratorExit"

-- "except Exception" takes the exceptions and lets the interrupts through.
inductive Thrown where
  | exception (failure : PyException)
  | interrupt (cause : Interrupt)
deriving DecidableEq

def Thrown.typeName : Thrown → String
  | .exception failure => failure.typeName
  | .interrupt cause => cause.typeName

variable {Record α β : Type}

def Interrupted (result : Except Thrown α) : Prop := ∃ cause, result = .error (.interrupt cause)

-- What a piece of code has written by its end, and how it ends.
structure Logged (Record α : Type) where
  log : List Record
  result : Except Thrown α

def Logged.returning (value : α) : Logged Record α := ⟨[], .ok value⟩

def Logged.raising (thrown : Thrown) : Logged Record α := ⟨[], .error thrown⟩

-- An await, by how it ends.
def Logged.awaiting (result : Except Thrown α) : Logged Record α := ⟨[], result⟩

def Logged.andThen (body : Logged Record α) (next : α → Logged Record β) : Logged Record β :=
  match body.result with
  | .error thrown => ⟨body.log, .error thrown⟩
  | .ok value => ⟨body.log ++ (next value).log, (next value).result⟩

-- except Exception as exc: handler(exc); raise
def Logged.onException (body : Logged Record α) (handler : PyException → Logged Record Unit) : Logged Record α :=
  match body.result with
  | .error (.exception failure) =>
      ⟨body.log ++ (handler failure).log, (handler failure).result.bind fun _ => .error (.exception failure)⟩
  | _ => body

-- try: body, except Exception as exc: handler(exc), else: next
def Logged.recovering (body : Logged Record α) (handler : PyException → Logged Record β) (next : α → Logged Record β) :
    Logged Record β :=
  match body.result with
  | .ok value => ⟨body.log ++ (next value).log, (next value).result⟩
  | .error (.exception failure) => ⟨body.log ++ (handler failure).log, (handler failure).result⟩
  | .error (.interrupt cause) => ⟨body.log, .error (.interrupt cause)⟩

-- finally: closing(), which is told how the body ends.
def Logged.ensuring (body : Logged Record α) (closing : Except Thrown α → Logged Record Unit) : Logged Record α :=
  ⟨body.log ++ (closing body.result).log, (closing body.result).result.bind fun _ => body.result⟩

-- except clauses that take the exceptions they have an answer for.
def Logged.catching (body : Logged Record α) (handler : PyException → Option (Logged Record α)) : Logged Record α :=
  match body.result with
  | .error (.exception failure) =>
      match handler failure with
      | some handled => ⟨body.log ++ handled.log, handled.result⟩
      | none => body
  | _ => body

theorem and_then_result (body : Logged Record α) (next : α → Logged Record β) (value : β) :
    (body.andThen next).result = .ok value ↔ ∃ middle, body.result = .ok middle ∧ (next middle).result = .ok value := by
  rw [Logged.andThen]
  cases ended : body.result with
  | error thrown => simp
  | ok middle => simp

theorem mem_and_then (body : Logged Record α) (next : α → Logged Record β) (record : Record) :
    record ∈ (body.andThen next).log ↔
      record ∈ body.log ∨ ∃ middle, body.result = .ok middle ∧ record ∈ (next middle).log := by
  rw [Logged.andThen]
  cases ended : body.result with
  | error thrown => simp
  | ok middle => simp

theorem catching_ways (body : Logged Record α) (handler : PyException → Option (Logged Record α)) :
    (∃ failure handled, body.result = .error (.exception failure) ∧ handler failure = some handled ∧
        body.catching handler = ⟨body.log ++ handled.log, handled.result⟩) ∨
      ((∀ failure, body.result = .error (.exception failure) → handler failure = none) ∧ body.catching handler = body) := by
  rw [Logged.catching]
  cases ended : body.result with
  | ok value => exact .inr ⟨(fun failure same => by cases same), rfl⟩
  | error thrown =>
      cases thrown with
      | interrupt cause => exact .inr ⟨(fun failure same => by cases same), rfl⟩
      | exception failure =>
          cases answer : handler failure with
          | some handled =>
              refine .inl ⟨failure, handled, rfl, answer, ?_⟩
              dsimp only
              rw [answer]
          | none =>
              refine .inr ⟨?_, ?_⟩
              · intro other same
                cases same
                exact answer
              · dsimp only
                rw [answer]

theorem ensuring_log (body : Logged Record α) (closing : Except Thrown α → Logged Record Unit) :
    (body.ensuring closing).log = body.log ++ (closing body.result).log := rfl

end DataPilot.Base
