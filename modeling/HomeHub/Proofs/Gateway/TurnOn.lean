import HomeHub.Proofs.Gateway.Address
import HomeHub.Proofs.Gateway.Discovery
import HomeHub.Proofs.Gateway.Plan

/-!
A light is turned on while its gateway goes on to report it: the changes are those planned when the
call began, sent in order until one fails.
-/

namespace HomeHub.Gateway

open Light (Outcome TurnOnParams)

structure Conduct where
  answer : List Command → Except Error Response
  /--
  What observations are answered with until the last command is, each answer with the number of
  failures in a row before it.
  -/
  reports : List Command → List (Nat × Except Error Response)

namespace Lamp

def hear (lamp : Lamp) (report : Nat × Except Error Response) : Lamp :=
  match lamp.react report.1 report.2 with
  | .updated other => other
  | .retry _ _ => lamp
  | .gaveUp other => other

end Lamp

structure Session where
  lamp : Lamp
  record : List Exchange := []

namespace Session

def execute (conduct : Conduct) (command : Command) (session : Session) :
    Except Error Response × Session :=
  let (reply, record) := oracle conduct.answer command session.record
  let lamp := (conduct.reports (record.map Prod.fst)).foldl Lamp.hear session.lamp
  (reply, { lamp, record })

def send (conduct : Conduct) (actions : List Action) (session : Session) :
    Except Error Unit × Session :=
  Lamp.send (execute conduct) (·.lamp) actions session

def turnOn (conduct : Conduct) (params : TurnOnParams) (session : Session) : Outcome × Session :=
  let (result, session) := session.send conduct (session.lamp.turnOnPlan params)
  (result.mapError fun e => ⟨e.message⟩, session)

/--
How far commands get with a gateway that has had others before: they are sent in order, the first
that fails is the last, and its error is the result.
-/
inductive Attempted (answer : List Command → Except Error Response) (had commands : List Command) :
    List Command → Except Error Unit → Prop where
  | all (hanswered : ∀ n < commands.length,
      ∃ response, answer (had ++ commands.take (n + 1)) = .ok response) :
    Attempted answer had commands commands (.ok ())
  | failed (n : Nat) (e : Error) (hn : n < commands.length)
    (hanswered : ∀ k < n, ∃ response, answer (had ++ commands.take (k + 1)) = .ok response)
    (hfailed : answer (had ++ commands.take (n + 1)) = .error e) :
    Attempted answer had commands (commands.take (n + 1)) (.error e)

theorem Attempted.cons {answer : List Command → Except Error Response} {had rest : List Command}
    {attempted : List Command} {result : Except Error Unit} {command : Command}
    {response : Response} (hfirst : answer (had ++ [command]) = .ok response)
    (h : Attempted answer (had ++ [command]) rest attempted result)
    : Attempted answer had (command :: rest) (command :: attempted) result := by
  have hlater : ∀ n, had ++ (command :: rest).take (n + 2)
      = had ++ [command] ++ rest.take (n + 1) := by
    intro n
    simp
  cases h with
  | all hanswered =>
    apply Attempted.all
    intro n hn
    cases n with
    | zero => exact ⟨response, hfirst⟩
    | succ n =>
      rw [hlater]
      exact hanswered n (by simpa using hn)
  | failed n e hn hanswered hfailed =>
    refine .failed (n + 1) e (by simpa using hn) ?_ ?_
    . intro k hk
      cases k with
      | zero => exact ⟨response, hfirst⟩
      | succ k =>
        rw [hlater]
        exact hanswered k (Nat.lt_of_succ_lt_succ hk)
    . rw [hlater]
      exact hfailed

end Session

end HomeHub.Gateway
