import EclServer.Auth.Sessions

/-!
The e-mail outbox: `app/modules/email_outbox/models.py`, `queue_email_in_outbox` of
`app/core/email_dispatch.py` and the poller `process_email_outbox` of `app/tasks/cleanup_tasks.py`.

* `EmailOutbox`: a row. `dispatchFn`: the tasks of `DISPATCH`, each with the arguments that it takes
  out of a payload.
* `dispatchRow`: one round of the poller's loop.
* `OutboxState`: the table, the runs in flight with the rows that they have locked, what the broker
  took and what was committed. `outboxStep`: a request queues a row, or a run goes one step on.
-/

namespace EclServer.Outbox

open EclServer.Library
open EclServer.Auth (QueryOrder)

/-! ### Rows -/

inductive OutboxStatus where
  | pending | dispatched | deadLetter
  deriving DecidableEq, Repr

/-- A JSON object; `none` is `null`. -/
abbrev MailPayload := List (String × Option String)

/-- One row of `email_outbox`. -/
structure EmailOutbox where
  id : String
  taskName : String
  payload : MailPayload
  status : OutboxStatus := .pending
  createdAt : Time
  dispatchedAt : Option Time := none
  dispatchAttempts : ℕ := 0
  lastDispatchError : Option String := none
  deriving DecidableEq, Repr

/-- `repr` of a text; characters beyond ASCII are taken as printable. -/
def pyRepr (text : String) : String :=
  let codes := text.toList.map Char.toNat
  let quote := Char.ofNat (if 39 ∈ codes ∧ 34 ∉ codes then 34 else 39)
  let escape (c : Char) : List Char :=
    if c = '\\' ∨ c = quote then ['\\', c]
    else if c = '\n' then ['\\', 'n']
    else if c = '\r' then ['\\', 'r']
    else if c = '\t' then ['\\', 't']
    else if c.toNat < 32 ∨ c.toNat = 127 then
      ['\\', 'x', Nat.digitChar (c.toNat / 16), Nat.digitChar (c.toNat % 16)]
    else [c]
  String.ofList (quote :: text.toList.flatMap escape ++ [quote])

/-- `p[key]`; a key that is not there raises. -/
def required (p : MailPayload) (key : String) : Except String (Option String) :=
  match p.lookup key with
  | some value => .ok value
  | none => .error (pyRepr key)

/-- `p.get(key)`. -/
def optional (p : MailPayload) (key : String) : Option String := (p.lookup key).join

/-- `DISPATCH`: the arguments of each task. -/
def dispatchFn (taskName : String) : Option (MailPayload → Except String (List (Option String))) :=
  if taskName = "send_verification_email" then
    some fun p => do return [← required p "user_id", ← required p "raw_token"]
  else if taskName = "send_reset_password_email" then
    some fun p => do
      return [← required p "user_id", ← required p "raw_token", optional p "ip_address"]
  else if taskName = "send_password_changed_email" then
    some fun p => do return [← required p "user_id", optional p "ip_address"]
  else if taskName = "send_invite_email" then
    some fun p => do return [← required p "invitation_id", ← required p "raw_token"]
  else if taskName = "send_welcome_email" then
    some fun p => do return [← required p "user_id", ← required p "tenant_id"]
  else if taskName = "send_welcome_to_tenant_email" then
    some fun p => do return [← required p "user_id", ← required p "tenant_id"]
  else none

/-! ### One round of the loop -/

/-- How a round ends; `handedOver` with the arguments that the broker took. -/
inductive Attempt where
  | unknownTask
  | failed
  | handedOver (args : List (Option String))
  deriving DecidableEq, Repr

/-- `delay` of a task: the broker takes the arguments, or raises. -/
def delay (broker : Except String Unit) (args : List (Option String)) :
    Except String (List (Option String)) := do
  broker
  return args

/-- The row after a failed hand-over; the fifth is the last. -/
def failDispatch (exc : String) (row : EmailOutbox) : EmailOutbox :=
  { row with
    lastDispatchError := some (exc.take 500).toString
    status := if 5 ≤ row.dispatchAttempts then .deadLetter else row.status }

/-- The row after one round of the loop, and how the round ended. -/
def dispatchRow (now : Time) (broker : Except String Unit) (row : EmailOutbox) :
    EmailOutbox × Attempt :=
  let counted := { row with dispatchAttempts := row.dispatchAttempts + 1 }
  match dispatchFn row.taskName with
  | none =>
      ({ counted with
          status := .deadLetter
          lastDispatchError := some ("unknown task_name: " ++ pyRepr row.taskName) }, .unknownTask)
  | some fn =>
      match fn row.payload >>= delay broker with
      | .ok args =>
          ({ counted with status := .dispatched, dispatchedAt := some now }, .handedOver args)
      | .error exc => (failDispatch exc counted, .failed)

/-! ### The system -/

/-- What the broker took, and for which row. -/
structure HandOver where
  row : String
  taskName : String
  args : List (Option String)
  deriving DecidableEq, Repr

/-- The message of a round, where the broker took it. -/
def message (row : EmailOutbox) : Attempt → List HandOver
  | .handedOver args => [⟨row.id, row.taskName, args⟩]
  | _ => []

/-- A run of `process_email_outbox` in flight: the rows of its batch that it has been through, as its
session has them, and those that are still to come. It holds the locks of both. -/
structure Poller where
  pid : ℕ
  now : Time
  done : List (EmailOutbox × Attempt) := []
  todo : List EmailOutbox := []

/-- The rows that a run has locked. -/
def Poller.ids (p : Poller) : List String := p.done.map (·.1.id) ++ p.todo.map (·.id)

/-- `committed` are the rounds whose run has committed, each with its row. -/
structure OutboxState where
  table : List EmailOutbox := []
  pollers : List Poller := []
  broker : List HandOver := []
  committed : List (String × Attempt) := []

namespace OutboxState

/-- The rows that some run has locked. -/
def locked (st : OutboxState) : List String := st.pollers.flatMap Poller.ids

/-- The query of the poller, with `skip_locked` and `limit(100)`. -/
def selectPending (order : QueryOrder EmailOutbox) (st : OutboxState) : List EmailOutbox :=
  (sortByKey EmailOutbox.createdAt (order.rows (st.table.filter fun row =>
    row.status = .pending ∧ row.id ∉ st.locked))).take 100

/-- The run of a process. -/
def poller? (st : OutboxState) (pid : ℕ) : Option Poller := st.pollers.find? (·.pid = pid)

end OutboxState

/-- What can happen next. A run polls, goes through its rows one after the other and commits; it may
crash before that. The broker answers each row of the batch on its own. -/
inductive OutboxAction where
  | queue (id taskName : String) (payload : MailPayload) (createdAt : Time)
  | poll (pid : ℕ) (order : QueryOrder EmailOutbox) (now : Time)
  | dispatch (pid : ℕ) (broker : Except String Unit)
  | commit (pid : ℕ)
  | crash (pid : ℕ)

/-- The run after the first of its rows to come. -/
def Poller.advance (broker : Except String Unit) (p : Poller) : Poller :=
  match p.todo with
  | [] => p
  | row :: rest => { p with done := p.done ++ [dispatchRow p.now broker row], todo := rest }

/-- What the broker takes then. -/
def Poller.messages (broker : Except String Unit) (p : Poller) : List HandOver :=
  match p.todo with
  | [] => []
  | row :: _ => message row (dispatchRow p.now broker row).2

def outboxStep (st : OutboxState) : OutboxAction → OutboxState
  | .queue id taskName payload createdAt =>
      if id ∈ st.table.map (·.id) then st
      else
        { st with
          table := st.table ++
            [{ id := id, taskName := taskName, payload := payload, createdAt := createdAt }] }
  | .poll pid order now =>
      if pid ∈ st.pollers.map (·.pid) then st
      else
        { st with
          pollers := st.pollers ++ [{ pid := pid, now := now, todo := st.selectPending order }] }
  | .dispatch pid broker =>
      match st.poller? pid with
      | none => st
      | some p =>
          { st with
            pollers := updateByKey Poller.pid pid (Poller.advance broker) st.pollers
            broker := st.broker ++ p.messages broker }
  | .commit pid =>
      match st.poller? pid with
      | none => st
      | some p =>
          if p.todo = [] then
            { st with
              table := replaceByKey EmailOutbox.id (p.done.map (·.1)) st.table
              pollers := st.pollers.filter fun q => q.pid ≠ pid
              committed := st.committed ++ p.done.map fun d => (d.1.id, d.2) }
          else st
  | .crash pid => { st with pollers := st.pollers.filter fun q => q.pid ≠ pid }

end EclServer.Outbox
