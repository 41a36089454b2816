import SqlTemplate.Service.LineServer

/-!
# The line server as it runs

The server reads lines while tasks answer the requests of earlier ones and a writer writes their answers, each as it is
scheduled. A task hands its request to a worker and waits for it no longer than its time; a worker that is late goes on,
but nothing comes of it. Answers go through one queue to the writer. When the input ends, the server waits for all
tasks, closes the queue and waits for the writer.

* `Server`: what is on the way at a moment.
* `Event`, `Server.step`: what can happen next, and what comes of it.
* `Server.run`: what comes of a schedule.
-/

namespace SqlTemplate.Service

open Json Decoder

/-- How far the task of a request has come. -/
inductive Stage where
  /-- Its worker is at work. -/
  | working
  /-- It knows its reply and has not sent it. -/
  | replied (reply : Reply)
  /-- It has sent its answer. -/
  | ended

/-- The task of a request. -/
structure Task where
  request : LineRequest
  stage : Stage

/-- What the server itself is at. -/
inductive Phase where
  /-- It reads lines. -/
  | reading
  /-- It waits for its tasks. -/
  | joining
  /-- It has closed the queue and waits for the writer. -/
  | closing
  /-- It has returned, with an error or without. -/
  | returned (ok : Bool)
deriving DecidableEq, Repr, Inhabited

/-- A server at some moment of its run. -/
structure Server where
  /-- The lines that it has not read. -/
  lines : List String
  phase : Phase
  /-- The tasks that have not been taken out of their set. -/
  tasks : List Task
  /-- The requests whose workers go on though their time is over. -/
  late : List LineRequest
  /-- Whether the writer has not failed. -/
  writing : Bool
  queue : List LineResponse
  written : List LineResponse

/-- A server that has read nothing. -/
def Server.start (lines : List String) : Server := ⟨lines, .reading, [], [], true, [], []⟩

/-- What can happen next. Tasks and late workers are given by their place. -/
inductive Event where
  /-- The server reads a line. -/
  | read
  /-- A worker ends in time, having found its deadline passed or not at each of its checks. -/
  | finish (task : Nat) (passed : Nat → Bool)
  /-- The time of a task is over. -/
  | expire (task : Nat)
  /-- A task sends its answer and ends. -/
  | send (task : Nat)
  /-- The server takes a task that has ended out of the set. -/
  | reap (task : Nat)
  /-- A late worker ends. -/
  | abandon (worker : Nat)
  /-- The writer writes an answer. -/
  | write
  /-- The writer fails. -/
  | fail
  /-- The server finds the end of its input. -/
  | drain
  /-- The server finds no task left and closes the queue. -/
  | close
  /-- The server returns. -/
  | leave

/-- The answer to a line that is no request. -/
def rejection (e : DecodeError) : LineResponse := ⟨.null, ⟨400, (Envelope.failure e.display).value⟩⟩

/-- The checks of a worker whose task waits for it. -/
def checks (passed : Nat → Bool) : Polls := fun n =>
  (Context.live.withDeadline (if passed n then .passed else .ahead)).check

/-- What the handler replies to a request. -/
def LineRequest.handled (settings : Settings) (polls : Polls) (r : LineRequest) : Reply :=
  handle settings polls r.path (Text.Symbol.ofText (bodyText r.body))

namespace Server

/-- Puts an answer into the queue; it is lost once the writer has failed. -/
def post (s : Server) (x : LineResponse) : Server :=
  if s.writing then { s with queue := s.queue ++ [x] } else s

/-- Takes a line: a blank one is skipped, one that is no request is answered, and a request becomes a task. -/
def receive (s : Server) (line : String) : Server :=
  if Text.isBlankText line then s
  else match Decoder.run lineRequest (Text.Symbol.ofText line) with
    | .ok r => { s with tasks := s.tasks ++ [⟨r, .working⟩] }
    | .error e => s.post (rejection e)

/-- What comes of an event; none if it cannot happen. -/
def step (settings : Settings) (s : Server) : Event → Option Server
  | .read =>
    match s.phase, s.lines with
    | .reading, line :: rest => some ({ s with lines := rest }.receive line)
    | _, _ => none
  | .finish task passed =>
    match s.tasks[task]? with
    | some ⟨r, .working⟩ =>
      some { s with tasks := s.tasks.set task ⟨r, .replied (r.handled settings (checks passed))⟩ }
    | _ => none
  | .expire task =>
    match s.tasks[task]? with
    | some ⟨r, .working⟩ => some { s with tasks := s.tasks.set task ⟨r, .replied timedOut⟩, late := r :: s.late }
    | _ => none
  | .send task =>
    match s.tasks[task]? with
    | some ⟨r, .replied reply⟩ => some ({ s with tasks := s.tasks.set task ⟨r, .ended⟩ }.post ⟨r.id, reply⟩)
    | _ => none
  | .reap task =>
    match s.tasks[task]? with
    | some ⟨_, .ended⟩ => some { s with tasks := s.tasks.eraseIdx task }
    | _ => none
  | .abandon worker =>
    if worker < s.late.length then some { s with late := s.late.eraseIdx worker } else none
  | .write =>
    match s.writing, s.queue with
    | true, x :: rest => some { s with queue := rest, written := s.written ++ [x] }
    | _, _ => none
  | .fail =>
    match s.phase with
    | .returned _ => none
    | _ => some { s with writing := false }
  | .drain =>
    match s.phase, s.lines with
    | .reading, [] => some { s with phase := .joining }
    | _, _ => none
  | .close =>
    match s.phase, s.tasks with
    | .joining, [] => some { s with phase := .closing }
    | _, _ => none
  | .leave =>
    match s.phase, s.writing, s.queue with
    | .closing, false, _ => some { s with phase := .returned false }
    | .closing, true, [] => some { s with phase := .returned true }
    | _, _, _ => none

/-- What comes of a schedule. -/
def run (settings : Settings) (s : Server) : List Event → Option Server
  | [] => some s
  | e :: es => do
    let s ← s.step settings e
    s.run settings es

end Server

end SqlTemplate.Service
