/-!
# Cancellation

Work is stopped by a request to cancel or by the end of its time. Both are asked at fixed points
of the work; a request to cancel wins over the end of the time. A request to cancel is made to a
token, which several contexts can hold.

* `Context.check` tells whether work may go on.
* `Contexts.step` is what becomes of the contexts of a program when one of them is used.
* `Contexts.polls` are the answers that work gets while others use the contexts.
-/

namespace SqlTemplate

/-- Why work was stopped. -/
inductive Cancelled where
  | canceled
  | deadlineExceeded
deriving DecidableEq, Repr, Inhabited

/-- The wording of a stop. -/
def Cancelled.message : Cancelled → String
  | .canceled => "context canceled"
  | .deadlineExceeded => "context deadline exceeded"

/-- The time given to work: none set, still running, or over. -/
inductive Deadline where
  | unset
  | ahead
  | passed
deriving DecidableEq, Repr, Inhabited

/-- The state that decides whether work goes on. -/
structure Context where
  cancelled : Bool
  deadline : Deadline
deriving DecidableEq, Repr, Inhabited

namespace Context

/-- Work that nobody has stopped and that has no deadline. -/
def live : Context := ⟨false, .unset⟩

/-- Whether a deadline is set. -/
def hasDeadline (ctx : Context) : Bool := ctx.deadline != .unset

/-- The context after a request to cancel. -/
def cancel (ctx : Context) : Context := { ctx with cancelled := true }

/-- The context with another deadline. -/
def withDeadline (ctx : Context) (deadline : Deadline) : Context := { ctx with deadline }

/-- Whether work may go on. -/
def check (ctx : Context) : Except Cancelled Unit :=
  if ctx.cancelled then .error .canceled
  else if ctx.deadline = .passed then .error .deadlineExceeded
  else .ok ()

end Context

/-- The answers that a piece of work gets at its successive checks. -/
abbrev Polls := Nat → Except Cancelled Unit

/-- Every check of a context that does not change meanwhile gives the same answer. -/
def Context.polls (ctx : Context) : Polls := fun _ => ctx.check

/-- A context as it is held: the token to which requests to cancel are made, and the moment at
which its time is over. -/
structure Handle where
  token : Nat
  deadline : Option Nat
deriving DecidableEq, Repr, Inhabited

/-- The contexts of a program at some moment. -/
structure Contexts where
  handles : List Handle
  /-- The tokens to which a request to cancel was made. -/
  cancelled : List Nat
  /-- How many tokens there are. -/
  tokens : Nat
  now : Nat
deriving DecidableEq, Repr, Inhabited

/-- Something that is done with the contexts of a program, which are called by their number. -/
inductive ContextAct where
  /-- A context with a token of its own and no deadline. -/
  | create
  | clone (i : Nat)
  /-- A context that holds the token of another one and has no deadline. -/
  | adopt (i : Nat)
  | setDeadline (i moment : Nat)
  | cancel (i : Nat)
  | wait (time : Nat)
deriving DecidableEq, Repr, Inhabited

namespace Contexts

/-- A program without contexts. -/
def start : Contexts := ⟨[], [], 0, 0⟩

/-- What a context is at the moment. -/
def view (cs : Contexts) (h : Handle) : Context where
  cancelled := cs.cancelled.contains h.token
  deadline := match h.deadline with
    | none => .unset
    | some moment => if moment ≤ cs.now then .passed else .ahead

/-- The contexts after something was done with one of them. -/
def step (cs : Contexts) : ContextAct → Contexts
  | .create => { cs with handles := cs.handles ++ [⟨cs.tokens, none⟩], tokens := cs.tokens + 1 }
  | .clone i => { cs with handles := cs.handles ++ cs.handles[i]?.toList }
  | .adopt i =>
    { cs with handles := cs.handles ++ cs.handles[i]?.toList.map fun h => ⟨h.token, none⟩ }
  | .setDeadline i moment =>
    { cs with handles := cs.handles.modify i fun h => { h with deadline := some moment } }
  | .cancel i => { cs with cancelled := cs.handles[i]?.toList.map Handle.token ++ cs.cancelled }
  | .wait time => { cs with now := cs.now + time }

/-- The contexts after some acts. -/
def run (cs : Contexts) (acts : List ContextAct) : Contexts := acts.foldl step cs

/-- Whether work under a context may go on. -/
def check (cs : Contexts) (i : Nat) : Except Cancelled Unit :=
  match cs.handles[i]? with
  | none => .ok ()
  | some h => (cs.view h).check

/-- The contexts before a poll, if others do `acts n` with them before the poll of number `n`. -/
def before (cs : Contexts) (acts : Nat → List ContextAct) : Nat → Contexts
  | 0 => cs.run (acts 0)
  | n + 1 => (cs.before acts n).run (acts (n + 1))

/-- What work under a context is told at its polls while others use the contexts. -/
def polls (cs : Contexts) (i : Nat) (acts : Nat → List ContextAct) : Polls := fun n =>
  (cs.before acts n).check i

end Contexts

end SqlTemplate
