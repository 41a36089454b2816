import Mathlib.Data.List.Forall2
import SqlTemplate.Proofs.Expansion

/-!
# Work that is stopped

A poll that fails ends the work with its reason, and polls do nothing else: what comes of a template under any polls is
what comes of it under polls that never fail, or the reason of the first poll that failed. A request to cancel reaches
every context that holds the token to which it was made, at once and for good.

* `StoppedBy`: outcomes that differ by a failed poll only; `interpolate_stops`.
* `Contexts.Shares`: contexts that hold one token; `Contexts.Shares.check_cancel`.
* `stopped_or_unchanged`: what comes of a template under polls.
-/

namespace SqlTemplate

open Sql Macro

/-! ## Failed polls -/

/-- The first outcome is the second one, or the reason of the first poll that failed. -/
def StoppedBy {α : Type} (polls : Polls) (x y : Outcome α) : Prop :=
  x = y ∨ ∃ n reason, (∀ k < n, polls k = .ok ()) ∧ polls n = .error reason ∧ x = .error (.error (.cancelled reason))

section

variable {α β : Type} {polls : Polls} {x y : Outcome α}

theorem StoppedBy.refl (x : Outcome α) : StoppedBy polls x x := .inl rfl

theorem StoppedBy.bind (h : StoppedBy polls x y) (f : α → Outcome β) : StoppedBy polls (x >>= f) (y >>= f) := by
  rcases h with rfl | ⟨n, reason, hbefore, hfails, rfl⟩
  · exact .inl rfl
  · exact .inr ⟨n, reason, hbefore, hfails, rfl⟩

theorem StoppedBy.behind (x : Outcome α) {f g : α → Outcome β} (h : ∀ a, StoppedBy polls (f a) (g a)) :
    StoppedBy polls (x >>= f) (x >>= g) := by
  cases x with
  | error e => exact .inl rfl
  | ok a => exact h a

/-- A poll in front of work whose polls come after it. -/
theorem StoppedBy.asked (h : StoppedBy polls.rest x y) : StoppedBy polls (polls.ask >>= fun _ => x) y := by
  cases hfirst : polls 0 with
  | error reason =>
    refine .inr ⟨0, reason, by simp, hfirst, ?_⟩
    rw [Polls.ask, hfirst]
    rfl
  | ok =>
    have hx : (polls.ask >>= fun _ => x) = x := by
      rw [Polls.ask, hfirst]
      rfl
    rw [hx]
    rcases h with h | ⟨n, reason, hbefore, hfails, h⟩
    · exact .inl h
    · refine .inr ⟨n + 1, reason, fun k hk => ?_, hfails, h⟩
      cases k with
      | zero => exact hfirst
      | succ k => exact hbefore k (Nat.lt_of_succ_lt_succ hk)

end

variable {dialect : Dialect} {request : Request}

theorem expandStatements_stops (polls : Polls) (statements : List Statement) :
    StoppedBy polls (expandStatements dialect request polls statements)
      (expandStatements dialect request Context.live.polls statements) := by
  induction statements generalizing polls with
  | nil => exact .asked (.refl _)
  | cons s ss ih => exact .asked (.behind _ fun _ => (ih polls.rest).bind _)

/-- What comes of a template under polls, and under polls that never fail. -/
theorem interpolate_stops (polls : Polls) (template : String) :
    StoppedBy polls (interpolate dialect request polls template)
      (interpolate dialect request Context.live.polls template) := by
  refine .asked (.behind _ fun statements => StoppedBy.bind ?_ _)
  exact .behind _ fun _ => expandStatements_stops polls.rest statements

/-- The statements that a text was written from, if one has come of a template. -/
theorem expanded_of_interpolate {polls : Polls} {template text : String}
    (h : interpolate dialect request polls template = .ok text) :
    ∃ statements rounded result, parseStatements dialect template = .ok statements ∧
      (∀ n ≤ statements.length + 1, polls n = .ok ()) ∧ request.rounded = .ok rounded ∧
      List.Forall₂ (fun s s' => walkStatement (expander dialect rounded) s = .ok s') statements result ∧
      text = renderStatements result := by
  obtain ⟨⟨⟩, hasked, h⟩ := Outcome.bind_eq_ok.1 h
  obtain ⟨statements, hparsed, h⟩ := Outcome.bind_eq_ok.1 h
  obtain ⟨result, hexpanded, htext⟩ := Outcome.bind_eq_ok.1 h
  obtain ⟨rounded, hrounded, hexpanded⟩ := Outcome.bind_eq_ok.1 hexpanded
  obtain ⟨hpolls, hexprs, rfl⟩ := expandStatements_eq_ok.1 hexpanded
  refine ⟨statements, rounded, statements.map (rewriteStatement (expansionOf dialect rounded)), ?_, fun n hn => ?_,
    hrounded, ?_, ?_⟩
  · cases hread : parseStatements dialect template with
    | error f => simp [hread, Outcome.ofParse] at hparsed
    | ok read =>
      simp only [hread, Outcome.ofParse, Except.ok.injEq] at hparsed
      rw [hparsed]
  · cases n with
    | zero =>
      cases hfirst : polls 0 with
      | error reason => simp [Polls.ask, hfirst, Outcome.lift] at hasked
      | ok => rfl
    | succ n => exact hpolls n (Nat.le_of_succ_le_succ hn)
  · rw [List.forall₂_map_right_iff, List.forall₂_same]
    exact fun s hs => ((expanding dialect rounded).walkStatement_trail s).2.2 (hexprs s hs)
  · exact (Except.ok.inj htext).symm

/-! ## Contexts that share a token -/

namespace Contexts

variable {cs : Contexts} {i j : Nat}

/-- The contexts of two numbers hold one token. -/
def Shares (cs : Contexts) (i j : Nat) : Prop :=
  ∃ hi hj, cs.handles[i]? = some hi ∧ cs.handles[j]? = some hj ∧ hi.token = hj.token

/-- An act leaves a context its token. -/
theorem step_token {h : Handle} (hi : cs.handles[i]? = some h) (act : ContextAct) :
    ∃ h', (cs.step act).handles[i]? = some h' ∧ h'.token = h.token := by
  have hlt := (List.getElem?_eq_some_iff.1 hi).1
  cases act with
  | setDeadline k moment =>
    rw [step, List.getElem?_modify, hi]
    split
    · exact ⟨_, rfl, rfl⟩
    · exact ⟨_, rfl, rfl⟩
  | cancel k => exact ⟨h, hi, rfl⟩
  | wait time => exact ⟨h, hi, rfl⟩
  | _ => exact ⟨h, by rw [step, List.getElem?_append_left hlt, hi], rfl⟩

theorem run_token {h : Handle} (hi : cs.handles[i]? = some h) (acts : List ContextAct) :
    ∃ h', (cs.run acts).handles[i]? = some h' ∧ h'.token = h.token := by
  induction acts generalizing cs h with
  | nil => exact ⟨h, hi, rfl⟩
  | cons act acts ih =>
    obtain ⟨h₁, hi₁, htoken₁⟩ := step_token hi act
    obtain ⟨h₂, hi₂, htoken₂⟩ := ih hi₁
    exact ⟨h₂, hi₂, htoken₂.trans htoken₁⟩

/-- A request to cancel stays. -/
theorem run_cancelled {token : Nat} (h : token ∈ cs.cancelled) (acts : List ContextAct) :
    token ∈ (cs.run acts).cancelled := by
  have hstep : ∀ (cs : Contexts) act, token ∈ cs.cancelled → token ∈ (cs.step act).cancelled := by
    intro cs act h
    cases act with
    | cancel k => exact List.mem_append_right _ h
    | _ => exact h
  induction acts generalizing cs with
  | nil => exact h
  | cons act acts ih => exact ih (hstep cs act h)

/-- A context is told that it was cancelled, even if its time is over too, if and only if that was asked of its token. -/
theorem check_eq_canceled {h : Handle} (hi : cs.handles[i]? = some h) :
    cs.check i = .error .canceled ↔ h.token ∈ cs.cancelled := by
  by_cases hmem : h.token ∈ cs.cancelled
  · simp [check, hi, Context.check, view, hmem]
  · have hnot : (cs.view h).cancelled = false := by simp [view, hmem]
    cases hdeadline : (cs.view h).deadline <;> simp [check, hi, Context.check, hnot, hdeadline, hmem]

/-- A clone holds the token of the context, and so does a context made from it. -/
theorem shares_copy (hi : i < cs.handles.length) :
    (cs.step (.clone i)).Shares i cs.handles.length ∧ (cs.step (.adopt i)).Shares i cs.handles.length := by
  have hget : cs.handles[i]? = some cs.handles[i] := List.getElem?_eq_getElem hi
  refine ⟨⟨cs.handles[i], cs.handles[i], ?_, ?_, rfl⟩, ⟨cs.handles[i], ⟨cs.handles[i].token, none⟩, ?_, ?_, rfl⟩⟩
  all_goals simp [step, hget, List.getElem?_append_left hi]

theorem Shares.run (h : cs.Shares i j) (acts : List ContextAct) : (cs.run acts).Shares i j := by
  obtain ⟨hi, hj, hgeti, hgetj, htoken⟩ := h
  obtain ⟨hi', hgeti', htokeni⟩ := run_token hgeti acts
  obtain ⟨hj', hgetj', htokenj⟩ := run_token hgetj acts
  exact ⟨hi', hj', hgeti', hgetj', by rw [htokeni, htokenj, htoken]⟩

/-- **A request to cancel** through one context is seen by all that hold its token, whatever is done afterwards. -/
theorem Shares.check_cancel (h : cs.Shares i j) (acts : List ContextAct) :
    ((cs.step (.cancel i)).run acts).check j = .error .canceled := by
  obtain ⟨hi, hj, hgeti, hgetj, htoken⟩ := h
  have hstep : (cs.step (.cancel i)).handles[j]? = some hj := hgetj
  obtain ⟨hj', hgetj', htokenj⟩ := run_token hstep acts
  rw [check_eq_canceled hgetj', htokenj, ← htoken]
  exact run_cancelled (by simp [step, hgeti]) acts

/-- The contexts before a poll have come about by the acts since an earlier one. -/
theorem before_eq_run (cs : Contexts) (acts : Nat → List ContextAct) {m n : Nat} (h : m ≤ n) :
    ∃ later, cs.before acts n = (cs.before acts m).run later := by
  induction h with
  | refl => exact ⟨[], rfl⟩
  | step _ ih =>
    obtain ⟨later, hlater⟩ := ih
    exact ⟨later ++ acts (_ + 1), by rw [before, hlater, Contexts.run, Contexts.run, Contexts.run, List.foldl_append]⟩

end Contexts

/-! ## What comes of a template -/

/-- **Stopping work changes nothing but the outcome as a whole.** Under any polls a template gives what it gives when
nobody stops it, or the reason of the first poll that failed; a text comes of it only if no poll failed, and then from
all its statements expanded. A context that was cancelled through any context with its token is told so at every later
poll, even when its time is over. -/
theorem stopped_or_unchanged (dialect : Dialect) (request : Request) (template : String) :
    (∀ polls : Polls,
      (interpolate dialect request polls template = interpolate dialect request Context.live.polls template ∨
        ∃ n reason, (∀ k < n, polls k = .ok ()) ∧ polls n = .error reason ∧
          interpolate dialect request polls template = .error (.error (.cancelled reason))) ∧
      ∀ text, interpolate dialect request polls template = .ok text →
        ∃ statements rounded result, parseStatements dialect template = .ok statements ∧
          (∀ n ≤ statements.length + 1, polls n = .ok ()) ∧ request.rounded = .ok rounded ∧
          List.Forall₂ (fun s s' => walkStatement (expander dialect rounded) s = .ok s') statements result ∧
          text = renderStatements result) ∧
    (∀ (cs : Contexts) (i : Nat) (h : Handle), cs.handles[i]? = some h →
      (cs.check i = .error .canceled ↔ h.token ∈ cs.cancelled)) ∧
    (∀ (cs : Contexts) (i j : Nat), cs.Shares i j → ∀ (acts : Nat → List ContextAct) (n : Nat),
      (cs.step (.cancel i)).polls j acts n = .error .canceled) ∧
    (∀ (cs : Contexts) (i : Nat), i < cs.handles.length →
      (cs.step (.clone i)).Shares i cs.handles.length ∧ (cs.step (.adopt i)).Shares i cs.handles.length) ∧
    ∀ (cs : Contexts) (i j : Nat), cs.Shares i j → ∀ acts, (cs.run acts).Shares i j := by
  refine ⟨fun polls => ⟨interpolate_stops polls template, fun text h => expanded_of_interpolate h⟩,
    fun cs i h hi => Contexts.check_eq_canceled hi, fun cs i j h acts n => ?_, fun cs i hi => Contexts.shares_copy hi,
    fun cs i j h acts => h.run acts⟩
  obtain ⟨later, hlater⟩ := (cs.step (.cancel i)).before_eq_run acts (Nat.zero_le n)
  rw [Contexts.polls, hlater, Contexts.before, Contexts.run, Contexts.run, ← List.foldl_append]
  exact h.check_cancel _

end SqlTemplate
