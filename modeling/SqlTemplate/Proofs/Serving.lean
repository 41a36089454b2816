import Mathlib.Data.List.Forall2
import SqlTemplate.Proofs.Expansion
import SqlTemplate.Service.Schedule

/-!
# Every request is answered once

Whatever is scheduled when, each line that has been read and is not blank has one slot on its way through the server:
a task that waits for a worker, or an answer that is about to be sent, is queued or is written. An event moves slots,
adds one for a line that is read, or fills that of a task. When the server returns, all slots are written answers.

* `handle_timed`: a worker in time gives what the handler replies, or finds its deadline passed.
* `Answers`: the answers that a line can get.
* `Server.Accounted`, `Server.step_accounted`, `Server.run_accounted`: the slots of the lines that were read.
* `answered_once`: what has been written when the server returns.
-/

namespace SqlTemplate

open Sql

/-! ## Work under a deadline -/

/-- The polls go on or find the deadline passed. -/
def Polls.Timed (polls : Polls) : Prop := ∀ n, polls n = .ok () ∨ polls n = .error .deadlineExceeded

theorem Polls.Timed.rest {polls : Polls} (h : polls.Timed) : polls.rest.Timed := fun n => h (n + 1)

/-- The first outcome is the second one, or the error of work that came too late. -/
def Timed {ε α : Type} (late : ε) (x y : Except ε α) : Prop := x = y ∨ x = .error late

theorem Timed.refl {ε α : Type} {late : ε} (x : Except ε α) : Timed late x x := .inl rfl

theorem Timed.bind {ε α β : Type} {late : ε} {x y : Except ε α} {f g : α → Except ε β} (h : Timed late x y)
    (hf : ∀ a, Timed late (f a) (g a)) : Timed late (x >>= f) (y >>= g) := by
  rcases h with rfl | rfl
  · cases x with
    | error e => exact .inl rfl
    | ok a => exact hf a
  · exact .inr rfl

/-- The failure of a template that found its deadline passed. -/
def lateTemplate : Failure Error := .error (.cancelled .deadlineExceeded)

theorem Polls.Timed.ask {polls : Polls} (h : polls.Timed) : SqlTemplate.Timed lateTemplate polls.ask (.ok ()) := by
  rcases h 0 with h | h
  · exact .inl (by simp [Polls.ask, h, Outcome.lift])
  · exact .inr (by simp [Polls.ask, h, Outcome.lift, lateTemplate])

variable {dialect : Dialect} {polls : Polls}

theorem expandStatements_timed {request : Request} (h : polls.Timed) (statements : List Statement) :
    Timed lateTemplate (expandStatements dialect request polls statements)
      (expandStatements dialect request (fun _ => .ok ()) statements) := by
  induction statements generalizing polls with
  | nil => exact h.ask.bind fun _ => .refl _
  | cons s ss ih => exact h.ask.bind fun _ => (Timed.refl _).bind fun _ => (ih h.rest).bind fun _ => .refl _

theorem interpolate_timed (h : polls.Timed) (request : Request) (template : String) :
    Timed lateTemplate (interpolate dialect request polls template)
      (interpolate dialect request (fun _ => .ok ()) template) := by
  refine h.ask.bind fun _ => (Timed.refl _).bind fun statements => ?_
  refine Timed.bind ?_ fun _ => .refl _
  exact (Timed.refl _).bind fun _ => expandStatements_timed h.rest statements

namespace Service

open Json

theorem checks_timed (passed : Nat → Bool) : (checks passed).Timed := by
  intro n
  cases h : passed n <;> simp [checks, h, Context.check, Context.live, Context.withDeadline]

theorem interpolated_timed (settings : Settings) (h : polls.Timed) (body : List Text.Symbol) :
    Timed (.error (.template (.cancelled .deadlineExceeded))) (interpolated settings polls body)
      (interpolated settings (fun _ => .ok ()) body) := by
  refine (Timed.refl _).bind fun t => (Timed.refl _).bind fun round => (Timed.refl _).bind fun interval => ?_
  rcases interpolate_timed h ⟨t.range, t.filters, round, interval⟩ t.sql with hsame | hlate
  · exact .inl (congrArg routeOutcome hsame)
  · exact .inr (congrArg routeOutcome hlate)

/-- **A worker in time** gives what the handler replies, or finds its deadline passed. -/
theorem handle_timed (settings : Settings) (h : polls.Timed) (path : String) (body : List Text.Symbol) :
    handle settings polls path body = handle settings (fun _ => .ok ()) path body ∨
      handle settings polls path body = timedOut := by
  unfold handle
  cases Route.ofPath? path with
  | none => exact .inl rfl
  | some route =>
    cases route with
    | ast => exact .inl rfl
    | placeholders => exact .inl rfl
    | interpolate =>
      rcases interpolated_timed settings h body with hsame | hlate
      · left
        simp only [routeData, hsame]
      · right
        simp only [routeData, hlate]
        rfl

/-! ## The answers to a line -/

/-- What the handler replies to a request that nobody stops. -/
def LineRequest.reply (settings : Settings) (r : LineRequest) : Reply := r.handled settings fun _ => .ok ()

/-- The answers that a line can get, given the replies that a request can get: one that is no request is rejected, and
one that is a request gets its own mark and a reply of its own. -/
def Answers (replies : LineRequest → Reply → Prop) (line : String) (x : LineResponse) : Prop :=
  match Decoder.run lineRequest (Text.Symbol.ofText line) with
  | .ok r => x.id = r.id ∧ replies r x.reply
  | .error e => x = rejection e

/-- The replies of the handler and of tasks that ran out of time. -/
def Replies (settings : Settings) (r : LineRequest) (reply : Reply) : Prop :=
  reply = r.reply settings ∨ reply = timedOut

/-- The lines that are to be answered. -/
def asking (lines : List String) : List String := lines.filter fun line => !Text.isBlankText line

/-- The event lets no request run out of time. -/
def Event.InTime : Event → Prop
  | .finish _ passed => ∀ n, passed n = false
  | .expire _ => False
  | _ => True

/-- The event gives requests the allowed replies only. -/
def Event.Allowed (settings : Settings) (replies : LineRequest → Reply → Prop) : Event → Prop
  | .finish _ passed => ∀ r : LineRequest, replies r (r.handled settings (checks passed))
  | .expire _ => ∀ r, replies r timedOut
  | _ => True

theorem Event.allowed (settings : Settings) (e : Event) : e.Allowed settings (Replies settings) := by
  cases e with
  | finish task passed => exact fun r => handle_timed settings (checks_timed passed) r.path _
  | expire task => exact fun r => .inr rfl
  | _ => exact trivial

theorem Event.InTime.allowed (settings : Settings) {e : Event} (h : e.InTime) :
    e.Allowed settings fun r reply => reply = r.reply settings := by
  cases e with
  | finish task passed =>
    intro r
    have hchecks : checks passed = fun _ => .ok () := by
      funext n
      simp [checks, h n, Context.check, Context.live, Context.withDeadline]
    rw [hchecks, LineRequest.reply]
  | expire task => exact h.elim
  | _ => exact trivial

/-! ## Slots -/

/-- What is on its way through the server for a line. -/
inductive Slot where
  | waiting (r : LineRequest)
  | answered (x : LineResponse)

/-- The slot of a task that has not ended. -/
def Task.slot? : Task → Option Slot
  | ⟨r, .working⟩ => some (.waiting r)
  | ⟨r, .replied reply⟩ => some (.answered ⟨r.id, reply⟩)
  | ⟨_, .ended⟩ => none

/-- What is on its way through the server. -/
def Server.slots (s : Server) : List Slot :=
  s.tasks.filterMap Task.slot? ++ (s.queue.map .answered ++ s.written.map .answered)

/-- The slot is that of the line. -/
def Fits (replies : LineRequest → Reply → Prop) (line : String) : Slot → Prop
  | .waiting r => Decoder.run lineRequest (Text.Symbol.ofText line) = .ok r
  | .answered x => Answers replies line x

/-- The lines have one slot each. -/
def Server.Balanced (replies : LineRequest → Reply → Prop) (read : List String) (s : Server) : Prop :=
  ∃ slots, List.Forall₂ (Fits replies) (asking read) slots ∧ slots.Perm s.slots

/-- The lines that were read have one slot each, unless answers were lost. -/
def Server.Accounted (replies : LineRequest → Reply → Prop) (lines : List String) (s : Server) : Prop :=
  s.writing = true → ∃ read, lines = read ++ s.lines ∧ s.Balanced replies read

/-- What the server has done by its phase: it reads to the end, waits for all tasks and, unless there is an error, for
the writer. -/
structure Server.Ordered (s : Server) : Prop where
  drained : s.phase ≠ .reading → s.lines = []
  joined : s.phase ≠ .reading → s.phase ≠ .joining → s.tasks = []
  flushed : s.phase = .returned true → s.queue = [] ∧ s.writing = true

variable {settings : Settings} {replies : LineRequest → Reply → Prop} {lines : List String} {s s' : Server}

theorem Server.start_accounted : (Server.start lines).Accounted replies lines :=
  fun _ => ⟨[], rfl, [], .nil, .nil⟩

theorem Server.start_ordered : (Server.start lines).Ordered :=
  ⟨fun h => absurd rfl h, fun h => absurd rfl h, fun h => nomatch h⟩

@[simp] theorem Server.post_phase (x : LineResponse) : (s.post x).phase = s.phase := by unfold post; split <;> rfl
@[simp] theorem Server.post_lines (x : LineResponse) : (s.post x).lines = s.lines := by unfold post; split <;> rfl
@[simp] theorem Server.post_tasks (x : LineResponse) : (s.post x).tasks = s.tasks := by unfold post; split <;> rfl
@[simp] theorem Server.post_writing (x : LineResponse) : (s.post x).writing = s.writing := by
  unfold post; split <;> rfl

@[simp] theorem Server.receive_phase (line : String) : (s.receive line).phase = s.phase := by
  unfold receive; split <;> [rfl; split <;> simp]
@[simp] theorem Server.receive_lines (line : String) : (s.receive line).lines = s.lines := by
  unfold receive; split <;> [rfl; split <;> simp]
@[simp] theorem Server.receive_writing (line : String) : (s.receive line).writing = s.writing := by
  unfold receive; split <;> [rfl; split <;> simp]

/-- A server with a task reads or waits for it. -/
theorem Server.Ordered.of_task (hs : s.Ordered) {task : Nat} {t : Task} (ht : s.tasks[task]? = some t) :
    s.phase = .reading ∨ s.phase = .joining := by
  by_contra hphase
  rw [not_or] at hphase
  simp [hs.joined hphase.1 hphase.2] at ht

/-- A server whose tasks change keeps the order. -/
theorem Server.Ordered.of_phase (hs : s.Ordered) (hphase : s.phase = .reading ∨ s.phase = .joining)
    (hphase' : s'.phase = s.phase) (hlines : s'.lines = s.lines) : s'.Ordered := by
  refine ⟨fun h => ?_, fun h h' => ?_, fun h => ?_⟩
  · rw [hlines]
    exact hs.drained (hphase' ▸ h)
  · rcases hphase with hphase | hphase <;> simp_all
  · rcases hphase with hphase | hphase <;> simp_all

/-- An event keeps the order of what the server does. -/
theorem Server.step_ordered {e : Event} (h : s.step settings e = some s') (hs : s.Ordered) : s'.Ordered := by
  cases e with
  | read =>
    simp only [step] at h
    split at h <;> cases h
    rename_i hphase hlines
    refine ⟨fun h => absurd ?_ h, fun h => absurd ?_ h, fun h => ?_⟩ <;> simp_all
  | finish task passed =>
    simp only [step] at h
    split at h <;> cases h
    rename_i r ht
    exact hs.of_phase (hs.of_task ht) rfl rfl
  | expire task =>
    simp only [step] at h
    split at h <;> cases h
    rename_i r ht
    exact hs.of_phase (hs.of_task ht) rfl rfl
  | send task =>
    simp only [step] at h
    split at h <;> cases h
    rename_i r reply ht
    exact hs.of_phase (hs.of_task ht) (by simp) (by simp)
  | reap task =>
    simp only [step] at h
    split at h <;> cases h
    rename_i r ht
    exact hs.of_phase (hs.of_task ht) rfl rfl
  | abandon worker =>
    simp only [step] at h
    split at h <;> cases h
    exact ⟨hs.drained, hs.joined, hs.flushed⟩
  | write =>
    simp only [step] at h
    split at h <;> cases h
    rename_i hwriting hqueue
    refine ⟨hs.drained, hs.joined, fun h => ?_⟩
    simp [(hs.flushed h).1] at hqueue
  | fail =>
    simp only [step] at h
    split at h <;> cases h
    rename_i hphase
    exact ⟨hs.drained, hs.joined, fun h => absurd h (hphase true)⟩
  | drain =>
    simp only [step] at h
    split at h <;> cases h
    rename_i hphase hlines
    exact ⟨fun _ => hlines, fun _ h => absurd rfl h, fun h => nomatch h⟩
  | close =>
    simp only [step] at h
    split at h <;> cases h
    rename_i hphase htasks
    exact ⟨fun _ => hs.drained (by simp [hphase]), fun _ _ => htasks, fun h => nomatch h⟩
  | leave =>
    simp only [step] at h
    split at h <;> cases h
    · rename_i hphase hwriting
      exact ⟨fun _ => hs.drained (by simp [hphase]), fun _ _ => hs.joined (by simp [hphase]) (by simp [hphase]),
        fun h => nomatch h⟩
    · rename_i hphase hwriting hqueue
      exact ⟨fun _ => hs.drained (by simp [hphase]), fun _ _ => hs.joined (by simp [hphase]) (by simp [hphase]),
        fun _ => ⟨hqueue, hwriting⟩⟩

/-! ## What an event does to the slots -/

/-- A task has its slot, and changing or removing the task changes no other slot. -/
theorem Server.slots_of_task {task : Nat} {t : Task} (ht : s.tasks[task]? = some t) :
    ∃ others, s.slots.Perm (t.slot?.toList ++ others) ∧
      (∀ t' : Task, Server.slots { s with tasks := s.tasks.set task t' } |>.Perm (t'.slot?.toList ++ others)) ∧
      (Server.slots { s with tasks := s.tasks.eraseIdx task }).Perm others := by
  obtain ⟨hlt, rfl⟩ := List.getElem?_eq_some_iff.1 ht
  have hmove : ∀ (before after : List Task) (t' : Task) (rest : List Slot),
      ((before ++ t' :: after).filterMap Task.slot? ++ rest).Perm
        (t'.slot?.toList ++ ((before ++ after).filterMap Task.slot? ++ rest)) := by
    intro before after t' rest
    have hcons : (t' :: after).filterMap Task.slot? = t'.slot?.toList ++ after.filterMap Task.slot? := by
      cases hslot : t'.slot? <;> simp [hslot]
    rw [List.filterMap_append, List.filterMap_append, hcons, ← List.append_assoc _ _ rest]
    exact (List.perm_append_comm_assoc _ _ _).append_right rest
  refine ⟨(s.tasks.take task ++ s.tasks.drop (task + 1)).filterMap Task.slot? ++
    (s.queue.map .answered ++ s.written.map .answered), ?_, fun t' => ?_, ?_⟩
  · conv => lhs; rw [slots, ← List.take_append_drop task s.tasks, List.drop_eq_getElem_cons hlt]
    exact hmove _ _ _ _
  · simp only [slots, List.set_eq_take_append_cons_drop, hlt, if_true]
    exact hmove _ _ _ _
  · simp only [slots, List.eraseIdx_eq_take_drop_succ]
    exact .refl _

theorem Server.slots_post (h : s.writing = true) (x : LineResponse) :
    (s.post x).slots.Perm (.answered x :: s.slots) := by
  simp only [post, h, if_true, slots, List.map_append, List.map_cons, List.map_nil, ← List.append_assoc]
  rw [List.append_assoc _ _ (List.map _ s.written)]
  exact List.perm_middle

namespace Server.Balanced

variable {read : List String}

theorem of_perm (h : s.Balanced replies read) (hslots : s.slots.Perm s'.slots) : s'.Balanced replies read := by
  obtain ⟨slots, hfits, hperm⟩ := h
  exact ⟨slots, hfits, hperm.trans hslots⟩

/-- A line that is read takes a slot. -/
theorem add (h : s.Balanced replies read) {line : String} (hline : ¬ Text.isBlankText line = true) {slot : Slot}
    (hslot : Fits replies line slot) (hslots : s'.slots.Perm (slot :: s.slots)) :
    s'.Balanced replies (read ++ [line]) := by
  obtain ⟨slots, hfits, hperm⟩ := h
  have hasking : asking (read ++ [line]) = asking read ++ [line] := by simp [asking, hline]
  refine ⟨slots ++ [slot], ?_, (List.perm_append_singleton _ _).trans ((hperm.cons _).trans hslots.symm)⟩
  rw [hasking]
  exact List.rel_append hfits (.cons hslot .nil)

theorem receive (h : s.Balanced replies read) (hwriting : s.writing = true) (line : String) :
    (s.receive line).Balanced replies (read ++ [line]) := by
  unfold Server.receive
  split
  · rename_i hblank
    obtain ⟨slots, hfits, hperm⟩ := h
    exact ⟨slots, by simpa [asking, hblank] using hfits, hperm⟩
  · rename_i hline
    cases hrun : Decoder.run lineRequest (Text.Symbol.ofText line) with
    | ok r =>
      have hfits : Fits replies line (.waiting r) := hrun
      refine h.add hline hfits ?_
      simp only [Server.slots, List.filterMap_append, List.append_assoc]
      exact List.perm_middle
    | error e =>
      have hfits : Fits replies line (.answered (rejection e)) := by simp [Fits, Answers, hrun]
      exact h.add hline hfits (slots_post hwriting _)

/-- The slot of a request that waits can be filled with a reply. -/
theorem exists_filled {asked : List String} {slots : List Slot} (h : List.Forall₂ (Fits replies) asked slots)
    {r : LineRequest} (hr : .waiting r ∈ slots) {reply : Reply} (hreply : replies r reply) :
    ∃ slots' others, List.Forall₂ (Fits replies) asked slots' ∧ slots.Perm (.waiting r :: others) ∧
      slots'.Perm (.answered ⟨r.id, reply⟩ :: others) := by
  induction h with
  | nil => cases hr
  | @cons line slot asked slots hfits hrest ih =>
    rcases List.mem_cons.1 hr with rfl | hr
    · have hanswer : Fits replies line (.answered ⟨r.id, reply⟩) := by
        simp only [Fits] at hfits
        simp [Fits, Answers, hfits, hreply]
      exact ⟨_, slots, .cons hanswer hrest, .refl _, .refl _⟩
    · obtain ⟨slots', others, hfits', hslots, hslots'⟩ := ih hr
      refine ⟨_, slot :: others, .cons hfits hfits', ?_, ?_⟩
      · exact (hslots.cons slot).trans (.swap ..)
      · exact (hslots'.cons slot).trans (.swap ..)

/-- A task that waits gets a reply. -/
theorem fill (h : s.Balanced replies read) {task : Nat} {r : LineRequest} (ht : s.tasks[task]? = some ⟨r, .working⟩)
    {reply : Reply} (hreply : replies r reply) :
    Server.Balanced replies read { s with tasks := s.tasks.set task ⟨r, .replied reply⟩ } := by
  obtain ⟨slots, hfits, hperm⟩ := h
  obtain ⟨others, hslots, hset, -⟩ := slots_of_task ht
  have hwaiting : slots.Perm (.waiting r :: others) := hperm.trans hslots
  have hmem : .waiting r ∈ slots := hwaiting.mem_iff.2 List.mem_cons_self
  obtain ⟨slots', others', hfits', hslots', hfilled⟩ := exists_filled hfits hmem hreply
  have hothers : others'.Perm others := (hslots'.symm.trans hwaiting).cons_inv
  exact ⟨slots', hfits', (hfilled.trans (hothers.cons _)).trans (hset ⟨r, .replied reply⟩).symm⟩

/-- A task that sends its reply hands its slot to the queue. -/
theorem send (h : s.Balanced replies read) (hwriting : s.writing = true) {task : Nat} {r : LineRequest} {reply : Reply}
    (ht : s.tasks[task]? = some ⟨r, .replied reply⟩) :
    (Server.post { s with tasks := s.tasks.set task ⟨r, .ended⟩ } ⟨r.id, reply⟩).Balanced replies read := by
  obtain ⟨others, hslots, hset, -⟩ := slots_of_task ht
  let ended : Server := { s with tasks := s.tasks.set task ⟨r, .ended⟩ }
  have hended : ended.slots.Perm others := hset ⟨r, .ended⟩
  have hwriting' : ended.writing = true := hwriting
  have hposted := slots_post hwriting' ⟨r.id, reply⟩
  exact h.of_perm (hslots.trans ((hended.symm.cons _).trans hposted.symm))

/-- The writer takes a slot from the queue. -/
theorem write (h : s.Balanced replies read) {x : LineResponse} {rest : List LineResponse}
    (hqueue : s.queue = x :: rest) :
    Server.Balanced replies read { s with queue := rest, written := s.written ++ [x] } := by
  refine h.of_perm ?_
  simp only [Server.slots, hqueue, List.map_append, List.map_cons, List.map_nil]
  refine List.Perm.append_left _ ?_
  rw [← List.append_assoc]
  exact (List.perm_append_singleton _ _).symm

end Server.Balanced

/-- **An event** moves slots, adds one for a line that is read, or fills that of a task. -/
theorem Server.step_accounted {e : Event} (h : s.step settings e = some s') (he : e.Allowed settings replies)
    (hs : s.Accounted replies lines) : s'.Accounted replies lines := by
  intro hwriting'
  cases e with
  | read =>
    simp only [step] at h
    split at h <;> cases h
    rename_i line rest hphase hlines
    have hwriting : s.writing = true := by simpa using hwriting'
    obtain ⟨read, rfl, hbalanced⟩ := hs hwriting
    have hshorter : Balanced replies read { s with lines := rest } := hbalanced
    exact ⟨read ++ [line], by simp [hlines], hshorter.receive hwriting line⟩
  | finish task passed =>
    simp only [step] at h
    split at h <;> cases h
    rename_i r ht
    obtain ⟨read, hread, hbalanced⟩ := hs hwriting'
    exact ⟨read, hread, hbalanced.fill ht (he r)⟩
  | expire task =>
    simp only [step] at h
    split at h <;> cases h
    rename_i r ht
    obtain ⟨read, hread, hbalanced⟩ := hs hwriting'
    exact ⟨read, hread, hbalanced.fill ht (he r)⟩
  | send task =>
    simp only [step] at h
    split at h <;> cases h
    rename_i r reply ht
    have hwriting : s.writing = true := by simpa using hwriting'
    obtain ⟨read, hread, hbalanced⟩ := hs hwriting
    exact ⟨read, by simpa using hread, hbalanced.send hwriting ht⟩
  | reap task =>
    simp only [step] at h
    split at h <;> cases h
    rename_i r ht
    obtain ⟨read, hread, hbalanced⟩ := hs hwriting'
    obtain ⟨others, hslots, -, herase⟩ := slots_of_task ht
    exact ⟨read, hread, hbalanced.of_perm (hslots.trans herase.symm)⟩
  | abandon worker =>
    simp only [step] at h
    split at h <;> cases h
    exact hs hwriting'
  | write =>
    simp only [step] at h
    split at h <;> cases h
    rename_i x rest hwriting hqueue
    obtain ⟨read, hread, hbalanced⟩ := hs hwriting
    exact ⟨read, hread, hbalanced.write hqueue⟩
  | fail =>
    simp only [step] at h
    split at h <;> cases h
    cases hwriting'
  | drain =>
    simp only [step] at h
    split at h <;> cases h
    exact hs hwriting'
  | close =>
    simp only [step] at h
    split at h <;> cases h
    exact hs hwriting'
  | leave =>
    simp only [step] at h
    split at h <;> cases h
    · exact hs hwriting'
    · exact hs hwriting'

/-- A schedule keeps account of the lines that were read, and the order of what the server does. -/
theorem Server.run_accounted {events : List Event} (h : s.run settings events = some s')
    (he : ∀ e ∈ events, e.Allowed settings replies) (hs : s.Accounted replies lines) (hordered : s.Ordered) :
    s'.Accounted replies lines ∧ s'.Ordered := by
  induction events generalizing s with
  | nil =>
    cases h
    exact ⟨hs, hordered⟩
  | cons e events ih =>
    obtain ⟨s₁, hstep, hrun⟩ := Option.bind_eq_some_iff.1 h
    have hallowed := List.forall_mem_cons.1 he
    exact ih hrun hallowed.2 (step_accounted hstep hallowed.1 hs) (step_ordered hstep hordered)

/-! ## What is written -/

/-- The answer in a slot that has one. -/
def Slot.answer? : Slot → Option LineResponse
  | .waiting _ => none
  | .answered x => some x

theorem answers_of_slots {asked : List String} {slots : List Slot} (h : List.Forall₂ (Fits replies) asked slots)
    (hslots : ∀ slot ∈ slots, slot.answer?.isSome) :
    List.Forall₂ (Answers replies) asked (slots.filterMap Slot.answer?) := by
  induction h with
  | nil => exact .nil
  | @cons line slot asked slots hfits hrest ih =>
    obtain ⟨hslot, hrest'⟩ := List.forall_mem_cons.1 hslots
    cases slot with
    | waiting r => cases hslot
    | answered x => exact .cons hfits (ih hrest')

/-- When a server returns without an error, each line that asks has one answer among those that were written. -/
theorem Server.written_answers {events : List Event} (h : (Server.start lines).run settings events = some s)
    (hreturned : s.phase = .returned true) (he : ∀ e ∈ events, e.Allowed settings replies) :
    ∃ answers, s.written.Perm answers ∧ List.Forall₂ (Answers replies) (asking lines) answers := by
  obtain ⟨haccounted, hordered⟩ := run_accounted h he start_accounted start_ordered
  obtain ⟨hqueue, hwriting⟩ := hordered.flushed hreturned
  obtain ⟨read, hread, slots, hfits, hperm⟩ := haccounted hwriting
  rw [hordered.drained (by simp [hreturned]), List.append_nil] at hread
  rw [hread]
  have hslots : s.slots = s.written.map .answered := by
    simp [Server.slots, hqueue, hordered.joined (by simp [hreturned]) (by simp [hreturned])]
  rw [hslots] at hperm
  refine ⟨slots.filterMap Slot.answer?, ?_, answers_of_slots hfits fun slot hslot => ?_⟩
  · have hanswers := hperm.symm.filterMap Slot.answer?
    simpa [List.filterMap_map, Function.comp_def, Slot.answer?] using hanswers
  · obtain ⟨x, -, rfl⟩ := List.mem_map.1 (hperm.mem_iff.1 hslot)
    rfl

/-- The answer to a line whose request nobody stops. -/
def liveAnswer (settings : Settings) (line : String) : LineResponse :=
  match Decoder.run lineRequest (Text.Symbol.ofText line) with
  | .ok r => ⟨r.id, r.reply settings⟩
  | .error e => rejection e

theorem liveAnswers_of_answers {asked : List String} {answers : List LineResponse}
    (h : List.Forall₂ (Answers fun r reply => reply = r.reply settings) asked answers) :
    asked.map (liveAnswer settings) = answers := by
  induction h with
  | nil => rfl
  | @cons line x asked answers hanswer hrest ih =>
    have hx : liveAnswer settings line = x := by
      unfold Answers at hanswer
      unfold liveAnswer
      split at hanswer
      · obtain ⟨hid, hreply⟩ := hanswer
        rw [← hid, ← hreply]
      · exact hanswer.symm
    rw [List.map_cons, hx, ih]

/-- When no request runs out of time, the lines decide what is written. -/
theorem Server.written_in_time {events : List Event} (h : (Server.start lines).run settings events = some s)
    (hreturned : s.phase = .returned true) (he : ∀ e ∈ events, e.InTime) :
    s.written.Perm ((asking lines).map (liveAnswer settings)) := by
  obtain ⟨answers, hperm, hanswers⟩ := written_answers h hreturned fun e hmem => (he e hmem).allowed settings
  rwa [liveAnswers_of_answers hanswers]

theorem serve_eq_map {input : String} (h : settings.timeoutMillis ≠ 0) :
    serve settings input = (asking (linesFrom [] input.toList)).map (liveAnswer settings) := by
  have hanswer : answer settings = fun line =>
      if Text.isBlankText line then none else some (liveAnswer settings line) := by
    funext line
    unfold answer liveAnswer
    split
    · rfl
    · cases Decoder.run lineRequest (Text.Symbol.ofText line) with
      | error e => rfl
      | ok r =>
        simp only [respond, h, if_false]
        rfl
  rw [serve, hanswer]
  induction linesFrom [] input.toList with
  | nil => rfl
  | cons line lines ih => cases hblank : Text.isBlankText line <;> simp [hblank, ih, asking]

/-- **Every request is answered once**, whatever is scheduled when. -/
theorem answered_once (settings : Settings) (input : String) (events : List Event) (s : Server)
    (hrun : (Server.start (linesFrom [] input.toList)).run settings events = some s)
    (hreturned : s.phase = .returned true) :
    (∃ answers, s.written.Perm answers ∧
      List.Forall₂ (Answers (Replies settings)) (asking (linesFrom [] input.toList)) answers) ∧
    ((∀ e ∈ events, e.InTime) →
      (∀ events' s', (Server.start (linesFrom [] input.toList)).run settings events' = some s' →
        s'.phase = .returned true → (∀ e ∈ events', e.InTime) → s'.written.Perm s.written) ∧
      (settings.timeoutMillis ≠ 0 → s.written.Perm (serve settings input))) := by
  refine ⟨Server.written_answers hrun hreturned fun e _ => e.allowed settings, fun he => ⟨?_, fun htimeout => ?_⟩⟩
  · intro events' s' hrun' hreturned' he'
    exact (Server.written_in_time hrun' hreturned' he').trans (Server.written_in_time hrun hreturned he).symm
  · rw [serve_eq_map htimeout]
    exact Server.written_in_time hrun hreturned he

/-- A schedule in which the answer to a later line comes first, and a request runs out of time. -/
theorem answered_once_out_of_order :
    ∃ (input : String) (events : List Event) (s : Server),
      (asking (linesFrom [] input.toList)).length = 3 ∧
      (Server.start (linesFrom [] input.toList)).run default events = some s ∧ s.phase = .returned true ∧
      ∃ answers, s.written.Perm answers ∧
        List.Forall₂ (Answers (Replies default)) (asking (linesFrom [] input.toList)) answers := by
  let input := "\x7b\"id\":1,\"path\":\"/nope\"\x7d\n\n?\n\x7b\"path\":\"/ast\"\x7d"
  let events : List Event :=
    [.read, .read, .read, .write, .read, .expire 1, .finish 0 fun _ => false, .send 0, .reap 0, .drain, .send 0,
      .reap 0, .close, .abandon 0, .write, .write, .leave]
  have hphase : ((Server.start (linesFrom [] input.toList)).run default events).map Server.phase =
      some (.returned true) := by decide +kernel
  obtain ⟨s, hrun, hreturned⟩ := Option.map_eq_some_iff.1 hphase
  exact ⟨input, events, s, by decide +kernel, hrun, hreturned, (answered_once default input events s hrun hreturned).1⟩

end Service

end SqlTemplate
