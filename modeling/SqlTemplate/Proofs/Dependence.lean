import SqlTemplate.Proofs.Editing
import SqlTemplate.Proofs.Expansion

/-!
# What an interpolation reads of its request

A macro reads one part of a request: one about the time range reads the range, which was rounded before, one about the
interval the interval, a filter macro the filters, and the rounding macro the unit of rounding. A template therefore
gives the same text, or the same error, for all requests that agree on the parts that its macros read.

* `Agree`, `walkNode_congr`: two visitors walk a node alike if they answer alike at the kinds of calls in it.
* `interpolation_reads_only`: the parts of a request that an interpolation depends on.
-/

namespace SqlTemplate

open Sql Macro

namespace Macro

/-! ## Visitors that answer alike -/

/-- Two visitors answer alike, at calls as far as these are of certain kinds. -/
structure Agree {m : Type → Type} (v v' : Visitor m) (kinds : Kind → Prop) : Prop where
  call : ∀ i e, kinds i.kind → v.call i e = v'.call i e
  cte : v.cte = v'.cte
  malformed : v.malformed = v'.malformed

section

variable {m : Type → Type} [Monad m] {v v' : Visitor m} {kinds : Kind → Prop}

theorem Agree.ctes (h : Agree v v' kinds) (cs : List Cte) : v.ctes cs = v'.ctes cs := by
  induction cs with
  | nil => rfl
  | cons cte cs ih => rw [Visitor.ctes, Visitor.ctes, h.cte, h.malformed, ih]

theorem Agree.expr (h : Agree v v' kinds) {e : Expr} (hkinds : ∀ i, callOf e = some (.ok i) → kinds i.kind) :
    v.expr e = v'.expr e := by
  unfold Visitor.expr
  rcases hcall : callOf e with _ | s | i
  · rfl
  · simp only [h.malformed]
  · exact h.call i e (hkinds i hcall)

/-- A call keeps its kind, whatever comes in the place of what stands inside it. -/
theorem kind_of_callOf_refill {e : Expr} {ns : List Node} {i' : Invocation}
    (h : callOf (e.refill ns).1 = some (.ok i')) : ∃ i, callOf e = some (.ok i) ∧ i.kind = i'.kind := by
  have hlabel := label_refill e ns
  rw [callSite?, h] at hlabel
  unfold callSite? at hlabel
  rcases hcall : callOf e with _ | s | i
  · rw [hcall] at hlabel
    cases hlabel
  · rw [hcall] at hlabel
    cases hlabel
  · rw [hcall] at hlabel
    have hsites : (Site.call i e).label = (Site.call i' (e.refill ns).1).label := (Option.some.inj hlabel).symm
    exact ⟨i, rfl, (Label.call.inj hsites).2.1⟩

theorem walkNodes_congr {ns : List Node} (h : ∀ n ∈ ns, walkNode v n = walkNode v' n) :
    walkNodes v ns = walkNodes v' ns := by
  induction ns with
  | nil => rfl
  | cons n ns ih =>
    rw [walkNodes, walkNodes, h n List.mem_cons_self, ih fun n hn => h n (List.mem_cons_of_mem _ hn)]

variable [LawfulMonad m]

/-- A node is walked alike if all calls in it are of the kinds at which the visitors answer alike. -/
theorem walkNode_congr (h : Agree v v' kinds) (n : Node)
    (hkinds : ∀ i e, Site.call i e ∈ sitesWithin n → kinds i.kind) : walkNode v n = walkNode v' n := by
  induction n using node_induction with
  | h n ih =>
    have hbelow : walkNodes v n.children = walkNodes v' n.children := by
      refine walkNodes_congr fun c hc => ih c hc fun i e he => ?_
      have hsite : Site.call i e ∈ n.children.flatMap sitesWithin := List.mem_flatMap.2 ⟨c, hc, he⟩
      cases n with
      | expr e₀ => exact hkinds i e (by rw [sitesWithin_expr]; exact List.mem_append_left _ hsite)
      | query q => exact hkinds i e (by rw [sitesWithin_query]; exact List.mem_append_right _ hsite)
    cases n with
    | expr e =>
      rw [walkNode_expr, walkNode_expr]
      refine (congrArg (· >>= _) hbelow).trans (bind_congr fun ns => ?_)
      -- the parts have changed, but the expression is a call of the same kind as before
      rw [h.expr fun i' hi' => ?_]
      obtain ⟨i, hi, hkind⟩ := kind_of_callOf_refill hi'
      rw [← hkind]
      refine hkinds i e ?_
      rw [sitesWithin_expr]
      exact List.mem_append_right _ (by simp [callSite?, hi, Site.ofCall])
    | query q =>
      rw [walkNode_query, walkNode_query, h.ctes]
      exact bind_congr fun _ => congrArg (· >>= _) hbelow

/-- A statement is walked alike if all calls in it are of the kinds at which the visitors answer alike. -/
theorem walkStatement_congr (h : Agree v v' kinds) (s : Statement)
    (hkinds : ∀ i e, Site.call i e ∈ s.nodes.flatMap sitesWithin → kinds i.kind) :
    walkStatement v s = walkStatement v' s := by
  rw [walkStatement_eq, walkStatement_eq]
  refine congrArg (· >>= _) (walkNodes_congr fun n hn => walkNode_congr h n fun i e he => ?_)
  exact hkinds i e (List.mem_flatMap.2 ⟨n, hn, he⟩)

end

end Macro

/-! ## Requests that agree -/

/-- A walk through the statements reports a call of a macro of this kind. -/
def Calls (statements : List Statement) (kind : Kind) : Prop :=
  ∃ i e, Site.call i e ∈ sites statements ∧ i.kind = kind

/-- The kind of macro that a site calls. -/
def Macro.Site.kind? : Site → Option Kind
  | .call i _ => some i.kind
  | _ => none

theorem calls_iff {statements : List Statement} {kind : Kind} :
    Calls statements kind ↔ some kind ∈ (sites statements).map Site.kind? := by
  rw [List.mem_map]
  constructor
  · rintro ⟨i, e, hsite, rfl⟩
    exact ⟨_, hsite, rfl⟩
  · rintro ⟨site, hsite, hkind⟩
    cases site with
    | call i e => exact ⟨i, e, hsite, Option.some.inj hkind⟩
    | cte p => cases hkind
    | malformed s => cases hkind

/-- Two requests agree on what the macros of a kind read. -/
def AgreeAt (request request' : Request) : Kind → Prop
  | .timeFilter _ => request.range = request'.range
  | .interval _ => request.interval = request'.interval
  | .adHocFilter => request.filters = request'.filters
  | .round => request.round = request'.round
  | .ctePlaceholder => True

variable {dialect : Dialect} {request request' : Request} {statements : List Statement}

/-- A macro stands for the same expression, or for none with the same error. -/
theorem expand_congr {i : Invocation} (h : AgreeAt request request' i.kind) :
    expand dialect request i = expand dialect request' i := by
  have hrender : render dialect i request = render dialect i request' := by
    unfold render
    cases hkind : i.kind with
    | timeFilter filter =>
      have hrange : request.range = request'.range := by rwa [hkind] at h
      simp only [hrange]
    | interval interval =>
      have hinterval : request.interval = request'.interval := by rwa [hkind] at h
      simp only [hinterval]
    | adHocFilter =>
      have hfilters : request.filters = request'.filters := by rwa [hkind] at h
      simp only [hfilters]
    | round =>
      have hround : request.round = request'.round := by rwa [hkind] at h
      simp only [hround]
    | ctePlaceholder => rfl
  rw [expand, expand, hrender]

theorem agree_expander (dialect : Dialect) (request request' : Request) :
    Agree (expander dialect request) (expander dialect request') (AgreeAt request request') :=
  ⟨fun _ _ => expand_congr, rfl, rfl⟩

/-- Statements are expanded alike for requests that agree on what their macros read. -/
theorem expandStatements_congr (h : ∀ kind, Calls statements kind → AgreeAt request request' kind) (polls : Polls) :
    expandStatements dialect request polls statements = expandStatements dialect request' polls statements := by
  induction statements generalizing polls with
  | nil => rfl
  | cons s ss ih =>
    have hfirst : walkStatement (expander dialect request) s = walkStatement (expander dialect request') s := by
      refine walkStatement_congr (agree_expander dialect request request') s fun i e he => h i.kind ⟨i, e, ?_, rfl⟩
      rw [sites_eq_flatMap]
      exact List.mem_flatMap.2 ⟨s, List.mem_cons_self, he⟩
    have hrest := ih (fun kind ⟨i, e, he, hkind⟩ => h kind ⟨i, e, ?_, hkind⟩) polls.rest
    · rw [expandStatements, expandStatements, hfirst, hrest]
    · rw [sites_eq_flatMap] at he ⊢
      obtain ⟨s', hs', he⟩ := List.mem_flatMap.1 he
      exact List.mem_flatMap.2 ⟨s', List.mem_cons_of_mem _ hs', he⟩

/-- The rounded range of a request whose range can be rounded. -/
theorem rounded_eq_ok {rounded : Request} :
    request.rounded = .ok rounded ↔
      ∃ range, request.range.round request.round = .ok range ∧ rounded = { request with range } := by
  unfold Request.rounded Outcome.lift
  cases request.range.round request.round with
  | error e => simp [bind, Except.bind]
  | ok range => simp [bind, Except.bind, pure, Except.pure, eq_comm]

theorem interpolateStatements_of_rounded {rounded : Request} (h : request.rounded = .ok rounded) (polls : Polls) :
    interpolateStatements dialect request polls statements =
      (expandStatements dialect rounded polls statements >>= fun result => pure (renderStatements result)) := by
  rw [interpolateStatements, expandRounded, h]
  rfl

/-- The rounded requests agree where the requests do; a rounded range depends on the range and on the unit. -/
theorem AgreeAt.rounded {rounded rounded' : Request} (h : request.rounded = .ok rounded)
    (h' : request'.rounded = .ok rounded') {kind : Kind} (hkind : AgreeAt request request' kind)
    (hround : (∃ f, kind = .timeFilter f) → request.round = request'.round) : AgreeAt rounded rounded' kind := by
  obtain ⟨range, hrange, rfl⟩ := rounded_eq_ok.1 h
  obtain ⟨range', hrange', rfl⟩ := rounded_eq_ok.1 h'
  cases kind with
  | timeFilter f =>
    have hranges : request.range = request'.range := hkind
    have hboth : request.range.round request.round = request'.range.round request'.round := by
      rw [hranges, hround ⟨f, rfl⟩]
    exact Except.ok.inj (hrange.symm.trans (hboth.trans hrange'))
  | interval i => exact hkind
  | adHocFilter => exact hkind
  | round => exact hkind
  | ctePlaceholder => trivial

/-- **An interpolation reads only what its macros use**: two requests whose ranges can be rounded give the same text, or
the same error, if they agree on the filters when the template calls for them, on the interval when a macro about it is
called, on the range when one about it is called, and on the unit of rounding when it is called itself or rounds a range
that is used. Where no filters are called for, other ones make no difference to any request. -/
theorem interpolation_reads_only (dialect : Dialect) (request request' rounded rounded' : Request) (polls : Polls)
    (statements : List Statement) (hrounded : request.rounded = .ok rounded) (hrounded' : request'.rounded = .ok rounded')
    (hfilters : Calls statements .adHocFilter → request.filters = request'.filters)
    (hinterval : (∃ i, Calls statements (.interval i)) → request.interval = request'.interval)
    (hrange : (∃ f, Calls statements (.timeFilter f)) → request.range = request'.range)
    (hround : ((∃ f, Calls statements (.timeFilter f)) ∨ Calls statements .round) → request.round = request'.round) :
    interpolateStatements dialect request polls statements = interpolateStatements dialect request' polls statements ∧
      (¬ Calls statements .adHocFilter → ∀ (other : Request) (filters : List Filter),
        interpolateStatements dialect { other with filters } polls statements =
          interpolateStatements dialect other polls statements) := by
  constructor
  · have hexpand : expandStatements dialect rounded polls statements =
        expandStatements dialect rounded' polls statements := by
      refine expandStatements_congr (fun kind hkind => ?_) polls
      refine AgreeAt.rounded hrounded hrounded' ?_ fun ⟨f, hf⟩ => hround (.inl ⟨f, hf ▸ hkind⟩)
      cases kind with
      | timeFilter f => exact hrange ⟨f, hkind⟩
      | interval i => exact hinterval ⟨i, hkind⟩
      | adHocFilter => exact hfilters hkind
      | round => exact hround (.inr hkind)
      | ctePlaceholder => trivial
    rw [interpolateStatements_of_rounded hrounded, interpolateStatements_of_rounded hrounded', hexpand]
  · intro hnone other filters
    rcases hother : other.range.round other.round with e | range
    · -- the range cannot be rounded, whatever the filters
      simp only [interpolateStatements, expandRounded, Request.rounded, hother, Outcome.lift]
      rfl
    · have hexpand : expandStatements dialect { other with filters, range } polls statements =
          expandStatements dialect { other with range } polls statements := by
        refine expandStatements_congr (fun kind hkind => ?_) polls
        cases kind with
        | adHocFilter => exact absurd hkind hnone
        | ctePlaceholder => trivial
        | _ => rfl
      have hfilled : Request.rounded { other with filters } = .ok { other with filters, range } :=
        rounded_eq_ok.2 ⟨range, hother, rfl⟩
      have hplain : other.rounded = .ok { other with range } := rounded_eq_ok.2 ⟨range, hother, rfl⟩
      rw [interpolateStatements_of_rounded hfilled, interpolateStatements_of_rounded hplain, hexpand]

/-- A request that rounds to the minute, with a filter that has no key and cannot be written. -/
def unkeyedRequest : Request :=
  ⟨⟨.epoch, .epoch, Time.Instant.le_refl _⟩, [⟨"", .equal, "", none⟩], ⟨60000000000, by decide⟩, .zero⟩

/-- A request for the first minute that rounds to the minute, without filters. -/
def minuteRequest : Request :=
  ⟨⟨.epoch, ⟨60, 0, by decide, by decide, Time.Instant.epoch.nanos_lt, by decide⟩, by decide⟩, [],
    ⟨60000000000, by decide⟩, .zero⟩

/-- A number that is rounded reads neither the range nor the filters. -/
theorem round_reads_no_filters :
    ∃ statements, parseStatements .clickHouse "SELECT $__round($__interval_s)" = .ok statements ∧
      Calls statements .round ∧ unkeyedRequest.filters ≠ minuteRequest.filters ∧
      unkeyedRequest.range ≠ minuteRequest.range ∧
      interpolateStatements .clickHouse unkeyedRequest (fun _ => .ok ()) statements =
        interpolateStatements .clickHouse minuteRequest (fun _ => .ok ()) statements := by
  have hrun : (match parseStatements .clickHouse "SELECT $__round($__interval_s)" with
      | .ok statements => (sites statements).map Site.kind?
      | .error _ => []) = [some (.interval .seconds), some .round] := by decide +kernel
  split at hrun
  · rename_i statements hparse
    have hround : Calls statements .round := by rw [calls_iff, hrun]; simp
    have hfilters : ¬ Calls statements .adHocFilter := by rw [calls_iff, hrun]; simp
    have hrange : ∀ f, ¬ Calls statements (.timeFilter f) := fun f => by rw [calls_iff, hrun]; simp
    have hrounded : unkeyedRequest.rounded = .ok unkeyedRequest := by rfl
    have hrounded' : minuteRequest.rounded = .ok minuteRequest := by rfl
    have hsame := interpolation_reads_only .clickHouse unkeyedRequest minuteRequest _ _ (fun _ => .ok ()) statements
      hrounded hrounded' (fun h => absurd h hfilters) (fun _ => rfl) (fun ⟨f, h⟩ => absurd h (hrange f)) fun _ => rfl
    exact ⟨statements, hparse, hround, by decide, by decide, hsame.1⟩
  · cases hrun

end SqlTemplate
