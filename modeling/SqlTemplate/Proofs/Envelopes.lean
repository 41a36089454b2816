import SqlTemplate.Proofs.Decoding
import SqlTemplate.Proofs.Expansion

/-!
# Every answer is an envelope

Whatever path and body a request has, it is answered by one of two forms: data without a message, or a message without
data. An unknown path has a status of its own, and the text that an answer carries is read back from it.

* `Route.Names`: the paths of a route.
* `Worded`: work whose errors all have a wording.
* `IsEnvelope`: the two forms of an answer.
* `handle_envelope`: what the handler answers.
-/

namespace SqlTemplate

open Sql

/-! ## Paths -/

namespace Service.Route

/-- The path is that of the route, with or without the slash in front of it, and slashes behind it. -/
def Names (path : String) (route : Route) : Prop :=
  ∃ slashes, path.toList = route.path.toList ++ List.replicate slashes '/' ∨
    path.toList = route.path.toList.tail ++ List.replicate slashes '/'

/-- A path without the slashes at its end. -/
theorem trimSlashes_eq_iff {path : String} {cs : List Char} (hcs : cs.getLast? ≠ some '/') :
    trimSlashes path = cs ↔ ∃ slashes, path.toList = cs ++ List.replicate slashes '/' := by
  unfold trimSlashes
  constructor
  · rintro rfl
    have hall : ∀ c ∈ path.toList.reverse.takeWhile (· == '/'), c = '/' := fun c hc => by
      simpa using List.all_eq_true.1 List.all_takeWhile c hc
    refine ⟨(path.toList.reverse.takeWhile (· == '/')).length, ?_⟩
    calc path.toList
        = (path.toList.reverse.takeWhile (· == '/') ++ path.toList.reverse.dropWhile (· == '/')).reverse := by
          rw [List.takeWhile_append_dropWhile, List.reverse_reverse]
      _ = _ := by rw [List.reverse_append, List.eq_replicate_of_mem hall, List.reverse_replicate, List.length_replicate]
  · rintro ⟨slashes, hpath⟩
    have hdrop : cs.reverse.dropWhile (· == '/') = cs.reverse := by
      rw [List.getLast?_eq_head?_reverse] at hcs
      cases hrev : cs.reverse with
      | nil => rfl
      | cons c rest =>
        rw [hrev] at hcs
        exact List.dropWhile_cons_of_neg (by simpa using hcs)
    rw [hpath, List.reverse_append, List.reverse_replicate,
      List.dropWhile_append_of_pos fun c hc => by simp [List.eq_of_mem_replicate hc], hdrop, List.reverse_reverse]

theorem names_iff {path : String} {route : Route} :
    Names path route ↔ trimSlashes path = route.path.toList ∨ trimSlashes path = route.path.toList.tail := by
  have hends : route.path.toList.getLast? ≠ some '/' ∧ route.path.toList.tail.getLast? ≠ some '/' := by
    cases route <;> decide
  rw [trimSlashes_eq_iff hends.1, trimSlashes_eq_iff hends.2, ← exists_or, Names]

/-- No path names two routes. -/
theorem Names.unique {path : String} {r r' : Route} (h : Names path r) (h' : Names path r') : r = r' := by
  rw [names_iff] at h h'
  generalize trimSlashes path = given at h h'
  have hpaths : ∀ r r' : Route, ∀ cs ∈ [r.path.toList, r.path.toList.tail],
      cs ∈ [r'.path.toList, r'.path.toList.tail] → r = r' := by
    intro r r'
    cases r <;> cases r' <;> decide
  exact hpaths r r' given (by simpa using h) (by simpa using h')

/-- The route of a path is the one that it names. -/
theorem ofPath?_eq_some_iff {path : String} {route : Route} : ofPath? path = some route ↔ Names path route := by
  have hsome : ∀ {r}, ofPath? path = some r → Names path r := by
    intro r h
    have hfound := List.find?_some h
    rw [names_iff]
    simpa using hfound
  refine ⟨hsome, fun h => ?_⟩
  have hmem : route ∈ all := by cases route <;> decide
  have hfound : (ofPath? path).isSome = true := by
    refine List.find?_isSome.2 ⟨route, hmem, ?_⟩
    simpa using names_iff.1 h
  obtain ⟨r, hr⟩ := Option.isSome_iff_exists.1 hfound
  rw [hr, (hsome hr).unique h]

end Service.Route

/-! ## Wordings -/

theorem append_ne_empty {s : String} (h : s ≠ "") (t : String) : s ++ t ≠ "" := by simp [h]

/-- Whatever error the work comes to, there is something to say about it. -/
def Worded {ε α : Type} (wording : ε → String) (x : Except (Failure ε) α) : Prop :=
  ∀ e, x = .error (.error e) → wording e ≠ ""

section

variable {ε ε' α β : Type} {wording : ε → String} {wording' : ε' → String} {x : Except (Failure ε) α}

theorem worded_ok (a : α) : Worded wording (.ok a) := fun _ h => nomatch h

theorem worded_fatal (report : String) : Worded wording (.error (.fatal report) : Except (Failure ε) α) :=
  fun _ h => nomatch h

theorem worded_error {e : ε} (h : wording e ≠ "") : Worded wording (.error (.error e) : Except (Failure ε) α) := by
  rintro _ ⟨⟩
  exact h

theorem Worded.bind {f : α → Except (Failure ε) β} (hx : Worded wording x)
    (hf : ∀ a, x = .ok a → Worded wording (f a)) : Worded wording (x >>= f) := by
  cases hcase : x with
  | ok a => exact hf a hcase
  | error e => exact fun e' h => hx e' (by rw [hcase]; simpa [Bind.bind, Except.bind] using h)

/-- An error that becomes one of another kind. -/
theorem Worded.map {f : Failure ε} (h : Worded wording (.error f : Except _ α)) {g : ε → ε'}
    (hg : ∀ e, wording e ≠ "" → wording' (g e) ≠ "") : Worded wording' (.error (f.map g) : Except _ β) := by
  cases f with
  | error e => exact worded_error (hg e (h e rfl))
  | fatal report => exact worded_fatal report

end

namespace Sql

/-- An error with a place says something. -/
theorem ParseError.display_ne_empty {e : ParseError} (h : e.location.isSome) : e.display ≠ "" := by
  obtain ⟨at_, hat⟩ := Option.isSome_iff_exists.1 h
  simp [ParseError.display, hat]

/-- Some tokens that are not read as statements get a place at their end, if nowhere else. -/
theorem Fault.failure_worded {α : Type} {tokens : List Lexeme} (h : tokens ≠ []) (fault : Fault) :
    Worded ParseError.display (.error (fault.failure tokens) : Except _ α) := by
  have hend : (endLocation tokens).isSome := by simp [endLocation, List.getLast?_isSome, h]
  cases fault with
  | fatal text => exact worded_fatal text
  | _ => exact worded_error (ParseError.display_ne_empty (by simp [hend]))

/-- What is not read as statements has an error with a place. -/
theorem parseStatements_worded (dialect : Dialect) (text : String) :
    Worded ParseError.display (parseStatements dialect text) := by
  refine Worded.bind ?_ fun tokens _ => ?_
  · unfold tokensOf
    split
    · exact worded_ok _
    · exact worded_error (ParseError.display_ne_empty rfl)
  · split
    next => exact worded_ok _
    next fault h =>
      refine Fault.failure_worded ?_ fault
      rintro rfl
      cases h

end Sql

/-- Only the error of a text that is not read has no wording of its own. -/
theorem Error.message_ne_empty {e : Error} (h : ∀ p, e ≠ .parse p) : e.message ≠ "" := by
  cases e with
  | parse p => exact absurd rfl (h p)
  | badCall | badExpansion | badPlaceholder =>
    exact append_ne_empty (append_ne_empty (append_ne_empty (by decide) _) _) _
  | range e =>
    cases e with
    | inverted start stop =>
      exact append_ne_empty (append_ne_empty (append_ne_empty (append_ne_empty (by decide) _) _) _) _
    | outOfRange bound => exact append_ne_empty (append_ne_empty (by decide) _) _
  | cancelled reason => cases reason <;> decide

theorem ofParse_worded {α : Type} {x : Except (Failure ParseError) α} (h : Worded ParseError.display x) :
    Worded Error.message (Outcome.ofParse x) := by
  cases x with
  | ok a => exact worded_ok a
  | error f => exact h.map fun _ => id

theorem lift_worded {ε α : Type} {f : ε → Error} (h : ∀ e, (f e).message ≠ "") (x : Except ε α) :
    Worded Error.message (Outcome.lift f x) := by
  cases x with
  | ok a => exact worded_ok a
  | error e => exact worded_error (h e)

theorem Error.ofShape_message_ne_empty (e : Macro.ShapeError) : (Error.ofShape e).message ≠ "" := by
  unfold Error.ofShape
  cases e.target <;> exact Error.message_ne_empty (by simp)

section

variable (dialect : Dialect) (request : Request)

theorem expand_worded (i : Macro.Invocation) : Worded Error.message (expand dialect request i) := by
  have hfail : ∀ message, (Error.badExpansion i.name message i.location).message ≠ "" :=
    fun _ => Error.message_ne_empty (by simp)
  unfold expand
  split
  · exact worded_error (hfail _)
  · exact worded_ok _
  · split
    · exact worded_ok _
    · exact worded_fatal _
    · exact worded_error (hfail _)

/-- What a walk through a template comes to, and what is said if it fails. -/
def expandingWorded : Macro.Trail (expander dialect request) (expansionOf dialect request) where
  holds x a es := Expands dialect request x a es ∧ Worded Error.message x
  pure a := ⟨(expanding dialect request).pure a, worded_ok a⟩
  bind hx hf := by
    refine ⟨(expanding dialect request).bind hx.1 hf.1, hx.2.bind fun a ha => ?_⟩
    rw [hx.1.1 a ha]
    exact hf.2
  ctes cs := by
    refine ⟨(expanding dialect request).ctes cs, ?_⟩
    rw [expander_ctes]
    exact worded_ok ()
  expr e h := by
    refine ⟨(expanding dialect request).expr e h.1, ?_⟩
    rw [Macro.walkExpr_eq]
    refine h.2.bind fun e' _ => ?_
    unfold Macro.Visitor.expr
    split
    · exact worded_ok _
    · exact expand_worded dialect request _
    · refine Worded.bind ?_ fun _ _ => worded_ok _
      simp only [expander]
      split
      · exact worded_error (Error.ofShape_message_ne_empty _)
      · exact worded_ok _

theorem Polls.ask_worded (polls : Polls) : Worded Error.message polls.ask :=
  lift_worded (fun _ => Error.message_ne_empty (by simp)) _

theorem expandStatements_worded (polls : Polls) (statements : List Statement) :
    Worded Error.message (expandStatements dialect request polls statements) := by
  induction statements generalizing polls with
  | nil => exact polls.ask_worded.bind fun _ _ => worded_ok _
  | cons s ss ih =>
    have hwalk := ((expandingWorded dialect request).walkStatement_trail s).2
    exact polls.ask_worded.bind fun _ _ => hwalk.bind fun _ _ => (ih polls.rest).bind fun _ _ => worded_ok _

theorem interpolate_worded (polls : Polls) (template : String) :
    Worded Error.message (interpolate dialect request polls template) := by
  have hrounded : Worded Error.message request.rounded :=
    (lift_worded (fun _ => Error.message_ne_empty (by simp)) _).bind fun _ _ => worded_ok _
  refine polls.ask_worded.bind fun _ _ => (ofParse_worded (parseStatements_worded dialect template)).bind fun _ _ => ?_
  refine Worded.bind ?_ fun _ _ => worded_ok _
  exact hrounded.bind fun rounded _ => expandStatements_worded dialect rounded polls.rest _

end

namespace Json.Decoder

/-- An error of the decoder has a place. -/
def Places {α : Type} (d : Decoder α) : Prop := ∀ c e c', d c = .error e c' → e.place.isSome

variable {α β : Type} {d : Decoder α}

theorem Places.bind {f : α → Decoder β} (hd : Places d) (hf : ∀ a, Places (f a)) : Places (d >>= f) := by
  intro c e c' h
  change EStateM.bind d f c = _ at h
  unfold EStateM.bind at h
  split at h
  · exact hf _ _ _ _ h
  · rename_i hcase
    cases h
    exact hd _ _ _ hcase

theorem places_pure (a : α) : Places (pure a) := fun _ _ _ h => nomatch h

theorem places_get : Places (get : Decoder Cursor) := fun _ _ _ h => nomatch h

theorem places_throw (message : String) (place : Nat × Nat) : Places (throw ⟨message, some place⟩ : Decoder α) := by
  rintro _ _ _ ⟨⟩
  rfl

theorem places_peek : Places peek := places_get.bind fun _ => places_pure _

theorem places_take : Places take := by
  refine places_get.bind fun c => ?_
  split
  · exact places_pure none
  · exact Places.bind (fun _ _ _ h => nomatch h) fun _ => places_pure _

theorem places_failNext (message : String) : Places (failNext message : Decoder α) := by
  refine places_get.bind fun c => ?_
  split
  · exact places_get.bind fun c => places_throw message _
  · exact places_throw message _
  · exact places_throw message _

theorem places_skipBlanks (fuel : Nat) : Places (skipBlanks fuel) := by
  induction fuel with
  | zero => exact places_pure ()
  | succ fuel ih =>
    refine places_peek.bind fun s => ?_
    split
    · split
      · exact places_take.bind fun _ => ih
      · exact places_pure ()
    · exact places_pure ()

theorem places_nextToken : Places nextToken := by
  refine (places_get.bind fun _ => places_pure _).bind fun fuel => (places_skipBlanks fuel).bind fun _ => ?_
  refine places_peek.bind fun s => ?_
  split <;> exact places_pure _

theorem places_placed (d : Decoder α) : Places (placed d) := by
  intro c e c' h
  unfold placed at h
  split at h <;> cases h
  · rfl
  · rename_i hcase hplaced
    obtain ⟨message, place⟩ := e
    cases place with
    | none => exact (hcase message rfl).elim
    | some place => rfl

/-- A text that is not decoded as a whole has an error with a place. -/
theorem place_of_run {symbols : List Text.Symbol} {e : DecodeError} (hd : Places d) (h : run d symbols = .error e) :
    e.place.isSome := by
  simp only [run] at h
  split at h <;> cases h
  rename_i hcase
  refine Places.bind hd (fun a => places_nextToken.bind fun next => ?_) _ _ _ hcase
  cases next with
  | some c => exact places_failNext _
  | none => exact places_pure a

end Json.Decoder

namespace Service

open Json Json.Decoder

theorem routeError_worded {ε α : Type} {f : ε → RouteError} {x : Except ε α}
    (h : ∀ e, x = .error e → (f e).message ≠ "") : Worded RouteError.message (routeError f x) := by
  cases hx : x with
  | ok a => exact worded_ok a
  | error e => exact worded_error (h e hx)

theorem routeOutcome_worded {α : Type} {x : Outcome α} (h : Worded Error.message x) :
    Worded RouteError.message (routeOutcome x) := by
  cases x with
  | ok a => exact worded_ok a
  | error f => exact h.map fun _ => id

theorem decode_worded {α : Type} (d : Decoder α) (body : List Text.Symbol) :
    Worded RouteError.message (decode d body) := by
  refine routeError_worded fun e he => ?_
  obtain ⟨place, hplace⟩ := Option.isSome_iff_exists.1 (place_of_run (places_placed _) he)
  have hmessage : e.message ++ " at line " ≠ "" := by simp
  rw [RouteError.message, DecodeError.display, hplace]
  exact append_ne_empty (append_ne_empty (append_ne_empty hmessage _) _) _

theorem duration_worded {α : Type} (x : Except Time.Duration.Error α) :
    Worded RouteError.message (routeError .duration x) := by
  refine routeError_worded fun e _ => ?_
  cases e with
  | unknownUnit unit input =>
    exact append_ne_empty (append_ne_empty (append_ne_empty (append_ne_empty (by decide) _) _) _) _
  | _ => exact append_ne_empty (append_ne_empty (by decide) _) _

variable (settings : Settings) (polls : Polls) (path : String) (body : List Text.Symbol)

theorem parsed_worded (text : String) :
    Worded RouteError.message (routeOutcome (Outcome.ofParse (parseStatements settings.dialect text))) :=
  routeOutcome_worded (ofParse_worded (parseStatements_worded _ text))

theorem interpolated_worded : Worded RouteError.message (interpolated settings polls body) := by
  refine (decode_worded template body).bind fun t _ => (duration_worded _).bind fun round _ => ?_
  exact (duration_worded _).bind fun interval _ => routeOutcome_worded (interpolate_worded _ _ polls t.sql)

theorem placeholders_worded : Worded RouteError.message (placeholders settings body) := by
  refine (decode_worded query body).bind fun text _ => ?_
  split
  · exact worded_ok []
  · refine (parsed_worded settings text).bind fun statements _ => Worded.bind ?_ fun _ _ => worded_ok _
    exact routeOutcome_worded (lift_worded Error.ofShape_message_ne_empty _)

/-- Whatever error a route comes to, there is something to say about it. -/
theorem routeData_worded (route : Route) : Worded RouteError.message (routeData settings polls body route) := by
  cases route with
  | ast =>
    have hast : Worded RouteError.message (ast settings body) :=
      (decode_worded query body).bind fun text _ => parsed_worded settings text
    exact hast.bind fun _ _ => worded_ok _
  | interpolate => exact (interpolated_worded settings polls body).bind fun _ _ => worded_ok _
  | placeholders => exact (placeholders_worded settings body).bind fun _ _ => worded_ok _

theorem fatalMessage_ne_empty (route : Route) (report : String) : fatalMessage route report ≠ "" := by
  have hquoted : quoted report ≠ "" := by
    intro h
    have hlist := congrArg String.toList h
    rw [toList_quoted] at hlist
    cases hlist
  cases route with
  | interpolate => exact hquoted
  | _ => exact (by decide : unknownError ≠ "")

/-! ## Forms -/

/-- A value is the answer of a request that went well, or of one that failed. -/
inductive IsEnvelope : Value → Prop
  | success {data : Value} (h : data ≠ .null) :
      IsEnvelope (.object [("data", data), ("error", .bool false), ("errorMessage", .string "")])
  | failure {message : String} (h : message ≠ "") :
      IsEnvelope (.object [("data", .null), ("error", .bool true), ("errorMessage", .string message)])

/-- The members of an answer stand in the order of their keys. -/
theorem Envelope.value_eq (e : Envelope Value) :
    e.value = .object [("data", e.data.getD .null), ("error", .bool e.error),
      ("errorMessage", .string e.errorMessage)] :=
  rfl

/-- A route has data to give if it comes to something. -/
theorem data_ne_null {route : Route} {data : Value} (h : routeData settings polls body route = .ok data) :
    data ≠ .null := by
  have hmade : ∀ {α : Type} {x : RouteOutcome α} {f : α → Value},
      (do return f (← x)) = (.ok data : RouteOutcome Value) → (∀ a, f a ≠ .null) → data ≠ .null := by
    rintro α (e | a) f ⟨⟩ hf
    exact hf a
  cases route with
  | ast => exact hmade h fun _ => nofun
  | interpolate => exact hmade h fun _ => nofun
  | placeholders => exact hmade h fun _ => nofun

/-! ## Reading answers -/

/-- An answer is read back, given how its data are read. -/
theorem takes_envelope {α : Type} {d : Decoder α} {data : Value} {a : Option α} (error : Bool) (message : String)
    (hdata : ∀ rest, Takes (optional d) data.compact.toList rest a) (rest : List Text.Symbol) :
    Takes (Envelope.decoder d)
      (Value.object [("data", data), ("error", .bool error), ("errorMessage", .string message)]).compact.toList rest
      ⟨error, message, a⟩ :=
  takes_record "Response" (.part rfl rfl hdata (.part rfl rfl (fun _ => takes_bool error)
    (.part rfl rfl (fun _ => takes_string "a string" message) (.nil _)))) rfl

theorem text_of_success (text : String) :
    (Reply.ok (Envelope.success (.string text)).value).text = .ok (some text) := by
  have htakes := takes_envelope false "" (fun _ => takes_optional_string "a string" text) []
  rw [Reply.text, Reply.ok, Envelope.value_eq]
  simp only [Envelope.success, Option.getD_some, runValue_of_takes htakes]
  rfl

theorem text_of_failed (message : String) : (Reply.failed message).text = .error message := by
  have htakes := takes_envelope true message (fun _ => takes_null (string "a string")) []
  rw [Reply.text, Reply.failed, Reply.ok, Envelope.value_eq]
  simp only [Envelope.failure, Option.getD_none, runValue_of_takes htakes]
  rfl

/-- What comes of a route is what is answered at its paths. -/
theorem handle_of_route {path : String} {route : Route} (h : Route.ofPath? path = some route) :
    (∀ data, routeData settings polls body route = .ok data →
      handle settings polls path body = .ok (Envelope.success data).value) ∧
    (∀ e, routeData settings polls body route = .error (.error e) →
      handle settings polls path body = .failed e.message) ∧
    ∀ report, routeData settings polls body route = .error (.fatal report) →
      handle settings polls path body = .failed (fatalMessage route report) := by
  refine ⟨fun data hdata => ?_, fun e he => ?_, fun report hreport => ?_⟩
  · simp only [handle, h, hdata]
  · simp only [handle, h, he]
  · simp only [handle, h, hreport]

/-- **Every answer is an envelope.** A path that is no route gets a status of its own. The body holds data and no
message, or a message that is not empty and no data, and the text that is read from the answer to a template is what
came of the template: its text with the macros expanded, or the wording of its error. -/
theorem handle_envelope :
    ((handle settings polls path body).status = 404 ↔ ∀ route, ¬ Route.Names path route) ∧
      ((handle settings polls path body).status = 200 ↔ ∃ route, Route.Names path route) ∧
      IsEnvelope (handle settings polls path body).body ∧
      (Route.Names path .interpolate →
        (∀ text, interpolated settings polls body = .ok text →
          (handle settings polls path body).text = .ok (some text)) ∧
        (∀ e, interpolated settings polls body = .error (.error e) →
          (handle settings polls path body).text = .error e.message) ∧
        ∀ report, interpolated settings polls body = .error (.fatal report) →
          (handle settings polls path body).text = .error (quoted report)) := by
  cases hroute : Route.ofPath? path with
  | none =>
    have hnames : ∀ route, ¬ Route.Names path route := fun route h => by
      rw [← Route.ofPath?_eq_some_iff, hroute] at h
      cases h
    have hhandle : handle settings polls path body = .notFound path := by rw [handle, hroute]
    rw [hhandle]
    have hstatus : ¬ (Reply.notFound path).status = 200 := by simp [Reply.notFound]
    refine ⟨iff_of_true rfl hnames, iff_of_false hstatus (not_exists.2 hnames), ?_, fun h => absurd h (hnames _)⟩
    exact .failure (append_ne_empty (by decide) path)
  | some route =>
    have hnames := Route.ofPath?_eq_some_iff.1 hroute
    obtain ⟨hok, herror, hfatal⟩ := handle_of_route settings polls body hroute
    have hanswer : (handle settings polls path body).status = 200 ∧
        IsEnvelope (handle settings polls path body).body := by
      cases hdata : routeData settings polls body route with
      | ok data =>
        rw [hok data hdata]
        exact ⟨rfl, .success (data_ne_null settings polls body hdata)⟩
      | error f =>
        cases f with
        | error e =>
          rw [herror e hdata]
          exact ⟨rfl, .failure (routeData_worded settings polls body route e hdata)⟩
        | fatal report =>
          rw [hfatal report hdata]
          exact ⟨rfl, .failure (fatalMessage_ne_empty route report)⟩
    have hknown : ¬ (handle settings polls path body).status = 404 := by simp [hanswer.1]
    refine ⟨iff_of_false hknown fun h => h route hnames, iff_of_true hanswer.1 ⟨route, hnames⟩, hanswer.2, ?_⟩
    intro hinterpolate
    obtain rfl := hnames.unique hinterpolate
    refine ⟨fun text h => ?_, fun e h => ?_, fun report h => ?_⟩
    · rw [hok (.string text) (by rw [routeData, h]; rfl)]
      exact text_of_success text
    · rw [herror e (by rw [routeData, h]; rfl)]
      exact text_of_failed e.message
    · rw [hfatal report (by rw [routeData, h]; rfl)]
      exact text_of_failed (quoted report)

/-- A template with a macro, a body that is no request, and a path that is no route. -/
theorem interval_answered :
    let body := Value.object [("data", .object [("rawSql", .string "SELECT $__interval_s"), ("interval", .string "90s"),
      ("range", .object [("from", .string "2023-01-01T00:00:00Z"), ("to", .string "2023-01-02T00:00:00Z")])])]
    (handle .default Context.live.polls "/interpolate//" (Text.Symbol.ofText body.compact)).text =
        .ok (some "SELECT 90") ∧
      (handle .default Context.live.polls "interpolate" []).text =
        .error "EOF while parsing a value at line 1 column 0" ∧
      (handle .default Context.live.polls "//interpolate" []).status = 404 := by
  intro body
  refine ⟨?_, ?_, ?_⟩
  · obtain ⟨-, -, -, htext⟩ :=
      handle_envelope .default Context.live.polls "/interpolate//" (Text.Symbol.ofText body.compact)
    refine (htext ⟨2, .inl (by decide)⟩).1 "SELECT 90" ?_
    exact Outcome.ok_of_toOption (by decide +kernel)
  · obtain ⟨-, -, -, htext⟩ := handle_envelope .default Context.live.polls "interpolate" []
    exact (htext ⟨0, .inr (by decide)⟩).2.1 (.decode ⟨"EOF while parsing a value", some (1, 0)⟩) rfl
  · obtain ⟨hunknown, -⟩ := handle_envelope .default Context.live.polls "//interpolate" []
    refine hunknown.2 fun route hnames => ?_
    rw [Route.names_iff] at hnames
    revert hnames
    cases route <;> decide +kernel

end Service

end SqlTemplate
