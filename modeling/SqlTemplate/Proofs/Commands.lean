import SqlTemplate.Proofs.Decoding

/-!
# Queries on the command line

A command about a query writes the text of its file into the body of a request and prints the answer. The bytes of the
body are read back as that text, whatever characters it has, so that the answer is the one about the text of the file.

* `ofBytes_toUTF8`: a text is read back from its bytes.
* `treeReply`, `placeholdersReply`: the answers about a query, which the routes give to every body that holds it.
* `query_passed_unchanged`: what the commands print.
-/

namespace SqlTemplate

/-! ## Texts as bytes -/

namespace Text.Symbol

/-- A byte that goes on a character holds six bits of its number. -/
theorem continuation?_ofNat (n : Nat) : continuation? (UInt8.ofNat (n % 64 + 0x80)) = some (n % 64) := by
  have hvalue : (UInt8.ofNat (n % 64 + 0x80)).toNat = n % 64 + 0x80 := UInt8.toNat_ofNat_of_lt' (show _ < 256 by omega)
  have hrange : 0x80 ≤ UInt8.ofNat (n % 64 + 0x80) ∧ UInt8.ofNat (n % 64 + 0x80) < 0xC0 := by
    simp only [UInt8.le_iff_toNat_le, UInt8.lt_iff_toNat_lt, UInt8.reduceToNat, hvalue]
    omega
  rw [continuation?, if_pos hrange, hvalue, Nat.add_sub_cancel]

theorem bind_continuation {α : Type} (n : Nat) (f : Nat → Option α) :
    ((some (UInt8.ofNat (n % 64 + 0x80))).bind continuation? >>= f) = f (n % 64) := by
  rw [Option.bind_some, continuation?_ofNat]
  rfl

/-- A character is the one with its number. -/
theorem charOf?_toNat (c : Char) : charOf? c.utf8Size c.toNat = some c := by
  have hvalid : c.toNat.isValidChar := c.valid
  rw [charOf?, dif_pos hvalid]
  exact if_pos rfl

/-- How many bytes a character takes by its number. -/
theorem utf8Size_eq (c : Char) : c.utf8Size =
    if c.toNat ≤ 0x7f then 1 else if c.toNat ≤ 0x7ff then 2 else if c.toNat ≤ 0xffff then 3 else 4 := by
  rw [Char.utf8Size]
  simp only [UInt32.le_iff_toNat_le]
  rfl

section

variable {c : Char} {n : Nat} {rest : List UInt8}

theorem multibyte?_two {a : Nat} (hlow : 2 ≤ n) (hn : n < 0x20) (hc : charOf? 2 (n * 64 + a % 64) = some c) :
    multibyte? (UInt8.ofNat (n + 0xc0)) (UInt8.ofNat (a % 64 + 0x80) :: rest) = some (c, 1) := by
  have hlead : (UInt8.ofNat (n + 0xc0)).toNat = n + 0xc0 := UInt8.toNat_ofNat_of_lt' (show _ < 256 by omega)
  simp only [multibyte?, UInt8.le_iff_toNat_le, UInt8.lt_iff_toNat_lt, UInt8.reduceToNat, hlead]
  rw [if_pos (by omega), Nat.add_sub_cancel, List.getElem?_cons_zero, bind_continuation, hc]
  rfl

theorem multibyte?_three {a b : Nat} (hn : n < 0x10) (hc : charOf? 3 (n * 4096 + a % 64 * 64 + b % 64) = some c) :
    multibyte? (UInt8.ofNat (n + 0xe0)) (UInt8.ofNat (a % 64 + 0x80) :: UInt8.ofNat (b % 64 + 0x80) :: rest) =
      some (c, 2) := by
  have hlead : (UInt8.ofNat (n + 0xe0)).toNat = n + 0xe0 := UInt8.toNat_ofNat_of_lt' (show _ < 256 by omega)
  simp only [multibyte?, UInt8.le_iff_toNat_le, UInt8.lt_iff_toNat_lt, UInt8.reduceToNat, hlead]
  rw [if_neg (by omega), if_pos (by omega), Nat.add_sub_cancel]
  simp only [List.getElem?_cons_zero, List.getElem?_cons_succ]
  rw [bind_continuation, bind_continuation, hc]
  rfl

theorem multibyte?_four {a b d : Nat} (hn : n < 5)
    (hc : charOf? 4 (n * 262144 + a % 64 * 4096 + b % 64 * 64 + d % 64) = some c) :
    multibyte? (UInt8.ofNat (n + 0xf0)) (UInt8.ofNat (a % 64 + 0x80) :: UInt8.ofNat (b % 64 + 0x80) ::
      UInt8.ofNat (d % 64 + 0x80) :: rest) = some (c, 3) := by
  have hlead : (UInt8.ofNat (n + 0xf0)).toNat = n + 0xf0 := UInt8.toNat_ofNat_of_lt' (show _ < 256 by omega)
  simp only [multibyte?, UInt8.le_iff_toNat_le, UInt8.lt_iff_toNat_lt, UInt8.reduceToNat, hlead]
  rw [if_neg (by omega), if_neg (by omega), if_pos (by omega), Nat.add_sub_cancel]
  simp only [List.getElem?_cons_zero, List.getElem?_cons_succ]
  rw [bind_continuation, bind_continuation, bind_continuation, hc]
  rfl

/-- A character whose first byte is not its only one. -/
theorem ofBytesFrom_multibyte {n : Nat} (tail : List UInt8) (hn : 0x80 ≤ n) (hsmall : n < 256)
    (hread : multibyte? (UInt8.ofNat n) (tail ++ rest) = some (c, tail.length)) :
    ofBytesFrom 0 (UInt8.ofNat n :: (tail ++ rest)) = .char c :: ofBytesFrom 0 rest := by
  have hskip : ∀ tail : List UInt8, ofBytesFrom tail.length (tail ++ rest) = ofBytesFrom 0 rest := by
    intro tail
    induction tail with
    | nil => rfl
    | cons b bs ih => exact ih
  have hlead : ¬ UInt8.ofNat n < 0x80 := by
    simp only [UInt8.lt_iff_toNat_lt, UInt8.reduceToNat, UInt8.toNat_ofNat_of_lt' hsmall]
    omega
  rw [ofBytesFrom, if_neg hlead, hread]
  simp only [hskip]

theorem char_toNat_lt (c : Char) : c.toNat < 0x110000 := by
  have hvalid : c.toNat.isValidChar := c.valid
  rw [Nat.isValidChar] at hvalid
  omega

/-- The bytes of a character are read as that character. -/
theorem ofBytesFrom_utf8EncodeChar (c : Char) (rest : List UInt8) :
    ofBytesFrom 0 (String.utf8EncodeChar c ++ rest) = .char c :: ofBytesFrom 0 rest := by
  have hchar := charOf?_toNat c
  have hbound := char_toNat_lt c
  have hval : c.val.toNat = c.toNat := rfl
  rw [utf8Size_eq] at hchar
  simp only [String.utf8EncodeChar, hval]
  split at hchar
  next hone =>
    rw [if_pos hone]
    have hbyte : (UInt8.ofNat c.toNat).toNat = c.toNat := UInt8.toNat_ofNat_of_lt' (show _ < 256 by omega)
    have hlow : UInt8.ofNat c.toNat < 0x80 := by
      simp only [UInt8.lt_iff_toNat_lt, UInt8.reduceToNat, hbyte]
      omega
    rw [List.singleton_append, ofBytesFrom, if_pos hlow, hbyte, Char.ofNat_toNat]
  next hone =>
  rw [if_neg hone]
  split at hchar
  next htwo =>
    rw [if_pos htwo]
    have hlead : c.toNat / 64 % 32 * 64 + c.toNat % 64 = c.toNat := by omega
    exact ofBytesFrom_multibyte [_] (by omega) (by omega)
      (multibyte?_two (by omega) (by omega) (by rw [hlead, hchar]))
  next htwo =>
  rw [if_neg htwo]
  split at hchar
  next hthree =>
    rw [if_pos hthree]
    have hlead : c.toNat / 4096 % 16 * 4096 + c.toNat / 64 % 64 * 64 + c.toNat % 64 = c.toNat := by omega
    exact ofBytesFrom_multibyte [_, _] (by omega) (by omega)
      (multibyte?_three (by omega) (by rw [hlead, hchar]))
  next hthree =>
    rw [if_neg hthree]
    have hlead : c.toNat / 262144 % 8 * 262144 + c.toNat / 4096 % 64 * 4096 + c.toNat / 64 % 64 * 64 + c.toNat % 64 =
        c.toNat := by omega
    exact ofBytesFrom_multibyte [_, _, _] (by omega) (by omega)
      (multibyte?_four (by omega) (by rw [hlead, hchar]))

end

/-- A text is read back from its bytes. -/
theorem ofBytes_toUTF8 (text : String) : ofBytes text.toUTF8.data.toList = ofText text := by
  have hchars : ∀ cs : List Char, ofBytesFrom 0 (cs.flatMap String.utf8EncodeChar) = cs.map .char := by
    intro cs
    induction cs with
    | nil => rfl
    | cons c cs ih => rw [List.flatMap_cons, ofBytesFrom_utf8EncodeChar, ih, List.map_cons]
  have hbytes : text.toUTF8.data.toList = text.toList.flatMap String.utf8EncodeChar := by
    have h := String.toByteArray_ofList (l := text.toList)
    rw [String.ofList_toList] at h
    rw [String.toUTF8, h, List.utf8Encode, List.toList_data_toByteArray]
  rw [ofBytes, hbytes, hchars, ofText]

end Text.Symbol

/-! ## Answers about a query -/

namespace Service

open Json Sql

/-- The answer of a route, given what came of it. -/
def replyOf (route : Route) : RouteOutcome Value → Reply
  | .ok data => .ok (Envelope.success data).value
  | .error (.error e) => .failed e.message
  | .error (.fatal report) => .failed (fatalMessage route report)

/-- The statements of a query. -/
def queryStatements (settings : Settings) (text : String) : RouteOutcome (List Statement) :=
  routeOutcome (Outcome.ofParse (parseStatements settings.dialect text))

/-- The placeholders of a query; a description has none. -/
def queryPlaceholders (settings : Settings) (text : String) : RouteOutcome (List Macro.Declaration) := do
  if isDescription text then return []
  else
    let statements ← queryStatements settings text
    let extraction ← routeOutcome (extractPlaceholders (some text) statements)
    return extraction.declarations

/-- The answer about the tree of a query. -/
def treeReply (settings : Settings) (text : String) : Reply :=
  replyOf .ast do return .array ((← queryStatements settings text).map Tree.statementValue)

/-- The answer about the placeholders of a query. -/
def placeholdersReply (settings : Settings) (text : String) : Reply :=
  replyOf .placeholders do return .array ((← queryPlaceholders settings text).map declarationValue)

section

variable {settings : Settings} {polls : Polls} {body : List Text.Symbol} {text : String}

/-- The path of a route is answered with what comes of it. -/
theorem handle_path (route : Route) :
    handle settings polls route.path body = replyOf route (routeData settings polls body route) := by
  have hroute : Route.ofPath? route.path = some route := by cases route <;> decide
  rw [handle, hroute]
  rfl

theorem handle_ast (h : decode query body = .ok text) :
    handle settings polls Route.ast.path body = treeReply settings text := by
  have hstatements : ast settings body = queryStatements settings text := by
    rw [ast, h]
    exact pure_bind text (queryStatements settings)
  rw [handle_path, treeReply, routeData, hstatements]

theorem handle_placeholders (h : decode query body = .ok text) :
    handle settings polls Route.placeholders.path body = placeholdersReply settings text := by
  have hplaceholders : placeholders settings body = queryPlaceholders settings text := by
    rw [placeholders, h]
    exact pure_bind text (queryPlaceholders settings)
  rw [handle_path, placeholdersReply, routeData, hplaceholders]

end

end Service

/-! ## Commands -/

namespace Command

open Service

/-- What a command says about the dialect if it is to say more. -/
def dialectLine (verbose : Bool) (settings : Settings) : String :=
  if verbose then "Using dialect: " ++ settings.dialect.name ++ "\n" else ""

section

variable {m : Type → Type} [Monad m] (w : World m)

/-- What is printed of the answer about the text of an input. -/
def showText (reply : Settings → String → Reply) (settings : Settings) (stderr input : String) : m Result := do
  match ← readInput w stderr input with
  | .error output => return .done output
  | .ok text => return .done ⟨0, (reply settings text).body.pretty ++ "\n", stderr⟩

/-- A command that prints the answer about a query: the settings are read, then the text of the input, and the answer
about that text is printed. -/
def showReply (reply : Settings → String → Reply) (a : Arguments) (input : String) : m Result := do
  match ← loadSettings w a.settingsFile with
  | .error e => return .done (failed "" e.message none)
  | .ok settings => showText w reply settings (dialectLine a.verbose settings) input

variable {args : List String} {a : Arguments} {input : String} {reply : Settings → String → Reply}

/-- A command whose output is the answer about the text of its input shows that answer. -/
theorem run_showReply (hargs : Arguments.parse args = .ok a)
    (haction : a.action = .ast input ∨ ∃ pretty, a.action = .placeholders input pretty)
    (houtput : ∀ settings text, outputOf settings a.verbose a.action text = printed (reply settings text)) :
    run w args = showReply w reply a input := by
  have hrun (settings : Settings) (stderr : String) :
      runOn w settings a stderr input = showText w reply settings stderr input := by
    rw [runOn, showText]
    congr 1
    funext read
    cases read with
    | error output => rfl
    | ok text => simp only [houtput, printed, String.append_empty]
  rw [run, hargs, showReply]
  simp only
  congr 1
  funext loaded
  cases loaded with
  | error e => rfl
  | ok settings =>
    rcases haction with h | ⟨pretty, h⟩ <;> simp only [h, dialectLine, hrun]

theorem outputOf_treeReply (settings : Settings) (verbose : Bool) (input text : String) :
    outputOf settings verbose (.ast input) text = printed (treeReply settings text) := by
  rw [outputOf, ask, handle_ast (decode_queryBody text)]

theorem outputOf_placeholdersReply (settings : Settings) (verbose : Bool) (input text : String) :
    outputOf settings verbose (.placeholders input false) text = printed (placeholdersReply settings text) := by
  rw [outputOf, ask, handle_placeholders (decode_queryBody text)]
  rfl

end

end Command

open Service Command

/-- **Queries are passed on unchanged.** The bytes of the body that is written for a text are read as a query with that
text. A route answers each body that is read so with the answer about the text, and this is what the commands print
about the text that they read. -/
theorem query_passed_unchanged {m : Type → Type} [Monad m] (w : World m) {args : List String} {a : Arguments}
    (hargs : Arguments.parse args = .ok a) (input text : String) (settings : Settings) (polls : Polls) :
    decode query (Text.Symbol.ofBytes (queryBody text).toUTF8.data.toList) = .ok text ∧
      (∀ body, decode query body = .ok text →
        handle settings polls Route.ast.path body = treeReply settings text ∧
          handle settings polls Route.placeholders.path body = placeholdersReply settings text) ∧
      (a.action = .ast input → run w args = showReply w treeReply a input) ∧
      (a.action = .placeholders input false → run w args = showReply w placeholdersReply a input) := by
  refine ⟨?_, fun body h => ⟨handle_ast h, handle_placeholders h⟩, fun h => ?_, fun h => ?_⟩
  · rw [Text.Symbol.ofBytes_toUTF8, decode_queryBody]
  · exact run_showReply w hargs (.inl h) fun settings text => h ▸ outputOf_treeReply settings a.verbose input text
  · exact run_showReply w hargs (.inr ⟨false, h⟩) fun settings text =>
      h ▸ outputOf_placeholdersReply settings a.verbose input text

/-- A text with characters of every kind. -/
def oddText : String := "SELECT 'a\"b\\c\u0001é😀',\n1"

/-- Whatever is read has the same text, but there is no file of settings. -/
def oneText : World Id where
  file path := if path = defaultSettingsFile then .error .missing else .ok oddText
  standardInput := .ok oddText

theorem odd_text_passed_unchanged :
    Arguments.parse ["ast", "q.sql"] = .ok ⟨none, false, .ast "q.sql"⟩ ∧
      decode query (Text.Symbol.ofBytes (queryBody oddText).toUTF8.data.toList) = .ok oddText ∧
      run oneText ["ast", "q.sql"] = .done ⟨0, (treeReply .default oddText).body.pretty ++ "\n", ""⟩ := by
  have hargs : Arguments.parse ["ast", "q.sql"] = .ok ⟨none, false, .ast "q.sql"⟩ := rfl
  have htext : readInput oneText "" "q.sql" = .ok oddText := by
    unfold readInput
    split <;> rfl
  have hshown : showText oneText treeReply .default "" "q.sql" =
      .done ⟨0, (treeReply .default oddText).body.pretty ++ "\n", ""⟩ := by
    rw [showText, htext]
    rfl
  obtain ⟨hread, -, hast, -⟩ := query_passed_unchanged oneText hargs "q.sql" oddText .default fun _ => .ok ()
  exact ⟨hargs, hread, (hast rfl).trans hshown⟩

end SqlTemplate
