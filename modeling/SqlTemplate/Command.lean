import SqlTemplate.Directory
import SqlTemplate.Service.LineServer

/-!
# The command line

Four commands: expand a template, show the tree of a query, list its placeholders, and serve
requests. A command reads its settings first and its input then; what it reads from is given to it,
so that it can run on real files as well as on texts at hand.

* `Arguments.parse` reads the arguments.
* `Command.run` carries a command out.
-/

namespace SqlTemplate.Command

open Service

/-- What a command does. -/
inductive Action where
  | interpolate (input : String) (raw : Bool)
  | ast (input : String)
  | placeholders (input : String) (pretty : Bool)
  | serve
deriving DecidableEq, Repr, Inhabited

/-- The arguments of the program. -/
structure Arguments where
  settingsFile : Option String
  verbose : Bool
  action : Action
deriving DecidableEq, Repr, Inhabited

/-- The commands by name. -/
inductive Name where
  | interpolate
  | ast
  | ctes
  | serve
deriving DecidableEq, Repr, Inhabited

/-- The command of a name. -/
def Name.ofText? : String → Option Name
  | "interpolate" => some .interpolate
  | "ast" => some .ast
  | "ctes" => some .ctes
  | "serve" => some .serve
  | _ => none

/-- The options that may stand before the command, and once more behind it. -/
structure Shared where
  settingsFile : Option String
  verbose : Bool
deriving DecidableEq, Repr, Inhabited

/-- No options. -/
def Shared.none : Shared := ⟨.none, false⟩

/-- The options of both places; a file that is named behind the command counts. -/
def Shared.merge (before behind : Shared) : Shared :=
  ⟨behind.settingsFile.or before.settingsFile, before.verbose || behind.verbose⟩

/-- Arguments while they are read. -/
structure Draft where
  /-- The options before the command, once it has been read. -/
  before : Shared
  /-- The options of the place that is being read. -/
  shared : Shared
  command : Option Name
  input : Option String
  /-- Whether the one switch of the command was given. -/
  switch : Bool

/-- No arguments. -/
def Draft.empty : Draft := ⟨.none, .none, none, none, false⟩

/-- Why arguments are no command: they do not fit, or they ask for something about the program. -/
inductive Refusal where
  | usage
  | help
  | version
deriving DecidableEq, Repr, Inhabited

/-- What comes of some arguments. -/
abbrev Reading := Except Refusal

/-- A switch, once. -/
def Draft.setVerbose (d : Draft) : Reading Draft :=
  if d.shared.verbose then .error .usage
  else .ok { d with shared := { d.shared with verbose := true } }

/-- The switch of the command, once. -/
def Draft.setSwitch (d : Draft) (command : Name) : Reading Draft :=
  if d.command = some command ∧ !d.switch then .ok { d with switch := true } else .error .usage

/-- The file of the settings, once. -/
def Draft.setFile (d : Draft) (file : String) : Reading Draft :=
  if d.shared.settingsFile.isSome ∨ file.isEmpty then .error .usage
  else .ok { d with shared := { d.shared with settingsFile := some file } }

/-- The question for the version, which only the program itself answers. -/
def Draft.askVersion (d : Draft) : Refusal := if d.command.isNone then .version else .usage

/-- A word that is the input of the command. -/
def Draft.addInput (d : Draft) (word : String) : Reading Draft :=
  if d.command = none ∨ d.command = some .serve ∨ d.input.isSome ∨ word.isEmpty then .error .usage
  else .ok { d with input := some word }

/-- A word that is no option: the command, then its input. -/
def Draft.addWord (d : Draft) (word : String) : Reading Draft :=
  if d.command.isSome then d.addInput word
  else match Name.ofText? word with
    | some command => .ok { d with before := d.shared, shared := .none, command := some command }
    | none => .error (if word = "help" then .help else .usage)

/-- The letters of short options behind one dash, and whether a file has to follow. -/
def shortOptions (d : Draft) : List Char → Reading (Draft × Bool)
  | [] => .ok (d, false)
  | 'v' :: rest => do shortOptions (← d.setVerbose) rest
  | 'r' :: rest => do shortOptions (← d.setSwitch .interpolate) rest
  | 'p' :: rest => do shortOptions (← d.setSwitch .ctes) rest
  | 'h' :: _ => .error .help
  | 'V' :: _ => .error d.askVersion
  | ['c'] => .ok (d, true)
  | 'c' :: '=' :: file => do return (← d.setFile (String.ofList file), false)
  | 'c' :: file => do return (← d.setFile (String.ofList file), false)
  | _ => .error .usage

/-- An option with two dashes, and whether a file has to follow. -/
def longOption (d : Draft) (name : String) : Reading (Draft × Bool) :=
  match name with
  | "verbose" => do return (← d.setVerbose, false)
  | "raw" => do return (← d.setSwitch .interpolate, false)
  | "pretty" => do return (← d.setSwitch .ctes, false)
  | "help" => .error .help
  | "version" => .error d.askVersion
  | "config" => .ok (d, true)
  | _ =>
    match Sql.dropStart? "config=".toList name.toList with
    | some file => do return (← d.setFile (String.ofList file), false)
    | none => .error .usage

/-- Whether a word looks like an option. -/
def isOption (word : String) : Bool :=
  match word.toList with
  | '-' :: _ :: _ => true
  | _ => false

/-- Reads words; `wantsFile` says that the file of the settings comes next, which must not look
like an option. Behind two dashes every word is an input. -/
def readWords (d : Draft) : (wantsFile : Bool) → List String → Reading Draft
  | false, [] => .ok d
  | true, [] => .error .usage
  | true, word :: rest =>
    if isOption word then .error .usage else do readWords (← d.setFile word) false rest
  | false, word :: rest =>
    match word.toList with
    | ['-', '-'] => rest.foldlM Draft.addInput d
    | '-' :: '-' :: name => do
      let (d, wants) ← longOption d (String.ofList name)
      readWords d wants rest
    | '-' :: c :: cs => do
      let (d, wants) ← shortOptions d (c :: cs)
      readWords d wants rest
    | _ => do readWords (← d.addWord word) false rest

/-- The input that stands for the standard one. -/
def standardInput : String := "-"

/-- Whether an input is the standard one; what says "here" behind it changes nothing. -/
def isStandardInput (input : String) : Bool :=
  match input.splitOn "/" with
  | [] => false
  | name :: rest => name = standardInput && rest.all fun part => part = "" || part = "."

/-- Reads the arguments. -/
def Arguments.parse (args : List String) : Reading Arguments := do
  let d ← readWords .empty false args
  let input := d.input.getD standardInput
  let action ← match d.command with
    | none => .error .usage
    | some .interpolate => .ok (.interpolate input d.switch)
    | some .ast => .ok (.ast input)
    | some .ctes => .ok (.placeholders input d.switch)
    | some .serve => .ok .serve
  let shared := d.before.merge d.shared
  return { settingsFile := shared.settingsFile, verbose := shared.verbose, action }

/-- What a command reads from. -/
structure World (m : Type → Type) where
  file : String → m (Except ReadError String)
  standardInput : m (Except ReadError String)

/-- What a command leaves behind. -/
structure Output where
  exit : Nat
  stdout : String
  stderr : String
deriving DecidableEq, Repr, Inhabited

/-- A command is done, or has to go on as a server. -/
inductive Result where
  | done (output : Output)
  | serve (settings : Settings) (stderr : String)

/-- The file of the settings where none is named. -/
def defaultSettingsFile : String := "macrosql.toml"

/-- The report of a failure, with its cause if there is one. -/
def failureReport (message : String) (cause : Option String) : String :=
  "Error: " ++ message ++
    (match cause with
      | none => ""
      | some cause => "\n\nCaused by:\n    " ++ cause) ++ "\n"

/-- What a failure leaves behind. -/
def failed (stderr message : String) (cause : Option String) : Output :=
  ⟨1, "", stderr ++ failureReport message cause⟩

/-- An envelope on the standard output. -/
def printed (r : Reply) : Output := ⟨0, r.body.pretty ++ "\n", ""⟩

/-- The body of a request about a query. -/
def queryBody (sql : String) : String :=
  (Json.Value.ofMembers [("data", .ofMembers [("query", .string sql)])]).compact

/-- Answers a request on the routes. -/
def ask (settings : Settings) (route : Route) (body : String) : Reply :=
  handle settings Context.live.polls route.path (Text.Symbol.ofText body)

/-- Expands the template of a request. -/
def interpolateOutput (settings : Settings) (raw : Bool) (input : String) : Output :=
  let reply := ask settings .interpolate input
  if raw then
    match reply.text with
    | .ok sql => ⟨0, sql.getD "" ++ "\n", ""⟩
    | .error message => ⟨1, "", "error: " ++ message ++ "\n"⟩
  else printed reply

/-- The severity of a diagnostic in a report. -/
def severityText : Diagnostic.Severity → String
  | .info => "INFO"
  | .warn => "WARN"
  | .error => "ERROR"

/-- A diagnostic as a report. -/
def diagnosticReport (d : Diagnostic) : String :=
  "[" ++ severityText d.severity ++ "] " ++ d.code.name ++ ": " ++ d.message ++ "\n" ++
    match d.location with
    | none => ""
    | some at_ => "    at " ++ at_.display ++ "\n"

/-- A line of the table of placeholders, and the body below it if it is asked for. -/
def declarationRow (verbose : Bool) (d : Macro.Declaration) : String :=
  let position := (d.offset.map toString).getD "-"
  "  " ++ d.name ++ " " ++ d.written ++ " (at " ++ position ++ ")\n" ++
    if verbose then "    " ++ d.body.toSql ++ "\n" else ""

/-- The table of placeholders. -/
def placeholderTable (verbose : Bool) (x : Macro.Extraction) : Output :=
  if x.declarations.isEmpty then ⟨0, "No CTE placeholders found\n", ""⟩
  else
    let rule := String.ofList (List.replicate 60 '=')
    let rows := String.join (x.declarations.map (declarationRow verbose))
    { exit := 0
      stdout := "CTE Placeholders\n" ++ rule ++ "\n" ++ rows ++
        if x.duplicates.isEmpty then "" else "\n"
      stderr := String.join (x.warnings.map diagnosticReport) }

/-- Lists the placeholders of a query as a table. -/
def tableOutput (settings : Settings) (verbose : Bool) (sql : String) : Output :=
  let outcome : Outcome Macro.Extraction := do
    let statements ← Outcome.ofParse (Sql.parseStatements settings.dialect sql)
    extractPlaceholders (some sql) statements
  match outcome with
  | .ok x => placeholderTable verbose x
  | .error (.error e) => ⟨1, "", diagnosticReport e.diagnostic⟩
  | .error (.fatal report) => ⟨101, "", report ++ "\n"⟩

/-- What comes of an input. -/
def outputOf (settings : Settings) (verbose : Bool) (action : Action) (input : String) : Output :=
  match action with
  | .interpolate _ raw => interpolateOutput settings raw input
  | .ast _ => printed (ask settings .ast (queryBody input))
  | .placeholders _ pretty =>
    if pretty then tableOutput settings verbose input
    else printed (ask settings .placeholders (queryBody input))
  | .serve => ⟨0, "", ""⟩

section

variable {m : Type → Type} [Monad m] (w : World m)

/-- The settings of a file; a file that nobody named may be missing. -/
def loadSettings (named : Option String) : m (Except Settings.Error Settings) := do
  match named, ← w.file (named.getD defaultSettingsFile) with
  | _, .ok text => return Settings.parse text
  | none, .error .missing => return .ok .default
  | _, .error e => return .error (.unreadable e.message)

/-- The text of an input, or what its absence leaves behind. -/
def readInput (stderr input : String) : m (Except Output String) := do
  if isStandardInput input then
    match ← w.standardInput with
    | .ok text => return .ok text
    | .error e => return .error (failed stderr "failed to read stdin" (some e.message))
  else
    match ← w.file input with
    | .ok text => return .ok text
    | .error e => return .error (failed stderr ("failed to read " ++ input) (some e.message))

/-- Carries a command out on an input. -/
def runOn (settings : Settings) (a : Arguments) (stderr input : String) : m Result := do
  match ← readInput w stderr input with
  | .error output => return .done output
  | .ok text =>
    let output := outputOf settings a.verbose a.action text
    return .done { output with stderr := stderr ++ output.stderr }

/-- How the program is called. -/
def usageText : String := "Usage: macrosql [OPTIONS] <interpolate|ast|ctes|serve>\n"

/-- What arguments that are no command leave behind. -/
def Refusal.output : Refusal → Output
  | .usage => ⟨2, "", usageText⟩
  | .help => ⟨0, usageText, ""⟩
  | .version => ⟨0, "macrosql 0.1.0\n", ""⟩

/-- Carries a command out. -/
def run (args : List String) : m Result := do
  match Arguments.parse args with
  | .error refusal => return .done refusal.output
  | .ok a =>
    match ← loadSettings w a.settingsFile with
    | .error e => return .done (failed "" e.message none)
    | .ok settings =>
      let stderr :=
        if a.verbose then "Using dialect: " ++ settings.dialect.name ++ "\n" else ""
      match a.action with
      | .interpolate input _ | .ast input | .placeholders input _ =>
        runOn w settings a stderr input
      | .serve => return .serve settings stderr

end

end SqlTemplate.Command
