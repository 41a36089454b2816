import SqlTemplate.Sql.Parser.Basic
import SqlTemplate.Sql.Phrase
import SqlTemplate.Sql.Parser.Grammar

/-!
# Reading transactions

The commands that begin and end transactions and that mark places inside them. None of them holds
an expression. `END` is another word for `COMMIT`, and is written so.
-/

namespace SqlTemplate.Sql.Parser

/-- How far a transaction is kept apart from others: keywords and kind. -/
def isolationLevels : List (List String × String) :=
  [(["READ", "UNCOMMITTED"], "ReadUncommitted"), (["READ", "COMMITTED"], "ReadCommitted"),
    (["REPEATABLE", "READ"], "RepeatableRead"), (["SERIALIZABLE"], "Serializable")]

/-- A mode of a transaction, if one comes next. -/
def transactionMode? : Parser (Option Wording) := do
  if ← acceptWords ["ISOLATION", "LEVEL"] then
    match ← acceptFirst isolationLevels with
    | some (keywords, kind) =>
      return some ⟨"ISOLATION LEVEL " ++ String.intercalate " " keywords,
        .node "IsolationLevel" (.text kind)⟩
    | none => expectedNext "isolation level"
  else if ← acceptWords ["READ", "ONLY"] then
    return some ⟨"READ ONLY", .node "AccessMode" (.text "ReadOnly")⟩
  else if ← acceptWords ["READ", "WRITE"] then
    return some ⟨"READ WRITE", .node "AccessMode" (.text "ReadWrite")⟩
  else return none

/-- The modes of a transaction. The commas between them may be missing; behind a comma a mode must
follow. -/
def transactionModesFrom : (fuel : Nat) → (required : Bool) → Parser (List Wording)
  | 0, _ => return []
  | fuel + 1, required => do
    match ← transactionMode? with
    | some mode => return mode :: (← transactionModesFrom fuel (← acceptSign ","))
    | none => if required then expectedNext "transaction mode" else return []

/-- The modes of a transaction. -/
def transactionModes : Parser (List Wording) := do
  transactionModesFrom ((← remaining) + 1) false

/-- The modes of a transaction as written, with a blank in front. -/
def modesText (modes : List Wording) : String := listWithLead " " (modes.map Wording.text)

/-- The modes of a transaction in a tree. -/
def modesShape (modes : List Wording) : Shape := .list (modes.map Wording.shape)

/-- The beginning of a transaction behind `START`. -/
def transactionStart : Parser Wording := do
  expectWord "TRANSACTION"
  let modes ← transactionModes
  return ⟨"START TRANSACTION" ++ modesText modes,
    form "StartTransaction" [("modes", modesShape modes), ("begin", .flag false),
      ("transaction", .text "Transaction"), ("modifier", .null)]⟩

/-- The beginning of a transaction behind `BEGIN`. -/
def transactionBegin (g : Grammar) : Parser Wording := do
  let modifier ← match g.dialect with
    | .clickHouse => pure none
    | .generic => acceptFirst [(["DEFERRED"], "Deferred"), (["IMMEDIATE"], "Immediate"),
        (["EXCLUSIVE"], "Exclusive")]
  let kind ← acceptFirst [(["TRANSACTION"], "Transaction"), (["WORK"], "Work")]
  let modes ← transactionModes
  let wordsText (found : Option (List String × String)) : String :=
    withLead " " (found.map fun (keywords, _) => String.intercalate " " keywords)
  return ⟨"BEGIN" ++ wordsText modifier ++ wordsText kind ++ modesText modes,
    form "StartTransaction" [("modes", modesShape modes), ("begin", .flag true),
      ("transaction", textShape (kind.map Prod.snd)),
      ("modifier", textShape (modifier.map Prod.snd))]⟩

/-- Whether another transaction follows at once. -/
def transactionChain : Parser Bool := do
  let _ ← acceptOneOf ["TRANSACTION", "WORK"]
  if ← acceptWord "AND" then
    let none_ ← acceptWord "NO"
    expectWord "CHAIN"
    return !none_
  else return false

/-- The end of a transaction behind its keyword. -/
def commitment : Parser Wording := do
  let chain ← transactionChain
  return ⟨"COMMIT" ++ wordIf chain " AND CHAIN", form "Commit" [("chain", .flag chain)]⟩

/-- A return to the state before a transaction or to a place inside it, behind the keyword. -/
def rollback : Parser Wording := do
  let chain ← transactionChain
  let place ← do
    if ← acceptWord "TO" then
      let _ ← acceptWord "SAVEPOINT"
      pure (some (← ident))
    else pure none
  return ⟨"ROLLBACK" ++ wordIf chain " AND CHAIN" ++
      withLead " TO SAVEPOINT " (place.map Ident.toSql),
    form "Rollback" [("chain", .flag chain), ("savepoint", identShape place)]⟩

/-- A mark in a transaction behind its keyword. -/
def savepoint : Parser Wording := do
  let place ← ident
  return ⟨"SAVEPOINT " ++ place.toSql, form "Savepoint" [("name", .ident place)]⟩

/-- The removal of a mark behind its keyword. -/
def release : Parser Wording := do
  let _ ← acceptWord "SAVEPOINT"
  let place ← ident
  return ⟨"RELEASE SAVEPOINT " ++ place.toSql, form "ReleaseSavepoint" [("name", .ident place)]⟩

end SqlTemplate.Sql.Parser
