/-
# AlterRelay.Sql.ClauseReader — reading the clauses of an ALTER TABLE

A clause begins with a keyword that names its operation:

* `ADD [COLUMN]` and one definition, or several in parentheses;
* `DROP [COLUMN] [IF EXISTS]` and a name, with `CASCADE` or `RESTRICT` behind it;
* `CHANGE [COLUMN]` with an old name and a definition;
* `RENAME COLUMN a TO b`, the same without `COLUMN`, or `RENAME [TO | AS] table`;
* `MODIFY [COLUMN]` and a definition, `ALTER [COLUMN]` and a name.

Clauses about indexes, keys, constraints and partitions are recognised by the
word behind `ADD`, `DROP` or `RENAME` and passed over, and so is a clause that
begins with any other word. Clauses are separated by commas.
-/
import AlterRelay.Sql.Definition
import AlterRelay.Text.LetterCase

namespace AlterRelay.Sql.Reader

open AlterRelay.Text

set_option autoImplicit false

/-- Passes over the rest of a clause about something else than a column. -/
def skipped (operation : Operation) : Reader Clause := do
  skipClause
  pure { operation }

/-! ## Adding -/

/-- The operation of an `ADD` that adds no column, by the word behind it. -/
def addedObject? : Keyword → Option Operation
  | .index | .key | .fulltext | .spatial => some .addIndex
  | .primary | .unique | .constraint | .foreign | .check => some .addConstraint
  | .partition => some (.other "ADD PARTITION")
  | _ => none

/-- Definitions separated by commas, up to the closing parenthesis. -/
def definitionsFrom (tokens : List Token) :
    Except ParseError (List ColumnDefinition × List Token) :=
  match _taken : definition true tokens with
  | .error error => .error error
  | .ok (_, []) => .error (.expecting .separatorOrClosing [])
  | .ok (first, token :: rest) =>
      match token.kind with
      | .closeParen => .ok ([first], rest)
      | .comma =>
          match definitionsFrom rest with
          | .error error => .error error
          | .ok (more, behind) => .ok (first :: more, behind)
      | _ => .error (.expecting .separatorOrClosing (token :: rest))
termination_by tokens.length
decreasing_by
  have := (definition_shrinks true ‹_›).length_le
  simp only [List.length_cons] at this
  omega

/-- One definition, or several of them in parentheses. -/
def addedDefinitions : Reader (List ColumnDefinition) := do
  if ← accept .openParen then definitionsFrom
  else
    let only ← definition false
    pure [only]

/-- The clause is named after the first column that it adds. -/
def addedColumns : Reader Clause := do
  let _ ← acceptKeyword .column
  let definitions ← addedDefinitions
  pure { operation := .add, column := definitions.head?.map (·.name), definitions }

/-- The word behind `ADD` decides what is added. -/
def addClause : Reader Clause := do
  match (← peekKeyword).bind addedObject? with
  | some operation => skipped operation
  | none => addedColumns

/-! ## Dropping -/

/-- The operation of a `DROP` that drops no column, by the word behind it. -/
def droppedObject? : Keyword → Option Operation
  | .index | .key => some .dropIndex
  | .primary => some .dropPrimaryKey
  | .foreign | .constraint | .check => some .dropConstraint
  | .partition => some (.other "DROP PARTITION")
  | _ => none

/-- `CASCADE` or `RESTRICT`, which mean nothing for a column here. -/
def isDropBehaviour (token : Token) : Bool :=
  token.kind == .word &&
    (sameIgnoringCase token.text "CASCADE" || sameIgnoringCase token.text "RESTRICT")

def acceptDropBehaviour : Reader Unit :=
  fun tokens => .ok ((), if tokens.head?.any isDropBehaviour then tokens.tail else tokens)

def ifExists : Reader Bool := acceptKeywords [.ifWord, .existsWord]

/-- The name of a dropped column, with words around it that mean nothing here. -/
def droppedColumn : Reader Clause := do
  let _ ← acceptKeyword .column
  let _ ← ifExists
  let column ← identifier .columnName
  acceptDropBehaviour
  pure { operation := .drop, column }

/-- The word behind `DROP` decides what is dropped. -/
def dropClause : Reader Clause := do
  match (← peekKeyword).bind droppedObject? with
  | some operation => skipped operation
  | none => droppedColumn

/-! ## Changing and renaming -/

/-- The old name, and a whole definition with the new one. -/
def changeClause : Reader Clause := do
  let _ ← acceptKeyword .column
  let oldColumn ← identifier .columnName
  let new ← definition false
  pure { operation := .change, column := new.name, oldColumn, definitions := [new] }

/-- The parts behind the first one of a table name, each behind a dot. -/
def furtherParts : List Token → Except ParseError (List String × List Token)
  | [] => .ok ([], [])
  | [token] =>
      if token.kind = .dot then .error (.expecting .tableName []) else .ok ([], [token])
  | token :: next :: rest =>
      if token.kind = .dot then
        match next.identifier? with
        | none => .error (.expecting .tableName (next :: rest))
        | some part =>
            match furtherParts rest with
            | .error error => .error error
            | .ok (parts, behind) => .ok (part :: parts, behind)
      else .ok ([], token :: next :: rest)

/-- A name, and any number of further parts behind dots. -/
def tableName : Reader TableName := do
  let first ← identifier .tableName
  let parts ← furtherParts
  pure ⟨first :: parts⟩

def renamedTo (oldColumn : String) : Reader Clause := do
  let column ← identifier .columnName
  pure { operation := .rename, column, oldColumn }

/-- Behind `COLUMN`, the link between the names has to be `TO`. -/
def renamedColumn : Reader Clause := do
  let oldColumn ← identifier .columnName
  if ← acceptKeyword .toWord then renamedTo oldColumn else fail .renameTarget

def acceptToOrAs : Reader Bool := do
  if ← acceptKeyword .toWord then pure true else acceptKeyword .asWord

/-- A rename without `COLUMN`: of a column if `TO` follows the name, else of the table. -/
def renamedTable : Reader Clause := do
  let _ ← acceptToOrAs
  let name ← tableName
  if ← acceptKeyword .toWord then renamedTo name.text else pure { operation := .renameTable }

/-- A column behind `COLUMN`, an index, or whatever the tokens behind turn out to be. -/
def renameClause : Reader Clause := do
  if ← acceptKeyword .column then renamedColumn
  else
    match ← peekKeyword with
    | some .index | some .key => skipped (.other "RENAME INDEX")
    | _ => renamedTable

/-! ## Clauses -/

/-- A definition in the place of an old one of the same name. -/
def modifyClause : Reader Clause := do
  let _ ← acceptKeyword .column
  let new ← definition false
  pure { operation := .modify, column := new.name, definitions := [new] }

/-- The name of the column. What is altered about it is passed over. -/
def alterColumnClause : Reader Clause := do
  let _ ← acceptKeyword .column
  let column ← identifier .columnName
  skipClause
  pure { operation := .alterColumn, column }

/-- The rest of a clause that begins with `word`. -/
def clauseBehind (word : Token) : Reader Clause :=
  match word.keyword? with
  | some .add => addClause
  | some .drop => dropClause
  | some .change => changeClause
  | some .rename => renameClause
  | some .modify => modifyClause
  | some .alter => alterColumnClause
  | _ => skipped (.other word.text.toUpper)

/-- A clause begins with a word, keyword or not. -/
def clause : Reader Clause :=
  fun tokens =>
    match tokens with
    | [] => .error (.expecting .alteration [])
    | token :: rest =>
        if token.kind = .word then clauseBehind token rest
        else .error (.expecting .alteration (token :: rest))

/-! ## What is left is a suffix -/

theorem skipped_shrinks (operation : Operation) : Shrinks (skipped operation) :=
  Shrinks.bind skipClause_shrinks fun _ => Shrinks.pure _

/-- Every definition is taken off the front, and so is what stands behind it. -/
theorem definitionsFrom_suffix {tokens rest : List Token} {definitions : List ColumnDefinition}
    (taken : definitionsFrom tokens = .ok (definitions, rest)) : rest <:+ tokens := by
  fun_induction definitionsFrom tokens generalizing definitions rest with
  | case1 => cases taken
  | case2 => cases taken
  | case3 tokens first token behind read _ =>
      cases taken
      exact (List.suffix_cons _ _).trans (definition_shrinks true read)
  | case4 => cases taken
  | case5 tokens first token behind read _ more final inner ih =>
      cases taken
      exact (ih inner).trans ((List.suffix_cons _ _).trans (definition_shrinks true read))
  | case6 => cases taken

theorem addedDefinitions_shrinks : Shrinks addedDefinitions := by
  refine Shrinks.bind (accept_shrinks _) fun _ => ?_
  refine Shrinks.ite (fun _ _ _ taken => definitionsFrom_suffix taken) ?_
  exact Shrinks.bind (definition_shrinks false) fun _ => Shrinks.pure _

theorem addedColumns_shrinks : Shrinks addedColumns := by
  refine Shrinks.bind (acceptKeyword_shrinks _) fun _ => ?_
  exact Shrinks.bind addedDefinitions_shrinks fun _ => Shrinks.pure _

theorem addClause_shrinks : Shrinks addClause := by
  refine Shrinks.bind peekKeyword_shrinks fun next => ?_
  split
  · exact skipped_shrinks _
  · exact addedColumns_shrinks

theorem acceptDropBehaviour_shrinks : Shrinks acceptDropBehaviour := by
  intro tokens rest value taken
  cases taken
  split
  · exact List.tail_suffix tokens
  · exact List.suffix_refl _

theorem droppedColumn_shrinks : Shrinks droppedColumn := by
  refine Shrinks.bind (acceptKeyword_shrinks _) fun _ => ?_
  refine Shrinks.bind (acceptKeywords_shrinks _) fun _ => ?_
  refine Shrinks.bind (identifier_shrinks _) fun _ => ?_
  exact Shrinks.bind acceptDropBehaviour_shrinks fun _ => Shrinks.pure _

theorem dropClause_shrinks : Shrinks dropClause := by
  refine Shrinks.bind peekKeyword_shrinks fun next => ?_
  split
  · exact skipped_shrinks _
  · exact droppedColumn_shrinks

theorem changeClause_shrinks : Shrinks changeClause := by
  refine Shrinks.bind (acceptKeyword_shrinks _) fun _ => ?_
  refine Shrinks.bind (identifier_shrinks _) fun _ => ?_
  exact Shrinks.bind (definition_shrinks false) fun _ => Shrinks.pure _

/-- Dots and parts are taken off the front. -/
theorem furtherParts_suffix {tokens rest : List Token} {parts : List String}
    (taken : furtherParts tokens = .ok (parts, rest)) : rest <:+ tokens := by
  fun_induction furtherParts tokens generalizing parts rest with
  | case1 =>
      cases taken
      exact List.suffix_refl _
  | case2 => cases taken
  | case3 =>
      cases taken
      exact List.suffix_refl _
  | case4 => cases taken
  | case5 => cases taken
  | case6 token next tokens _ part _ more behind inner ih =>
      cases taken
      exact (ih inner).trans ((List.suffix_cons _ _).trans (List.suffix_cons _ _))
  | case7 =>
      cases taken
      exact List.suffix_refl _

theorem tableName_shrinks : Shrinks tableName := by
  refine Shrinks.bind (identifier_shrinks _) fun _ => ?_
  exact Shrinks.bind (fun _ _ _ taken => furtherParts_suffix taken) fun _ => Shrinks.pure _

theorem renamedTo_shrinks (oldColumn : String) : Shrinks (renamedTo oldColumn) :=
  Shrinks.bind (identifier_shrinks _) fun _ => Shrinks.pure _

theorem renamedColumn_shrinks : Shrinks renamedColumn := by
  refine Shrinks.bind (identifier_shrinks _) fun oldColumn => ?_
  refine Shrinks.bind (acceptKeyword_shrinks _) fun _ => ?_
  exact Shrinks.ite (renamedTo_shrinks oldColumn) (fail_shrinks _)

theorem acceptToOrAs_shrinks : Shrinks acceptToOrAs := by
  refine Shrinks.bind (acceptKeyword_shrinks _) fun _ => ?_
  exact Shrinks.ite (Shrinks.pure true) (acceptKeyword_shrinks _)

theorem renamedTable_shrinks : Shrinks renamedTable := by
  refine Shrinks.bind acceptToOrAs_shrinks fun _ => ?_
  refine Shrinks.bind tableName_shrinks fun name => ?_
  refine Shrinks.bind (acceptKeyword_shrinks _) fun _ => ?_
  exact Shrinks.ite (renamedTo_shrinks _) (Shrinks.pure _)

theorem renameClause_shrinks : Shrinks renameClause := by
  refine Shrinks.bind (acceptKeyword_shrinks _) fun _ => Shrinks.ite renamedColumn_shrinks ?_
  refine Shrinks.bind peekKeyword_shrinks fun next => ?_
  split
  · exact skipped_shrinks _
  · exact skipped_shrinks _
  · exact renamedTable_shrinks

theorem modifyClause_shrinks : Shrinks modifyClause := by
  refine Shrinks.bind (acceptKeyword_shrinks _) fun _ => ?_
  exact Shrinks.bind (definition_shrinks false) fun _ => Shrinks.pure _

theorem alterColumnClause_shrinks : Shrinks alterColumnClause := by
  refine Shrinks.bind (acceptKeyword_shrinks _) fun _ => ?_
  refine Shrinks.bind (identifier_shrinks _) fun _ => ?_
  exact Shrinks.bind skipClause_shrinks fun _ => Shrinks.pure _

theorem clauseBehind_shrinks (word : Token) : Shrinks (clauseBehind word) := by
  unfold clauseBehind
  split
  · exact addClause_shrinks
  · exact dropClause_shrinks
  · exact changeClause_shrinks
  · exact renameClause_shrinks
  · exact modifyClause_shrinks
  · exact alterColumnClause_shrinks
  · exact skipped_shrinks _

/-- Nothing in front of what is left is put back. This is why lists of clauses end. -/
theorem clause_shrinks : Shrinks clause := by
  intro tokens rest value taken
  unfold clause at taken
  split at taken
  · cases taken
  · split at taken
    · exact (clauseBehind_shrinks _ taken).trans (List.suffix_cons _ _)
    · cases taken

end AlterRelay.Sql.Reader
