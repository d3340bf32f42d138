/-
# AlterRelay.Proofs.Checked.CursorStatement — statements without a trap

The machines for clauses and for whole statements perform their readers. The clauses
that may be about another object than a column look for the word `COLUMN` first, where
their readers look for the object first; no object is called so (`unlessObject_column`).

Every list of tokens may be given to the machine: it may be empty, it may have no end
token or several of them. The machine always ends, and with the statement or the error
that the list of tokens spells (`statement?_eq`).
-/
import AlterRelay.Proofs.Checked.CursorDefinition

namespace AlterRelay.Checked

open AlterRelay.Sql
open AlterRelay.Sql.Reader (addedObject? droppedObject? isDropBehaviour)

set_option autoImplicit false

section

variable {α β : Type} {closing rest more : List Token} {cursor : Cursor} {token : Token}

/-- A token that is taken is not left. -/
theorem accept_shorter {kind : TokenKind} {tokens : List Token}
    (taken : Reader.accept kind tokens = .ok (true, rest)) : rest.length < tokens.length := by
  cases tokens with
  | nil => cases taken
  | cons token tokens =>
      unfold Reader.accept at taken
      split at taken
      · cases taken
        exact Nat.lt_succ_self _
      · cases taken

/-! ## Added columns -/

/-- Takes a token of this kind, which has to be there. -/
def expect (kind : TokenKind) (expected : Expectation) : Reader Unit := do
  if ← Reader.accept kind then pure () else Reader.fail expected

/-- The machine stops at an end token, so it may not be asked to take one. -/
theorem expect_performs {kind : TokenKind} (inner : kind ≠ .endOfInput) (expected : Expectation) :
    Performs (Parse.expect kind expected) (expect kind expected) :=
  .bind (accept_performs inner) fun _ => .ite (.pure ()) (.fail expected)

/-- The reader that the loop over definitions performs, with those that it has read already. -/
def definitionsBehind (before : List ColumnDefinition) : Reader (List ColumnDefinition) :=
  (before ++ ·) <$> (Reader.definitionsFrom : Reader (List ColumnDefinition))

/-- One turn of the loop: a definition, and a comma or the closing parenthesis behind it. -/
def definitionsTurn (before : List ColumnDefinition) :
    Reader (Turn (List ColumnDefinition) (List ColumnDefinition)) := do
  let next ← Reader.definition true
  if ← Reader.accept .comma then return .again (before ++ [next])
  else
    expect .closeParen .separatorOrClosing
    return .leave (before ++ [next])

/-- A turn of the machine is a turn of the reader, in values, errors and the tokens taken. -/
theorem definitionsTurn_performs (before : List ColumnDefinition) :
    Performs (Parse.definitionsTurn before) (definitionsTurn before) := by
  refine .bind (definition_performs true) fun next => ?_
  refine .bind (accept_performs (by decide)) fun _ => .ite (.pure _) ?_
  exact .bind (expect_performs (by decide) _) fun _ => .pure _

/-- A turn that goes on has taken a definition and a comma. This is why the loop of the machine
ends. -/
theorem definitionsTurn_shorter {before before' : List ColumnDefinition} {tokens : List Token}
    (turn : definitionsTurn before tokens = .ok (.again before', rest)) :
    rest.length < tokens.length := by
  obtain ⟨next, behind, read, turn⟩ := Reader.bind_eq_ok.mp turn
  obtain ⟨comma, behind', taken, turn⟩ := Reader.bind_eq_ok.mp turn
  cases comma with
  | true =>
      cases turn
      exact (accept_shorter taken).trans_le (Reader.definition_shrinks true read).length_le
  | false =>
      obtain ⟨_, _, _, turn⟩ := Reader.bind_eq_ok.mp turn
      cases turn

/-- The reader is its own turn, followed by itself. -/
theorem definitionsBehind_eq (before : List ColumnDefinition) :
    definitionsBehind before = definitionsTurn before >>= Performs.following definitionsBehind := by
  have first : definitionsBehind before =
      Reader.definition true >>= fun next => (before ++ ·) <$> Reader.closing next := by
    rw [definitionsBehind, Reader.definitionsFrom_eq, map_bind]
  rw [first, definitionsTurn, bind_assoc]
  refine bind_congr fun next => ?_
  funext tokens
  cases tokens with
  | nil => rfl
  | cons token tokens =>
      rw [bind_assoc]
      by_cases comma : token.kind = .comma
      · rw [map_congr (Reader.closing_of_comma next comma tokens), map_append_cons,
          Reader.bind_of_ok (Reader.accept_of_kind comma tokens)]
        rfl
      · rw [Reader.bind_of_ok (Reader.accept_of_headed (headed_cons.mpr comma)),
          if_neg Bool.false_ne_true, expect, bind_assoc, bind_assoc]
        by_cases close : token.kind = .closeParen
        · have read : Reader.closing next (token :: tokens) = .ok ([next], tokens) := by
            rw [Reader.closing, close]
          rw [map_of_ok read, Reader.bind_of_ok (Reader.accept_of_kind close tokens)]
          rfl
        · have read : Reader.closing next (token :: tokens) =
              .error (.expecting .separatorOrClosing (token :: tokens)) := by
            unfold Reader.closing
            split <;> simp_all
          rw [map_of_error read,
            Reader.bind_of_ok (Reader.accept_of_headed (headed_cons.mpr close))]
          rfl

/-- Definitions in parentheses are read by a loop here and by recursion there. -/
theorem addedDefinitions_performs : Performs Parse.addedDefinitions Reader.addedDefinitions := by
  refine .bind (accept_performs (by decide)) fun _ => .ite ?_ ?_
  · have looped := Performs.loop definitionsTurn_performs definitionsTurn_shorter
      definitionsBehind_eq []
    rwa [definitionsBehind, map_append_nil] at looped
  · exact .bind (definition_performs false) fun _ => .pure _

/-! ## Clauses -/

/-- A clause that is passed over takes the same tokens on both sides. -/
theorem skipped_performs (operation : Operation) :
    Performs (Parse.skipped operation) (Reader.skipped operation) := by
  unfold Reader.skipped Reader.skipClause
  rw [bind_assoc]
  exact .bind (run_performs false) fun _ => .pure _

/-- A clause about columns, unless the word in front names something else. -/
def unlessObject (object? : Keyword → Option Operation) (columns : Reader Clause) :
    Reader Clause := do
  match (← Reader.peekKeyword).bind object? with
  | some operation => Reader.skipped operation
  | none => columns

/-- The machine looks for `COLUMN` before it looks for an object, the reader the other way round.
`COLUMN` is no object, so both orders are the same. -/
theorem unlessObject_column {object? : Keyword → Option Operation} (apart : object? .column = none)
    (columns : Reader Clause) :
    unlessObject object? (Reader.acceptKeyword .column >>= fun _ => columns) = (do
      if ← Reader.acceptKeyword .column then columns else unlessObject object? columns) := by
  funext tokens
  cases tokens with
  | nil => rfl
  | cons token tokens =>
      by_cases column : token.isKeyword .column = true
      · have word : token.keyword? = some .column := eq_of_beq column
        have seen : Reader.peekKeyword (token :: tokens) = .ok (some .column, token :: tokens) := by
          rw [← word]
          rfl
        have taken := Reader.acceptKeyword_of_isKeyword column tokens
        rw [unlessObject, Reader.bind_of_ok seen, Reader.bind_of_ok taken, Option.bind_some, apart]
        exact Reader.bind_of_ok taken
      · have other : Reader.acceptKeyword .column (token :: tokens) =
            .ok (false, token :: tokens) :=
          Reader.acceptKeywords_of_headed (headed_cons.mpr column)
        have seen : Reader.peekKeyword (token :: tokens) = .ok (token.keyword?, token :: tokens) :=
          rfl
        rw [Reader.bind_of_ok other, if_neg Bool.false_ne_true, unlessObject, unlessObject,
          Reader.bind_of_ok seen, Reader.bind_of_ok seen]
        cases token.keyword?.bind object? with
        | none => exact Reader.bind_of_ok other
        | some operation => rfl

/-- Where the word in front names an object, the clause is passed over; otherwise the machine goes
on as the reader does. -/
theorem unlessObject_performs {object? : Keyword → Option Operation} {machine : Parse Clause}
    {columns : Reader Clause} (performs : Performs machine columns) :
    Performs (do
      match (← Parse.peekKeyword).bind object? with
      | some operation => Parse.skipped operation
      | none => machine) (unlessObject object? columns) := by
  refine .bind peekKeyword_performs fun next => ?_
  cases next.bind object? with
  | none => exact performs
  | some operation => exact skipped_performs operation

/-- A machine that looks for `COLUMN` before it looks for another object. -/
theorem columnsOrObject_performs (object? : Keyword → Option Operation)
    (apart : object? .column = none) {machine : Parse Clause} {columns : Reader Clause}
    (performs : Performs machine columns) :
    Performs (do
      if ← Parse.acceptKeyword .column then machine
      else
        match (← Parse.peekKeyword).bind object? with
        | some operation => Parse.skipped operation
        | none => machine)
      (unlessObject object? (Reader.acceptKeyword .column >>= fun _ => columns)) := by
  rw [unlessObject_column apart]
  exact .bind (acceptKeyword_performs _) fun _ => .ite performs (unlessObject_performs performs)

/-- Both ask for `COLUMN` and for an object, each in its own order. -/
theorem addClause_performs : Performs Parse.addClause Reader.addClause := by
  have columns : Performs Parse.addedColumns (do
      let definitions ← Reader.addedDefinitions
      pure { operation := .add, column := definitions.head?.map (·.name), definitions }) :=
    .bind addedDefinitions_performs fun _ => .pure _
  exact columnsOrObject_performs addedObject? rfl columns

/-- `CASCADE` and `RESTRICT` are compared by their letters on both sides. -/
theorem acceptDropBehaviour_performs :
    Performs Parse.acceptDropBehaviour Reader.acceptDropBehaviour := by
  intro closing cursor rest stands
  refine .peeking stands fun token seen => ?_
  cases rest with
  | nil =>
      have kind : token.kind = .endOfInput := eq_of_beq seen
      rw [if_neg (by simp [isDropBehaviour, kind])]
      exact .ok rfl stands
  | cons first more =>
      cases seen
      unfold Reader.acceptDropBehaviour
      rw [List.head?_cons, Option.any_some]
      by_cases behaviour : isDropBehaviour token = true
      · have word : token.kind = .word := eq_of_beq (Bool.and_eq_true_iff.mp behaviour).1
        rw [if_pos behaviour, if_pos behaviour]
        exact .taking stands (isEnd_of_kind word (by decide)) fun _ stands' => .ok rfl stands'
      · rw [if_neg behaviour, if_neg behaviour]
        exact .ok rfl stands

/-- As for `ADD`, the two orders of asking agree. -/
theorem dropClause_performs : Performs Parse.dropClause Reader.dropClause := by
  have columns : Performs Parse.droppedColumn (do
      let _ ← Reader.ifExists
      let column ← Reader.identifier .columnName
      Reader.acceptDropBehaviour
      pure { operation := .drop, column }) := by
    refine .bind (acceptPair_performs _ _) fun _ => .bind (identifier_performs _) fun _ => ?_
    exact .bind acceptDropBehaviour_performs fun _ => .pure _
  exact columnsOrObject_performs droppedObject? rfl columns

theorem changeClause_performs : Performs Parse.changeClause Reader.changeClause := by
  refine .bind (acceptKeyword_performs _) fun _ => .bind (identifier_performs _) fun _ => ?_
  exact .bind (definition_performs false) fun _ => .pure _

theorem modifyClause_performs : Performs Parse.modifyClause Reader.modifyClause := by
  refine .bind (acceptKeyword_performs _) fun _ => ?_
  exact .bind (definition_performs false) fun _ => .pure _

/-- What stands behind the name is passed over to the end of the clause. -/
theorem alterColumnClause_performs :
    Performs Parse.alterColumnClause Reader.alterColumnClause := by
  unfold Reader.alterColumnClause Reader.skipClause
  refine .bind (acceptKeyword_performs _) fun _ => .bind (identifier_performs _) fun _ => ?_
  rw [bind_assoc]
  exact .bind (run_performs false) fun _ => .pure _

/-! ## Renamed columns and tables -/

/-- The reader that the loop over a table name performs, with the parts in front. -/
def partsBehind (before : List String) : Reader (List String) :=
  (before ++ ·) <$> (Reader.furtherParts : Reader (List String))

/-- One turn of the loop: a dot with a part behind it, or neither. -/
def partsTurn (before : List String) : Reader (Turn (List String) (List String)) := do
  if ← Reader.accept .dot then
    let part ← Reader.identifier .tableName
    return .again (before ++ [part])
  else return .leave before

theorem partsTurn_performs (before : List String) :
    Performs (Parse.partsTurn before) (partsTurn before) := by
  refine .bind (accept_performs (by decide)) fun _ => .ite ?_ (.pure _)
  exact .bind (identifier_performs _) fun _ => .pure _

/-- A turn that goes on has taken a dot and a part. -/
theorem partsTurn_shorter {before before' : List String} {tokens : List Token}
    (turn : partsTurn before tokens = .ok (.again before', rest)) :
    rest.length < tokens.length := by
  obtain ⟨dot, behind, taken, turn⟩ := Reader.bind_eq_ok.mp turn
  cases dot with
  | true =>
      obtain ⟨_, _, named, turn⟩ := Reader.bind_eq_ok.mp turn
      cases turn
      exact (Reader.identifier_shrinks _ named).length_le.trans_lt (accept_shorter taken)
  | false => cases turn

/-- The parts of a table name, turn by turn. -/
theorem partsBehind_eq (before : List String) :
    partsBehind before = partsTurn before >>= Performs.following partsBehind := by
  funext tokens
  unfold partsBehind partsTurn
  rw [bind_assoc]
  cases tokens with
  | nil =>
      rw [map_of_ok (Reader.furtherParts_of_headed (.nil _)),
        Reader.bind_of_ok (Reader.accept_of_headed (.nil _)), List.append_nil]
      rfl
  | cons token tokens =>
      by_cases dot : token.kind = .dot
      · rw [map_congr (Reader.furtherParts_of_dot dot tokens), map_bind,
          Reader.bind_of_ok (Reader.accept_of_kind dot tokens), if_pos rfl, bind_assoc]
        simp only [map_append_cons]
        rfl
      · have front : Headed (¬·.kind = .dot) (token :: tokens) := headed_cons.mpr dot
        rw [map_of_ok (Reader.furtherParts_of_headed front),
          Reader.bind_of_ok (Reader.accept_of_headed front), List.append_nil]
        rfl

theorem tableName_performs : Performs Parse.tableName Reader.tableName := by
  have looped (first : String) : Performs (Parse.loop Parse.partsTurn [first])
      (partsBehind [first]) := .loop partsTurn_performs partsTurn_shorter partsBehind_eq [first]
  have whole : Reader.tableName = (do
      let first ← Reader.identifier .tableName
      let parts ← partsBehind [first]
      pure ⟨parts⟩) := by
    refine bind_congr fun first => ?_
    rw [partsBehind, bind_map_left]
    rfl
  rw [whole]
  exact .bind (identifier_performs _) fun first => .bind (looped first) fun _ => .pure _

theorem renamedTo_performs (oldColumn : String) :
    Performs (Parse.renamedTo oldColumn) (Reader.renamedTo oldColumn) :=
  .bind (identifier_performs _) fun _ => .pure _

theorem renamedColumn_performs : Performs Parse.renamedColumn Reader.renamedColumn := by
  refine .bind (identifier_performs _) fun old => .bind (acceptKeyword_performs _) fun _ => ?_
  exact .ite (renamedTo_performs old) (.fail _)

theorem acceptToOrAs_performs : Performs Parse.acceptToOrAs Reader.acceptToOrAs :=
  .bind (acceptKeyword_performs _) fun _ => .ite (.pure true) (acceptKeyword_performs _)

/-- A bare rename turns into one of a column behind the table name only. -/
theorem renamedTable_performs : Performs Parse.renamedTable Reader.renamedTable := by
  refine .bind acceptToOrAs_performs fun _ => .bind tableName_performs fun name => ?_
  exact .bind (acceptKeyword_performs _) fun _ => .ite (renamedTo_performs _) (.pure _)

theorem renameClause_performs : Performs Parse.renameClause Reader.renameClause := by
  refine .bind (acceptKeyword_performs _) fun _ => .ite renamedColumn_performs ?_
  refine .bind peekKeyword_performs fun next => ?_
  cases next with
  | none => exact renamedTable_performs
  | some keyword =>
      cases keyword with
      | index | key => exact skipped_performs _
      | _ => exact renamedTable_performs

/-! ## All clauses -/

/-- The word of a clause decides by the same table of keywords. -/
theorem clauseBehind_performs (word : Token) :
    Performs (Parse.clauseBehind word) (Reader.clauseBehind word) := by
  unfold Parse.clauseBehind Reader.clauseBehind
  cases word.keyword? with
  | none => exact skipped_performs _
  | some keyword =>
      cases keyword with
      | add => exact addClause_performs
      | drop => exact dropClause_performs
      | change => exact changeClause_performs
      | rename => exact renameClause_performs
      | modify => exact modifyClause_performs
      | alter => exact alterColumnClause_performs
      | _ => exact skipped_performs _

/-- The cursor is moved past the word before the clause is read, on both sides. -/
theorem clause_performs : Performs Parse.clause Reader.clause := by
  intro closing cursor rest stands
  refine .peeking stands fun token seen => ?_
  cases rest with
  | nil =>
      have kind : token.kind = .endOfInput := eq_of_beq seen
      rw [if_neg (by simp [kind])]
      exact .fail stands .alteration
  | cons first more =>
      cases seen
      unfold Reader.clause
      dsimp only
      by_cases word : token.kind = .word
      · rw [if_pos word, if_pos word]
        exact .taking stands (isEnd_of_kind word (by decide)) fun _ stands' =>
          clauseBehind_performs token stands'
      · rw [if_neg word, if_neg word]
        exact .fail stands .alteration

/-- The reader that the loop over clauses performs, with the clauses in front. -/
def clausesBehind (before : List Clause) : Reader (List Clause) :=
  (before ++ ·) <$> (Reader.clausesFrom : Reader (List Clause))

/-- One turn of the loop: a clause, and whether a comma stands behind it. -/
def clausesTurn (before : List Clause) : Reader (Turn (List Clause) (List Clause)) := do
  let next ← Reader.clause
  if ← Reader.accept .comma then return .again (before ++ [next])
  else return .leave (before ++ [next])

/-- The comma between clauses is taken by the turn in front of it. -/
theorem clausesTurn_performs (before : List Clause) :
    Performs (Parse.clausesTurn before) (clausesTurn before) := by
  refine .bind clause_performs fun _ => .bind (accept_performs (by decide)) fun _ => ?_
  exact .ite (.pure _) (.pure _)

/-- A turn that goes on has taken a clause and a comma. -/
theorem clausesTurn_shorter {before before' : List Clause} {tokens : List Token}
    (turn : clausesTurn before tokens = .ok (.again before', rest)) :
    rest.length < tokens.length := by
  obtain ⟨next, behind, read, turn⟩ := Reader.bind_eq_ok.mp turn
  obtain ⟨comma, behind', taken, turn⟩ := Reader.bind_eq_ok.mp turn
  cases comma with
  | true =>
      cases turn
      exact (accept_shorter taken).trans_le (Reader.clause_shrinks read).length_le
  | false => cases turn

/-- The clauses of a statement, turn by turn. -/
theorem clausesBehind_eq (before : List Clause) :
    clausesBehind before = clausesTurn before >>= Performs.following clausesBehind := by
  have first : clausesBehind before =
      Reader.clause >>= fun next => (before ++ ·) <$> Reader.furtherClauses next := by
    rw [clausesBehind, Reader.clausesFrom_eq, map_bind]
  rw [first, clausesTurn, bind_assoc]
  refine bind_congr fun next => ?_
  funext tokens
  rw [bind_assoc]
  cases tokens with
  | nil => rfl
  | cons token tokens =>
      by_cases comma : token.kind = .comma
      · rw [map_congr (Reader.furtherClauses_of_comma next comma tokens), map_append_cons,
          Reader.bind_of_ok (Reader.accept_of_kind comma tokens)]
        rfl
      · have front : Headed (¬·.kind = .comma) (token :: tokens) := headed_cons.mpr comma
        rw [map_of_ok (Reader.furtherClauses_of_headed next front),
          Reader.bind_of_ok (Reader.accept_of_headed front)]
        rfl

/-- The loop begins with no clauses, and ends with all that the reader reads. -/
theorem clauses_performs :
    Performs (Parse.loop Parse.clausesTurn []) (Reader.clausesFrom : Reader (List Clause)) := by
  have looped := Performs.loop clausesTurn_performs clausesTurn_shorter clausesBehind_eq []
  rwa [clausesBehind, map_append_nil] at looped

/-! ## Statements -/

def skipSemicolons : Reader Unit := fun tokens => .ok ((), Reader.skipSemicolons tokens)

/-- One turn of the loop over semicolons. -/
def skipSemicolonsTurn (_ : Unit) : Reader (Turn Unit Unit) := do
  if ← Reader.accept .semicolon then return .again () else return .leave ()

theorem skipSemicolonsTurn_shorter {before before' : Unit} {tokens : List Token}
    (turn : skipSemicolonsTurn before tokens = .ok (.again before', rest)) :
    rest.length < tokens.length := by
  obtain ⟨semicolon, behind, taken, turn⟩ := Reader.bind_eq_ok.mp turn
  cases semicolon with
  | true =>
      cases turn
      exact accept_shorter taken
  | false => cases turn

theorem skipSemicolons_eq (before : Unit) :
    skipSemicolons = skipSemicolonsTurn before >>= Performs.following fun _ => skipSemicolons := by
  funext tokens
  unfold skipSemicolonsTurn
  rw [bind_assoc]
  cases tokens with
  | nil => rfl
  | cons token tokens =>
      by_cases semicolon : token.kind = .semicolon
      · rw [Reader.bind_of_ok (Reader.accept_of_kind semicolon tokens), skipSemicolons,
          Reader.skipSemicolons, List.dropWhile_cons_of_pos (by simp [semicolon])]
        rfl
      · rw [Reader.bind_of_ok (Reader.accept_of_headed (headed_cons.mpr semicolon)), skipSemicolons,
          Reader.skipSemicolons, List.dropWhile_cons_of_neg (by simp [semicolon])]
        rfl

/-- Semicolons are dropped all at once by the reader and one at a time by the machine. -/
theorem skipSemicolons_performs : Performs Parse.skipSemicolons skipSemicolons := by
  have turns (before : Unit) :
      Performs (Parse.skipSemicolonsTurn before) (skipSemicolonsTurn before) :=
    .bind (accept_performs (by decide)) fun _ => .ite (.pure _) (.pure _)
  exact .loop turns skipSemicolonsTurn_shorter skipSemicolons_eq ()

/-- The token that the cursor sees is an end token where no other is left. -/
theorem Seen.isEnd_eq (seen : Seen token rest) : token.isEnd = Reader.atEnd rest := by
  cases rest with
  | nil => exact seen
  | cons first rest =>
      cases seen
      rfl

/-- The end of a statement, in front of which a value has been read. -/
theorem endOfStatement_performs (value : α) :
    Performs (do
      Parse.skipSemicolons
      if (← Parse.peek).isEnd then return value else Parse.fail .separatorOrEnd)
      (do
        Reader.endOfStatement
        pure value) := by
  intro closing cursor rest stands
  obtain ⟨skipped, stands'⟩ : Same closing _ (.ok ((), Reader.skipSemicolons rest)) :=
    skipSemicolons_performs stands
  rw [bind_done skipped]
  refine .peeking stands' fun token seen => ?_
  rw [seen.isEnd_eq]
  by_cases ends : Reader.atEnd (Reader.skipSemicolons rest) = true
  · have read : Reader.endOfStatement rest = .ok ((), Reader.skipSemicolons rest) := if_pos ends
    rw [if_pos ends, Reader.bind_of_ok read]
    exact .ok rfl stands'
  · have read : Reader.endOfStatement rest =
        .error (.expecting .separatorOrEnd (Reader.skipSemicolons rest)) := if_neg ends
    rw [if_neg ends, Reader.bind_of_error read]
    exact .fail stands' .separatorOrEnd

/-- A keyword that has been seen already is taken without a test. -/
theorem takeKeyword_done {keyword : Keyword} (spelt : token.isKeyword keyword = true)
    (stands : Stands closing cursor (token :: more)) :
    ∃ cursor', Parse.takeKeyword keyword cursor = done () cursor' ∧
      Stands closing cursor' more := by
  have taken := acceptKeyword_performs keyword stands
  rw [Reader.acceptKeyword_of_isKeyword spelt] at taken
  obtain ⟨ends, stands'⟩ := taken
  refine ⟨_, ?_, stands'⟩
  unfold Parse.takeKeyword
  rw [bind_done ends]
  rfl

/-- Both keywords are known to be there, so the machine takes them without a trap. -/
theorem alterTable_same {a b : Token} (alter : a.isKeyword .alter = true)
    (table : b.isKeyword .table = true) (stands : Stands closing cursor (a :: b :: more)) :
    Same closing (Parse.alterTable cursor) (Reader.alterTable more) := by
  obtain ⟨_, taken, stands'⟩ := takeKeyword_done alter stands
  obtain ⟨_, taken', stands''⟩ := takeKeyword_done table stands'
  have behind : Performs (do
      let ifExists ← Parse.acceptPair .ifWord .existsWord
      let table ← Parse.tableName
      let clauses ← Parse.loop Parse.clausesTurn []
      Parse.skipSemicolons
      if (← Parse.peek).isEnd then return (⟨table, ifExists, clauses⟩ : AlterTable)
      else Parse.fail .separatorOrEnd) Reader.alterTable := by
    refine .bind (acceptPair_performs _ _) fun _ => .bind tableName_performs fun _ => ?_
    exact .bind clauses_performs fun _ => endOfStatement_performs _
  unfold Parse.alterTable
  rw [bind_done taken, bind_done taken']
  exact behind stands''

/-- The statement that the machine gives, if it gives one. -/
theorem alterTable_result {a b : Token} (alter : a.isKeyword .alter = true)
    (table : b.isKeyword .table = true) (stands : Stands closing cursor (a :: b :: more)) :
    result? (do
      let statement ← Parse.alterTable
      return .alterTable statement) cursor =
      some ((Reader.alterTable more).map fun read => Statement.alterTable read.1) := by
  have result := alterTable_same alter table stands
  unfold result?
  cases read : Reader.alterTable more with
  | error error =>
      rw [read] at result
      cases result with
      | error ends =>
          rw [bind_failed ends]
          rfl
  | ok pair =>
      rw [read] at result
      obtain ⟨ends, -⟩ := result
      rw [bind_done ends]
      rfl

end

/-- At first the cursor is in front of all tokens. -/
theorem stands_withEnd (tokens : List Token) :
    ∃ closing, Stands closing ⟨withEnd tokens, 0⟩ tokens := by
  have nothing : ∀ token ∈ ([] : List Token), token.isEnd = false := fun _ none => nomatch none
  have added (last : Token) (isEnd : last.isEnd = true) :
      Stands [last] ⟨tokens ++ [last], 0⟩ tokens :=
    .intro nothing (by simpa using isEnd)
      ⟨last, List.mem_append_right _ (List.mem_singleton_self last), isEnd⟩
  unfold withEnd
  cases found : tokens.getLast? with
  | none =>
      cases List.getLast?_eq_none_iff.mp found
      exact ⟨_, added _ rfl⟩
  | some last =>
      dsimp only
      by_cases isEnd : last.isEnd = true
      · rw [if_pos isEnd]
        have all : Stands [] ⟨[] ++ (tokens ++ []), 0⟩ tokens :=
          .intro nothing nofun ⟨last, by simpa using List.mem_of_getLast? found, isEnd⟩
        exact ⟨[], by simpa using all⟩
      · rw [if_neg isEnd]
        exact ⟨_, added _ rfl⟩

/-- The machine never traps, whatever tokens it is given. -/
theorem statement?_eq (tokens : List Token) :
    statement? tokens = some (Statement.ofTokens tokens) := by
  obtain ⟨closing, stands⟩ := stands_withEnd tokens
  obtain ⟨skipped, stands'⟩ : Same closing _ (.ok ((), Reader.skipSemicolons tokens)) :=
    skipSemicolons_performs stands
  unfold statement? Parse.statement result? Statement.ofTokens
  rw [bind_done skipped]
  revert stands'
  generalize Reader.skipSemicolons tokens = rest
  intro stands'
  obtain ⟨token, peeked, seen⟩ := stands'.peek
  rw [bind_done peeked]
  cases rest with
  | nil =>
      have isEnd : token.isEnd = true := seen
      rw [if_pos isEnd]
      rfl
  | cons first more =>
      cases seen
      dsimp only
      by_cases isEnd : token.isEnd = true
      · rw [if_pos isEnd, if_pos isEnd]
        rfl
      · rw [if_neg isEnd, if_neg isEnd]
        rcases isAtPair_cases .alter .table stands' with
          ⟨_, next, more, same, alter, table, found⟩ | ⟨other, found⟩
        · cases same
          have both : Reader.afterKeywords? [.alter, .table] (token :: next :: more) =
              some more := by
            rw [Reader.afterKeywords?, if_pos alter, Reader.afterKeywords?, if_pos table]
            rfl
          rw [bind_done found, if_pos rfl, both]
          exact alterTable_result alter table stands'
        · rw [bind_done found, other, if_neg Bool.false_ne_true]
          rfl

end AlterRelay.Checked
