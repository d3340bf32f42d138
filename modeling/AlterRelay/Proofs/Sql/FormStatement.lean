/-
# AlterRelay.Proofs.Sql.FormStatement — statements are read as they are meant

Whichever way a statement about columns is written, it is read back as what it
means (`parse_form`). Names that spell keywords, optional words, nested
parentheses and modifiers on both sides of the arguments make no difference, and
neither does the space between the lexemes.

Every clause is read up to what stops it (`clause_written`), so the clauses of a
statement are read one behind the other (`clauseList_written`).
-/
import AlterRelay.Proofs.Sql.FormDefinition
import AlterRelay.Proofs.Sql.FormText

namespace AlterRelay.Sql

set_option autoImplicit false

namespace Reader

variable {rest : List Token}

/-! ## One token -/

/-- The keyword at the front decides which clause it is. -/
theorem clause_of_keyword {keyword : Keyword} (word : KeywordWord keyword) (tokens : List Token) :
    clause (word.lexeme.token :: tokens) =
      (match keyword with
      | .add => addClause
      | .drop => dropClause
      | .change => changeClause
      | .rename => renameClause
      | .modify => modifyClause
      | .alter => alterColumnClause
      | _ => skipped (.other word.text.toUpper)) tokens := by
  have isWord : word.lexeme.token.kind = .word := rfl
  have spelt : word.lexeme.token.keyword? = some keyword := eq_of_beq word.spells_token
  rw [clause, if_pos isWord, clauseBehind, spelt, word.text_token]
  cases keyword <;> rfl

/-- A token that could only be taken for `IF`. -/
def AtMostIf (token : Token) : Prop := token.keyword? = none ∨ token.keyword? = some .ifWord

theorem AtMostIf.not_isKeyword {token : Token} (atMost : AtMostIf token) {keyword : Keyword}
    (other : keyword ≠ .ifWord) : ¬token.isKeyword keyword = true := by
  rcases atMost with none | same
  · simp [Token.isKeyword, none]
  · simp [Token.isKeyword, same, other.symm]

theorem name_atMostIf (name : String) (tokens : List Token) :
    Headed AtMostIf ((Lexeme.name name).token :: tokens) := headed_cons.mpr (.inl rfl)

theorem identifier_name (expected : Expectation) (name : String) (tokens : List Token) :
    identifier expected ((Lexeme.name name).token :: tokens) = .ok (name, tokens) :=
  identifier_of_some rfl tokens

theorem column_optional (column : Option (KeywordWord .column)) (front : Headed AtMostIf rest) :
    acceptKeyword .column ((optionalWord column).map Lexeme.token ++ rest) =
      .ok (column.isSome, rest) := by
  cases column with
  | none => exact acceptKeywords_of_headed (front.mono fun _ at_ => at_.not_isKeyword (by decide))
  | some column => exact acceptKeyword_of_isKeyword column.spells_token rest

/-- Neither `COLUMN` nor `IF` names an object that a clause could be about. -/
theorem peekKeyword_optional {object? : Keyword → Option Operation}
    (others : object? .column = none ∧ object? .ifWord = none)
    (column : Option (KeywordWord .column)) (front : Headed AtMostIf rest) :
    (((optionalWord column).map Lexeme.token ++ rest).head?.bind Token.keyword?).bind object? =
      none := by
  cases column with
  | none =>
      cases rest with
      | nil => rfl
      | cons token rest =>
          show token.keyword?.bind object? = none
          rcases headed_cons.mp front with none | same
          · rw [none]
            rfl
          · rw [same]
            exact others.2
  | some column =>
      have same : column.lexeme.token.keyword? = some .column := eq_of_beq column.spells_token
      show column.lexeme.token.keyword?.bind object? = none
      rw [same]
      exact others.1

/-! ## Clauses -/

variable (column : Option (KeywordWord .column))

theorem dropBehaviour_optional
    (behaviour : Option (Word fun token => isDropBehaviour token = true))
    (stops : Headed (Token.Stops false) rest) :
    acceptDropBehaviour ((optionalWord behaviour).map Lexeme.token ++ rest) = .ok ((), rest) := by
  cases behaviour with
  | none =>
      show acceptDropBehaviour rest = .ok ((), rest)
      cases rest with
      | nil => rfl
      | cons token rest =>
          have other : isDropBehaviour token = false := by
            simp [isDropBehaviour, (headed_cons.mp stops).kind_ne_word]
          simp [acceptDropBehaviour, other]
  | some behaviour =>
      have spelt : isDropBehaviour behaviour.lexeme.token = true := behaviour.spells_token
      show acceptDropBehaviour (behaviour.lexeme.token :: rest) = .ok ((), rest)
      simp [acceptDropBehaviour, spelt]

theorem clause_drop (keyword : KeywordWord .drop) (words : Option IfExists) (name : String)
    (behaviour : Option (Word fun token => isDropBehaviour token = true))
    (stops : Headed (Token.Stops false) rest) :
    clause ((ClauseForm.drop keyword column words name behaviour).lexemes.map Lexeme.token ++
      rest) =
        .ok ((ClauseForm.drop keyword column words name behaviour).clause, rest) := by
  have front : Headed AtMostIf ((IfExists.lexemes words).map Lexeme.token ++
      ((Lexeme.name name).token :: ((optionalWord behaviour).map Lexeme.token ++ rest))) := by
    cases words with
    | none => exact name_atMostIf name _
    | some words => exact headed_cons.mpr (.inr (eq_of_beq words.ifWord.spells_token))
  have noIf : Headed (¬·.isKeyword .ifWord = true)
      ((Lexeme.name name).token :: ((optionalWord behaviour).map Lexeme.token ++ rest)) :=
    headed_cons.mpr Bool.false_ne_true
  have shape : (ClauseForm.drop keyword column words name behaviour).lexemes.map Lexeme.token ++
      rest = keyword.lexeme.token :: ((optionalWord column).map Lexeme.token ++
        ((IfExists.lexemes words).map Lexeme.token ++ ((Lexeme.name name).token ::
          ((optionalWord behaviour).map Lexeme.token ++ rest)))) := by
    simp [ClauseForm.lexemes]
  rw [shape, clause_of_keyword]
  show dropClause _ = _
  rw [dropClause, bind_of_ok rfl, peekKeyword_optional ⟨rfl, rfl⟩ column front]
  show droppedColumn _ = _
  rw [droppedColumn, bind_of_ok (column_optional column front),
    bind_of_ok (ifExists_written words noIf), bind_of_ok (identifier_name _ name _),
    bind_of_ok (dropBehaviour_optional behaviour stops)]
  rfl

theorem renamedTo_written (oldName newName : String) :
    renamedTo oldName ((Lexeme.name newName).token :: rest) =
      .ok ({ operation := .rename, column := newName, oldColumn := oldName }, rest) := by
  rw [renamedTo, bind_of_ok (identifier_name _ newName rest)]
  rfl

/-- Without `COLUMN` the old name is read as the name of a table first. -/
theorem renamedTable_written (oldName : String) (toWord : KeywordWord .toWord) (newName : String) :
    renamedTable ((Lexeme.name oldName).token :: toWord.lexeme.token ::
        (Lexeme.name newName).token :: rest) =
      .ok ({ operation := .rename, column := newName, oldColumn := oldName }, rest) := by
  have noWord : ∀ tokens, acceptToOrAs ((Lexeme.name oldName).token :: tokens) =
      .ok (false, (Lexeme.name oldName).token :: tokens) := by
    intro tokens
    have refused : ∀ keyword, acceptKeyword keyword ((Lexeme.name oldName).token :: tokens) =
        .ok (false, (Lexeme.name oldName).token :: tokens) :=
      fun _ => acceptKeywords_of_headed (headed_cons.mpr Bool.false_ne_true)
    rw [acceptToOrAs, bind_of_ok (refused .toWord)]
    exact refused .asWord
  have noDot : Headed (¬·.kind = .dot)
      (toWord.lexeme.token :: (Lexeme.name newName).token :: rest) :=
    headed_cons.mpr TokenKind.noConfusion
  have table : tableName ((Lexeme.name oldName).token :: toWord.lexeme.token ::
      (Lexeme.name newName).token :: rest) =
        .ok (⟨[oldName]⟩, toWord.lexeme.token :: (Lexeme.name newName).token :: rest) :=
    tableName_written (List.cons_ne_nil oldName []) noDot
  have single : TableName.text ⟨[oldName]⟩ = oldName := by simp [TableName.text]
  rw [renamedTable, bind_of_ok (noWord _), bind_of_ok table,
    bind_of_ok (acceptKeyword_of_isKeyword toWord.spells_token _), single]
  exact renamedTo_written oldName newName

theorem clause_rename (keyword : KeywordWord .rename) (oldName : String)
    (toWord : KeywordWord .toWord) (newName : String) :
    clause ((ClauseForm.rename keyword column oldName toWord newName).lexemes.map Lexeme.token ++
      rest) = .ok ((ClauseForm.rename keyword column oldName toWord newName).clause, rest) := by
  have shape : (ClauseForm.rename keyword column oldName toWord newName).lexemes.map
      Lexeme.token ++ rest = keyword.lexeme.token :: ((optionalWord column).map Lexeme.token ++
        (Lexeme.name oldName).token :: toWord.lexeme.token ::
          (Lexeme.name newName).token :: rest) := by
    simp [ClauseForm.lexemes]
  have front := name_atMostIf oldName
    (toWord.lexeme.token :: (Lexeme.name newName).token :: rest)
  rw [shape, clause_of_keyword]
  show renameClause _ = _
  rw [renameClause, bind_of_ok (column_optional column front)]
  cases column with
  | some column =>
      show renamedColumn _ = _
      rw [renamedColumn, bind_of_ok (identifier_name _ oldName _),
        bind_of_ok (acceptKeyword_of_isKeyword toWord.spells_token _)]
      exact renamedTo_written oldName newName
  | none =>
      rw [Option.isSome_none, if_neg Bool.false_ne_true, bind_of_ok rfl]
      exact renamedTable_written oldName toWord newName

theorem clause_change (keyword : KeywordWord .change) (oldName : String) (new : DefinitionForm)
    (stops : Headed (Token.Stops false) rest) :
    clause ((ClauseForm.change keyword column oldName new).lexemes.map Lexeme.token ++ rest) =
      .ok ((ClauseForm.change keyword column oldName new).clause, rest) := by
  have shape : (ClauseForm.change keyword column oldName new).lexemes.map Lexeme.token ++ rest =
      keyword.lexeme.token :: ((optionalWord column).map Lexeme.token ++
        ((Lexeme.name oldName).token :: (new.lexemes.map Lexeme.token ++ rest))) := by
    simp [ClauseForm.lexemes]
  rw [shape, clause_of_keyword]
  show changeClause _ = _
  rw [changeClause, bind_of_ok (column_optional column (name_atMostIf oldName _)),
    bind_of_ok (identifier_name _ oldName _), bind_of_ok (definition_written new stops)]
  rfl

theorem clause_modify (keyword : KeywordWord .modify) (new : DefinitionForm)
    (stops : Headed (Token.Stops false) rest) :
    clause ((ClauseForm.modify keyword column new).lexemes.map Lexeme.token ++ rest) =
      .ok ((ClauseForm.modify keyword column new).clause, rest) := by
  have shape : (ClauseForm.modify keyword column new).lexemes.map Lexeme.token ++ rest =
      keyword.lexeme.token :: ((optionalWord column).map Lexeme.token ++
        (new.lexemes.map Lexeme.token ++ rest)) := by
    simp [ClauseForm.lexemes]
  have front : Headed AtMostIf (new.lexemes.map Lexeme.token ++ rest) := name_atMostIf new.name _
  rw [shape, clause_of_keyword]
  show modifyClause _ = _
  rw [modifyClause, bind_of_ok (column_optional column front),
    bind_of_ok (definition_written new stops)]
  rfl

/-- What `ADD` adds when no other object is named behind it. -/
theorem clause_add (keyword : KeywordWord .add) {tokens : List Token}
    (front : Headed AtMostIf tokens) {definitions : List ColumnDefinition}
    (read : addedDefinitions tokens = .ok (definitions, rest)) :
    clause (keyword.lexeme.token :: ((optionalWord column).map Lexeme.token ++ tokens)) =
      .ok ({ operation := .add, column := definitions.head?.map (·.name), definitions }, rest) := by
  rw [clause_of_keyword]
  show addClause _ = _
  rw [addClause, bind_of_ok rfl, peekKeyword_optional ⟨rfl, rfl⟩ column front]
  show addedColumns _ = _
  rw [addedColumns, bind_of_ok (column_optional column front), bind_of_ok read]
  rfl

theorem clause_addOne (keyword : KeywordWord .add) (only : DefinitionForm)
    (stops : Headed (Token.Stops false) rest) :
    clause ((ClauseForm.addOne keyword column only).lexemes.map Lexeme.token ++ rest) =
      .ok ((ClauseForm.addOne keyword column only).clause, rest) := by
  have front : Headed AtMostIf (only.lexemes.map Lexeme.token ++ rest) := name_atMostIf only.name _
  have closed : Headed (¬·.kind = .openParen) (only.lexemes.map Lexeme.token ++ rest) :=
    headed_cons.mpr TokenKind.noConfusion
  have read : addedDefinitions (only.lexemes.map Lexeme.token ++ rest) =
      .ok ([only.definition], rest) := by
    rw [addedDefinitions, bind_of_ok (accept_of_headed closed), if_neg Bool.false_ne_true,
      bind_of_ok (definition_written only stops)]
    rfl
  have shape : (ClauseForm.addOne keyword column only).lexemes.map Lexeme.token ++ rest =
      keyword.lexeme.token :: ((optionalWord column).map Lexeme.token ++
        (only.lexemes.map Lexeme.token ++ rest)) := by
    simp [ClauseForm.lexemes]
  rw [shape]
  exact clause_add column keyword front read

theorem clause_addSeveral (keyword : KeywordWord .add) (first : DefinitionForm)
    (others : List DefinitionForm) :
    clause ((ClauseForm.addSeveral keyword column first others).lexemes.map Lexeme.token ++ rest) =
      .ok ((ClauseForm.addSeveral keyword column first others).clause, rest) := by
  have opening : Lexeme.openParen.token.kind = .openParen := rfl
  have inside := definitionsFrom_written first others rest
  have read : addedDefinitions (Lexeme.openParen.token :: (first.lexemes.map Lexeme.token ++
      ((others.flatMap fun other => .comma :: other.lexemes).map Lexeme.token ++
        Lexeme.closeParen.token :: rest))) =
      .ok ((first :: others).map DefinitionForm.definition, rest) := by
    rw [addedDefinitions, bind_of_ok (accept_of_kind opening _), if_pos rfl]
    exact inside
  have shape : (ClauseForm.addSeveral keyword column first others).lexemes.map Lexeme.token ++
      rest = keyword.lexeme.token :: ((optionalWord column).map Lexeme.token ++
        (Lexeme.openParen.token :: (first.lexemes.map Lexeme.token ++
          ((others.flatMap fun other => .comma :: other.lexemes).map Lexeme.token ++
            Lexeme.closeParen.token :: rest)))) := by
    simp [ClauseForm.lexemes]
  rw [shape]
  exact clause_add column keyword (headed_cons.mpr (.inl rfl)) read

/-- A written clause is read as what it means. -/
theorem clause_written (form : ClauseForm) (stops : Headed (Token.Stops false) rest) :
    clause (form.lexemes.map Lexeme.token ++ rest) = .ok (form.clause, rest) := by
  cases form with
  | drop keyword column words name behaviour =>
      exact clause_drop column keyword words name behaviour stops
  | rename keyword column oldName toWord newName =>
      exact clause_rename column keyword oldName toWord newName
  | change keyword column oldName new => exact clause_change column keyword oldName new stops
  | modify keyword column new => exact clause_modify column keyword new stops
  | addOne keyword column only => exact clause_addOne column keyword only stops
  | addSeveral keyword column first others =>
      exact clause_addSeveral column keyword first others

/-! ## Statements -/

theorem clausesFrom_written (first : ClauseForm) (others : List ClauseForm)
    (ends : Headed EndsClauses rest) :
    clausesFrom (first.lexemes.map Lexeme.token ++
        ((others.flatMap fun other => .comma :: other.lexemes).map Lexeme.token ++ rest)) =
      .ok ((first :: others).map ClauseForm.clause, rest) := by
  have split : ∀ tokens, clausesFrom tokens = (clause >>= furtherClauses) tokens :=
    congrFun clausesFrom_eq
  induction others generalizing first with
  | nil =>
      have stops : Headed (Token.Stops false) rest := ends.mono fun _ end_ => end_.endsRun
      have noComma : Headed (¬·.kind = .comma) rest := by
        refine ends.mono fun token end_ comma => ?_
        rcases end_ with semicolon | final
        · rw [comma] at semicolon
          cases semicolon
        · rw [comma] at final
          cases final
      exact (split _).trans ((bind_of_ok (clause_written first stops)).trans
        (furtherClauses_of_headed first.clause noComma))
  | cons second others ih =>
      have stops : ∀ tokens, Headed (Token.Stops false) (Lexeme.comma.token :: tokens) :=
        fun _ => headed_cons.mpr rfl
      rw [split, List.flatMap_cons, List.map_append, List.map_cons, List.append_assoc,
        List.cons_append, bind_of_ok (clause_written first (stops _)),
        furtherClauses_of_comma _ rfl, bind_of_ok (ih second)]
      rfl

theorem endOfStatement_written (semicolons : Nat) :
    endOfStatement ((List.replicate semicolons Lexeme.semicolon).map Lexeme.token ++
      [Token.finish]) = .ok ((), [Token.finish]) := by
  have all : ∀ token ∈ (List.replicate semicolons Lexeme.semicolon).map Lexeme.token,
      (token.kind == .semicolon) = true := by
    intro token member
    obtain ⟨lexeme, listed, rfl⟩ := List.mem_map.mp member
    rw [List.eq_of_mem_replicate listed]
    rfl
  have skipped : skipSemicolons ((List.replicate semicolons Lexeme.semicolon).map Lexeme.token ++
      [Token.finish]) = [Token.finish] := by
    rw [skipSemicolons, List.dropWhile_append_of_pos all]
    rfl
  rw [endOfStatement, skipped]
  rfl

theorem clauseList_written (form : StatementForm) :
    clauseList (form.body.map Lexeme.token ++ [Token.finish]) =
      .ok (form.statement.clauses, [Token.finish]) := by
  have ends : Headed EndsClauses ((List.replicate form.semicolons Lexeme.semicolon).map
      Lexeme.token ++ [Token.finish]) := by
    cases form.semicolons with
    | zero => exact headed_cons.mpr (.inr rfl)
    | succ semicolons => exact headed_cons.mpr (.inl rfl)
  rw [StatementForm.body, List.map_append, List.map_append, List.append_assoc, List.append_assoc,
    clauseList, bind_of_ok (clausesFrom_written form.first form.others ends),
    bind_of_ok (endOfStatement_written form.semicolons)]
  rfl

end Reader

/-- Every form of a statement is read as what it means, however its lexemes are spaced. -/
theorem parse_form (form : StatementForm) :
    Statement.parse form.text = .ok (.alterTable form.statement) ∧
      ∀ source : String, CutInto source.toList form.lexemes →
        Statement.parse source = .ok (.alterTable form.statement) := by
  have front : Headed (¬·.kind = .dot) (form.body.map Lexeme.token) := by
    unfold StatementForm.body
    cases form.first <;> exact headed_cons.mpr TokenKind.noConfusion
  have spaced : ∀ source : String, CutInto source.toList form.lexemes →
      Statement.parse source = .ok (.alterTable form.statement) := by
    intro source cut
    refine toOption_eq_some.mp ?_
    rw [parse_front form.front cut front, Reader.clauseList_written form]
    rfl
  exact ⟨spaced form.text form.text_cutInto, spaced⟩

/-- A definition with a modifier, an argument and a comma inside parentheses behind the type. -/
def trickyDefinition : DefinitionForm where
  name := "CHARSET"
  type :=
    { word := ⟨"character", by decide, trivial⟩
      modifiers := [⟨"Varying", by decide, by decide +kernel⟩]
      arguments := some
        { first :=
            { lexemes := [.word "max"]
              nonempty := List.cons_ne_nil _ _
              whole := AllWhole.nil.word (⟨"max", by decide, trivial⟩ : AnyWord)
              plain := by decide }
          others := []
          modifiers := [] }
      characterSet := none }
  specs := [.word "Check", .openParen, .word "a", .comma, .word "b", .closeParen]
  whole := ((((AllWhole.nil.closeParen.word (⟨"b", by decide, trivial⟩ : AnyWord)).comma).word
    (⟨"a", by decide, trivial⟩ : AnyWord)).openParen).word (⟨"Check", by decide, trivial⟩ : AnyWord)
  balanced := by decide
  noSemicolon := by decide
  unclaimed := by decide +kernel

/-- A statement whose names spell keywords, hold back-quotes or are empty. -/
def trickyForm : StatementForm where
  front :=
    { alter := ⟨"alter", by decide, by decide +kernel⟩
      table := ⟨"Table", by decide, by decide +kernel⟩
      ifExists := some
        ⟨⟨"IF", by decide, by decide +kernel⟩, ⟨"exists", by decide, by decide +kernel⟩⟩
      names := ["db", "in`dex"]
      named := List.cons_ne_nil _ _ }
  first := .addSeveral ⟨"ADD", by decide, by decide +kernel⟩ none trickyDefinition []
  others := [.rename ⟨"rename", by decide, by decide +kernel⟩ none "TO"
    ⟨"to", by decide, by decide +kernel⟩ ""]
  semicolons := 1

def trickyText : String :=
  "alter Table IF exists `db`.`in``dex` ADD ( `CHARSET` character Varying ( max ) " ++
    "Check ( a , b ) ) , rename `TO` to `` ;"

/-- What the statement means. -/
def trickyStatement : AlterTable where
  table := ⟨["db", "in`dex"]⟩
  ifExists := true
  clauses :=
    [{ operation := .add
       column := "CHARSET"
       definitions := [⟨"CHARSET", ⟨"character Varying", ["max"], none⟩,
         ["Check", "(", "a", ",", "b", ")"]⟩] },
      { operation := .rename, column := "", oldColumn := "TO" }]

theorem parse_form_tricky :
    CutInto trickyText.toList trickyForm.lexemes ∧
      Statement.parse trickyText = .ok (.alterTable trickyStatement) := by
  have written : trickyForm.text = trickyText := by decide +kernel
  have meant : trickyForm.statement = trickyStatement := by decide +kernel
  have cut := trickyForm.text_cutInto
  rw [written] at cut
  rw [← meant]
  exact ⟨cut, (parse_form trickyForm).2 trickyText cut⟩

end AlterRelay.Sql
