/-
# AlterRelay.Proofs.Sql.ErrorPlace — an error is told where it is made

An error names the first token at which the input stops being the beginning of an
`ALTER TABLE`. Nothing behind that token matters, and what is in front of it can
be completed to a statement; where the input ends too early, all of it can be
(`error_is_first`).

The reader of a statement is predictive from `ALTER TABLE` on
(`alterTable_predictive`), so an error is told at some token behind which nothing
matters. If the tokens in front of it were not the beginning of a statement, they
would be refused at an earlier place, and places tell tokens apart.
-/
import AlterRelay.Proofs.Sql.PredictiveClause
import AlterRelay.Proofs.Sql.TokenPlaces
import Mathlib.Data.List.TakeWhile

namespace AlterRelay.Sql

set_option autoImplicit false

namespace Reader

/-! ## Statements are read predictively -/

def EndsStatement (token : Token) : Prop := token.isEnd = true

theorem EndsStatement.endsClauses {token : Token} (ends : EndsStatement token) :
    EndsClauses token :=
  .inr (eq_of_beq ends)

theorem endOfStatement_of_headed {tokens : List Token} (front : Headed EndsStatement tokens) :
    endOfStatement tokens = .ok ((), tokens) := by
  cases tokens with
  | nil => rfl
  | cons token tokens =>
      have ends : token.isEnd = true := headed_cons.mp front
      have other : token.kind ≠ .semicolon := by
        rw [eq_of_beq ends]
        exact TokenKind.noConfusion
      simp [endOfStatement, skipSemicolons, other, atEnd, ends]

theorem endOfStatement_of_semicolon {token : Token} (semicolon : token.kind = .semicolon)
    (tokens : List Token) : endOfStatement (token :: tokens) = endOfStatement tokens := by
  have dropped : skipSemicolons (token :: tokens) = skipSemicolons tokens :=
    List.dropWhile_cons_of_pos (by simp [semicolon])
  rw [endOfStatement, dropped]
  rfl

theorem endOfStatement_predicts {opens : Token → Prop} (tokens : List Token) :
    Predicts opens EndsStatement endOfStatement tokens := by
  have stays : ∀ {tokens}, Headed EndsStatement tokens →
      Predicts opens EndsStatement endOfStatement tokens := by
    intro tokens front
    refine Predicts.stay () fun more follows => ?_
    exact endOfStatement_of_headed (follows.headed (fun _ => id) front)
  induction tokens with
  | nil => exact stays (Headed.nil _)
  | cons token tokens ih =>
      by_cases semicolon : token.kind = .semicolon
      · exact Predicts.take _ (endOfStatement_of_semicolon semicolon) ih
      · by_cases ends : token.isEnd = true
        · exact stays (headed_cons.mpr ends)
        · refine Predicts.refuse .separatorOrEnd fun more => ?_
          simp [endOfStatement, skipSemicolons, semicolon, atEnd, ends]

theorem alterTable_predictive : Predictive EndsStatement alterTable := by
  have plain : ∀ token : Token, EndsStatement token → token.IsPlain :=
    fun token ends => ends.endsClauses.endsRun.isPlain
  have body : ∀ (table : TableName) (ifExists : Bool), Predictive EndsStatement
      (do
        let clauses ← clausesFrom
        endOfStatement
        Pure.pure (⟨table, ifExists, clauses⟩ : AlterTable) : Reader AlterTable) := by
    intro table ifExists tokens
    exact (clausesFrom_predictive tokens).bind
      (fun clauses rest _ => (endOfStatement_predicts rest).map _)
      (fun clauses => (endOfStatement_predicts []).map _)
      (fun token => EndsStatement.endsClauses) (fun token ends => ends.endsRun.isPlain)
  -- The table may be named by a word `IF`, which the pair has looked at already.
  have further : ∀ (first : String) (ifExists : Bool), Predictive EndsStatement
      (do
        let parts ← furtherParts
        let clauses ← clausesFrom
        endOfStatement
        Pure.pure (⟨⟨first :: parts⟩, ifExists, clauses⟩ : AlterTable) : Reader AlterTable) :=
    fun first ifExists => furtherParts_predictive.bind (fun parts => body _ ifExists) plain
  have named : ∀ ifExists : Bool, Predictive EndsStatement
      (do
        let table ← tableName
        let clauses ← clausesFrom
        endOfStatement
        Pure.pure (⟨table, ifExists, clauses⟩ : AlterTable) : Reader AlterTable) :=
    fun ifExists => tableName_predictive.bind (fun table => body table ifExists) plain
  refine keywordPair_predictive _ (named true) (named false) (fun token tokens spelt => ?_)
    (fun token => further token.text false) plain
  simp only [tableName, bind_assoc, pure_bind]
  exact bind_of_ok (identifier_of_isKeyword spelt tokens)

end Reader

/-! ## Whole statements -/

/-- Semicolons in front of `ALTER TABLE` are passed over, and what is behind it decides. -/
theorem ofTokens_alterTable {lead : List Token}
    (semicolons : ∀ token ∈ lead, token.kind = .semicolon)
    {first second : Token} (alter : first.isKeyword .alter = true)
    (table : second.isKeyword .table = true) (other : List Token) :
    Statement.ofTokens (lead ++ first :: second :: other) =
      (Reader.alterTable other).map fun read => .alterTable read.1 := by
  have word : first.kind = .word := Token.kind_of_keyword? (eq_of_beq alter)
  have skipped : Reader.skipSemicolons (lead ++ first :: second :: other) =
      first :: second :: other := by
    unfold Reader.skipSemicolons
    rw [List.dropWhile_append_of_pos fun token member => by simp [semicolons token member]]
    exact List.dropWhile_cons_of_neg (by simp [word])
  have proper : first.isEnd = false := by simp [Token.isEnd, word]
  have found : Reader.afterKeywords? [.alter, .table] (first :: second :: other) = some other := by
    simp [Reader.afterKeywords?, alter, table]
  simp [Statement.ofTokens, skipped, proper, found]

/-- Where an `ALTER TABLE` cannot be read, the two words stand in front. -/
theorem ofTokens_error {tokens : List Token} {error : ParseError}
    (failed : Statement.ofTokens tokens = .error error) :
    error = .empty ∨ ∃ lead first second behind, tokens = lead ++ first :: second :: behind ∧
      (∀ token ∈ lead, token.kind = .semicolon) ∧ first.isKeyword .alter = true ∧
      second.isKeyword .table = true ∧ Reader.alterTable behind = .error error := by
  have semicolons : ∀ token ∈ tokens.takeWhile (·.kind == .semicolon),
      token.kind = .semicolon :=
    fun token member => eq_of_beq (List.all_eq_true.mp List.all_takeWhile token member)
  have split := List.takeWhile_append_dropWhile (p := (·.kind == .semicolon)) (l := tokens)
  unfold Statement.ofTokens Reader.skipSemicolons at failed
  split at failed
  · cases failed
    exact .inl rfl
  · rename_i first rest dropped
    rw [dropped] at split
    split at failed
    · cases failed
      exact .inl rfl
    split at failed
    · rename_i behind found
      right
      -- Both keywords were found, so there are two tokens.
      cases rest with
      | nil => simp [Reader.afterKeywords?] at found
      | cons second rest =>
          simp only [Reader.afterKeywords?] at found
          split at found
          · rename_i alter
            split at found
            · rename_i table
              cases found
              cases read : Reader.alterTable behind with
              | error early =>
                  rw [read] at failed
                  cases failed
                  exact ⟨_, first, second, behind, split.symm, semicolons, alter, table, read⟩
              | ok result =>
                  rw [read] at failed
                  cases failed
            · cases found
          · cases found
    · cases failed

/-- The error at remaining tokens is at the first of them, or at the end. -/
theorem expecting_cases (expected : Expectation) {rest : List Token} (noEnd : NoEnd rest) :
    (rest = [] ∧ ParseError.expecting expected rest = .unexpectedEnd expected) ∨
      ∃ token more, rest = token :: more ∧ ParseError.expecting expected rest =
        .unexpectedToken token.text expected token.span.line token.span.column := by
  cases rest with
  | nil => exact .inl ⟨rfl, rfl⟩
  | cons token more =>
      have proper : token.isEnd = false := noEnd token (by simp)
      exact .inr ⟨token, more, rfl, by simp [ParseError.expecting, proper]⟩

/-- Some further tokens make a statement of these. -/
def Completable (tokens : List Token) : Prop :=
  ∃ extra statement, NoEnd extra ∧
    Statement.ofTokens (tokens ++ extra) = .ok (.alterTable statement)

section

variable {lead behind : List Token} {first second : Token}
  (semicolons : ∀ token ∈ lead, token.kind = .semicolon)
  (alter : first.isKeyword .alter = true) (table : second.isKeyword .table = true)

include semicolons alter table

theorem ofTokens_of_ok {statement : AlterTable} {rest : List Token}
    (read : Reader.alterTable behind = .ok (statement, rest)) :
    Statement.ofTokens (lead ++ first :: second :: behind) = .ok (.alterTable statement) := by
  rw [ofTokens_alterTable semicolons alter table, read]
  rfl

theorem ofTokens_of_error {error : ParseError} (failed : Reader.alterTable behind = .error error) :
    Statement.ofTokens (lead ++ first :: second :: behind) = .error error := by
  rw [ofTokens_alterTable semicolons alter table, failed]
  rfl

/-- Where the input ends too early, some further tokens complete it. -/
theorem completable_of_end {expected : Expectation} (noEnd : NoEnd behind)
    (failed : Reader.alterTable behind = .error (.unexpectedEnd expected)) :
    Completable (lead ++ first :: second :: behind) := by
  obtain ⟨extra, statement, proper, -, whole⟩ :=
    (Reader.alterTable_predictive behind).completes noEnd failed
  have read := whole [] (Headed.nil _)
  rw [List.append_nil] at read
  refine ⟨extra, statement, proper, ?_⟩
  have complete := ofTokens_of_ok semicolons alter table read
  simpa using complete

end

/-- What is refused in front of further tokens is refused there, too. -/
theorem refused_in_front {seen : List Token} (more : List Token) {error : ParseError}
    (noEnd : NoEnd seen) (failed : Reader.alterTable seen = .error error) :
    (∃ expected, error = .unexpectedEnd expected) ∨
      ∃ token ∈ seen, ∃ expected, Reader.alterTable (seen ++ more) = .error
        (.unexpectedToken token.text expected token.span.line token.span.column) := by
  obtain ⟨expected, before, rest, rfl, stable⟩ :=
    (Reader.alterTable_predictive seen).fails failed
  have noEnd' : NoEnd rest := fun token member => noEnd token (List.mem_append_right _ member)
  rw [stable rest rfl] at failed
  cases failed
  rcases expecting_cases expected noEnd' with ⟨-, ended⟩ | ⟨token, behind, rfl, told⟩
  · exact .inl ⟨expected, ended⟩
  · right
    refine ⟨token, by simp, expected, ?_⟩
    have proper : token.isEnd = false := noEnd' token (by simp)
    rw [List.append_assoc, List.cons_append, stable (token :: (behind ++ more)) rfl]
    simp [ParseError.expecting, proper]

/-- An error at a token is told at the only token of its place. Nothing behind that token
matters, and what is in front of it can be completed. -/
theorem located_of_error {tokens : List Token} {found : String} {expected : Expectation}
    {line column : Nat} (ordered : tokens.Pairwise fun a b => Precedes a.place b.place)
    (noEnd : NoEnd tokens)
    (failed : Statement.ofTokens tokens = .error (.unexpectedToken found expected line column)) :
    ∃ front token behind, tokens = front ++ token :: behind ∧ token.text = found ∧
      token.place = (line, column) ∧
      (∀ other, Statement.ofTokens (front ++ token :: other) =
        .error (.unexpectedToken found expected line column)) ∧
      Completable front := by
  rcases ofTokens_error failed with empty | ⟨lead, first, second, behind, rfl, semicolons, alter,
    table, failed⟩
  · cases empty
  obtain ⟨expected', seen, rest, rfl, stable⟩ :=
    (Reader.alterTable_predictive behind).fails failed
  have noEnd' : NoEnd (seen ++ rest) := fun token member => noEnd token (by simp [member])
  have noEndSeen : NoEnd seen := fun token member => noEnd' token (List.mem_append_left _ member)
  have noEndRest : NoEnd rest := fun token member => noEnd' token (List.mem_append_right _ member)
  have told := failed
  rw [stable rest rfl] at told
  -- An error with a place is told of a token, not of the end.
  rcases expecting_cases expected' noEndRest with ⟨-, ended⟩ | ⟨token, more, rfl, here⟩
  · rw [ended] at told
    cases told
  rw [here] at told
  cases told
  refine ⟨lead ++ first :: second :: seen, token, more, by simp, rfl, rfl, fun other => ?_, ?_⟩
  · have same : token.isEnd = false := noEndRest token (by simp)
    have refused := ofTokens_of_error semicolons alter table (stable (token :: other) rfl)
    simpa [ParseError.expecting, same] using refused
  -- What was seen is complete, or could be completed, or is refused at an earlier token.
  · cases read : Reader.alterTable seen with
    | ok result =>
        have complete := ofTokens_of_ok semicolons alter table read
        exact ⟨[], result.1, NoEnd.nil, by simpa using complete⟩
    | error early =>
        rcases refused_in_front (token :: more) noEndSeen read with
          ⟨expected'', rfl⟩ | ⟨earlier, member, expected'', there⟩
        · exact completable_of_end semicolons alter table noEndSeen read
        · -- the same error is told at two places, of which one is in front of the other
          rw [failed] at there
          have apart : Precedes earlier.place token.place := by
            have split : lead ++ first :: second :: (seen ++ token :: more) =
                (lead ++ first :: second :: seen) ++ token :: more := by simp
            rw [split] at ordered
            exact (List.pairwise_append.mp ordered).2.2 earlier (by simp [member]) token (by simp)
          injection there with there
          injection there with _ _ line column
          exact absurd (Prod.ext line.symm column.symm) apart.ne

/-- An error is told at the first token at which the tokens of a source, or some of them,
stop being the beginning of a statement, and at the end only if they do not. -/
theorem error_is_first {source : String} {all tokens : List Token}
    (lexed : tokenize source = .ok all) (taken : tokens.Sublist all) (noEnd : NoEnd tokens) :
    (∀ found expected line column,
      Statement.ofTokens tokens = .error (.unexpectedToken found expected line column) →
        ∃ k token, tokens[k]? = some token ∧ token.text = found ∧ token.place = (line, column) ∧
          (∀ (j : Nat) other, tokens[j]? = some other → other.place = (line, column) → j = k) ∧
          (∀ others, others.take (k + 1) = tokens.take (k + 1) →
            Statement.ofTokens others =
              .error (.unexpectedToken found expected line column)) ∧
          Completable (tokens.take k)) ∧
      ∀ expected, Statement.ofTokens tokens = .error (.unexpectedEnd expected) →
        Completable tokens := by
  have ordered := (tokenize_ordered lexed).sublist taken
  constructor
  · intro found expected line column failed
    obtain ⟨front, token, behind, rfl, text, placed, stable, complete⟩ :=
      located_of_error ordered noEnd failed
    refine ⟨front.length, token, by simp, text, placed, fun j other here same => ?_, ?_, ?_⟩
    · obtain ⟨bound, rfl⟩ := List.getElem?_eq_some_iff.mp here
      -- Places are strictly ordered, so no other token stands there.
      have apart := List.pairwise_iff_getElem.mp ordered
      have inside : front.length < (front ++ token :: behind).length := by simp
      have found' : (front ++ token :: behind)[front.length] = token := by simp
      rcases Nat.lt_trichotomy j front.length with less | level | greater
      · have before := apart j front.length bound inside less
        rw [found'] at before
        exact absurd (same.trans placed.symm) before.ne
      · exact level
      · have before := apart front.length j inside bound greater
        rw [found'] at before
        exact absurd (placed.trans same.symm) before.ne
    · intro others agree
      have split := (List.take_append_drop (front.length + 1) others).symm
      have front' : (front ++ token :: behind).take (front.length + 1) = front ++ [token] := by
        simp [List.take_append, List.take_of_length_le]
      rw [agree, front', List.append_assoc, List.singleton_append] at split
      rw [split]
      exact stable _
    · rw [List.take_left]
      exact complete
  · intro expected failed
    rcases ofTokens_error failed with empty | ⟨lead, first, second, behind, rfl, semicolons, alter,
      table, failed⟩
    · cases empty
    · have noEnd' : NoEnd behind := fun token member => noEnd token (by simp [member])
      exact completable_of_end semicolons alter table noEnd' failed

/-- The tokens of a statement with a word too many, and the end. -/
def strayTokens : List Token := (tokenize "ALTER TABLE t DROP a b").toOption.getD []

theorem error_is_first_stray_word :
    tokenize "ALTER TABLE t DROP a b" = .ok strayTokens ∧ NoEnd strayTokens.dropLast ∧
      Statement.ofTokens strayTokens.dropLast =
        .error (.unexpectedToken "b" .separatorOrEnd 1 22) ∧
      ∃ k token, strayTokens.dropLast[k]? = some token ∧ token.text = "b" ∧
        token.place = (1, 22) ∧ Completable (strayTokens.dropLast.take k) := by
  have lexed : tokenize "ALTER TABLE t DROP a b" = .ok strayTokens := by decide +kernel
  have noEnd : NoEnd strayTokens.dropLast := by
    unfold NoEnd
    decide +kernel
  have failed : Statement.ofTokens strayTokens.dropLast =
      .error (.unexpectedToken "b" .separatorOrEnd 1 22) := by decide +kernel
  obtain ⟨k, token, here, text, placed, -, -, complete⟩ :=
    (error_is_first lexed (List.dropLast_sublist _) noEnd).1 _ _ _ _ failed
  exact ⟨lexed, noEnd, failed, k, token, here, text, placed, complete⟩

end AlterRelay.Sql
