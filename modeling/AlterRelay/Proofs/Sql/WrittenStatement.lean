/-
# AlterRelay.Proofs.Sql.WrittenStatement — the front of a statement, written and read

An `ALTER TABLE` is written with its table as quoted names with dots between them.
Whatever the names are spelt with, that front is read back, and the reader goes on
with the clauses behind it (`ofTokens_front`). A text that begins so means what
its clauses mean (`parse_front`).
-/
import AlterRelay.Proofs.Sql.ErrorPlace
import AlterRelay.Proofs.Sql.Form

namespace AlterRelay.Sql

open AlterRelay.Text

set_option autoImplicit false

/-! ## Table references -/

theorem intersperse_eq {α : Type} (separator first : α) (others : List α) :
    (first :: others).intersperse separator =
      first :: others.flatMap fun other => [separator, other] := by
  induction others generalizing first with
  | nil => rfl
  | cons second others ih => simp [List.intersperse, ih]

/-- A name in any spelling: a word, or a text in back-quotes or double quotes. -/
structure NameForm where
  lexeme : Lexeme
  name : String
  named : lexeme.token.identifier? = some name

def NameForm.quoted (name : String) : NameForm := ⟨.name name, name, rfl⟩

def NameForm.word (name : String) : NameForm :=
  ⟨.word name, name, congrArg some String.ofList_toList⟩

namespace Reader

theorem furtherParts_named (names : List NameForm) {rest : List Token}
    (front : Headed (¬·.kind = .dot) rest) :
    furtherParts ((names.flatMap fun name => [Lexeme.dot, name.lexeme]).map Lexeme.token ++ rest) =
      .ok (names.map NameForm.name, rest) := by
  induction names with
  | nil => exact furtherParts_of_headed front
  | cons name names ih =>
      have dot : Lexeme.dot.token.kind = .dot := rfl
      simp only [List.flatMap_cons, List.map_cons, List.cons_append, List.nil_append]
      rw [furtherParts_of_dot dot, bind_of_ok (identifier_of_some name.named _), bind_of_ok ih]
      rfl

theorem tableName_named {names : List NameForm} (nonempty : names ≠ []) {rest : List Token}
    (front : Headed (¬·.kind = .dot) rest) :
    tableName (((names.map NameForm.lexeme).intersperse .dot).map Lexeme.token ++ rest) =
      .ok (⟨names.map NameForm.name⟩, rest) := by
  cases names with
  | nil => exact absurd rfl nonempty
  | cons first names =>
      have further := furtherParts_named names front
      rw [List.map_cons, intersperse_eq, List.flatMap_map, List.map_cons, List.cons_append,
        tableName, bind_of_ok (identifier_of_some first.named _), bind_of_ok further]
      rfl

theorem tableName_written {names : List String} (nonempty : names ≠ []) {rest : List Token}
    (front : Headed (¬·.kind = .dot) rest) :
    tableName (((names.map Lexeme.name).intersperse .dot).map Lexeme.token ++ rest) =
      .ok (⟨names⟩, rest) := by
  have forms : names.map NameForm.quoted ≠ [] := by simpa using nonempty
  have read := tableName_named forms front
  simpa [NameForm.quoted, Function.comp_def] using read

/-- The clauses of a statement, up to its end. -/
def clauseList : Reader (List Clause) := do
  let clauses ← clausesFrom
  endOfStatement
  pure clauses

end Reader

/-! ## The front of a statement -/

/-- Lexemes with a space between any two of them. -/
def spaced (lexemes : List Lexeme) : String := " ".intercalate (lexemes.map Lexeme.text)

theorem spaced_cut {lexemes : List Lexeme} (whole : ∀ lexeme ∈ lexemes, lexeme.IsWhole) :
    CutBefore Divides (spaced lexemes).toList lexemes := by
  have joined := CutBefore.joined divides_space fun lexeme member =>
    CutBefore.ofLexeme (whole lexeme member)
  simpa [spaced, Lexeme.text, Function.comp_def] using joined

theorem spaced_written {lexemes : List Lexeme} (whole : ∀ lexeme ∈ lexemes, lexeme.IsWhole) :
    WrittenAs (spaced lexemes).toList lexemes := (spaced_cut whole).written

/-- A table reference: quoted names with dots between them. -/
def referenceText (names : List String) : String :=
  ".".intercalate (names.map fun name => String.ofList (backQuoted name.toList))

def Front.text (front : Front) : String := spaced front.words ++ " " ++ referenceText front.names

theorem Word.isWhole {spells : Token → Prop} (word : Word spells) : word.lexeme.IsWhole :=
  (WrittenAs.word word.isWord).cutInto

theorem IfExists.isWhole (words : Option IfExists) :
    ∀ lexeme ∈ IfExists.lexemes words, lexeme.IsWhole := by
  cases words with
  | none =>
      intro lexeme member
      cases member
  | some words => simp [IfExists.lexemes, Word.isWhole]

theorem Front.written (front : Front) : WrittenAs front.text.toList front.lexemes := by
  have words : WrittenAs (spaced front.words).toList front.words := by
    refine spaced_written ?_
    simpa [Front.words, Word.isWhole] using IfExists.isWhole front.ifExists
  have whole := words.space (WrittenAs.reference front.named)
  simpa [Front.text, referenceText, Front.lexemes, Function.comp_def] using whole

namespace Reader

/-- `IF EXISTS` is taken where it is written, and nowhere else. -/
theorem ifExists_apart (words : Option IfExists) {rest : List Token}
    (apart : afterKeywords? [.ifWord, .existsWord] rest = none) :
    ifExists ((IfExists.lexemes words).map Lexeme.token ++ rest) = .ok (words.isSome, rest) := by
  cases words with
  | none =>
      show ifExists rest = .ok (false, rest)
      rw [ifExists, acceptKeywords, apart]
  | some words =>
      exact acceptKeywords_of_both words.ifWord.spells_token words.existsWord.spells_token rest

theorem ifExists_written (words : Option IfExists) {rest : List Token}
    (front : Headed (¬·.isKeyword .ifWord = true) rest) :
    ifExists ((IfExists.lexemes words).map Lexeme.token ++ rest) = .ok (words.isSome, rest) :=
  ifExists_apart words (afterKeywords?_of_headed front)

theorem clauseList_map {α : Type} (make : List Clause → α) (tokens : List Token) :
    (do
      let clauses ← clausesFrom
      endOfStatement
      pure (make clauses) : Reader α) tokens =
        (clauseList tokens).map fun read => (make read.1, read.2) := by
  have whole : (do
      let clauses ← clausesFrom
      endOfStatement
      pure (make clauses) : Reader α) = clauseList >>= fun clauses => pure (make clauses) := by
    simp only [clauseList, bind_assoc, pure_bind]
  rw [whole]
  cases read : clauseList tokens with
  | error error =>
      rw [bind_of_error read]
      rfl
  | ok result =>
      rw [bind_of_ok read]
      rfl

end Reader

/-- The front of a statement is read back, whichever way its names are spelt, and the clauses
behind it decide. -/
theorem ofTokens_named {lead : List Token} (semicolons : ∀ token ∈ lead, token.kind = .semicolon)
    (alter : KeywordWord .alter) (table : KeywordWord .table) (words : Option IfExists)
    {names : List NameForm} (nonempty : names ≠ []) {rest : List Token}
    (apart : Reader.afterKeywords? [.ifWord, .existsWord]
      (((names.map NameForm.lexeme).intersperse .dot).map Lexeme.token ++ rest) = none)
    (headed : Headed (¬·.kind = .dot) rest) :
    Statement.ofTokens (lead ++ alter.lexeme.token :: table.lexeme.token ::
        ((IfExists.lexemes words).map Lexeme.token ++
          (((names.map NameForm.lexeme).intersperse .dot).map Lexeme.token ++ rest))) =
      (Reader.clauseList rest).map fun read =>
        .alterTable ⟨⟨names.map NameForm.name⟩, words.isSome, read.1⟩ := by
  have started := ofTokens_alterTable semicolons alter.spells_token table.spells_token
  have given := Reader.ifExists_apart words apart
  have named := Reader.tableName_named nonempty headed
  have read : Reader.alterTable ((IfExists.lexemes words).map Lexeme.token ++
      (((names.map NameForm.lexeme).intersperse .dot).map Lexeme.token ++ rest)) =
        (Reader.clauseList rest).map fun read =>
          (⟨⟨names.map NameForm.name⟩, words.isSome, read.1⟩, read.2) := by
    rw [Reader.alterTable, Reader.bind_of_ok given, Reader.bind_of_ok named]
    exact Reader.clauseList_map _ rest
  have whole := (started _).trans
    (congrArg (Except.map fun read => Statement.alterTable read.1) read)
  refine whole.trans ?_
  cases Reader.clauseList rest <;> rfl

theorem ofTokens_front (front : Front) {rest : List Token}
    (headed : Headed (¬·.kind = .dot) rest) :
    Statement.ofTokens (front.lexemes.map Lexeme.token ++ rest) =
      (Reader.clauseList rest).map fun read =>
        .alterTable ⟨⟨front.names⟩, front.ifExists.isSome, read.1⟩ := by
  have lexemes : (front.names.map NameForm.quoted).map NameForm.lexeme =
      front.names.map Lexeme.name := by
    rw [List.map_map]
    rfl
  have names : (front.names.map NameForm.quoted).map NameForm.name = front.names := by
    rw [List.map_map]
    exact List.map_id'' (fun _ => rfl) _
  have quoted : Headed (¬·.isKeyword .ifWord = true)
      (((front.names.map Lexeme.name).intersperse .dot).map Lexeme.token ++ rest) := by
    cases same : front.names with
    | nil => exact absurd same front.named
    | cons first names =>
        rw [List.map_cons, intersperse_eq]
        exact headed_cons.mpr Bool.false_ne_true
  have noLead : ∀ token ∈ ([] : List Token), token.kind = .semicolon := by
    intro token member
    cases member
  have forms : front.names.map NameForm.quoted ≠ [] := by simpa using front.named
  have apart : Reader.afterKeywords? [.ifWord, .existsWord]
      ((((front.names.map NameForm.quoted).map NameForm.lexeme).intersperse .dot).map Lexeme.token
        ++ rest) = none := by
    rw [lexemes]
    exact Reader.afterKeywords?_of_headed quoted
  have read := ofTokens_named noLead front.alter front.table front.ifExists forms apart headed
  rw [lexemes, names] at read
  simpa [Front.lexemes, Front.words] using read

/-- A text means what the clauses behind its front mean. -/
theorem parse_front (front : Front) {source : String} {lexemes : List Lexeme}
    (cut : CutInto source.toList (front.lexemes ++ lexemes))
    (headed : Headed (¬·.kind = .dot) (lexemes.map Lexeme.token)) :
    (Statement.parse source).toOption =
      (Reader.clauseList (lexemes.map Lexeme.token ++ [Token.finish])).toOption.map fun read =>
        .alterTable ⟨⟨front.names⟩, front.ifExists.isSome, read.1⟩ := by
  have finish : Headed (¬·.kind = .dot) [Token.finish] := headed_cons.mpr TokenKind.noConfusion
  rw [parse_of_cutInto cut, List.map_append, List.append_assoc,
    ofTokens_front front (headed.append finish)]
  cases Reader.clauseList (lexemes.map Lexeme.token ++ [Token.finish]) <;> rfl

end AlterRelay.Sql
