/-
# AlterRelay.Proofs.Sql.ReadDefinition — where a definition was read

Whatever stands around it, a definition of a statement was read somewhere among the
tokens of its source, alone or in a list in parentheses
(`readFrom_of_ofTokens`). What holds of every definition that can be read from
these tokens then holds of those in the statement.

`Reads` is kept by sequencing. Most readers give no definition at all, so only the
places where one is read have to be looked at.
-/
import AlterRelay.Proofs.Sql.Contract

namespace AlterRelay.Sql

set_option autoImplicit false

/-- A definition is read in front of one of the tokens. -/
def ColumnDefinition.ReadFrom (tokens : List Token) (definition : ColumnDefinition) : Prop :=
  ∃ inParens front rest, front <:+ tokens ∧
    Reader.definition inParens front = .ok (definition, rest)

/-- A definition that is read somewhere behind is read from there. -/
theorem ColumnDefinition.ReadFrom.of_suffix {tokens more : List Token}
    {definition : ColumnDefinition} (read : definition.ReadFrom tokens)
    (within : tokens <:+ more) : definition.ReadFrom more := by
  obtain ⟨inParens, front, rest, suffix, taken⟩ := read
  exact ⟨inParens, front, rest, suffix.trans within, taken⟩

namespace Reader

variable {α β : Type} {reader : Reader α}

/-! ## Readers and the definitions in their results -/

/-- Every definition in a result was read from the tokens that the reader was given. -/
def Reads (reader : Reader α) (definitionsOf : α → List ColumnDefinition) : Prop :=
  ∀ ⦃tokens rest : List Token⦄ ⦃value : α⦄, reader tokens = .ok (value, rest) →
    ∀ definition ∈ definitionsOf value, definition.ReadFrom tokens

/-- A reader that returns no definitions has read all of them. -/
theorem Reads.of_none {definitionsOf : α → List ColumnDefinition}
    (none : Returns reader (definitionsOf · = [])) : Reads reader definitionsOf := by
  intro tokens rest value taken definition member
  rw [none taken] at member
  cases member

/-- What the first reader takes does not matter, as long as it takes it from the front. -/
theorem Reads.after {next : α → Reader β} {definitionsOf : β → List ColumnDefinition}
    (front : Shrinks reader) (second : ∀ value, Reads (next value) definitionsOf) :
    Reads (reader >>= next) definitionsOf := by
  intro tokens rest result taken definition member
  obtain ⟨value, behind, taken, taken'⟩ := bind_eq_ok.mp taken
  exact (second value taken' definition member).of_suffix (front taken)

/-- What follows may put the definitions anywhere in its result. -/
theorem Reads.bind {next : α → Reader β} {definitionsOf : α → List ColumnDefinition}
    {definitionsOf' : β → List ColumnDefinition} (first : Reads reader definitionsOf)
    (kept : ∀ value, Returns (next value) (definitionsOf' · = definitionsOf value)) :
    Reads (reader >>= next) definitionsOf' := by
  intro tokens rest result taken definition member
  obtain ⟨value, behind, taken, taken'⟩ := bind_eq_ok.mp taken
  exact first taken definition (kept value taken' ▸ member)

/-- Both branches return definitions that were read. -/
theorem Reads.ite {condition : Prop} [Decidable condition] {first second : Reader α}
    {definitionsOf : α → List ColumnDefinition} (yes : Reads first definitionsOf)
    (no : Reads second definitionsOf) :
    Reads (if condition then first else second) definitionsOf := by
  split
  · exact yes
  · exact no

/-! ## Definitions -/

/-- The reader of definitions itself. -/
theorem definition_reads (inParens : Bool) : Reads (definition inParens) fun read => [read] := by
  intro tokens rest value taken definition member
  rw [List.mem_singleton.mp member]
  exact ⟨inParens, tokens, rest, List.suffix_refl tokens, taken⟩

/-- By induction on what is left, as a list goes on behind a definition. -/
theorem definitionsFrom_reads : Reads definitionsFrom id := by
  intro tokens rest definitions taken
  show ∀ definition ∈ definitions, definition.ReadFrom tokens
  fun_induction definitionsFrom tokens generalizing definitions rest with
  | case1 => cases taken
  | case2 => cases taken
  | case3 tokens first token behind read _ =>
      cases taken
      exact definition_reads true read
  | case4 => cases taken
  | case5 tokens first token behind read _ more final inner ih =>
      cases taken
      have here := definition_reads true read first List.mem_cons_self
      have within : behind <:+ tokens :=
        (List.suffix_cons token behind).trans (definition_shrinks true read)
      refine List.forall_mem_cons.mpr ⟨here, fun definition member => ?_⟩
      exact (ih inner definition member).of_suffix within
  | case6 => cases taken

theorem addedDefinitions_reads : Reads addedDefinitions id :=
  Reads.after (accept_shrinks _) fun _ => Reads.ite definitionsFrom_reads
    (Reads.bind (definition_reads false) fun _ => Returns.pure rfl)

/-! ## Clauses -/

theorem skipped_reads (operation : Operation) : Reads (skipped operation) Clause.definitions :=
  Reads.of_none (Returns.after fun _ => Returns.pure rfl)

/-- An addition returns what was read in parentheses or without. -/
theorem addClause_reads : Reads addClause Clause.definitions := by
  refine Reads.after peekKeyword_shrinks fun next => ?_
  split
  · exact skipped_reads _
  · exact Reads.after (acceptKeyword_shrinks _) fun _ =>
      Reads.bind addedDefinitions_reads fun _ => Returns.pure rfl

theorem dropClause_reads : Reads dropClause Clause.definitions := by
  refine Reads.after peekKeyword_shrinks fun next => ?_
  split
  · exact skipped_reads _
  · exact Reads.of_none (Returns.after fun _ => Returns.after fun _ => Returns.after fun _ =>
      Returns.after fun _ => Returns.pure rfl)

theorem changeClause_reads : Reads changeClause Clause.definitions :=
  Reads.after (acceptKeyword_shrinks _) fun _ => Reads.after (identifier_shrinks _) fun _ =>
    Reads.bind (definition_reads false) fun _ => Returns.pure rfl

theorem renameClause_reads : Reads renameClause Clause.definitions := by
  have renamed : ∀ oldColumn, Returns (renamedTo oldColumn) (·.definitions = []) :=
    fun _ => Returns.after fun _ => Returns.pure rfl
  refine Reads.after (acceptKeyword_shrinks _) fun _ => Reads.ite ?_ ?_
  · refine Reads.of_none (Returns.after fun oldColumn => Returns.after fun _ => ?_)
    exact Returns.ite (renamed oldColumn) fun _ _ _ taken => by cases taken
  · refine Reads.after peekKeyword_shrinks fun next => ?_
    split
    · exact skipped_reads _
    · exact skipped_reads _
    · refine Reads.of_none (Returns.after fun _ => Returns.after fun _ => Returns.after fun _ => ?_)
      exact Returns.ite (renamed _) (Returns.pure rfl)

theorem modifyClause_reads : Reads modifyClause Clause.definitions :=
  Reads.after (acceptKeyword_shrinks _) fun _ =>
    Reads.bind (definition_reads false) fun _ => Returns.pure rfl

theorem alterColumnClause_reads : Reads alterColumnClause Clause.definitions :=
  Reads.of_none (Returns.after fun _ => Returns.after fun _ => Returns.after fun _ =>
    Returns.pure rfl)

/-- Only additions, changes and modifications carry definitions. -/
theorem clauseBehind_reads (word : Token) : Reads (clauseBehind word) Clause.definitions := by
  unfold clauseBehind
  split
  · exact addClause_reads
  · exact dropClause_reads
  · exact changeClause_reads
  · exact renameClause_reads
  · exact modifyClause_reads
  · exact alterColumnClause_reads
  · exact skipped_reads _

theorem clause_reads : Reads clause Clause.definitions := by
  intro tokens rest value taken definition member
  unfold clause at taken
  split at taken
  · cases taken
  split at taken
  · exact (clauseBehind_reads _ taken definition member).of_suffix (List.suffix_cons _ _)
  · cases taken

/-- Every definition of a statement belongs to one of its clauses. -/
theorem clausesFrom_reads : Reads clausesFrom (List.flatMap Clause.definitions) := by
  intro tokens rest clauses taken
  fun_induction clausesFrom tokens generalizing clauses rest with
  | case1 => cases taken
  | case2 tokens first read =>
      cases taken
      simpa using clause_reads read
  | case3 => cases taken
  | case4 tokens first token behind read _ more final inner ih =>
      cases taken
      have within : behind <:+ tokens :=
        (List.suffix_cons token behind).trans (clause_shrinks read)
      rw [List.flatMap_cons]
      refine List.forall_mem_append.mpr ⟨clause_reads read, fun definition member => ?_⟩
      exact (ih inner definition member).of_suffix within
  | case5 tokens first token behind read _ =>
      cases taken
      simpa using clause_reads read

/-! ## Statements -/

/-- The table name holds no definitions. -/
theorem alterTable_reads :
    Reads alterTable fun statement => statement.clauses.flatMap Clause.definitions := by
  refine Reads.after (acceptKeywords_shrinks _) fun _ => Reads.after tableName_shrinks fun _ => ?_
  exact Reads.bind clausesFrom_reads fun _ => Returns.after fun _ => Returns.pure rfl

end Reader

/-- The definitions of a statement were read from its tokens. -/
theorem readFrom_of_ofTokens {tokens : List Token} {statement : AlterTable}
    (read : Statement.ofTokens tokens = .ok (.alterTable statement)) {clause : Clause}
    (listed : clause ∈ statement.clauses) {definition : ColumnDefinition}
    (member : definition ∈ clause.definitions) : definition.ReadFrom tokens := by
  obtain ⟨behind, rest, within, taken⟩ := alterTable_of_ofTokens read
  have among : definition ∈ statement.clauses.flatMap Clause.definitions :=
    List.mem_flatMap.mpr ⟨clause, listed, member⟩
  exact (Reader.alterTable_reads taken definition among).of_suffix within

end AlterRelay.Sql
