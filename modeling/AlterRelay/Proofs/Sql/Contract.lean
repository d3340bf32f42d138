/-
# AlterRelay.Proofs.Sql.Contract — what a clause that was read carries

A clause built by hand may carry anything. One that was read carries exactly the
names and definitions of its operation (`Clause.KeepsContract`), and a statement
that was read names a table and has at least one clause (`named_of_parse`,
`keepsContract_of_parse`).

`Returns` is what a reader promises of its result whatever it is given. It is
kept by sequencing, so every clause reader is checked at the place where it
builds its clause.
-/
import AlterRelay.Sql.StatementReader

namespace AlterRelay.Sql

set_option autoImplicit false

/-- The names and definitions of a clause are those that its operation is about. -/
def Clause.KeepsContract (clause : Clause) : Prop :=
  match clause.operation with
  | .add => ∃ first more, clause.definitions = first :: more ∧
      clause.column = some first.name ∧ clause.oldColumn = none
  | .drop => (∃ column, clause.column = some column) ∧ clause.oldColumn = none ∧
      clause.definitions = []
  | .change => (∃ oldName, clause.oldColumn = some oldName) ∧
      ∃ new, clause.definitions = [new] ∧ clause.column = some new.name
  | .rename => (∃ oldName, clause.oldColumn = some oldName) ∧
      (∃ newName, clause.column = some newName) ∧ clause.definitions = []
  | .modify => clause.oldColumn = none ∧
      ∃ new, clause.definitions = [new] ∧ clause.column = some new.name
  | .alterColumn => (∃ column, clause.column = some column) ∧ clause.oldColumn = none ∧
      clause.definitions = []
  | _ => clause.column = none ∧ clause.oldColumn = none ∧ clause.definitions = []

namespace Reader

variable {α β : Type}

/-! ## Promises about a result -/

/-- Whatever the reader returns, it keeps the promise. Nothing is said of readers that fail. -/
def Returns (reader : Reader α) (promise : α → Prop) : Prop :=
  ∀ ⦃tokens rest : List Token⦄ ⦃value : α⦄, reader tokens = .ok (value, rest) → promise value

theorem Returns.pure {value : α} {promise : α → Prop} (kept : promise value) :
    Returns (Pure.pure value : Reader α) promise := by
  intro tokens rest result taken
  obtain ⟨rfl, -⟩ := pure_eq_ok.mp taken
  exact kept

/-- What is promised of the first value may be used for the second. -/
theorem Returns.bind {reader : Reader α} {next : α → Reader β} {promise : α → Prop}
    {promise' : β → Prop} (first : Returns reader promise)
    (second : ∀ value, promise value → Returns (next value) promise') :
    Returns (reader >>= next) promise' := by
  intro tokens rest value taken
  obtain ⟨middle, behind, taken, taken'⟩ := bind_eq_ok.mp taken
  exact second middle (first taken) taken'

/-- What stands in front says nothing of the result. -/
theorem Returns.after {reader : Reader α} {next : α → Reader β} {promise : β → Prop}
    (second : ∀ value, Returns (next value) promise) : Returns (reader >>= next) promise := by
  have anything : Returns reader fun _ => True := fun _ _ _ _ => trivial
  exact anything.bind fun value _ => second value

/-- Both branches keep the promise. -/
theorem Returns.ite {condition : Prop} [Decidable condition] {first second : Reader α}
    {promise : α → Prop} (yes : Returns first promise) (no : Returns second promise) :
    Returns (if condition then first else second) promise := by
  split
  · exact yes
  · exact no

/-! ## Clauses -/

/-- The operations of clauses that are passed over carry nothing. -/
def CarriesNothing (operation : Operation) : Prop :=
  Clause.KeepsContract { operation }

/-- A clause that is passed over carries nothing but its operation. -/
theorem skipped_keepsContract {operation : Operation} (empty : CarriesNothing operation) :
    Returns (skipped operation) Clause.KeepsContract :=
  Returns.after fun _ => Returns.pure empty

/-- A list of definitions begins with one. -/
theorem definitionsFrom_ne_nil {tokens rest : List Token} {definitions : List ColumnDefinition}
    (taken : definitionsFrom tokens = .ok (definitions, rest)) : definitions ≠ [] := by
  unfold definitionsFrom at taken
  split at taken
  · cases taken
  · cases taken
  · split at taken
    · cases taken
      exact List.cons_ne_nil _ _
    · split at taken
      · cases taken
      · cases taken
        exact List.cons_ne_nil _ _
    · cases taken

theorem addedDefinitions_ne_nil : Returns addedDefinitions (· ≠ []) := by
  refine Returns.after fun _ => Returns.ite (fun _ _ _ taken => definitionsFrom_ne_nil taken) ?_
  exact Returns.after fun _ => Returns.pure (List.cons_ne_nil _ _)

/-- The column of the clause is that of the first definition. -/
theorem addClause_keepsContract : Returns addClause Clause.KeepsContract := by
  refine Returns.after fun word => ?_
  split
  · rename_i operation object
    refine skipped_keepsContract ?_
    obtain ⟨keyword, -, found⟩ := Option.bind_eq_some_iff.mp object
    cases keyword <;> cases found <;> exact ⟨rfl, rfl, rfl⟩
  · refine Returns.after fun _ => Returns.bind addedDefinitions_ne_nil fun definitions some => ?_
    obtain ⟨first, more, rfl⟩ := List.exists_cons_of_ne_nil some
    exact Returns.pure ⟨first, more, rfl, rfl, rfl⟩

theorem dropClause_keepsContract : Returns dropClause Clause.KeepsContract := by
  refine Returns.after fun word => ?_
  split
  · rename_i operation object
    refine skipped_keepsContract ?_
    obtain ⟨keyword, -, found⟩ := Option.bind_eq_some_iff.mp object
    cases keyword <;> cases found <;> exact ⟨rfl, rfl, rfl⟩
  · refine Returns.after fun _ => Returns.after fun _ => Returns.after fun column => ?_
    exact Returns.after fun _ => Returns.pure ⟨⟨column, rfl⟩, rfl, rfl⟩

/-- One definition, with the old name beside it. -/
theorem changeClause_keepsContract : Returns changeClause Clause.KeepsContract :=
  Returns.after fun _ => Returns.after fun oldColumn => Returns.after fun new =>
    Returns.pure ⟨⟨oldColumn, rfl⟩, new, rfl, rfl⟩

/-- Both names are there. -/
theorem renamedTo_keepsContract (oldColumn : String) :
    Returns (renamedTo oldColumn) Clause.KeepsContract :=
  Returns.after fun column => Returns.pure ⟨⟨oldColumn, rfl⟩, ⟨column, rfl⟩, rfl⟩

theorem renameClause_keepsContract : Returns renameClause Clause.KeepsContract := by
  refine Returns.after fun _ => Returns.ite ?_ ?_
  · refine Returns.after fun oldColumn => Returns.after fun _ => ?_
    exact Returns.ite (renamedTo_keepsContract oldColumn) fun _ _ _ taken => by cases taken
  · refine Returns.after fun next => ?_
    split
    · exact skipped_keepsContract ⟨rfl, rfl, rfl⟩
    · exact skipped_keepsContract ⟨rfl, rfl, rfl⟩
    · refine Returns.after fun _ => Returns.after fun name => Returns.after fun _ => ?_
      exact Returns.ite (renamedTo_keepsContract _) (Returns.pure ⟨rfl, rfl, rfl⟩)

theorem modifyClause_keepsContract : Returns modifyClause Clause.KeepsContract :=
  Returns.after fun _ => Returns.after fun new => Returns.pure ⟨rfl, new, rfl, rfl⟩

theorem alterColumnClause_keepsContract : Returns alterColumnClause Clause.KeepsContract :=
  Returns.after fun _ => Returns.after fun column => Returns.after fun _ =>
    Returns.pure ⟨⟨column, rfl⟩, rfl, rfl⟩

/-- Every word of a clause leads to a reader that keeps the contract. -/
theorem clauseBehind_keepsContract (word : Token) :
    Returns (clauseBehind word) Clause.KeepsContract := by
  unfold clauseBehind
  split
  · exact addClause_keepsContract
  · exact dropClause_keepsContract
  · exact changeClause_keepsContract
  · exact renameClause_keepsContract
  · exact modifyClause_keepsContract
  · exact alterColumnClause_keepsContract
  · exact skipped_keepsContract ⟨rfl, rfl, rfl⟩

theorem clause_keepsContract : Returns clause Clause.KeepsContract := by
  intro tokens rest value taken
  unfold clause at taken
  split at taken
  · cases taken
  split at taken
  · exact clauseBehind_keepsContract _ taken
  · cases taken

/-- There is at least one clause, and each of them keeps the contract. -/
theorem clausesFrom_keepsContract {tokens rest : List Token} {clauses : List Clause}
    (taken : clausesFrom tokens = .ok (clauses, rest)) :
    clauses ≠ [] ∧ ∀ clause ∈ clauses, clause.KeepsContract := by
  fun_induction clausesFrom tokens generalizing clauses rest with
  | case1 => cases taken
  | case2 tokens first read =>
      cases taken
      simpa using clause_keepsContract read
  | case3 => cases taken
  | case4 tokens first token behind read _ more final inner ih =>
      cases taken
      have kept := clause_keepsContract read
      simpa [kept] using (ih inner).2
  | case5 tokens first token behind read _ =>
      cases taken
      simpa using clause_keepsContract read

/-! ## Statements -/

/-- A table name has a first part. -/
theorem tableName_parts : Returns tableName fun table => table.parts ≠ [] :=
  Returns.after fun _ => Returns.after fun _ => Returns.pure (List.cons_ne_nil _ _)

theorem alterTable_named : Returns alterTable fun statement => statement.table.parts ≠ [] := by
  refine Returns.after fun _ => Returns.bind tableName_parts fun table named => ?_
  exact Returns.after fun _ => Returns.after fun _ => Returns.pure named

theorem alterTable_keepsContract : Returns alterTable fun statement =>
    statement.clauses ≠ [] ∧ ∀ clause ∈ statement.clauses, clause.KeepsContract := by
  refine Returns.after fun _ => Returns.after fun _ => ?_
  refine Returns.bind (fun _ _ _ taken => clausesFrom_keepsContract taken) ?_
  exact fun clauses kept => Returns.after fun _ => Returns.pure kept

end Reader

/-- A statement that tokens spell was read from those behind `ALTER TABLE`. -/
theorem alterTable_of_ofTokens {tokens : List Token} {statement : AlterTable}
    (read : Statement.ofTokens tokens = .ok (.alterTable statement)) :
    ∃ behind rest, behind <:+ tokens ∧ Reader.alterTable behind = .ok (statement, rest) := by
  unfold Statement.ofTokens at read
  split at read
  · cases read
  rename_i first others skipped
  split at read
  · cases read
  split at read
  · rename_i behind found
    cases taken : Reader.alterTable behind with
    | error error => simp [taken, Except.map] at read
    | ok result =>
        rw [taken] at read
        cases read
        have front : first :: others <:+ tokens := skipped ▸ List.dropWhile_suffix _
        exact ⟨behind, result.2, (Reader.afterKeywords?_suffix found).trans front, taken⟩
  · cases read

/-- A statement that was parsed was read behind `ALTER TABLE`, from a suffix of the tokens. -/
theorem alterTable_of_parse {source : String} {statement : AlterTable}
    (read : Statement.parse source = .ok (.alterTable statement)) :
    ∃ tokens behind rest, tokenize source = .ok tokens ∧ behind <:+ tokens ∧
      Reader.alterTable behind = .ok (statement, rest) := by
  unfold Statement.parse at read
  split at read
  · cases read
  · rename_i tokens lexed
    obtain ⟨behind, rest, within, taken⟩ := alterTable_of_ofTokens read
    exact ⟨tokens, behind, rest, lexed, within, taken⟩

/-- What the reader promises of a statement holds of every statement that was parsed. -/
theorem kept_of_parse {promise : AlterTable → Prop}
    (promised : Reader.Returns Reader.alterTable promise) {source : String}
    {statement : AlterTable} (read : Statement.parse source = .ok (.alterTable statement)) :
    promise statement := by
  obtain ⟨tokens, behind, rest, -, -, taken⟩ := alterTable_of_parse read
  exact promised taken

theorem named_of_parse {source : String} {statement : AlterTable}
    (read : Statement.parse source = .ok (.alterTable statement)) : statement.table.parts ≠ [] :=
  kept_of_parse Reader.alterTable_named read

/-- Whatever is parsed keeps the contract, in every clause. -/
theorem keepsContract_of_parse {source : String} {statement : AlterTable}
    (read : Statement.parse source = .ok (.alterTable statement)) :
    statement.clauses ≠ [] ∧ ∀ clause ∈ statement.clauses, clause.KeepsContract :=
  kept_of_parse Reader.alterTable_keepsContract read

end AlterRelay.Sql
