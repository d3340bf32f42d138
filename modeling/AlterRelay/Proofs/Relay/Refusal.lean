/-
# AlterRelay.Proofs.Relay.Refusal — why a clause cannot be relayed

A clause is refused for one of three reasons: it does not carry what its
operation is about (`Lacks`), an argument of an added type is no numeral
(`Malformed`), or the resolver has no type to answer with. `Refused` lists them
by what the clause itself carries.

Clauses are relayed in order, so a statement fails with the first clause that is
refused (`relay_eq_error_iff`), and never for a reason of its own.
-/
import AlterRelay.Proofs.Relay.Composition

namespace AlterRelay.Relay

open AlterRelay.Column
open AlterRelay.Source
open AlterRelay.Sql
open AlterRelay.Text

set_option autoImplicit false

/-! ## Clauses that lack something -/

/-- What a clause does not carry although its operation is about it. The old name is asked
for before the new one, and the names before the definition. -/
inductive Lacks (clause : Clause) : RelayError → Prop where
  | definition (adds : clause.operation = .add) (undefined : clause.definitions = []) :
      Lacks clause (.missingDefinition .add)
  | column (drops : clause.operation = .drop) (unnamed : clause.column = none) :
      Lacks clause (.incompleteClause .drop .column)
  | oldName (renames : clause.operation = .change ∨ clause.operation = .rename)
      (unnamed : clause.oldColumn = none) :
      Lacks clause (.incompleteClause clause.operation .oldColumn)
  | newName {oldName : String} (renames : clause.operation = .change ∨ clause.operation = .rename)
      (old : clause.oldColumn = some oldName) (unnamed : clause.column = none) :
      Lacks clause (.incompleteClause clause.operation .column)
  | newDefinition {oldName newName : String} (changes : clause.operation = .change)
      (old : clause.oldColumn = some oldName) (new : clause.column = some newName)
      (undefined : clause.definitions = []) :
      Lacks clause (.missingDefinition .change)

/-- What a clause asks for, by its operation and what it carries. -/
inductive Asks (clause : Clause) : Alteration → Prop where
  | add {first : ColumnDefinition} {more : List ColumnDefinition}
      (adds : clause.operation = .add) (defined : clause.definitions = first :: more) :
      Asks clause (.add first (more.length + 1))
  | drop {column : String} (drops : clause.operation = .drop)
      (named : clause.column = some column) : Asks clause (.drop column)
  | change {oldName newName : String} {new : ColumnDefinition} {more : List ColumnDefinition}
      (changes : clause.operation = .change) (old : clause.oldColumn = some oldName)
      (named : clause.column = some newName) (defined : clause.definitions = new :: more) :
      Asks clause (.change oldName newName new)
  | rename {oldName newName : String} (renames : clause.operation = .rename)
      (old : clause.oldColumn = some oldName) (named : clause.column = some newName) :
      Asks clause (.rename oldName newName)
  | unsupported (other : clause.operation ∉ [.add, .drop, .change, .rename]) :
      Asks clause (.unsupported clause.operation)

theorem Lacks.ofClause {clause : Clause} {error : RelayError} (lacks : Lacks clause error) :
    Alteration.ofClause clause = .error error := by
  unfold Alteration.ofClause
  cases lacks with
  | definition adds undefined => simp [adds, definitionOf, undefined, bind, Except.bind]
  | column drops unnamed => simp [drops, columnOf, unnamed, bind, Except.bind]
  | oldName renames unnamed =>
      rcases renames with same | same <;>
        simp [same, oldColumnOf, unnamed, bind, Except.bind]
  | newName renames old unnamed =>
      rcases renames with same | same <;>
        simp [same, oldColumnOf, columnOf, old, unnamed, bind, Except.bind]
  | newDefinition changes old new undefined =>
      simp [changes, oldColumnOf, columnOf, definitionOf, old, new, undefined, bind, Except.bind]

theorem Asks.ofClause {clause : Clause} {alteration : Alteration} (asks : Asks clause alteration) :
    Alteration.ofClause clause = .ok alteration := by
  unfold Alteration.ofClause
  cases asks with
  | add adds defined => simp [adds, definitionOf, defined, bind, Except.bind, pure, Except.pure]
  | drop drops named => simp [drops, columnOf, named, bind, Except.bind, pure, Except.pure]
  | change changes old named defined =>
      simp [changes, oldColumnOf, columnOf, definitionOf, old, named, defined, bind, Except.bind,
        pure, Except.pure]
  | rename renames old named =>
      simp [renames, oldColumnOf, columnOf, old, named, bind, Except.bind, pure, Except.pure]
  | unsupported other => cases same : clause.operation <;> simp_all [pure, Except.pure]

/-- A clause asks for an alteration, or it lacks something. -/
theorem asks_or_lacks (clause : Clause) :
    (∃ alteration, Asks clause alteration) ∨ ∃ error, Lacks clause error := by
  cases operation : clause.operation with
  | add =>
      cases defined : clause.definitions with
      | nil => exact .inr ⟨_, .definition operation defined⟩
      | cons first more => exact .inl ⟨_, .add operation defined⟩
  | drop =>
      cases named : clause.column with
      | none => exact .inr ⟨_, .column operation named⟩
      | some column => exact .inl ⟨_, .drop operation named⟩
  | change =>
      cases old : clause.oldColumn with
      | none => exact .inr ⟨_, .oldName (.inl operation) old⟩
      | some oldName =>
          cases named : clause.column with
          | none => exact .inr ⟨_, .newName (.inl operation) old named⟩
          | some newName =>
              cases defined : clause.definitions with
              | nil => exact .inr ⟨_, .newDefinition operation old named defined⟩
              | cons new more => exact .inl ⟨_, .change operation old named defined⟩
  | rename =>
      cases old : clause.oldColumn with
      | none => exact .inr ⟨_, .oldName (.inr operation) old⟩
      | some oldName =>
          cases named : clause.column with
          | none => exact .inr ⟨_, .newName (.inr operation) old named⟩
          | some newName => exact .inl ⟨_, .rename operation old named⟩
  | _ => exact .inl ⟨_, .unsupported (by simp [operation])⟩

/-! ## Types of added columns -/

/-- The argument of a type that has to be a numeral and is none: the first one, or the second
of exactly two. -/
inductive Malformed : List String → String → Prop where
  | length {length : String} (more : List String)
      (noNumeral : numeral? (trimBlank length.toList) = none) : Malformed (length :: more) length
  | scale {length scale : String} {size : UInt32}
      (numeral : numeral? (trimBlank length.toList) = some size)
      (noNumeral : numeral? (trimBlank scale.toList) = none) : Malformed [length, scale] scale

theorem readSize_of_none {argument : String}
    (noNumeral : numeral? (trimBlank argument.toList) = none) :
    readSize argument = .error argument := by
  rw [readSize, noNumeral]

theorem readSize_of_some {argument : String} {size : UInt32}
    (numeral : numeral? (trimBlank argument.toList) = some size) :
    readSize argument = .ok size := by
  rw [readSize, numeral]

theorem ofArguments_of_malformed {arguments : List String} {argument : String}
    (malformed : Malformed arguments argument) :
    TypeSizes.ofArguments arguments = .error argument := by
  cases malformed with
  | length more noNumeral =>
      match more with
      | [] => simp [TypeSizes.ofArguments, readSize_of_none noNumeral, bind, Except.bind]
      | [second] => simp [TypeSizes.ofArguments, readSize_of_none noNumeral, bind, Except.bind]
      | second :: third :: more =>
          simp [TypeSizes.ofArguments, readSize_of_none noNumeral, bind, Except.bind]
  | scale numeral noNumeral =>
      simp [TypeSizes.ofArguments, readSize_of_some numeral, readSize_of_none noNumeral, bind,
        Except.bind]

/-- Arguments without a malformed one have sizes. -/
theorem sized_or_malformed (arguments : List String) :
    (∃ sizes, TypeSizes.ofArguments arguments = .ok sizes) ∨
      ∃ argument, Malformed arguments argument := by
  match arguments with
  | [] => exact .inl ⟨_, rfl⟩
  | length :: more =>
      cases numeral : numeral? (trimBlank length.toList) with
      | none => exact .inr ⟨_, .length more numeral⟩
      | some size =>
          match more with
          | [] =>
              left
              simp [TypeSizes.ofArguments, readSize_of_some numeral, bind, Except.bind, pure,
                Except.pure]
          | [scale] =>
              cases numeral' : numeral? (trimBlank scale.toList) with
              | none => exact .inr ⟨_, .scale numeral numeral'⟩
              | some size' =>
                  left
                  simp [TypeSizes.ofArguments, readSize_of_some numeral, readSize_of_some numeral',
                    bind, Except.bind, pure, Except.pure]
          | scale :: third :: more =>
              left
              simp [TypeSizes.ofArguments, readSize_of_some numeral, bind, Except.bind, pure,
                Except.pure]

/-- Why a column cannot be added: a malformed argument of its type, or no type to add it with. -/
inductive Untyped (resolver : TypeResolver) (connector : Connector)
    (definition : ColumnDefinition) : RelayError → Prop where
  | malformed {argument : String} (malformed : Malformed definition.type.arguments argument) :
      Untyped resolver connector definition (.malformedNumericArgument definition.name argument)
  | unresolved {sizes : TypeSizes} {cause : TypeError}
      (sized : TypeSizes.ofArguments definition.type.arguments = .ok sizes)
      (refuses : resolver connector definition.type.name sizes.length sizes.scale = .error cause) :
      Untyped resolver connector definition (.typeResolution definition.name cause)

section

variable {resolver : TypeResolver} {connector : Connector} {definition : ColumnDefinition}

theorem Untyped.targetType {error : RelayError}
    (untyped : Untyped resolver connector definition error) :
    targetType resolver connector definition = .error error := by
  cases untyped with
  | malformed malformed =>
      simp [Relay.targetType, sizesOf, ofArguments_of_malformed malformed, bind, Except.bind]
  | unresolved sized refuses =>
      simp [Relay.targetType, sizesOf, sized, refuses, bind, Except.bind]

theorem targetType_eq_error_iff {error : RelayError} :
    targetType resolver connector definition = .error error ↔
      Untyped resolver connector definition error := by
  refine ⟨fun failed => ?_, Untyped.targetType⟩
  rcases sized_or_malformed definition.type.arguments with ⟨sizes, sized⟩ | ⟨argument, malformed⟩
  · simp only [Relay.targetType, sizesOf, sized, bind, Except.bind] at failed
    split at failed
    · cases failed
    · rename_i cause refuses
      cases failed
      exact .unresolved sized refuses
  · rw [(Untyped.malformed malformed).targetType] at failed
    cases failed
    exact .malformed malformed

end

/-! ## Clauses -/

/-- Why a clause cannot be relayed. -/
inductive Refused (engine : Engine) (connector : Connector) (clause : Clause) :
    RelayError → Prop where
  | lacks {error : RelayError} (lacks : Lacks clause error) : Refused engine connector clause error
  | untyped {first : ColumnDefinition} {more : List ColumnDefinition} {error : RelayError}
      (adds : clause.operation = .add) (defined : clause.definitions = first :: more)
      (untyped : Untyped engine.resolver connector first error) :
      Refused engine connector clause error

section

variable {engine : Engine} {connector : Connector} {clause : Clause}

theorem Asks.clauseRun {alteration : Alteration} (asks : Asks clause alteration) :
    engine.clauseRun connector clause = engine.alterationRun connector alteration := by
  rw [Engine.clauseRun, asks.ofClause]

theorem Refused.failure {error : RelayError} (refused : Refused engine connector clause error) :
    (engine.clauseRun connector clause).failure = some error := by
  cases refused with
  | lacks lacks => rw [Engine.clauseRun, lacks.ofClause]
  | untyped adds defined untyped =>
      rw [(Asks.add adds defined).clauseRun, Engine.alterationRun, untyped.targetType]

/-- Only an addition can fail, for want of a type. -/
theorem alterationRun_failure {alteration : Alteration} {error : RelayError}
    (failed : (engine.alterationRun connector alteration).failure = some error) :
    ∃ definition declarations, alteration = .add definition declarations ∧
      targetType engine.resolver connector definition = .error error := by
  cases alteration with
  | add definition declarations =>
      refine ⟨definition, declarations, rfl, ?_⟩
      rw [Engine.alterationRun] at failed
      cases typed : targetType engine.resolver connector definition with
      | error error' =>
          rw [typed] at failed
          cases failed
          rfl
      | ok type =>
          rw [typed] at failed
          cases failed
  | change oldName newName definition =>
      rw [Engine.alterationRun] at failed
      split at failed <;> cases failed
  | drop column => cases failed
  | rename oldName newName => cases failed
  | unsupported operation => cases failed

/-- A clause fails exactly for the reasons that it is refused for. -/
theorem clauseRun_failure_iff {error : RelayError} :
    (engine.clauseRun connector clause).failure = some error ↔
      Refused engine connector clause error := by
  refine ⟨fun failed => ?_, Refused.failure⟩
  rcases asks_or_lacks clause with ⟨alteration, asks⟩ | ⟨error', lacks⟩
  · rw [asks.clauseRun] at failed
    obtain ⟨definition, declarations, rfl, untyped⟩ := alterationRun_failure failed
    cases asks with
    | add adds defined => exact .untyped adds defined (targetType_eq_error_iff.mp untyped)
  · rw [(Refused.lacks lacks).failure] at failed
    cases failed
    exact .lacks lacks

theorem outcome_eq_error_iff (telling : Telling) {error : RelayError} :
    (engine.clauseRun connector clause).outcome telling = .error error ↔
      Refused engine connector clause error := by
  rw [← clauseRun_failure_iff, Run.outcome]
  cases (engine.clauseRun connector clause).failure <;> simp

end

/-! ## Statements -/

section

variable {ε α β : Type} {attempt : α → Except ε β} {error : ε}

theorem mapM_of_first {before behind : List α} {value : α}
    (earlier : ∀ earlier ∈ before, ∃ result, attempt earlier = .ok result)
    (failed : attempt value = .error error) :
    (before ++ value :: behind).mapM attempt = .error error := by
  induction before with
  | nil =>
      rw [List.nil_append, List.mapM_cons, failed]
      rfl
  | cons first before ih =>
      obtain ⟨⟨result, succeeded⟩, others⟩ := List.forall_mem_cons.mp earlier
      rw [List.cons_append, List.mapM_cons, succeeded, ih others]
      rfl

theorem first_of_mapM {values : List α} (failed : values.mapM attempt = .error error) :
    ∃ before value behind, values = before ++ value :: behind ∧
      (∀ earlier ∈ before, ∃ result, attempt earlier = .ok result) ∧
      attempt value = .error error := by
  induction values with
  | nil => cases failed
  | cons first values ih =>
      rw [List.mapM_cons] at failed
      cases attempted : attempt first with
      | error error' =>
          rw [attempted] at failed
          cases failed
          exact ⟨[], first, values, rfl, by simp, attempted⟩
      | ok result =>
          have behind : values.mapM attempt = .error error := by
            rw [attempted] at failed
            cases others : values.mapM attempt with
            | error error' =>
                rw [others] at failed
                exact failed
            | ok results =>
                rw [others] at failed
                cases failed
          obtain ⟨before, value, rest, rfl, earlier, failed'⟩ := ih behind
          refine ⟨first :: before, value, rest, rfl, ?_, failed'⟩
          exact List.forall_mem_cons.mpr ⟨⟨result, attempted⟩, earlier⟩

/-- Attempts in order fail with the first that fails. -/
theorem mapM_eq_error_iff {values : List α} :
    values.mapM attempt = .error error ↔
      ∃ before value behind, values = before ++ value :: behind ∧
        (∀ earlier ∈ before, ∃ result, attempt earlier = .ok result) ∧
        attempt value = .error error := by
  refine ⟨first_of_mapM, ?_⟩
  rintro ⟨before, value, behind, rfl, earlier, failed⟩
  exact mapM_of_first earlier failed

end

/-- A statement fails with the first of its clauses that is refused. -/
theorem relay_eq_error_iff {engine : Engine} {connector : Connector} {source table : String}
    {statement : AlterTable} (read : engine.read source = .ok (.alterTable statement))
    {error : RelayError} :
    engine.relay connector source table = .error error ↔
      ∃ before clause behind, statement.clauses = before ++ clause :: behind ∧
        (∀ earlier ∈ before, ∀ error, ¬Refused engine connector earlier error) ∧
        Refused engine connector clause error := by
  have succeeds : ∀ clause, (∃ outcome, (engine.clauseRun connector clause).outcome
      (engine.telling source table) = .ok outcome) ↔
        ∀ error, ¬Refused engine connector clause error := by
    intro clause
    simp only [← outcome_eq_error_iff (engine.telling source table)]
    cases (engine.clauseRun connector clause).outcome (engine.telling source table) <;> simp
  have told : engine.relay connector source table = _ := Engine.relay_of_parse read table source
  have mapped : engine.relay connector source table = .error error ↔
      (statement.clauses.mapM fun clause => (engine.clauseRun connector clause).outcome
        (engine.telling source table)) = .error error := by
    rw [told]
    cases statement.clauses.mapM fun clause => (engine.clauseRun connector clause).outcome
      (engine.telling source table) <;> simp [Except.map]
  rw [mapped, mapM_eq_error_iff]
  simp only [succeeds, outcome_eq_error_iff]

/-- A source text fails only as a statement that alters a table. -/
theorem alterTable_of_failed {engine : Engine} {connector : Connector} {source table : String}
    {error : RelayError} (failed : engine.relay connector source table = .error error) :
    ∃ statement, engine.read source = .ok (.alterTable statement) := by
  cases read : engine.read source with
  | error unreadable =>
      rw [Engine.relay, Engine.run, read] at failed
      cases failed
  | ok statement =>
      cases statement with
      | alterTable statement => exact ⟨statement, rfl⟩
      | other keyword =>
          rw [Engine.relay, Engine.run, read] at failed
          cases failed

end AlterRelay.Relay
