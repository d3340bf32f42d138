/-
# AlterRelay.Proofs.Sql.SignedAddition — a column added, with the sign of its type

Behind the same front, two spellings of a type that differ in their signs alone are
read as statements that differ in nothing else, or refused with the same error
(`ofTokens_addition`), whatever follows. Each reader behind the front agrees with
itself, from the definition of the column to the end of the statement.
-/
import AlterRelay.Proofs.Sql.AdditionFront
import AlterRelay.Proofs.Sql.TypeSigns

namespace AlterRelay.Sql

set_option autoImplicit false

namespace Reader

/-! ## Definitions -/

theorem definition_agree (inParens : Bool) (name : NameForm) {type type' : SignedType}
    (same : type.SameButSigns type') (rest : List Token) :
    Agree (InFront ColumnDefinition.SameButSigns)
      (definition inParens (name.lexeme.token :: (type.lexemes.map Lexeme.token ++ rest)))
      (definition inParens (name.lexeme.token :: (type'.lexemes.map Lexeme.token ++ rest))) := by
  unfold definition
  rw [bind_of_ok (identifier_of_some name.named _), bind_of_ok (identifier_of_some name.named _)]
  refine agree_bind (dataType_agree same rest) fun behind sameType => ?_
  refine agree_bind (agree_same (run inParens) behind) fun final sameSpecs => ?_
  exact agree_pure ⟨rfl, sameType, sameSpecs⟩ final

theorem closing_agree {first first' : ColumnDefinition} (same : first.SameButSigns first')
    (tokens : List Token) :
    Agree (InFront (List.Forall₂ ColumnDefinition.SameButSigns)) (closing first tokens)
      (closing first' tokens) := by
  cases tokens with
  | nil => exact .error _
  | cons token rest =>
      unfold closing
      cases kind : token.kind with
      | closeParen =>
          simp only [kind]
          exact .ok ⟨.cons same .nil, rfl⟩
      | comma =>
          simp only [kind]
          cases definitionsFrom rest with
          | error error => exact .error error
          | ok result => exact .ok ⟨.cons same (ColumnDefinition.SameButSigns.refl _), rfl⟩
      | _ =>
          simp only [kind]
          exact .error _

theorem definitionsFrom_agree (name : NameForm) {type type' : SignedType}
    (same : type.SameButSigns type') (rest : List Token) :
    Agree (InFront (List.Forall₂ ColumnDefinition.SameButSigns))
      (definitionsFrom (name.lexeme.token :: (type.lexemes.map Lexeme.token ++ rest)))
      (definitionsFrom (name.lexeme.token :: (type'.lexemes.map Lexeme.token ++ rest))) := by
  have parts : ∀ tokens, definitionsFrom tokens = (definition true >>= closing) tokens :=
    congrFun definitionsFrom_eq
  rw [parts, parts]
  exact agree_bind (definition_agree true name same rest) fun behind sameFirst =>
    closing_agree sameFirst behind

theorem addedDefinitions_agree (front : ColumnFront) {type type' : SignedType}
    (same : type.SameButSigns type') (rest : List Token) :
    Agree (InFront (List.Forall₂ ColumnDefinition.SameButSigns))
      (addedDefinitions
        (front.opening.map Lexeme.token ++ (type.lexemes.map Lexeme.token ++ rest)))
      (addedDefinitions
        (front.opening.map Lexeme.token ++ (type'.lexemes.map Lexeme.token ++ rest))) := by
  rw [addedDefinitions_front, addedDefinitions_front, definitionsBehind]
  cases front.listed with
  | none =>
      refine agree_bind (definition_agree false front.name same rest) fun behind sameOnly => ?_
      exact agree_pure (.cons sameOnly .nil) behind
  | some earlier =>
      refine agree_bind (definitionsFrom_agree front.name same rest) fun behind sameMore => ?_
      exact agree_pure (List.rel_append (ColumnDefinition.SameButSigns.refl _) sameMore) behind

/-! ## Clauses -/

theorem clause_agree (front : ColumnFront) {type type' : SignedType}
    (same : type.SameButSigns type') (rest : List Token) :
    Agree (InFront Clause.SameButSigns)
      (clause (front.lexemes.map Lexeme.token ++ (type.lexemes.map Lexeme.token ++ rest)))
      (clause (front.lexemes.map Lexeme.token ++ (type'.lexemes.map Lexeme.token ++ rest))) := by
  rw [clause_addition, clause_addition]
  refine agree_bind (addedDefinitions_agree front same rest) fun behind sameDefinitions => ?_
  have sameName : ∀ {definitions definitions' : List ColumnDefinition},
      List.Forall₂ ColumnDefinition.SameButSigns definitions definitions' →
        definitions.head?.map (·.name) = definitions'.head?.map (·.name) := by
    intro definitions definitions' all
    cases all with
    | nil => rfl
    | cons first others => exact congrArg some first.name
  rw [sameName sameDefinitions]
  exact agree_pure (.added _ sameDefinitions) behind

theorem furtherClauses_agree {first first' : Clause} (same : first.SameButSigns first')
    (tokens : List Token) :
    Agree (InFront (List.Forall₂ Clause.SameButSigns)) (furtherClauses first tokens)
      (furtherClauses first' tokens) := by
  cases tokens with
  | nil => exact .ok ⟨.cons same .nil, rfl⟩
  | cons token rest =>
      unfold furtherClauses
      by_cases comma : token.kind = .comma
      · simp only [if_pos comma]
        cases clausesFrom rest with
        | error error => exact .error error
        | ok result => exact .ok ⟨.cons same (Clause.SameButSigns.refl _), rfl⟩
      · simp only [if_neg comma]
        exact .ok ⟨.cons same .nil, rfl⟩

theorem clauseList_agree (front : ColumnFront) {type type' : SignedType}
    (same : type.SameButSigns type') (rest : List Token) :
    Agree (InFront (List.Forall₂ Clause.SameButSigns))
      (clauseList (front.lexemes.map Lexeme.token ++ (type.lexemes.map Lexeme.token ++ rest)))
      (clauseList
        (front.lexemes.map Lexeme.token ++ (type'.lexemes.map Lexeme.token ++ rest))) := by
  have parts : (clausesFrom : Reader _) = clause >>= furtherClauses := clausesFrom_eq
  have clauses : Agree (InFront (List.Forall₂ Clause.SameButSigns))
      ((clause >>= furtherClauses)
        (front.lexemes.map Lexeme.token ++ (type.lexemes.map Lexeme.token ++ rest)))
      ((clause >>= furtherClauses)
        (front.lexemes.map Lexeme.token ++ (type'.lexemes.map Lexeme.token ++ rest))) :=
    agree_bind (clause_agree front same rest) fun behind sameFirst =>
      furtherClauses_agree sameFirst behind
  rw [clauseList, parts]
  refine agree_bind clauses fun behind sameClauses => ?_
  refine agree_bind (agree_same endOfStatement behind) fun final _ => ?_
  exact agree_pure sameClauses final

end Reader

/-- Statements that add a column, whose type is written with other words about its sign, are
the same statement but for that, or refused with the same error. -/
theorem ofTokens_addition (front : AdditionFront) {type type' : SignedType}
    (same : type.SameButSigns type') (rest : List Token) :
    Agree Statement.SameButSigns
      (Statement.ofTokens
        (front.lexemes.map Lexeme.token ++ (type.lexemes.map Lexeme.token ++ rest)))
      (Statement.ofTokens
        (front.lexemes.map Lexeme.token ++ (type'.lexemes.map Lexeme.token ++ rest))) := by
  rw [ofTokens_additionFront, ofTokens_additionFront]
  exact (Reader.clauseList_agree front.column same rest).map fun values =>
    .alterTable _ _ (List.rel_append (Clause.SameButSigns.refl _) values.1)

end AlterRelay.Sql
