/-
# AlterRelay.Proofs.Sql.PredictiveClause — clauses are read predictively

Every reader from a run of tokens to a whole list of clauses decides by the
tokens it takes and the one behind them (`clause_predictive`,
`clausesFrom_predictive`). A missing name or type is supplied by a word, an open
parenthesis by closing it, and a `RENAME COLUMN` by its `TO`.
-/
import AlterRelay.Proofs.Sql.Predictive

namespace AlterRelay.Sql.Reader

set_option autoImplicit false

variable {α : Type} {stops : Token → Prop}

/-! ## Runs -/

/-- A closing parenthesis, which is supplied where one is missing. -/
def closer : Token := ⟨.closeParen, ⟨0, 0, 0, 0⟩, ")"⟩

theorem closer_stops : closer.Stops true := rfl

/-- A run goes on by every token it takes, and its open parentheses can be closed. -/
theorem runFrom_predicts (inParens : Bool) (depth : Nat) (tokens : List Token) :
    Predicts Token.IsPlain (Token.Stops inParens) (runFrom inParens depth) tokens := by
  have stays : ∀ {tokens}, Headed (Token.Stops inParens) tokens →
      Predicts Token.IsPlain (Token.Stops inParens) (runFrom inParens 0) tokens := by
    intro tokens stopped
    refine Predicts.stay [] fun more follows => ?_
    exact runFrom_of_stops (follows.headed (fun _ => id) stopped)
  induction tokens generalizing depth with
  | nil =>
      induction depth with
      | zero => exact stays (Headed.nil _)
      | succ depth ih =>
          have step : runStep inParens (depth + 1) closer.kind = .take depth := rfl
          have missed : runFrom inParens (depth + 1) [] = .error (.expecting .closing []) := rfl
          exact Predicts.supply _ missed rfl closer_stops.isPlain
            (runFrom_of_take step) (ih.map _)
  | cons token tokens ih =>
      cases step : runStep inParens depth token.kind with
      | stop =>
          cases depth_of_runStep step
          exact stays (headed_cons.mpr step)
      | refuse expected => exact Predicts.refuse expected fun more => by rw [runFrom, step]
      | take next => exact Predicts.take _ (runFrom_of_take step) ((ih next).map _)

/-- A run is one that begins at depth zero. -/
theorem run_predictive (inParens : Bool) : Predictive (Token.Stops inParens) (run inParens) :=
  runFrom_predicts inParens 0

/-- Nothing of a clause that is passed over can be missing. -/
theorem skipped_predictive (operation : Operation) :
    Predictive (Token.Stops false) (skipped operation) := by
  intro tokens
  exact ((run_predictive false tokens).map fun _ => ()).map fun _ => ({ operation } : Clause)

/-! ## Definitions -/

/-- Modifiers end at the first token that is none, and any plain token is none. -/
theorem typeModifiers_predictive : Predictive Token.IsPlain typeModifiers := by
  have stays : ∀ {tokens}, Headed (¬isTypeModifier · = true) tokens →
      Predicts Token.IsPlain Token.IsPlain typeModifiers tokens := by
    intro tokens front
    refine Predicts.stay [] fun more follows => ?_
    have front' : Headed (¬isTypeModifier · = true) more := by
      refine follows.headed (fun token plain => ?_) front
      rw [isTypeModifier, plain.1]
      exact Bool.false_ne_true
    cases more with
    | nil => rfl
    | cons token more =>
        rw [typeModifiers, List.takeWhile_cons_of_neg (headed_cons.mp front'),
          List.dropWhile_cons_of_neg (headed_cons.mp front')]
        rfl
  intro tokens
  induction tokens with
  | nil => exact stays (Headed.nil _)
  | cons token tokens ih =>
      by_cases modifier : isTypeModifier token = true
      · refine Predicts.take _ (fun more => ?_) (ih.map fun texts => token.text :: texts)
        rw [typeModifiers, List.takeWhile_cons_of_pos modifier,
          List.dropWhile_cons_of_pos modifier]
        rfl
      · exact stays (headed_cons.mpr modifier)

/-- Arguments that have begun can be closed by a parenthesis, whatever has been read of them. -/
theorem argumentsFrom_predicts (current : List String) (tokens : List Token) :
    Predicts Token.IsPlain stops (argumentsFrom current) tokens := by
  induction tokens generalizing current with
  | nil =>
      exact Predicts.supply (Pure.pure _) rfl rfl closer_stops.isPlain (fun _ => rfl)
        (Predictive.pure (if current.isEmpty then [] else [" ".intercalate current]) [])
  | cons token tokens ih =>
      cases kind : token.kind with
      | endOfInput => exact Predicts.refuse .closing fun more => by rw [argumentsFrom, kind]
      | openParen => exact Predicts.refuse .typeArgument fun more => by rw [argumentsFrom, kind]
      | closeParen =>
          refine Predicts.take (Pure.pure _) (fun more => ?_) (Predictive.pure
            (if current.isEmpty then [] else [" ".intercalate current]) tokens)
          rw [argumentsFrom, kind]
          rfl
      | comma =>
          exact Predicts.take _ (argumentsFrom_of_comma kind current) ((ih []).map _)
      | _ =>
          refine Predicts.take _ (fun more => ?_) (ih (current ++ [token.text]))
          rw [argumentsFrom, kind]

/-- Parentheses decide by the first token whether there are arguments. -/
theorem typeArguments_predictive : Predictive Token.IsPlain typeArguments :=
  parens_predictive (argumentsFrom_predicts []) (Predictive.pure []) fun _ => id

/-- The end of a definition. A `CHARACTER` by itself begins the run behind the type. -/
theorem specs_predictive (inParens : Bool) (make : Option String → List String → α) :
    Predictive (Token.Stops inParens) (characterSet >>= fun characterSet =>
      run inParens >>= fun specs => Pure.pure (make characterSet specs)) := by
  have plain : ∀ token : Token, token.Stops inParens → token.IsPlain := fun _ => Token.Stops.isPlain
  have specs : ∀ characterSet, Predictive (Token.Stops inParens)
      (run inParens >>= fun specs => Pure.pure (make characterSet specs)) :=
    fun characterSet tokens => (run_predictive inParens tokens).map (make characterSet)
  have named : Predictive Token.IsPlain (some <$> identifier .characterSet) :=
    fun tokens => (identifier_predictive .characterSet tokens).map some
  have charset : Predictive Token.IsPlain (acceptKeyword .charset >>= fun hit =>
      if hit then some <$> identifier .characterSet else Pure.pure none) :=
    (acceptKeyword_predictive .charset).bind (fun _ => named.ite (Predictive.pure none))
      fun _ => id
  unfold characterSet
  rw [bind_assoc]
  refine keywordPair_predictive
    (fun token => run inParens >>= fun specs => Pure.pure (make none (token.text :: specs)))
    (named.bind specs plain) (charset.bind specs plain) ?_
    (fun token tokens => (run_predictive inParens tokens).map fun specs =>
      make none (token.text :: specs)) plain
  -- `CHARACTER` without `SET` belongs to the run, as its first token.
  intro token tokens spelt
  have step : runStep inParens 0 token.kind = .take 0 := by
    rw [Token.kind_of_keyword? (eq_of_beq spelt)]
    rfl
  have other : acceptKeyword .charset (token :: tokens) = .ok (false, token :: tokens) := by
    refine acceptKeywords_of_headed (headed_cons.mpr ?_)
    rw [Token.isKeyword, eq_of_beq spelt]
    decide
  have none' : (acceptKeyword .charset >>= fun hit =>
      if hit then some <$> identifier .characterSet else Pure.pure none) (token :: tokens) =
        .ok (none, token :: tokens) := bind_of_ok other
  refine (bind_of_ok none').trans ?_
  cases read : run inParens tokens with
  | error error =>
      have whole : run inParens (token :: tokens) = .error error :=
        (runFrom_of_take step tokens).trans (bind_of_error read)
      rw [bind_of_error whole, bind_of_error read]
  | ok result =>
      have whole : run inParens (token :: tokens) = .ok (token.text :: result.1, result.2) :=
        (runFrom_of_take step tokens).trans (bind_of_ok read)
      rw [bind_of_ok whole, bind_of_ok read]

/-- A missing name or type is supplied by a word. What may follow is what stops a run. -/
theorem definition_predictive (inParens : Bool) :
    Predictive (Token.Stops inParens) (definition inParens) := by
  have plain : ∀ token : Token, token.Stops inParens → token.IsPlain := fun _ => Token.Stops.isPlain
  unfold definition dataType
  simp only [bind_assoc, pure_bind]
  refine (identifier_predictive .columnName).bind (fun name => ?_) plain
  refine typeWord_predictive.bind (fun word => ?_) plain
  refine typeModifiers_predictive.bind (fun before => ?_) plain
  refine typeArguments_predictive.bind (fun arguments => ?_) plain
  refine typeModifiers_predictive.bind (fun behind => ?_) plain
  exact specs_predictive inParens _

/-! ## Clauses -/

/-- Behind a definition the list is closed or goes on. It may be closed where the tokens end. -/
theorem closing_predicts (first : ColumnDefinition) {tokens : List Token}
    (further : ∀ rest, rest.length < tokens.length →
      Predicts Token.IsPlain (Token.Stops false) definitionsFrom rest) :
    Predicts (Token.Stops true) (Token.Stops false) (closing first) tokens := by
  cases tokens with
  | nil =>
      exact Predicts.supply (Pure.pure [first]) rfl rfl closer_stops (fun _ => rfl)
        (Predictive.pure [first] [])
  | cons token tokens =>
      cases kind : token.kind with
      | closeParen =>
          refine Predicts.take (Pure.pure [first]) (fun more => ?_) (Predictive.pure _ tokens)
          rw [closing, kind]
          rfl
      | comma =>
          exact Predicts.take _ (closing_of_comma first kind)
            ((further tokens (by simp)).map _)
      | _ => exact Predicts.refuse .separatorOrClosing fun more => by rw [closing, kind]

/-- By induction on the length of the tokens, with `closing_predicts` for a step. -/
theorem definitionsFrom_predictive : Predictive (Token.Stops false) definitionsFrom := by
  intro tokens
  induction size : tokens.length using Nat.strongRecOn generalizing tokens with
  | ind length shorter =>
      rw [definitionsFrom_eq]
      refine (definition_predictive true tokens).bind (fun first rest read => ?_) (fun first => ?_)
        (fun token => Token.Stops.inParens) (fun token => Token.Stops.isPlain)
      · have smaller := (definition_shrinks true read).length_le
        refine closing_predicts first fun others less => shorter _ ?_ others rfl
        omega
      · exact closing_predicts first fun others less => absurd less (Nat.not_lt_zero _)

/-- The parenthesis is taken first, and then decides. -/
theorem addedDefinitions_predictive : Predictive (Token.Stops false) addedDefinitions :=
  parens_predictive definitionsFrom_predictive
    (fun tokens => (definition_predictive false tokens).map fun only => [only])
    fun _ => Token.Stops.isPlain

/-- The keyword behind `ADD` is only looked at, and no plain token that may follow is one. -/
theorem addClause_predictive : Predictive (Token.Stops false) addClause := by
  refine peekKeyword_predictive.bind (fun next => ?_) Token.stops_plain
  split
  · exact skipped_predictive _
  · refine (acceptKeyword_predictive .column).bind (fun _ => ?_) Token.stops_plain
    exact fun tokens => (addedDefinitions_predictive tokens).map _

/-- One word at most is taken behind the name. -/
theorem acceptDropBehaviour_predictive : Predictive (Token.Stops false) acceptDropBehaviour := by
  have stays : ∀ {tokens}, Headed (¬isDropBehaviour · = true) tokens →
      Predicts Token.IsPlain (Token.Stops false) acceptDropBehaviour tokens := by
    intro tokens front
    refine Predicts.stay () fun more follows => ?_
    have front' : Headed (¬isDropBehaviour · = true) more := by
      refine follows.headed (fun token stops behaviour => ?_) front
      exact stops.kind_ne_word (eq_of_beq ((Bool.and_eq_true _ _).mp behaviour).1)
    cases more with
    | nil => rfl
    | cons token more => simp [acceptDropBehaviour, headed_cons.mp front']
  intro tokens
  cases tokens with
  | nil => exact stays (Headed.nil _)
  | cons token tokens =>
      by_cases behaviour : isDropBehaviour token = true
      · refine Predicts.take (Pure.pure ()) (fun more => ?_) (Predictive.pure () tokens)
        simp only [acceptDropBehaviour, List.head?_cons, Option.any_some, behaviour, if_true,
          List.tail_cons]
        rfl
      · exact stays (headed_cons.mpr behaviour)

/-- A `DROP` that ends too early lacks a name. -/
theorem dropClause_predictive : Predictive (Token.Stops false) dropClause := by
  refine peekKeyword_predictive.bind (fun next => ?_) Token.stops_plain
  split
  · exact skipped_predictive _
  · refine (acceptKeyword_predictive .column).bind (fun _ => ?_) Token.stops_plain
    have named : ∀ column : String, Predictive (Token.Stops false) (acceptDropBehaviour >>= fun _ =>
        Pure.pure ({ operation := .drop, column } : Clause)) :=
      fun column tokens => (acceptDropBehaviour_predictive tokens).map _
    have dropped : Predictive (Token.Stops false) (identifier .columnName >>= fun column =>
        acceptDropBehaviour >>= fun _ => Pure.pure ({ operation := .drop, column } : Clause)) :=
      (identifier_predictive .columnName).bind named Token.stops_plain
    exact keywordPair_predictive _ dropped dropped
      (fun token tokens spelt => bind_of_ok (identifier_of_isKeyword spelt tokens))
      (fun token => named token.text) Token.stops_plain

/-- A `CHANGE` lacks its old name or some of its definition. -/
theorem changeClause_predictive : Predictive (Token.Stops false) changeClause := by
  refine (acceptKeyword_predictive .column).bind (fun _ => ?_) Token.stops_plain
  refine (identifier_predictive .columnName).bind (fun _ => ?_) Token.stops_plain
  exact fun tokens => (definition_predictive false tokens).map _

/-- Where the tokens end behind a dot, a part is supplied. -/
theorem furtherParts_predictive : Predictive Token.IsPlain furtherParts := by
  have stays : ∀ {tokens}, Headed (¬·.kind = .dot) tokens →
      Predicts Token.IsPlain Token.IsPlain furtherParts tokens := by
    intro tokens front
    refine Predicts.stay [] fun more follows => ?_
    exact furtherParts_of_headed (follows.headed (fun token plain => plain.2.1) front)
  intro tokens
  induction size : tokens.length using Nat.strongRecOn generalizing tokens with
  | ind length shorter =>
      cases tokens with
      | nil => exact stays (Headed.nil _)
      | cons token tokens =>
          by_cases dot : token.kind = .dot
          · have behind : Predicts Token.IsPlain Token.IsPlain
                (identifier .tableName >>= fun part =>
                  (furtherParts : Reader _) >>= fun parts => Pure.pure (part :: parts)) tokens := by
              refine (identifier_predictive .tableName tokens).bind (fun part rest read => ?_)
                (fun part => ?_) (fun _ => id) (fun _ => id)
              · have smaller := (identifier_shrinks .tableName read).length_le
                refine (shorter _ ?_ rest rfl).map _
                rw [← size, List.length_cons]
                omega
              · refine (shorter 0 ?_ [] rfl).map _
                rw [← size, List.length_cons]
                omega
            exact Predicts.take _ (furtherParts_of_dot dot) behind
          · exact stays (headed_cons.mpr dot)

/-- A missing table name is supplied by one word. -/
theorem tableName_predictive : Predictive Token.IsPlain tableName := by
  refine (identifier_predictive .tableName).bind (fun first => ?_) fun _ => id
  exact fun tokens => (furtherParts_predictive tokens).map _

theorem renamedTo_predictive (oldColumn : String) : Predictive stops (renamedTo oldColumn) :=
  fun tokens => (identifier_predictive .columnName tokens).map _

/-- The `TO` that is supplied between two names. -/
def toWord : Token := ⟨.word, ⟨0, 0, 0, 0⟩, "TO"⟩

theorem toWord_isKeyword : toWord.isKeyword .toWord = true := by decide +kernel

/-- The end of a `RENAME COLUMN`. Only `TO` completes it, which is no plain token. -/
theorem renameTarget_predicts (oldColumn : String) (tokens : List Token) :
    Predicts (fun _ => True) stops (acceptKeyword .toWord >>= fun hit =>
      if hit then renamedTo oldColumn else fail .renameTarget) tokens := by
  have refused : ∀ {tokens}, Headed (¬·.isKeyword .toWord = true) tokens →
      (acceptKeyword .toWord >>= fun hit =>
        if hit then renamedTo oldColumn else fail .renameTarget) tokens =
          .error (.expecting .renameTarget tokens) :=
    fun front => bind_of_ok (acceptKeywords_of_headed front)
  cases tokens with
  | nil =>
      exact Predicts.supply _ (refused (Headed.nil _)) rfl trivial
        (fun more => bind_of_ok (acceptKeyword_of_isKeyword toWord_isKeyword more))
        (renamedTo_predictive oldColumn [])
  | cons token tokens =>
      by_cases spelt : token.isKeyword .toWord = true
      · exact Predicts.take _ (fun more => bind_of_ok (acceptKeyword_of_isKeyword spelt more))
          (renamedTo_predictive oldColumn tokens)
      · exact Predicts.refuse .renameTarget fun more => refused (headed_cons.mpr spelt)

/-- `RENAME COLUMN` lacks a name, its `TO`, or the name behind it. -/
theorem renamedColumn_predictive : Predictive stops renamedColumn := by
  intro tokens
  cases tokens with
  | nil =>
      refine Predicts.supply _ rfl rfl filler_isPlain (fun _ => ?_)
        (renameTarget_predicts filler.text [])
      exact bind_of_ok (identifier_of_some rfl _)
  | cons token tokens =>
      cases named : token.identifier? with
      | none =>
          exact Predicts.refuse .columnName fun more =>
            bind_of_error (identifier_of_none named more)
      | some name =>
          exact Predicts.take _ (fun more => bind_of_ok (identifier_of_some named more))
            (renameTarget_predicts name tokens)

/-- Behind `RENAME`, any name ends the clause, and a `TO` asks for another one. -/
theorem renamedTable_predictive : Predictive (Token.Stops false) renamedTable := by
  have toOrAs : Predictive Token.IsPlain acceptToOrAs :=
    (acceptKeyword_predictive .toWord).bind
      (fun _ => (Predictive.pure true).ite (acceptKeyword_predictive .asWord)) fun _ => id
  refine toOrAs.bind (fun _ => ?_) Token.stops_plain
  refine tableName_predictive.bind (fun name => ?_) Token.stops_plain
  exact (acceptKeyword_predictive .toWord).bind
    (fun _ => (renamedTo_predictive _).ite (Predictive.pure _)) Token.stops_plain

/-- The word behind `RENAME` decides between the three. -/
theorem renameClause_predictive : Predictive (Token.Stops false) renameClause := by
  refine (acceptKeyword_predictive .column).bind (fun _ => ?_) Token.stops_plain
  refine renamedColumn_predictive.ite ?_
  refine peekKeyword_predictive.bind (fun next => ?_) Token.stops_plain
  split
  · exact skipped_predictive _
  · exact skipped_predictive _
  · exact renamedTable_predictive

theorem modifyClause_predictive : Predictive (Token.Stops false) modifyClause := by
  refine (acceptKeyword_predictive .column).bind (fun _ => ?_) Token.stops_plain
  exact fun tokens => (definition_predictive false tokens).map _

theorem alterColumnClause_predictive : Predictive (Token.Stops false) alterColumnClause := by
  refine (acceptKeyword_predictive .column).bind (fun _ => ?_) Token.stops_plain
  refine (identifier_predictive .columnName).bind (fun column => ?_) Token.stops_plain
  exact fun tokens => ((run_predictive false tokens).map fun _ => ()).map _

/-- Each word of a clause has its own reader, and each of them is predictive. -/
theorem clauseBehind_predictive (word : Token) :
    Predictive (Token.Stops false) (clauseBehind word) := by
  unfold clauseBehind
  split
  · exact addClause_predictive
  · exact dropClause_predictive
  · exact changeClause_predictive
  · exact renameClause_predictive
  · exact modifyClause_predictive
  · exact alterColumnClause_predictive
  · exact skipped_predictive _

/-- A missing clause is supplied by a word, which is then one that is passed over. -/
theorem clause_predictive : Predictive (Token.Stops false) clause := by
  intro tokens
  cases tokens with
  | nil =>
      exact Predicts.supply _ rfl rfl filler_isPlain (fun _ => rfl)
        (clauseBehind_predictive filler [])
  | cons token tokens =>
      by_cases word : token.kind = .word
      · refine Predicts.take _ (fun more => ?_) (clauseBehind_predictive token tokens)
        rw [clause, if_pos word]
      · exact Predicts.refuse .alteration fun more => by rw [clause, if_neg word]

/-! ## Lists of clauses -/

/-- A token that a list of clauses stops at. -/
def EndsClauses (token : Token) : Prop := token.kind = .semicolon ∨ token.kind = .endOfInput

/-- What ends the list of clauses stops the run of the last of them. -/
theorem EndsClauses.endsRun {token : Token} (ends : EndsClauses token) : token.Stops false := by
  rcases ends with kind | kind <;> simp [Token.Stops, kind, runStep, runEnd]

/-- Behind a clause the list ends or goes on with a comma. -/
theorem furtherClauses_predicts (first : Clause) {tokens : List Token}
    (further : ∀ rest, rest.length < tokens.length →
      Predicts Token.IsPlain EndsClauses clausesFrom rest) :
    Predicts (Token.Stops false) EndsClauses (furtherClauses first) tokens := by
  have stays : ∀ {tokens}, Headed (¬·.kind = .comma) tokens →
      Predicts (Token.Stops false) EndsClauses (furtherClauses first) tokens := by
    intro tokens front
    refine Predicts.stay [first] fun more follows => ?_
    refine furtherClauses_of_headed first (follows.headed (fun token ends comma => ?_) front)
    rcases ends with semicolon | ended
    · rw [comma] at semicolon
      cases semicolon
    · rw [comma] at ended
      cases ended
  cases tokens with
  | nil => exact stays (Headed.nil _)
  | cons token tokens =>
      by_cases comma : token.kind = .comma
      · exact Predicts.take _ (furtherClauses_of_comma first comma)
          ((further tokens (by simp)).map _)
      · exact stays (headed_cons.mpr comma)

/-- By induction on the length of the tokens, as for definitions. -/
theorem clausesFrom_predictive : Predictive EndsClauses clausesFrom := by
  intro tokens
  induction size : tokens.length using Nat.strongRecOn generalizing tokens with
  | ind length shorter =>
      rw [clausesFrom_eq]
      refine (clause_predictive tokens).bind (fun first rest read => ?_) (fun first => ?_)
        (fun token => EndsClauses.endsRun) (fun token => Token.Stops.isPlain)
      · have smaller := (clause_shrinks read).length_le
        refine furtherClauses_predicts first fun others less => shorter _ ?_ others rfl
        omega
      · exact furtherClauses_predicts first fun others less => absurd less (Nat.not_lt_zero _)

end AlterRelay.Sql.Reader
