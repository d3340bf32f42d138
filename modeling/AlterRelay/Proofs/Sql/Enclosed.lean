/-
# AlterRelay.Proofs.Sql.Enclosed — how far a clause reaches

A clause reaches to the next comma outside parentheses, semicolon or end. No
reader of a clause goes beyond: what it takes has balanced parentheses, with no
comma or semicolon outside them and no end at all (`clause_enclosed`).

`depthBehind?` follows the depth of open parentheses over a list of kinds and
gives up where a clause ends. `Enclosed` says that a reader takes tokens that
lead from depth zero to depth zero; it is kept by sequencing. The readers inside
parentheses begin one deeper (`Encloses 1`).
-/
import AlterRelay.Proofs.Sql.Reading

namespace AlterRelay.Sql

set_option autoImplicit false

/-! ## Depth -/

/-- The depth behind one more token of a clause. -/
def stepDepth? (depth : Nat) (kind : TokenKind) : Option Nat :=
  match kind with
  | .openParen => some (depth + 1)
  | .closeParen =>
      match depth with
      | 0 => none
      | outer + 1 => some outer
  | .comma | .semicolon => if depth = 0 then none else some depth
  | .endOfInput => none
  | _ => some depth

/-- The depth of open parentheses behind tokens of these kinds. There is none if a
parenthesis closes that was not opened, a comma or a semicolon stands outside parentheses, or
the input ends. The arguments of a type may hold a semicolon. -/
def depthBehind? (depth : Nat) : List TokenKind → Option Nat
  | [] => some depth
  | kind :: kinds => (stepDepth? depth kind).bind fun next => depthBehind? next kinds

/-- The depth behind two runs is that behind the second, from where the first has led. -/
theorem depthBehind?_append (depth : Nat) (kinds more : List TokenKind) :
    depthBehind? depth (kinds ++ more) =
      (depthBehind? depth kinds).bind fun next => depthBehind? next more := by
  induction kinds generalizing depth with
  | nil => rfl
  | cons kind kinds ih =>
      rw [List.cons_append, depthBehind?, depthBehind?]
      cases stepDepth? depth kind with
      | none => rfl
      | some next => exact ih next

/-- What is balanced at some depth is balanced further inside. -/
theorem stepDepth?_deeper {depth next : Nat} {kind : TokenKind}
    (step : stepDepth? depth kind = some next) (outer : Nat) :
    stepDepth? (depth + outer) kind = some (next + outer) := by
  cases kind with
  | openParen =>
      cases step
      exact congrArg some (Nat.add_right_comm depth outer 1)
  | closeParen =>
      cases depth with
      | zero => cases step
      | succ depth =>
          cases step
          rw [Nat.add_right_comm]
          rfl
  | comma | semicolon =>
      cases depth with
      | zero => cases step
      | succ depth =>
          cases step
          exact if_neg (by omega)
  | endOfInput => cases step
  | _ =>
      cases step
      rfl

/-- The same of a whole run of kinds. -/
theorem depthBehind?_deeper {depth next : Nat} {kinds : List TokenKind}
    (inside : depthBehind? depth kinds = some next) (outer : Nat) :
    depthBehind? (depth + outer) kinds = some (next + outer) := by
  induction kinds generalizing depth with
  | nil =>
      cases inside
      rfl
  | cons kind kinds ih =>
      obtain ⟨middle, step, behind⟩ := Option.bind_eq_some_iff.mp inside
      rw [depthBehind?, stepDepth?_deeper step outer]
      exact ih behind

/-- No depth leads over an end token. -/
theorem not_end_of_depthBehind? {depth next : Nat} {kinds : List TokenKind}
    (inside : depthBehind? depth kinds = some next) : .endOfInput ∉ kinds := by
  induction kinds generalizing depth with
  | nil => exact List.not_mem_nil
  | cons kind kinds ih =>
      obtain ⟨middle, step, behind⟩ := Option.bind_eq_some_iff.mp inside
      refine List.not_mem_cons_of_ne_of_not_mem ?_ (ih behind)
      rintro rfl
      cases step

/-- A run takes a token exactly where a clause may go on with it. -/
theorem stepDepth?_of_runStep {inParens : Bool} {depth next : Nat} {kind : TokenKind}
    (step : runStep inParens depth kind = .take next) : stepDepth? depth kind = some next := by
  cases kind <;> cases depth <;> cases inParens <;> cases step <;> rfl

/-- A keyword is no parenthesis. -/
theorem stepDepth?_of_keyword? {token : Token} {keyword : Keyword}
    (spelt : token.keyword? = some keyword) (depth : Nat) :
    stepDepth? depth token.kind = some depth := by
  rw [Token.kind_of_keyword? spelt]
  rfl

/-- A name is no parenthesis. -/
theorem stepDepth?_of_identifier? {token : Token} {name : String}
    (named : token.identifier? = some name) (depth : Nat) :
    stepDepth? depth token.kind = some depth := by
  unfold Token.identifier? at named
  split at named <;> simp_all [stepDepth?]

namespace Reader

variable {α β : Type}

/-! ## Enclosed readers -/

/-- The tokens in front of `rest` close `depth` open parentheses. -/
def Encloses (depth : Nat) (tokens rest : List Token) : Prop :=
  ∃ taken, tokens = taken ++ rest ∧ depthBehind? depth (taken.map Token.kind) = some 0

theorem Encloses.refl (tokens : List Token) : Encloses 0 tokens tokens := ⟨[], rfl, rfl⟩

/-- Tokens that close what they open may stand in front of any others. -/
theorem Encloses.trans {depth : Nat} {tokens behind rest : List Token}
    (first : Encloses 0 tokens behind) (second : Encloses depth behind rest) :
    Encloses depth tokens rest := by
  obtain ⟨taken, rfl, inside⟩ := first
  obtain ⟨more, rfl, inside'⟩ := second
  refine ⟨taken ++ more, by simp, ?_⟩
  have deeper := depthBehind?_deeper inside depth
  rw [Nat.zero_add] at deeper
  simp [depthBehind?_append, deeper, inside']

theorem Encloses.cons {depth next : Nat} {token : Token} {tokens rest : List Token}
    (step : stepDepth? depth token.kind = some next) (inside : Encloses next tokens rest) :
    Encloses depth (token :: tokens) rest := by
  obtain ⟨taken, rfl, inside⟩ := inside
  exact ⟨token :: taken, rfl, by simp [depthBehind?, step, inside]⟩

/-- A reader that takes nothing but closed parentheses, and no separator outside them. -/
def Enclosed (reader : Reader α) : Prop :=
  ∀ ⦃tokens rest : List Token⦄ ⦃value : α⦄, reader tokens = .ok (value, rest) →
    Encloses 0 tokens rest

theorem Enclosed.pure (value : α) : Enclosed (Pure.pure value : Reader α) := by
  intro tokens rest result taken
  obtain ⟨-, rfl⟩ := pure_eq_ok.mp taken
  exact Encloses.refl tokens

/-- Sequencing keeps parentheses closed, since each reader closes its own. -/
theorem Enclosed.bind {reader : Reader α} {next : α → Reader β} (first : Enclosed reader)
    (second : ∀ value, Enclosed (next value)) : Enclosed (reader >>= next) := by
  intro tokens rest value taken
  obtain ⟨middle, behind, taken, taken'⟩ := bind_eq_ok.mp taken
  exact (first taken).trans (second middle taken')

theorem Enclosed.ite {condition : Prop} [Decidable condition] {first second : Reader α}
    (yes : Enclosed first) (no : Enclosed second) :
    Enclosed (if condition then first else second) := by
  split
  · exact yes
  · exact no

/-! ## Primitives -/

theorem fail_enclosed (expected : Expectation) : Enclosed (fail expected : Reader α) := by
  intro tokens rest value taken
  cases taken

theorem peekKeyword_enclosed : Enclosed peekKeyword := by
  intro tokens rest value taken
  cases taken
  exact Encloses.refl _

/-- Keywords open and close nothing. -/
theorem afterKeywords?_encloses {keywords : List Keyword} {tokens rest : List Token}
    (found : afterKeywords? keywords tokens = some rest) : Encloses 0 tokens rest := by
  fun_induction afterKeywords? keywords tokens with
  | case1 tokens =>
      cases found
      exact Encloses.refl _
  | case2 => cases found
  | case3 keyword more token tokens spelt ih =>
      exact Encloses.cons (stepDepth?_of_keyword? (eq_of_beq spelt) 0) (ih found)
  | case4 => cases found

theorem acceptKeywords_enclosed (keywords : List Keyword) :
    Enclosed (acceptKeywords keywords) := by
  intro tokens rest value taken
  unfold acceptKeywords at taken
  split at taken
  · rename_i found
    cases taken
    exact afterKeywords?_encloses found
  · cases taken
    exact Encloses.refl _

theorem acceptKeyword_enclosed (keyword : Keyword) : Enclosed (acceptKeyword keyword) :=
  acceptKeywords_enclosed [keyword]

theorem identifier_enclosed (expected : Expectation) : Enclosed (identifier expected) := by
  intro tokens rest value taken
  unfold identifier at taken
  split at taken
  · cases taken
  split at taken
  · rename_i named
    cases taken
    exact Encloses.cons (stepDepth?_of_identifier? named 0) (Encloses.refl _)
  · cases taken

/-- A parenthesis in front makes the reader inside begin one deeper. -/
theorem parens_enclosed {inner outer : Reader α}
    (inside : ∀ ⦃tokens rest : List Token⦄ ⦃value : α⦄, inner tokens = .ok (value, rest) →
      Encloses 1 tokens rest) (outside : Enclosed outer) :
    Enclosed (accept .openParen >>= fun opened => if opened then inner else outer) := by
  intro tokens rest value taken
  obtain ⟨opened, behind, found, taken⟩ := bind_eq_ok.mp taken
  unfold accept at found
  cases tokens with
  | nil =>
      cases found
      exact outside taken
  | cons token tokens =>
      by_cases parenthesis : token.kind = .openParen
      · simp only [beginsWith, parenthesis, beq_self_eq_true, if_true] at found
        cases found
        exact Encloses.cons (by rw [parenthesis]; rfl) (inside taken)
      · simp only [beginsWith, beq_iff_eq, parenthesis, if_false] at found
        cases found
        exact outside taken

/-! ## Runs and definitions -/

/-- A run takes tokens of closed parentheses and no semicolon, and gives their texts. -/
theorem runFrom_taken {inParens : Bool} {depth : Nat} {tokens rest : List Token}
    {texts : List String} (taken : runFrom inParens depth tokens = .ok (texts, rest)) :
    ∃ run, tokens = run ++ rest ∧ run.map Token.text = texts ∧
      depthBehind? depth (run.map Token.kind) = some 0 ∧
        ∀ token ∈ run, token.kind ≠ .semicolon := by
  fun_induction runFrom inParens depth tokens generalizing texts rest with
  | case1 => cases taken
  | case2 depth notRefused =>
      cases taken
      cases depth with
      | zero => exact ⟨[], rfl, rfl, rfl, List.forall_mem_nil _⟩
      | succ outer => exact absurd rfl (notRefused .closing)
  | case3 depth token tokens stop =>
      cases taken
      rw [depth_of_runStep stop]
      exact ⟨[], rfl, rfl, rfl, List.forall_mem_nil _⟩
  | case4 => cases taken
  | case5 depth token tokens next step more behind inner ih =>
      cases taken
      obtain ⟨run, rfl, rfl, balanced, noSemicolon⟩ := ih inner
      have other : token.kind ≠ .semicolon := by
        intro semicolon
        rw [semicolon] at step
        cases depth <;> cases step
      refine ⟨token :: run, rfl, rfl, ?_, List.forall_mem_cons.mpr ⟨other, noSemicolon⟩⟩
      simp [depthBehind?, stepDepth?_of_runStep step, balanced]
  | case6 => cases taken

/-- A run stops at depth zero only. -/
theorem run_enclosed (inParens : Bool) : Enclosed (run inParens) :=
  fun _ _ _ taken =>
    let ⟨run, split, _, balanced, _⟩ := runFrom_taken taken
    ⟨run, split, balanced⟩

/-- What is passed over is a run. -/
theorem skipClause_enclosed : Enclosed skipClause :=
  Enclosed.bind (run_enclosed false) fun _ => Enclosed.pure ()

/-- Attributes are keywords. -/
theorem typeModifiers_enclosed : Enclosed typeModifiers := by
  intro tokens rest value taken
  cases taken
  induction tokens with
  | nil => exact Encloses.refl _
  | cons token tokens ih =>
      by_cases modifier : isTypeModifier token = true
      · obtain ⟨keyword, spelt, -⟩ := (Option.any_eq_true _ _).mp modifier
        rw [List.dropWhile_cons_of_pos modifier]
        exact Encloses.cons (stepDepth?_of_keyword? spelt 0) ih
      · rw [List.dropWhile_cons_of_neg modifier]
        exact Encloses.refl _

/-- The one parenthesis that is open is closed, and none is opened inside. -/
theorem argumentsFrom_encloses {current arguments : List String} {tokens rest : List Token}
    (taken : argumentsFrom current tokens = .ok (arguments, rest)) :
    Encloses 1 tokens rest := by
  fun_induction argumentsFrom current tokens generalizing arguments rest with
  | case1 => cases taken
  | case2 => cases taken
  | case3 => cases taken
  | case4 current token tokens kind =>
      cases taken
      exact Encloses.cons (by rw [kind]; rfl) (Encloses.refl _)
  | case5 current token tokens kind more behind inner ih =>
      cases taken
      exact Encloses.cons (by rw [kind]; rfl) (ih inner)
  | case6 => cases taken
  | case7 current token tokens noEnd noOpen noClose noComma ih =>
      have step : stepDepth? 1 token.kind = some 1 := by
        unfold stepDepth?
        split <;> simp_all
      exact Encloses.cons step (ih taken)

/-- Parentheses around the arguments enclose them, and none is nothing to close. -/
theorem typeArguments_enclosed : Enclosed typeArguments :=
  parens_enclosed (fun _ _ _ taken => argumentsFrom_encloses taken) (Enclosed.pure [])

theorem characterSet_enclosed : Enclosed characterSet := by
  have named : Enclosed (some <$> identifier .characterSet) :=
    Enclosed.bind (identifier_enclosed .characterSet) fun name => Enclosed.pure (some name)
  refine Enclosed.bind (acceptKeywords_enclosed _) fun _ => Enclosed.ite named ?_
  exact Enclosed.bind (acceptKeyword_enclosed _) fun _ => Enclosed.ite named (Enclosed.pure none)

theorem typeWord_enclosed : Enclosed typeWord := by
  intro tokens rest value taken
  unfold typeWord at taken
  split at taken
  · cases taken
  split at taken
  · rename_i word
    cases taken
    exact Encloses.cons (by rw [word]; rfl) (Encloses.refl _)
  · cases taken

theorem dataType_enclosed : Enclosed dataType := by
  refine Enclosed.bind typeWord_enclosed fun _ => ?_
  refine Enclosed.bind typeModifiers_enclosed fun _ => ?_
  refine Enclosed.bind typeArguments_enclosed fun _ => ?_
  refine Enclosed.bind typeModifiers_enclosed fun _ => ?_
  exact Enclosed.bind characterSet_enclosed fun _ => Enclosed.pure _

theorem definition_enclosed (inParens : Bool) : Enclosed (definition inParens) := by
  refine Enclosed.bind (identifier_enclosed .columnName) fun _ => ?_
  refine Enclosed.bind dataType_enclosed fun _ => ?_
  exact Enclosed.bind (run_enclosed inParens) fun _ => Enclosed.pure _

/-! ## Clauses -/

theorem skipped_enclosed (operation : Operation) : Enclosed (skipped operation) :=
  Enclosed.bind skipClause_enclosed fun _ => Enclosed.pure _

/-- A list of definitions closes the parenthesis in front of it, each definition its own. -/
theorem definitionsFrom_encloses {tokens rest : List Token}
    {definitions : List ColumnDefinition}
    (taken : definitionsFrom tokens = .ok (definitions, rest)) : Encloses 1 tokens rest := by
  fun_induction definitionsFrom tokens generalizing definitions rest with
  | case1 => cases taken
  | case2 => cases taken
  | case3 tokens first token behind read kind =>
      cases taken
      have closing : Encloses 1 (token :: behind) behind :=
        Encloses.cons (by rw [kind]; rfl) (Encloses.refl _)
      exact (definition_enclosed true read).trans closing
  | case4 => cases taken
  | case5 tokens first token behind read kind more final inner ih =>
      cases taken
      have further : Encloses 1 (token :: behind) final :=
        Encloses.cons (by rw [kind]; rfl) (ih inner)
      exact (definition_enclosed true read).trans further
  | case6 => cases taken

/-- In parentheses or not, the definitions close what they open. -/
theorem addedDefinitions_enclosed : Enclosed addedDefinitions := by
  refine parens_enclosed (fun _ _ _ taken => definitionsFrom_encloses taken) ?_
  exact Enclosed.bind (definition_enclosed false) fun _ => Enclosed.pure _

theorem addClause_enclosed : Enclosed addClause := by
  refine Enclosed.bind peekKeyword_enclosed fun next => ?_
  split
  · exact skipped_enclosed _
  · refine Enclosed.bind (acceptKeyword_enclosed _) fun _ => ?_
    exact Enclosed.bind addedDefinitions_enclosed fun _ => Enclosed.pure _

theorem acceptDropBehaviour_enclosed : Enclosed acceptDropBehaviour := by
  intro tokens rest value taken
  cases taken
  cases tokens with
  | nil => exact Encloses.refl _
  | cons token tokens =>
      by_cases behaviour : isDropBehaviour token = true
      · have word : token.kind = .word := eq_of_beq ((Bool.and_eq_true _ _).mp behaviour).1
        simp only [List.head?_cons, Option.any_some, behaviour, if_true]
        exact Encloses.cons (by rw [word]; rfl) (Encloses.refl _)
      · simp only [List.head?_cons, Option.any_some, behaviour]
        exact Encloses.refl _

theorem dropClause_enclosed : Enclosed dropClause := by
  refine Enclosed.bind peekKeyword_enclosed fun next => ?_
  split
  · exact skipped_enclosed _
  · refine Enclosed.bind (acceptKeyword_enclosed _) fun _ => ?_
    refine Enclosed.bind (acceptKeywords_enclosed _) fun _ => ?_
    refine Enclosed.bind (identifier_enclosed _) fun _ => ?_
    exact Enclosed.bind acceptDropBehaviour_enclosed fun _ => Enclosed.pure _

theorem changeClause_enclosed : Enclosed changeClause := by
  refine Enclosed.bind (acceptKeyword_enclosed _) fun _ => ?_
  refine Enclosed.bind (identifier_enclosed _) fun _ => ?_
  exact Enclosed.bind (definition_enclosed false) fun _ => Enclosed.pure _

/-- Dots and names open and close nothing. -/
theorem furtherParts_encloses {tokens rest : List Token} {parts : List String}
    (taken : furtherParts tokens = .ok (parts, rest)) : Encloses 0 tokens rest := by
  fun_induction furtherParts tokens generalizing parts rest with
  | case1 =>
      cases taken
      exact Encloses.refl _
  | case2 => cases taken
  | case3 =>
      cases taken
      exact Encloses.refl _
  | case4 => cases taken
  | case5 => cases taken
  | case6 token next tokens dot part named more behind inner ih =>
      cases taken
      have named' := Encloses.cons (stepDepth?_of_identifier? named 0) (ih inner)
      exact Encloses.cons (by rw [dot]; rfl) named'
  | case7 =>
      cases taken
      exact Encloses.refl _

theorem tableName_enclosed : Enclosed tableName := by
  refine Enclosed.bind (identifier_enclosed _) fun _ => ?_
  exact Enclosed.bind (fun _ _ _ taken => furtherParts_encloses taken) fun _ => Enclosed.pure _

theorem renamedTo_enclosed (oldColumn : String) : Enclosed (renamedTo oldColumn) :=
  Enclosed.bind (identifier_enclosed _) fun _ => Enclosed.pure _

theorem renamedColumn_enclosed : Enclosed renamedColumn := by
  refine Enclosed.bind (identifier_enclosed _) fun oldColumn => ?_
  refine Enclosed.bind (acceptKeyword_enclosed _) fun _ => ?_
  exact Enclosed.ite (renamedTo_enclosed oldColumn) (fail_enclosed _)

theorem renamedTable_enclosed : Enclosed renamedTable := by
  have toOrAs : Enclosed acceptToOrAs :=
    Enclosed.bind (acceptKeyword_enclosed _) fun _ =>
      Enclosed.ite (Enclosed.pure true) (acceptKeyword_enclosed _)
  refine Enclosed.bind toOrAs fun _ => Enclosed.bind tableName_enclosed fun name => ?_
  refine Enclosed.bind (acceptKeyword_enclosed _) fun _ => ?_
  exact Enclosed.ite (renamedTo_enclosed _) (Enclosed.pure _)

theorem renameClause_enclosed : Enclosed renameClause := by
  refine Enclosed.bind (acceptKeyword_enclosed _) fun _ => Enclosed.ite renamedColumn_enclosed ?_
  refine Enclosed.bind peekKeyword_enclosed fun next => ?_
  split
  · exact skipped_enclosed _
  · exact skipped_enclosed _
  · exact renamedTable_enclosed

theorem modifyClause_enclosed : Enclosed modifyClause := by
  refine Enclosed.bind (acceptKeyword_enclosed _) fun _ => ?_
  exact Enclosed.bind (definition_enclosed false) fun _ => Enclosed.pure _

theorem alterColumnClause_enclosed : Enclosed alterColumnClause := by
  refine Enclosed.bind (acceptKeyword_enclosed _) fun _ => ?_
  refine Enclosed.bind (identifier_enclosed _) fun _ => ?_
  exact Enclosed.bind skipClause_enclosed fun _ => Enclosed.pure _

/-- Whatever word a clause begins with, it closes every parenthesis that it opens. -/
theorem clauseBehind_enclosed (word : Token) : Enclosed (clauseBehind word) := by
  unfold clauseBehind
  split
  · exact addClause_enclosed
  · exact dropClause_enclosed
  · exact changeClause_enclosed
  · exact renameClause_enclosed
  · exact modifyClause_enclosed
  · exact alterColumnClause_enclosed
  · exact skipped_enclosed _

theorem clause_enclosed : Enclosed clause := by
  intro tokens rest value taken
  unfold clause at taken
  split at taken
  · cases taken
  split at taken
  · rename_i word
    exact Encloses.cons (by rw [word]; rfl) (clauseBehind_enclosed _ taken)
  · cases taken

end Reader

end AlterRelay.Sql
