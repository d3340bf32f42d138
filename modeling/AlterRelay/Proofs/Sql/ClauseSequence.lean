/-
# AlterRelay.Proofs.Sql.ClauseSequence — clauses are read each on its own

A clause whose parentheses are balanced is read to the comma behind it and no
further: what stands there decides nothing about the clause (`clause_before`). So
a list of clauses is read by reading each of them alone (`clauseList_sequence`),
and a statement that is written clause by clause has the clauses that its parts
have (`parse_sequence`).
-/
import AlterRelay.Proofs.Sql.Enclosed
import AlterRelay.Proofs.Sql.WrittenStatement
import Mathlib.Tactic.Choose

namespace AlterRelay.Sql

set_option autoImplicit false

/-! ## One clause -/

theorem stepDepth?_of_stops {token : Token} (stops : token.Stops false) :
    stepDepth? 0 token.kind = none := by
  unfold Token.Stops at stops
  cases kind : token.kind <;> rw [kind] at stops <;> first | rfl | cases stops

namespace Reader

/-- What is taken of balanced tokens in front of a stop lies within them. -/
theorem Encloses.before {tokens tail rest : List Token}
    (balanced : depthBehind? 0 (tokens.map Token.kind) = some 0)
    (stops : Headed (Token.Stops false) tail) (encloses : Encloses 0 (tokens ++ tail) rest) :
    ∃ taken left, tokens = taken ++ left ∧ rest = left ++ tail ∧
      depthBehind? 0 (left.map Token.kind) = some 0 := by
  obtain ⟨taken, split, inside⟩ := encloses
  rcases List.append_eq_append_iff.mp split with ⟨beyond, rfl, rfl⟩ | ⟨left, rfl, rfl⟩
  · cases beyond with
    | nil => exact ⟨tokens, [], by simp, by simp, rfl⟩
    | cons token beyond =>
        -- a stop outside parentheses cannot have been taken
        have stop := stepDepth?_of_stops (headed_cons.mp stops)
        simp [depthBehind?_append, balanced, depthBehind?, stop] at inside
  · refine ⟨taken, left, rfl, rfl, ?_⟩
    simpa [depthBehind?_append, inside] using balanced

theorem clause_before {tokens tail rest : List Token} {value : Clause}
    (balanced : depthBehind? 0 (tokens.map Token.kind) = some 0)
    (stops : Headed (Token.Stops false) tail) :
    clause (tokens ++ tail) = .ok (value, rest) ↔
      ∃ left, clause tokens = .ok (value, left) ∧ rest = left ++ tail := by
  constructor
  · intro read
    obtain ⟨taken, left, rfl, rfl, -⟩ := (clause_enclosed read).before balanced stops
    obtain ⟨taken', split, stable⟩ := (clause_predictive _).reads read
    obtain rfl : taken = taken' := by
      rw [← List.append_assoc] at split
      exact List.append_cancel_right (List.append_cancel_right split)
    refine ⟨left, stable left ?_, rfl⟩
    cases left with
    | nil => exact .inr ⟨stops, Headed.nil _⟩
    | cons token left => exact .inl rfl
  · rintro ⟨left, read, rfl⟩
    obtain ⟨taken, rfl, stable⟩ := (clause_predictive _).reads read
    rw [List.append_assoc]
    refine stable (left ++ tail) ?_
    cases left with
    | nil => exact .inr ⟨Headed.nil _, stops⟩
    | cons token left => exact .inl rfl

/-- The clause that these tokens spell, all of them. -/
def wholeClause? (tokens : List Token) : Option Clause :=
  match clause tokens with
  | .ok (value, []) => some value
  | _ => none

/-! ## A list of clauses -/

/-- The clauses that a list of tokens spells up to its end. -/
def clausesOf? (tokens : List Token) : Option (List Clause) :=
  (clauseList tokens).toOption.map Prod.fst

/-- What follows a clause, with the clause in front. -/
def clauseListBehind (first : Clause) : Reader (List Clause) := do
  let clauses ← furtherClauses first
  endOfStatement
  pure clauses

theorem clauseList_eq : clauseList = clause >>= clauseListBehind := by
  have parts : (clausesFrom : Reader _) = clause >>= furtherClauses := clausesFrom_eq
  unfold clauseList clauseListBehind
  rw [parts, bind_assoc]

/-- Tokens that a clause leaves over end the reading, unless they stop a clause. -/
theorem clauseListBehind_refuses (first : Clause) {token : Token} {tokens : List Token}
    (goesOn : stepDepth? 0 token.kind ≠ none) :
    (clauseListBehind first (token :: tokens)).toOption = none := by
  have noComma : ¬token.kind = .comma := by
    intro comma
    rw [comma] at goesOn
    exact goesOn rfl
  have noSemicolon : ¬token.kind = .semicolon := by
    intro semicolon
    rw [semicolon] at goesOn
    exact goesOn rfl
  have noEnd : ¬token.kind = .endOfInput := by
    intro ends
    rw [ends] at goesOn
    exact goesOn rfl
  have alone : furtherClauses first (token :: tokens) = .ok ([first], token :: tokens) :=
    furtherClauses_of_headed first (headed_cons.mpr noComma)
  have refused : endOfStatement (token :: tokens) =
      .error (.expecting .separatorOrEnd (token :: tokens)) := by
    simp [endOfStatement, skipSemicolons, atEnd, Token.isEnd, noSemicolon, noEnd]
  rw [clauseListBehind, bind_of_ok alone, bind_of_error refused]
  rfl

/-- The clauses in front of a stop are read without a look behind it. -/
theorem clausesOf?_before {tokens tail : List Token}
    (balanced : depthBehind? 0 (tokens.map Token.kind) = some 0)
    (stops : Headed (Token.Stops false) tail) :
    clausesOf? (tokens ++ tail) =
      (wholeClause? tokens).bind fun first =>
        (clauseListBehind first tail).toOption.map Prod.fst := by
  unfold clausesOf? wholeClause?
  rw [clauseList_eq]
  cases read : clause tokens with
  | error error =>
      cases read' : clause (tokens ++ tail) with
      | error error' =>
          rw [bind_of_error read']
          rfl
      -- The clause might be read with `tail`, but then it is read alone.
      | ok result =>
          obtain ⟨left, alone, -⟩ := (clause_before balanced stops).mp read'
          rw [read] at alone
          cases alone
  | ok result =>
      obtain ⟨first, left⟩ := result
      have read' := (clause_before balanced stops).mpr ⟨left, read, rfl⟩
      rw [bind_of_ok read']
      cases left with
      | nil => rfl
      | cons token left =>
          obtain ⟨taken, rfl, inside⟩ := clause_enclosed read
          -- What is left of a balanced text does not begin with a token that stops a run.
          have goesOn : stepDepth? 0 token.kind ≠ none := by
            intro stop
            simp [depthBehind?_append, inside, depthBehind?, stop] at balanced
          rw [List.cons_append, clauseListBehind_refuses first goesOn]
          rfl

theorem clauseListBehind_comma (first : Clause) (tokens : List Token) :
    (clauseListBehind first (Lexeme.comma.token :: tokens)).toOption.map Prod.fst =
      (clausesOf? tokens).map (first :: ·) := by
  have comma : Lexeme.comma.token.kind = .comma := rfl
  have further := furtherClauses_of_comma first comma tokens
  unfold clauseListBehind clausesOf? clauseList
  cases read : clausesFrom tokens with
  | error error =>
      rw [bind_of_error read] at further
      rw [bind_of_error further, bind_of_error read]
      rfl
  | ok result =>
      rw [bind_of_ok read] at further
      rw [bind_of_ok further, bind_of_ok read]
      cases ends : endOfStatement result.2 with
      | error error =>
          rw [bind_of_error ends, bind_of_error ends]
          rfl
      | ok final =>
          rw [bind_of_ok ends, bind_of_ok ends]
          rfl

/-- Clauses with commas between them are read each on its own. -/
theorem clauseList_sequence (parts : List (List Token)) (nonempty : parts ≠ [])
    (balanced : ∀ part ∈ parts, depthBehind? 0 (part.map Token.kind) = some 0) :
    clausesOf? ([Lexeme.comma.token].intercalate parts ++ [Token.finish]) =
      parts.mapM wholeClause? := by
  induction parts with
  | nil => exact absurd rfl nonempty
  | cons first parts ih =>
      have here := balanced first List.mem_cons_self
      cases parts with
      | nil =>
          have stops : Headed (Token.Stops false) [Token.finish] := headed_cons.mpr rfl
          rw [List.intercalate_singleton, clausesOf?_before here stops, List.mapM_cons,
            List.mapM_nil]
          cases wholeClause? first <;> rfl
      | cons second parts =>
          have stops : Headed (Token.Stops false) (Lexeme.comma.token ::
              ([Lexeme.comma.token].intercalate (second :: parts) ++ [Token.finish])) :=
            headed_cons.mpr rfl
          have others := ih (List.cons_ne_nil _ _) fun part member =>
            balanced part (List.mem_cons_of_mem _ member)
          rw [List.intercalate_cons_cons, List.append_assoc, List.append_assoc,
            List.singleton_append, clausesOf?_before here stops, List.mapM_cons, ← others]
          cases wholeClause? first with
          | none => rfl
          | some clause =>
              rw [Option.bind_some, clauseListBehind_comma]
              exact Option.map_eq_bind

end Reader

/-! ## Clauses in a text -/

/-- A text that can stand for one clause: it begins with a word, its parentheses are balanced,
and no comma and no semicolon stands outside them. -/
def isClauseText (text : String) : Bool :=
  match tokenize text with
  | .error _ => false
  | .ok tokens =>
      Reader.beginsWith .word tokens &&
        depthBehind? 0 (tokens.dropLast.map Token.kind) == some 0

/-- The statement that alters the table of this name by these clauses. -/
def alterText (names texts : List String) : String :=
  "ALTER TABLE " ++ referenceText names ++ " " ++ "\n, ".intercalate texts

/-- The front with its keywords in capitals. -/
def plainFront {names : List String} (named : names ≠ []) : Front where
  alter := ⟨"ALTER", by decide, by decide +kernel⟩
  table := ⟨"TABLE", by decide, by decide +kernel⟩
  ifExists := none
  names
  named

theorem text_plainFront {names : List String} (named : names ≠ []) :
    (plainFront named).text = "ALTER TABLE " ++ referenceText names := by
  have words : spaced (plainFront named).words ++ " " = "ALTER TABLE " := by
    show spaced [.word "ALTER", .word "TABLE"] ++ " " = _
    decide +kernel
  rw [Front.text, words]
  rfl

theorem map_intercalate {α β : Type} (f : α → β) (separator : List α) (parts : List (List α)) :
    (separator.intercalate parts).map f =
      (separator.map f).intercalate (parts.map (List.map f)) := by
  induction parts with
  | nil => rfl
  | cons first parts ih =>
      cases parts with
      | nil => simp
      | cons second parts => simpa using ih

theorem sequence_written {texts : List String} (nonempty : texts ≠ [])
    {lexemesOf : String → List Lexeme}
    (cut : ∀ text ∈ texts, CutInto text.toList (lexemesOf text)) :
    CutInto ("\n, ".intercalate texts).toList
      ([Lexeme.comma].intercalate (texts.map lexemesOf)) := by
  induction texts with
  | nil => exact absurd rfl nonempty
  | cons first texts ih =>
      have here := cut first List.mem_cons_self
      cases texts with
      | nil => simpa using here
      | cons second texts =>
          have others := ih (List.cons_ne_nil _ _) fun text member =>
            cut text (List.mem_cons_of_mem _ member)
          have whole := CutInto.append_newline here (CutInto.comma (CutInto.space others))
          simpa using whole

theorem alterText_cutInto {names texts : List String} (named : names ≠ []) (nonempty : texts ≠ [])
    {lexemesOf : String → List Lexeme}
    (cut : ∀ text ∈ texts, CutInto text.toList (lexemesOf text)) :
    CutInto (alterText names texts).toList
      ((plainFront named).lexemes ++ [Lexeme.comma].intercalate (texts.map lexemesOf)) := by
  have behind := CutInto.space (sequence_written nonempty cut)
  have whole := (plainFront named).written (by simp) behind
  rw [text_plainFront] at whole
  simpa [alterText] using whole

/-- The text of one clause, cut into its lexemes. -/
theorem lexemes_of_isClauseText {text : String} (clauseText : isClauseText text = true) :
    ∃ lexemes : List Lexeme, CutInto text.toList lexemes ∧
      Reader.beginsWith .word (lexemes.map Lexeme.token) = true ∧
        depthBehind? 0 ((lexemes.map Lexeme.token).map Token.kind) = some 0 := by
  unfold isClauseText at clauseText
  split at clauseText
  · cases clauseText
  · rename_i tokens lexed
    obtain ⟨front, final, rfl⟩ := tokenize_ends lexed
    obtain ⟨begins, balanced⟩ := (Bool.and_eq_true _ _).mp clauseText
    rw [List.dropLast_concat, beq_iff_eq] at balanced
    refine ⟨front.map Token.lexeme, cutInto_iff_tokenize.mpr ⟨front, final, lexed, rfl⟩, ?_, ?_⟩
    · rw [map_lexeme_token]
      cases front with
      | nil => cases begins
      | cons token front => exact begins
    · rw [map_lexeme_token, List.map_map]
      exact balanced

theorem parse_of_lexemes {names : List String} (named : names ≠ [])
    {lexemesOf : String → List Lexeme} (texts : List String) (nonempty : texts ≠ [])
    (cut : ∀ text ∈ texts, CutInto text.toList (lexemesOf text))
    (begins : ∀ text ∈ texts, Reader.beginsWith .word ((lexemesOf text).map Lexeme.token) = true)
    (balanced : ∀ text ∈ texts,
      depthBehind? 0 (((lexemesOf text).map Lexeme.token).map Token.kind) = some 0) :
    (Statement.parse (alterText names texts)).toOption =
      (texts.mapM fun text => Reader.wholeClause? ((lexemesOf text).map Lexeme.token)).map
        fun clauses => .alterTable ⟨⟨names⟩, false, clauses⟩ := by
  have parts : ([Lexeme.comma].intercalate (texts.map lexemesOf)).map Lexeme.token =
      [Lexeme.comma.token].intercalate
        (texts.map fun text => (lexemesOf text).map Lexeme.token) := by
    rw [map_intercalate, List.map_map]
    rfl
  -- The first clause begins with a word, so the table name does not go on.
  have front : Headed (¬·.kind = .dot)
      (([Lexeme.comma].intercalate (texts.map lexemesOf)).map Lexeme.token) := by
    cases texts with
    | nil => exact absurd rfl nonempty
    | cons first texts =>
        have word := begins first List.mem_cons_self
        rw [parts]
        cases lexemes : lexemesOf first with
        | nil => simp [lexemes, Reader.beginsWith] at word
        | cons lexeme others =>
            rw [lexemes] at word
            have notDot : ¬lexeme.token.kind = .dot := by
              rw [eq_of_beq word]
              exact TokenKind.noConfusion
            cases texts <;> simpa [lexemes, headed_cons] using notDot
  have read := Reader.clauseList_sequence
    (texts.map fun text => (lexemesOf text).map Lexeme.token)
    (by simpa using nonempty) (by simpa using balanced)
  rw [List.mapM_map] at read
  rw [parse_front (plainFront named) (alterText_cutInto named nonempty cut) front, parts]
  change _ = Option.map _ _
  rw [Function.comp_def] at read
  rw [← read, Reader.clausesOf?, Option.map_map]
  rfl

/-- A statement written clause by clause has the clauses that its parts have alone. -/
theorem parse_sequence {names texts : List String} (named : names ≠ []) (nonempty : texts ≠ [])
    (clauseTexts : ∀ text ∈ texts, isClauseText text = true) :
    ∃ clauseOf? : String → Option Clause,
      (Statement.parse (alterText names texts)).toOption =
          (texts.mapM clauseOf?).map (fun clauses => .alterTable ⟨⟨names⟩, false, clauses⟩) ∧
        ∀ text ∈ texts, (Statement.parse (alterText names [text])).toOption =
          (clauseOf? text).map fun clause => .alterTable ⟨⟨names⟩, false, [clause]⟩ := by
  choose! lexemesOf cut begins balanced using fun text member =>
    lexemes_of_isClauseText (clauseTexts text member)
  refine ⟨_, parse_of_lexemes named texts nonempty cut begins balanced, fun text member => ?_⟩
  have alone := parse_of_lexemes named [text] (List.cons_ne_nil _ _)
    (by simpa using cut text member) (by simpa using begins text member)
    (by simpa using balanced text member)
  rw [alone, List.mapM_cons, List.mapM_nil]
  cases Reader.wholeClause? ((lexemesOf text).map Lexeme.token) <;> rfl

/-! ## Statements of several clauses -/

theorem mapM_congr {m : Type → Type} [Monad m] [LawfulMonad m] {α β : Type} {f g : α → m β}
    {values : List α} (same : ∀ value ∈ values, f value = g value) :
    values.mapM f = values.mapM g := by
  induction values with
  | nil => rfl
  | cons value values ih =>
      have others := ih fun other member => same other (List.mem_cons_of_mem _ member)
      rw [List.mapM_cons, List.mapM_cons, same value List.mem_cons_self, others]

theorem eq_some_of_mapM {α β : Type} {f : α → Option β} {values : List α} {results : List β}
    (all : values.mapM f = some results) : ∀ value ∈ values, ∃ result, f value = some result := by
  induction values generalizing results with
  | nil =>
      intro value member
      cases member
  | cons first values ih =>
      rw [List.mapM_cons] at all
      obtain ⟨result, here, all⟩ := Option.bind_eq_some_iff.mp all
      obtain ⟨others, rest, -⟩ := Option.bind_eq_some_iff.mp all
      intro value member
      rcases List.mem_cons.mp member with rfl | member
      · exact ⟨result, here⟩
      · exact ih rest value member

/-- A text that spells an `ALTER TABLE`. -/
def IsAlteration (source : String) : Prop :=
  ∃ statement, Statement.parse source = .ok (.alterTable statement)

theorem parse_composed {names texts : List String} (named : names ≠ []) (nonempty : texts ≠ [])
    (clauseTexts : ∀ text ∈ texts, isClauseText text = true) {statementOf : String → AlterTable}
    (each : ∀ text ∈ texts,
      Statement.parse (alterText names [text]) = .ok (.alterTable (statementOf text))) :
    ∃ clauseOf : String → Clause, (∀ text ∈ texts, (statementOf text).clauses = [clauseOf text]) ∧
      Statement.parse (alterText names texts) =
        .ok (.alterTable ⟨⟨names⟩, false, texts.map clauseOf⟩) := by
  obtain ⟨clauseOf?, whole, alone⟩ := parse_sequence named nonempty clauseTexts
  have single : ∀ text ∈ texts, ∃ clause, clauseOf? text = some clause ∧
      (statementOf text).clauses = [clause] := by
    intro text member
    have read := alone text member
    rw [toOption_eq_some.mpr (each text member)] at read
    obtain ⟨clause, found, same⟩ := Option.map_eq_some_iff.mp read.symm
    injection same with same
    exact ⟨clause, found, by rw [← same]⟩
  have someClause : Nonempty Clause := ⟨{ operation := .add }⟩
  choose! clauseOf found same using single
  have all : texts.mapM clauseOf? = some (texts.map clauseOf) :=
    (mapM_congr found).trans List.mapM_pure
  refine ⟨clauseOf, same, toOption_eq_some.mp ?_⟩
  rw [whole, all]
  rfl

theorem isAlteration_sequence {names texts : List String} (named : names ≠ [])
    (nonempty : texts ≠ []) (clauseTexts : ∀ text ∈ texts, isClauseText text = true) :
    IsAlteration (alterText names texts) ↔
      ∀ text ∈ texts, IsAlteration (alterText names [text]) := by
  constructor
  · rintro ⟨statement, read⟩ text member
    obtain ⟨clauseOf?, whole, alone⟩ := parse_sequence named nonempty clauseTexts
    rw [toOption_eq_some.mpr read] at whole
    obtain ⟨clauses, all, -⟩ := Option.map_eq_some_iff.mp whole.symm
    obtain ⟨clause, here⟩ := eq_some_of_mapM all text member
    have read' := alone text member
    rw [here] at read'
    exact ⟨_, toOption_eq_some.mp read'⟩
  · intro each
    have someStatement : Nonempty AlterTable := ⟨⟨⟨[]⟩, false, []⟩⟩
    choose! statementOf read using each
    obtain ⟨clauseOf, -, read'⟩ := parse_composed named nonempty clauseTexts read
    exact ⟨_, read'⟩

end AlterRelay.Sql
