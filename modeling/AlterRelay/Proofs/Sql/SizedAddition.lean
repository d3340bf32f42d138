/-
# AlterRelay.Proofs.Sql.SizedAddition — a column added, with the arguments of its type

A type may be written with arguments in parentheses, with none between them, or
without parentheses, and with modifiers on both sides (`WrittenType`). Wherever a
column is added with it, it is read with exactly these arguments (`dataType_sized`).

What stands behind the type is read by itself (`behindType`): it decides whether the
statement is refused, and the type has no part in that. A statement is then made of
the clauses in front, of the added column and of what was read behind its type
(`ofTokens_sized`).
-/
import AlterRelay.Proofs.Sql.AdditionFront

namespace AlterRelay.Sql

set_option autoImplicit false

/-! ## Types with their arguments -/

/-- A type as it is written, up to its character set. -/
structure WrittenType where
  word : AnyWord
  before : List ModifierWord
  /-- What stands in the parentheses, where there are any. -/
  listed : Option (List ArgumentForm)
  behind : List ModifierWord

namespace WrittenType

def parentheses (type : WrittenType) : List Lexeme :=
  type.listed.elim [] fun arguments =>
    .openParen :: ([.comma].intercalate (arguments.map ArgumentForm.lexemes) ++ [.closeParen])

def lexemes (type : WrittenType) : List Lexeme :=
  type.word.lexeme :: (type.before.map Word.lexeme ++
    (type.parentheses ++ type.behind.map Word.lexeme))

/-- The word of the type and its modifiers, from both sides of the arguments. -/
def name (type : WrittenType) : String :=
  " ".intercalate (type.word.text :: (type.before ++ type.behind).map Word.text)

/-- The tokens of each argument, joined by a blank. -/
def arguments (type : WrittenType) : List String := (type.listed.getD []).map ArgumentForm.text

/-- The type has gone as far as it can: no further modifier follows, and no arguments that it has
not got yet. -/
def EndsAt (type : WrittenType) (rest : List Token) : Prop :=
  Headed (fun token => ¬Reader.isTypeModifier token = true ∧
    (type.listed = none → ¬token.kind = .openParen)) rest

end WrittenType

/-! ## What stands behind a type -/

/-- All that is read behind the type of the first column that a clause adds, to the end of the
statement: the rest of its definition, the definitions and the clauses that follow. -/
structure BehindType where
  characterSet : Option String
  specs : List String
  definitions : List ColumnDefinition
  clauses : List Clause
  deriving DecidableEq

namespace BehindType

/-- The column of this name and type, with what stands behind it. -/
def definition (behind : BehindType) (name : String) (type : WrittenType) : ColumnDefinition :=
  ⟨name, ⟨type.name, type.arguments, behind.characterSet⟩, behind.specs⟩

/-- The clause that adds the column, with the definitions that follow in its list. -/
def addition (behind : BehindType) (name : String) (type : WrittenType) : Clause :=
  { operation := .add, column := name,
    definitions := behind.definition name type :: behind.definitions }

end BehindType

namespace Reader

variable {rest : List Token}

/-- The definitions behind the first of a list, up to its closing parenthesis. -/
def furtherDefinitions : Reader (List ColumnDefinition) :=
  fun tokens =>
    match tokens with
    | [] => .error (.expecting .separatorOrClosing [])
    | token :: rest =>
        match token.kind with
        | .closeParen => .ok ([], rest)
        | .comma => definitionsFrom rest
        | _ => .error (.expecting .separatorOrClosing (token :: rest))

/-- The clauses behind the first one. -/
def clausesBehind : Reader (List Clause) :=
  fun tokens =>
    match tokens with
    | [] => .ok ([], [])
    | token :: rest => if token.kind = .comma then clausesFrom rest else .ok ([], token :: rest)

/-- The definitions behind the first one. Without a list there are none. -/
def otherDefinitions (listed : Bool) : Reader (List ColumnDefinition) :=
  if listed then furtherDefinitions else pure []

def behindType (listed : Bool) : Reader BehindType := do
  let characterSet ← characterSet
  let specs ← run listed
  let definitions ← otherDefinitions listed
  let clauses ← clausesBehind
  endOfStatement
  pure ⟨characterSet, specs, definitions, clauses⟩

theorem closing_eq (first : ColumnDefinition) :
    closing first = furtherDefinitions >>= fun more => pure (first :: more) := by
  funext tokens
  cases tokens with
  | nil => rfl
  | cons token tokens =>
      cases kind : token.kind with
      | comma =>
          have same : furtherDefinitions (token :: tokens) = definitionsFrom tokens := by
            rw [furtherDefinitions, kind]
          rw [closing_of_comma first kind, bind_of_eq same]
      | closeParen =>
          have ended : furtherDefinitions (token :: tokens) = .ok ([], tokens) := by
            rw [furtherDefinitions, kind]
          rw [bind_of_ok ended, closing, kind]
          rfl
      | _ =>
          have refused : furtherDefinitions (token :: tokens) =
              .error (.expecting .separatorOrClosing (token :: tokens)) := by
            rw [furtherDefinitions, kind]
          rw [bind_of_error refused, closing, kind]

theorem furtherClauses_eq (first : Clause) :
    furtherClauses first = clausesBehind >>= fun more => pure (first :: more) := by
  funext tokens
  cases tokens with
  | nil => rfl
  | cons token tokens =>
      by_cases comma : token.kind = .comma
      · have same : clausesBehind (token :: tokens) = clausesFrom tokens := by
          rw [clausesBehind, if_pos comma]
        rw [furtherClauses_of_comma first comma, bind_of_eq same]
      · have ended : clausesBehind (token :: tokens) = .ok ([], token :: tokens) := by
          rw [clausesBehind, if_neg comma]
        rw [bind_of_ok ended, furtherClauses_of_headed first (headed_cons.mpr comma)]
        rfl

/-! ## Types -/

/-- Parentheses with arguments are read to their end, and so are those with none. -/
theorem typeArguments_listed (arguments : List ArgumentForm) :
    typeArguments (Lexeme.openParen.token ::
        (([.comma].intercalate (arguments.map ArgumentForm.lexemes)).map Lexeme.token ++
          Lexeme.closeParen.token :: rest)) =
      .ok (arguments.map ArgumentForm.text, rest) := by
  have opening : Lexeme.openParen.token.kind = .openParen := rfl
  rw [typeArguments, bind_of_ok (accept_of_kind opening _), if_pos rfl]
  cases arguments with
  | nil => rfl
  | cons first others =>
      have nonempty : (first :: others).map ArgumentForm.lexemes ≠ [] := List.cons_ne_nil _ _
      have last : ((first :: others).map ArgumentForm.lexemes).getLast? ≠ some [] := by
        intro empty
        obtain ⟨argument, -, none⟩ := List.mem_map.mp (List.mem_of_getLast? empty)
        exact argument.nonempty none
      refine (argumentsFrom_written nonempty (List.forall_mem_map.mpr fun form _ => form.whole)
        (List.forall_mem_map.mpr fun form _ => form.plain) last).trans ?_
      rw [List.map_map]
      rfl

/-- A type is read with its arguments, whatever they are, and its character set may follow. -/
theorem dataType_sized (type : WrittenType) (ends : type.EndsAt rest) :
    dataType (type.lexemes.map Lexeme.token ++ rest) =
      (do
        let characterSet ← characterSet
        pure ⟨type.name, type.arguments, characterSet⟩ : Reader DataType) rest := by
  obtain ⟨word, before, listed, behind⟩ := type
  have noModifier : Headed (¬isTypeModifier · = true) rest := ends.mono fun _ both => both.1
  cases listed with
  | none =>
      have notOpen : Headed (¬·.kind = .openParen) rest := ends.mono fun _ both => both.2 rfl
      have absent : typeArguments rest = .ok ([], rest) := by
        rw [typeArguments, bind_of_ok (accept_of_headed notOpen), if_neg Bool.false_ne_true]
        rfl
      -- Without arguments, the modifiers of both sides stand next to each other.
      have shape : (WrittenType.lexemes ⟨word, before, none, behind⟩).map Lexeme.token ++ rest =
          word.lexeme.token ::
            (((before ++ behind).map Word.lexeme).map Lexeme.token ++ rest) := by
        simp [WrittenType.lexemes, WrittenType.parentheses]
      rw [shape, dataType, bind_of_ok (typeWord_written word _),
        bind_of_ok (typeModifiers_written (before ++ behind) noModifier), bind_of_ok absent,
        bind_of_ok (typeModifiers_of_headed noModifier), List.append_nil]
      rfl
  | some arguments =>
      have opens : Headed (¬isTypeModifier · = true) (Lexeme.openParen.token ::
          (([.comma].intercalate (arguments.map ArgumentForm.lexemes)).map Lexeme.token ++
            Lexeme.closeParen.token :: ((behind.map Word.lexeme).map Lexeme.token ++ rest))) :=
        headed_cons.mpr Bool.false_ne_true
      have shape : (WrittenType.lexemes ⟨word, before, some arguments, behind⟩).map Lexeme.token ++
          rest = word.lexeme.token :: ((before.map Word.lexeme).map Lexeme.token ++
            Lexeme.openParen.token ::
              (([.comma].intercalate (arguments.map ArgumentForm.lexemes)).map Lexeme.token ++
                Lexeme.closeParen.token ::
                  ((behind.map Word.lexeme).map Lexeme.token ++ rest))) := by
        simp [WrittenType.lexemes, WrittenType.parentheses]
      rw [shape, dataType, bind_of_ok (typeWord_written word _),
        bind_of_ok (typeModifiers_written before opens),
        bind_of_ok (typeArguments_listed arguments),
        bind_of_ok (typeModifiers_written behind noModifier), ← List.map_append]
      rfl

/-! ## Definitions and clauses -/

theorem definition_sized (inParens : Bool) (name : NameForm) (type : WrittenType)
    (ends : type.EndsAt rest) :
    definition inParens (name.lexeme.token :: (type.lexemes.map Lexeme.token ++ rest)) =
      (do
        let characterSet ← characterSet
        let specs ← run inParens
        pure ⟨name.name, ⟨type.name, type.arguments, characterSet⟩, specs⟩ :
          Reader ColumnDefinition) rest := by
  rw [definition, bind_of_ok (identifier_of_some name.named _),
    bind_of_eq (dataType_sized type ends), bind_assoc]
  simp only [pure_bind]

/-- The column is the first of its list, or the only one. -/
theorem definitionsBehind_sized (front : ColumnFront) (first : front.listed.getD [] = [])
    (type : WrittenType) (ends : type.EndsAt rest) :
    definitionsBehind front
        (front.name.lexeme.token :: (type.lexemes.map Lexeme.token ++ rest)) =
      (do
        let characterSet ← characterSet
        let specs ← run front.listed.isSome
        let more ← otherDefinitions front.listed.isSome
        pure (⟨front.name.name, ⟨type.name, type.arguments, characterSet⟩, specs⟩ :: more) :
          Reader (List ColumnDefinition)) rest := by
  have parts : definitionsBehind front =
      (do
        let first ← definition front.listed.isSome
        let more ← otherDefinitions front.listed.isSome
        pure (first :: more) : Reader (List ColumnDefinition)) := by
    unfold definitionsBehind
    cases listed : front.listed with
    | none => rfl
    | some earlier =>
        rw [listed, Option.getD_some] at first
        subst first
        have list : (definitionsFrom : Reader _) = definition true >>= closing := definitionsFrom_eq
        refine (bind_pure (m := Reader) definitionsFrom).trans ?_
        rw [list, funext closing_eq]
        rfl
  rw [parts, bind_of_eq (definition_sized _ front.name type ends)]
  simp only [bind_assoc, pure_bind]

/-- A clause that adds a column, and those behind it: the type is read as it is written, and
whatever is refused is refused behind it. -/
theorem clauseList_sized (front : ColumnFront) (first : front.listed.getD [] = [])
    (type : WrittenType) (ends : type.EndsAt rest) :
    clauseList (front.lexemes.map Lexeme.token ++ (type.lexemes.map Lexeme.token ++ rest)) =
      (do
        let behind ← behindType front.listed.isSome
        pure (behind.addition front.name.name type :: behind.clauses) :
          Reader (List Clause)) rest := by
  have parts : (clausesFrom : Reader _) = clause >>= furtherClauses := clausesFrom_eq
  rw [clauseList, parts, bind_assoc, bind_of_eq (clause_addition front _), bind_assoc,
    bind_of_eq (addedDefinitions_front front _),
    bind_of_eq (definitionsBehind_sized front first type ends)]
  simp only [bind_assoc, pure_bind, furtherClauses_eq, behindType]
  rfl

end Reader

/-- A statement with an added column is made of the clauses in front, of the column in the type
that is written, and of what is read behind the type, which alone may be refused. -/
theorem ofTokens_sized (front : AdditionFront) (first : front.column.listed.getD [] = [])
    (type : WrittenType) {rest : List Token} (ends : type.EndsAt rest) :
    Statement.ofTokens
        (front.lexemes.map Lexeme.token ++ (type.lexemes.map Lexeme.token ++ rest)) =
      (Reader.behindType front.column.listed.isSome rest).map fun read =>
        .alterTable ⟨⟨front.names.map NameForm.name⟩, front.ifExists.isSome,
          front.clauses.map Whole.value ++
            read.1.addition front.column.name.name type :: read.1.clauses⟩ := by
  rw [ofTokens_additionFront, Reader.clauseList_sized front.column first type ends]
  cases read : Reader.behindType front.column.listed.isSome rest with
  | error error => rw [Reader.bind_of_error read]; rfl
  | ok result => rw [Reader.bind_of_ok read]; rfl

end AlterRelay.Sql
