/-
# AlterRelay.Sql.Definition — reading a column definition

A definition is a name, a type and a run of further tokens. A type is one word
with attributes before or behind its arguments, and a character set in one of
two spellings. The arguments stand in parentheses, separated by commas; the
tokens of one argument are joined by a blank, and parentheses inside them are
refused. An argument between two commas may be empty, one before the closing
parenthesis counts only if it is not.
-/
import AlterRelay.Sql.Statement
import AlterRelay.Sql.TokenRun

namespace AlterRelay.Sql.Reader

set_option autoImplicit false

/-- Whether a token is a word such as `UNSIGNED`, which belongs to the type in front of it. -/
def isTypeModifier (token : Token) : Bool := token.keyword?.any Keyword.isTypeModifier

/-- The texts of the attributes at the front. -/
def typeModifiers : Reader (List String) :=
  fun tokens =>
    .ok ((tokens.takeWhile isTypeModifier).map Token.text, tokens.dropWhile isTypeModifier)

/-- The arguments up to the closing parenthesis, of which the first has begun with the
texts in `current`. -/
def argumentsFrom (current : List String) :
    List Token → Except ParseError (List String × List Token)
  | [] => .error (.expecting .closing [])
  | token :: rest =>
      match token.kind with
      | .endOfInput => .error (.expecting .closing (token :: rest))
      | .openParen => .error (.expecting .typeArgument (token :: rest))
      | .closeParen => .ok (if current.isEmpty then [] else [" ".intercalate current], rest)
      | .comma =>
          match argumentsFrom [] rest with
          | .ok (arguments, behind) => .ok (" ".intercalate current :: arguments, behind)
          | .error error => .error error
      | _ => argumentsFrom (current ++ [token.text]) rest

/-- The arguments in parentheses, if there are any. -/
def typeArguments : Reader (List String) := do
  if ← accept .openParen then argumentsFrom [] else pure []

/-- A character set in either spelling. -/
def characterSet : Reader (Option String) := do
  if ← acceptKeywords [.character, .set] then some <$> identifier .characterSet
  else if ← acceptKeyword .charset then some <$> identifier .characterSet
  else pure none

/-- The first word of a type, which may be a keyword but no name in quotes. -/
def typeWord : Reader String :=
  fun tokens =>
    match tokens with
    | [] => .error (.expecting .dataType [])
    | token :: rest =>
        if token.kind = .word then .ok (token.text, rest)
        else .error (.expecting .dataType (token :: rest))

/-- A type's name, with its modifiers on both sides of the arguments, the arguments, and a character
set. -/
def dataType : Reader DataType := do
  let word ← typeWord
  let before ← typeModifiers
  let arguments ← typeArguments
  let behind ← typeModifiers
  let characterSet ← characterSet
  pure ⟨" ".intercalate (word :: (before ++ behind)), arguments, characterSet⟩

/-- A name, a type, and the run of tokens behind it. -/
def definition (inParens : Bool) : Reader ColumnDefinition := do
  let name ← identifier .columnName
  let type ← dataType
  let specs ← run inParens
  pure ⟨name, type, specs⟩

theorem typeModifiers_shrinks : Shrinks typeModifiers := by
  intro tokens rest value taken
  cases taken
  exact List.dropWhile_suffix _

/-- By induction on the tokens. Each of them is taken or ends the list. -/
theorem argumentsFrom_suffix {current arguments : List String} {tokens rest : List Token}
    (taken : argumentsFrom current tokens = .ok (arguments, rest)) : rest <:+ tokens := by
  fun_induction argumentsFrom current tokens generalizing arguments rest with
  | case1 => cases taken
  | case2 => cases taken
  | case3 => cases taken
  | case4 =>
      cases taken
      exact List.suffix_cons _ _
  | case5 current token tokens _ more behind inner ih =>
      cases taken
      exact (ih inner).trans (List.suffix_cons token tokens)
  | case6 => cases taken
  | case7 current token tokens _ _ _ _ ih => exact (ih taken).trans (List.suffix_cons token tokens)

theorem typeArguments_shrinks : Shrinks typeArguments := by
  refine Shrinks.bind (accept_shrinks .openParen) fun _ => ?_
  exact Shrinks.ite (fun _ _ _ taken => argumentsFrom_suffix taken) (Shrinks.pure [])

theorem characterSet_shrinks : Shrinks characterSet := by
  have named : Shrinks (some <$> identifier .characterSet) :=
    Shrinks.bind (identifier_shrinks .characterSet) fun name => Shrinks.pure (some name)
  refine Shrinks.bind (acceptKeywords_shrinks _) fun _ => Shrinks.ite named ?_
  exact Shrinks.bind (acceptKeyword_shrinks _) fun _ => Shrinks.ite named (Shrinks.pure none)

theorem typeWord_shrinks : Shrinks typeWord := by
  intro tokens rest value taken
  unfold typeWord at taken
  split at taken
  · cases taken
  · split at taken
    · cases taken
      exact List.suffix_cons _ _
    · cases taken

theorem dataType_shrinks : Shrinks dataType := by
  refine Shrinks.bind typeWord_shrinks fun _ => ?_
  refine Shrinks.bind typeModifiers_shrinks fun _ => ?_
  refine Shrinks.bind typeArguments_shrinks fun _ => ?_
  refine Shrinks.bind typeModifiers_shrinks fun _ => ?_
  exact Shrinks.bind characterSet_shrinks fun _ => Shrinks.pure _

theorem definition_shrinks (inParens : Bool) : Shrinks (definition inParens) := by
  refine Shrinks.bind (identifier_shrinks .columnName) fun _ => ?_
  refine Shrinks.bind dataType_shrinks fun _ => ?_
  exact Shrinks.bind (run_shrinks inParens) fun _ => Shrinks.pure _

end AlterRelay.Sql.Reader
