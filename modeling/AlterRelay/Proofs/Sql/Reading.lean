/-
# AlterRelay.Proofs.Sql.Reading — readers and the token in front

Every reader asks for the token in front and goes on with what is behind it. The
lemmas here say what it does with one token: a name is taken, a keyword is taken
or left alone, a run goes on or stops. They open the readers once, so that no
proof about whole statements has to.

`Headed` speaks of the token in front, if there is one. `Token.Stops` holds of
the tokens a run stops at, `Token.IsPlain` of those that end every optional part
of a clause.
-/
import AlterRelay.Sql.StatementReader

namespace AlterRelay.Sql

set_option autoImplicit false

/-! ## Tokens in front -/

/-- The first token, if there is one, is such a token. -/
def Headed (front : Token → Prop) (tokens : List Token) : Prop :=
  ∀ token ∈ tokens.head?, front token

theorem Headed.nil (front : Token → Prop) : Headed front [] := by
  intro token first
  cases first

theorem headed_cons {front : Token → Prop} {token : Token} {tokens : List Token} :
    Headed front (token :: tokens) ↔ front token := by
  simp [Headed]

theorem Headed.mono {front front' : Token → Prop} (weaker : ∀ token, front token → front' token)
    {tokens : List Token} (headed : Headed front tokens) : Headed front' tokens :=
  fun token first => weaker token (headed token first)

/-- In front of others, tokens are headed as they were. If there are none, the others count. -/
theorem Headed.append {front : Token → Prop} {tokens more : List Token}
    (first : Headed front tokens) (second : Headed front more) : Headed front (tokens ++ more) := by
  cases tokens with
  | nil => exact second
  | cons token tokens => exact first

theorem Headed.of_append {front : Token → Prop} {tokens more : List Token}
    (headed : Headed front (tokens ++ more)) : Headed front tokens := by
  cases tokens with
  | nil => exact Headed.nil front
  | cons token tokens => exact headed

/-- What is left where tokens are dropped does not begin with one to drop. -/
theorem headed_dropWhile (front : Token → Bool) (tokens : List Token) :
    Headed (¬front · = true) (tokens.dropWhile front) := by
  intro token first
  have other := List.head?_dropWhile_not front tokens
  rw [Option.mem_def.mp first] at other
  simpa using other

/-- Keywords are spelt by words only, not by quoted names. -/
theorem Token.kind_of_keyword? {token : Token} {keyword : Keyword}
    (spelt : token.keyword? = some keyword) : token.kind = .word := by
  unfold Token.keyword? at spelt
  split at spelt
  · assumption
  · cases spelt

/-- A token that is no keyword, no dot and no opening parenthesis. It ends every optional
part of a clause. -/
def Token.IsPlain (token : Token) : Prop :=
  token.keyword? = none ∧ token.kind ≠ .dot ∧ token.kind ≠ .openParen

/-- A plain token is no word. -/
theorem Token.IsPlain.not_isKeyword {token : Token} (plain : token.IsPlain) (keyword : Keyword) :
    ¬token.isKeyword keyword = true := by
  rw [Token.isKeyword, plain.1]
  exact Bool.false_ne_true

theorem Token.IsPlain.not_isTypeModifier {token : Token} (plain : token.IsPlain) :
    ¬Reader.isTypeModifier token = true := by
  simp [Reader.isTypeModifier, plain.1]

/-- A token that a run stops at. -/
def Token.Stops (inParens : Bool) (token : Token) : Prop := runStep inParens 0 token.kind = .stop

/-- No word stops a run. -/
theorem Token.Stops.kind_ne_word {inParens : Bool} {token : Token} (stops : token.Stops inParens) :
    token.kind ≠ .word := by
  intro word
  rw [Token.Stops, word] at stops
  cases stops

theorem Token.Stops.isPlain {inParens : Bool} {token : Token} (stops : token.Stops inParens) :
    token.IsPlain := by
  refine ⟨if_neg stops.kind_ne_word, ?_, ?_⟩
  · intro dot
    rw [Token.Stops, dot] at stops
    cases stops
  · intro parenthesis
    rw [Token.Stops, parenthesis] at stops
    cases stops

/-- What stops a run anywhere stops it inside of parentheses. -/
theorem Token.Stops.inParens {token : Token} (stops : token.Stops false) : token.Stops true := by
  unfold Token.Stops at stops ⊢
  cases kind : token.kind <;> simp_all [runStep, runEnd]

theorem Token.stops_plain {inParens : Bool} :
    ∀ token : Token, token.Stops inParens → token.IsPlain :=
  fun _ => Token.Stops.isPlain

namespace Reader

variable {α β : Type} {reader : Reader α} {tokens : List Token}

/-! ## Sequences -/

/-- Reading goes on behind what has been read. -/
theorem bind_of_ok {next : α → Reader β} {rest : List Token} {value : α}
    (read : reader tokens = .ok (value, rest)) : (reader >>= next) tokens = next value rest := by
  change (reader tokens >>= fun p => next p.1 p.2) = _
  rw [read]
  rfl

/-- An error ends the reading. -/
theorem bind_of_error {next : α → Reader β} {error : ParseError}
    (failed : reader tokens = .error error) : (reader >>= next) tokens = .error error := by
  change (reader tokens >>= fun p => next p.1 p.2) = _
  rw [failed]
  rfl

/-! ## Names and keywords -/

theorem identifier_of_some {expected : Expectation} {token : Token} {name : String}
    (named : token.identifier? = some name) (tokens : List Token) :
    identifier expected (token :: tokens) = .ok (name, tokens) := by
  simp only [identifier, named]

theorem identifier_of_none {expected : Expectation} {token : Token}
    (unnamed : token.identifier? = none) (tokens : List Token) :
    identifier expected (token :: tokens) = .error (.expecting expected (token :: tokens)) := by
  simp only [identifier, unnamed]

/-- A keyword gives a name where a name is expected. -/
theorem identifier_of_isKeyword {expected : Expectation} {token : Token} {keyword : Keyword}
    (spelt : token.isKeyword keyword = true) (tokens : List Token) :
    identifier expected (token :: tokens) = .ok (token.text, tokens) := by
  have word := Token.kind_of_keyword? (eq_of_beq spelt)
  simp [identifier, Token.identifier?, word]

theorem afterKeywords?_of_headed {keyword : Keyword} {more : List Keyword} {tokens : List Token}
    (front : Headed (¬·.isKeyword keyword = true) tokens) :
    afterKeywords? (keyword :: more) tokens = none := by
  cases tokens with
  | nil => rfl
  | cons token tokens => rw [afterKeywords?, if_neg (headed_cons.mp front)]

/-- Keywords are taken or not by the first token alone, unless the first one stands there. -/
theorem acceptKeywords_of_headed {keyword : Keyword} {more : List Keyword} {tokens : List Token}
    (front : Headed (¬·.isKeyword keyword = true) tokens) :
    acceptKeywords (keyword :: more) tokens = .ok (false, tokens) := by
  rw [acceptKeywords, afterKeywords?_of_headed front]

/-- Two keywords that stand there are taken. -/
theorem acceptKeywords_of_both {first second : Token} {keyword next : Keyword}
    (spelt : first.isKeyword keyword = true) (spelt' : second.isKeyword next = true)
    (tokens : List Token) :
    acceptKeywords [keyword, next] (first :: second :: tokens) = .ok (true, tokens) := by
  rw [acceptKeywords, afterKeywords?, if_pos spelt, afterKeywords?, if_pos spelt']
  rfl

theorem acceptKeyword_of_isKeyword {token : Token} {keyword : Keyword}
    (spelt : token.isKeyword keyword = true) (tokens : List Token) :
    acceptKeyword keyword (token :: tokens) = .ok (true, tokens) := by
  rw [acceptKeyword, acceptKeywords, afterKeywords?, if_pos spelt]
  rfl

/-- A token spells one keyword at most. -/
theorem not_isKeyword {token : Token} {keyword other : Keyword}
    (spelt : token.isKeyword keyword = true) (different : keyword ≠ other) :
    ¬token.isKeyword other = true := by
  have same : token.keyword? = some keyword := eq_of_beq spelt
  simp [Token.isKeyword, same, different]

theorem not_isTypeModifier {token : Token} {keyword : Keyword}
    (spelt : token.isKeyword keyword = true) (other : keyword.isTypeModifier = false) :
    ¬isTypeModifier token = true := by
  have same : token.keyword? = some keyword := eq_of_beq spelt
  simp [isTypeModifier, same, other]

theorem accept_of_kind {token : Token} {kind : TokenKind} (same : token.kind = kind)
    (tokens : List Token) : accept kind (token :: tokens) = .ok (true, tokens) := by
  simp [accept, beginsWith, same]

/-- A token of another kind is left. -/
theorem accept_of_headed {kind : TokenKind} {tokens : List Token}
    (front : Headed (¬·.kind = kind) tokens) : accept kind tokens = .ok (false, tokens) := by
  cases tokens with
  | nil => rfl
  | cons token tokens => simp [accept, beginsWith, headed_cons.mp front]

/-! ## Runs and lists -/

/-- A run stops outside parentheses only. -/
theorem depth_of_runStep {inParens : Bool} {depth : Nat} {kind : TokenKind}
    (stop : runStep inParens depth kind = .stop) : depth = 0 := by
  cases kind <;> cases depth <;> first | rfl | cases stop

/-- Outside of parentheses, a run ends in front of a token that stops it. -/
theorem runFrom_of_stops {inParens : Bool} {tokens : List Token}
    (stopped : Headed (Token.Stops inParens) tokens) :
    runFrom inParens 0 tokens = .ok ([], tokens) := by
  cases tokens with
  | nil => rfl
  | cons token tokens =>
      have stop : runStep inParens 0 token.kind = .stop := headed_cons.mp stopped
      rw [runFrom, stop]

/-- A token that is taken is the first of its run. -/
theorem runFrom_of_take {inParens : Bool} {depth next : Nat} {token : Token}
    (step : runStep inParens depth token.kind = .take next) (tokens : List Token) :
    runFrom inParens depth (token :: tokens) =
      (do
        let texts ← runFrom inParens next
        Pure.pure (token.text :: texts) : Reader (List String)) tokens := by
  rw [runFrom, step]
  dsimp only
  cases read : runFrom inParens next tokens with
  | error error => exact (bind_of_error read).symm
  | ok result =>
      rw [bind_of_ok read]
      rfl

/-- A comma ends the argument that has begun, even an empty one. -/
theorem argumentsFrom_of_comma {token : Token} (comma : token.kind = .comma)
    (current : List String) (tokens : List Token) :
    argumentsFrom current (token :: tokens) =
      (do
        let arguments ← argumentsFrom []
        Pure.pure (" ".intercalate current :: arguments) : Reader (List String)) tokens := by
  rw [argumentsFrom, comma]
  dsimp only
  cases read : argumentsFrom [] tokens with
  | error error => exact (bind_of_error read).symm
  | ok result =>
      rw [bind_of_ok read]
      rfl

/-- Where no modifier stands, none is read. -/
theorem typeModifiers_of_headed {tokens : List Token}
    (front : Headed (¬isTypeModifier · = true) tokens) :
    typeModifiers tokens = .ok ([], tokens) := by
  cases tokens with
  | nil => rfl
  | cons token tokens =>
      unfold typeModifiers
      rw [List.takeWhile_cons_of_neg (headed_cons.mp front),
        List.dropWhile_cons_of_neg (headed_cons.mp front)]
      rfl

/-- Tokens that a type does not go on with, once it has no character set. -/
structure EndsType (tokens : List Token) : Prop where
  noModifier : Headed (¬isTypeModifier · = true) tokens
  noCharset : Headed (¬·.isKeyword .charset = true) tokens
  noCharacterSet : afterKeywords? [.character, .set] tokens = none

theorem afterKeywords?_of_append {keywords : List Keyword} {tokens more : List Token}
    (absent : afterKeywords? keywords (tokens ++ more) = none) :
    afterKeywords? keywords tokens = none := by
  fun_induction afterKeywords? keywords tokens with
  | case1 => cases absent
  | case2 => rfl
  | case3 keyword others token tokens spelt ih =>
      rw [List.cons_append, afterKeywords?, if_pos spelt] at absent
      exact ih absent
  | case4 => rfl

/-- A part of what ends a type ends it too, if there is less to see. -/
theorem EndsType.of_append {tokens more : List Token} (ends : EndsType (tokens ++ more)) :
    EndsType tokens :=
  ⟨ends.noModifier.of_append, ends.noCharset.of_append,
    afterKeywords?_of_append ends.noCharacterSet⟩

theorem furtherParts_of_headed {tokens : List Token} (front : Headed (¬·.kind = .dot) tokens) :
    furtherParts tokens = .ok ([], tokens) := by
  cases tokens with
  | nil => rfl
  | cons token tokens =>
      have other := headed_cons.mp front
      cases tokens with
      | nil => rw [furtherParts, if_neg other]
      | cons next tokens => rw [furtherParts, if_neg other]

/-- A dot has to be followed by a name. -/
theorem furtherParts_of_dot {token : Token} (dot : token.kind = .dot) (tokens : List Token) :
    furtherParts (token :: tokens) = (identifier .tableName >>= fun part =>
      (furtherParts : Reader _) >>= fun parts => Pure.pure (part :: parts)) tokens := by
  cases tokens with
  | nil =>
      rw [furtherParts, if_pos dot]
      rfl
  | cons next tokens =>
      rw [furtherParts, if_pos dot]
      cases named : next.identifier? with
      | none =>
          rw [bind_of_error (identifier_of_none named tokens)]
      | some part =>
          rw [bind_of_ok (identifier_of_some named tokens)]
          dsimp only
          cases behind : furtherParts tokens with
          | error error => exact (bind_of_error behind).symm
          | ok result =>
              rw [bind_of_ok behind]
              rfl

/-- What may stand behind a definition in a list of them. -/
def closing (first : ColumnDefinition) : Reader (List ColumnDefinition) :=
  fun tokens =>
    match tokens with
    | [] => .error (.expecting .separatorOrClosing [])
    | token :: rest =>
        match token.kind with
        | .closeParen => .ok ([first], rest)
        | .comma =>
            match definitionsFrom rest with
            | .error error => .error error
            | .ok (more, behind) => .ok (first :: more, behind)
        | _ => .error (.expecting .separatorOrClosing (token :: rest))

/-- The recursion over a list of definitions, as a sequence of two readers. -/
theorem definitionsFrom_eq : (definitionsFrom : Reader _) = definition true >>= closing := by
  funext tokens
  rw [definitionsFrom]
  split
  · rename_i read
    exact (bind_of_error read).symm
  · rename_i read
    rw [bind_of_ok read]
    rfl
  · rename_i read
    rw [bind_of_ok read]
    rfl

/-- Behind a comma the list goes on. -/
theorem closing_of_comma (first : ColumnDefinition) {token : Token} (comma : token.kind = .comma)
    (tokens : List Token) :
    closing first (token :: tokens) =
      (do
        let more ← definitionsFrom
        Pure.pure (first :: more) : Reader (List ColumnDefinition)) tokens := by
  rw [closing, comma]
  dsimp only
  cases read : definitionsFrom tokens with
  | error error => exact (bind_of_error read).symm
  | ok result =>
      rw [bind_of_ok read]
      rfl

/-- What may stand behind a clause in a list of them. -/
def furtherClauses (first : Clause) : Reader (List Clause) :=
  fun tokens =>
    match tokens with
    | [] => .ok ([first], [])
    | token :: rest =>
        if token.kind = .comma then
          match clausesFrom rest with
          | .error error => .error error
          | .ok (more, behind) => .ok (first :: more, behind)
        else .ok ([first], token :: rest)

/-- The recursion over clauses, as a sequence of two readers. -/
theorem clausesFrom_eq : (clausesFrom : Reader _) = clause >>= furtherClauses := by
  funext tokens
  rw [clausesFrom]
  split
  · rename_i read
    exact (bind_of_error read).symm
  · rename_i read
    rw [bind_of_ok read]
    rfl
  · rename_i read
    rw [bind_of_ok read]
    rfl

/-- Without a comma the clause was the last one. -/
theorem furtherClauses_of_headed (first : Clause) {tokens : List Token}
    (front : Headed (¬·.kind = .comma) tokens) :
    furtherClauses first tokens = .ok ([first], tokens) := by
  cases tokens with
  | nil => rfl
  | cons token tokens => rw [furtherClauses, if_neg (headed_cons.mp front)]

/-- Behind a comma another clause has to follow. -/
theorem furtherClauses_of_comma (first : Clause) {token : Token} (comma : token.kind = .comma)
    (tokens : List Token) :
    furtherClauses first (token :: tokens) =
      (do
        let more ← clausesFrom
        Pure.pure (first :: more) : Reader (List Clause)) tokens := by
  rw [furtherClauses, if_pos comma]
  cases read : clausesFrom tokens with
  | error error => exact (bind_of_error read).symm
  | ok result =>
      rw [bind_of_ok read]
      rfl

end Reader

end AlterRelay.Sql
