/-
# AlterRelay.Proofs.Checked.CursorDefinition — definitions without a trap

The loops in a column definition perform the recursive readers of it. A turn of each is
a reader of its own, which takes one token, and what the loop does from some values on is
what the reader does from there, with these values in front.
-/
import AlterRelay.Proofs.Checked.CursorReading

namespace AlterRelay.Checked

open AlterRelay.Sql

set_option autoImplicit false

section

variable {α β : Type} {closing rest more : List Token} {cursor : Cursor} {token : Token}

/-! ## What is read behind some values -/

theorem map_of_ok {f : α → β} {reader : Reader α} {tokens : List Token} {value : α}
    (read : reader tokens = .ok (value, rest)) : (f <$> reader) tokens = .ok (f value, rest) := by
  change (reader tokens >>= fun p => Except.ok (f p.1, p.2)) = _
  rw [read]
  rfl

theorem map_of_error {f : α → β} {reader : Reader α} {tokens : List Token} {error : ParseError}
    (failed : reader tokens = .error error) : (f <$> reader) tokens = .error error := by
  change (reader tokens >>= fun p => Except.ok (f p.1, p.2)) = _
  rw [failed]
  rfl

theorem map_congr {f : α → β} {reader reader' : Reader α} {tokens tokens' : List Token}
    (same : reader tokens = reader' tokens') : (f <$> reader) tokens = (f <$> reader') tokens' := by
  change (reader tokens >>= fun p => Except.ok (f p.1, p.2)) = _
  rw [same]
  rfl

/-- With nothing read before, nothing is put in front. -/
theorem map_append_nil (reader : Reader (List α)) : ([] ++ ·) <$> reader = reader := id_map reader

/-- What a turn reads is put behind what was read before it. -/
theorem map_append_cons (before : List α) (next : α) (reader : Reader (List α)) :
    (before ++ ·) <$> (reader >>= fun more => pure (next :: more)) =
      ((before ++ [next]) ++ ·) <$> reader := by
  simp only [map_eq_pure_bind, bind_assoc, pure_bind, List.append_assoc, List.cons_append,
    List.nil_append]

/-! ## Runs -/

/-- One turn of the reader of a run: what has been read of it, and at which depth. -/
def runTurn (inParens : Bool) (run : List String × Nat) :
    Reader (Turn (List String × Nat) (List String)) := fun tokens =>
  match tokens with
  | [] =>
      match runEnd run.2 with
      | .refuse expected => .error (.expecting expected [])
      | _ => .ok (.leave run.1, [])
  | token :: rest =>
      match runStep inParens run.2 token.kind with
      | .stop => .ok (.leave run.1, token :: rest)
      | .refuse expected => .error (.expecting expected (token :: rest))
      | .take next => .ok (.again (run.1 ++ [token.text], next), rest)

/-- A run that ends with a parenthesis open is refused, by the machine as by the reader. -/
theorem leaveRun_same (stands : Stands closing cursor rest) (before : List String) (depth : Nat) :
    Same closing
      (Parse.leaveRun before depth cursor :
        Option (Except ParseError (Turn α (List String) × Cursor)))
      (match runEnd depth with
        | .refuse expected => .error (.expecting expected rest)
        | _ => .ok (.leave before, rest)) := by
  unfold Parse.leaveRun runEnd
  cases depth with
  | zero => exact .ok rfl stands
  | succ depth => exact .fail stands .closing

/-- A token of a run is taken by both. -/
theorem takeText_same (stands : Stands closing cursor (token :: more))
    (inner : token.isEnd = false) (before : List String) (depth : Nat) :
    Same closing (Parse.takeText before depth cursor)
      (.ok (.again (before ++ [token.text], depth), more)) :=
  .taking stands inner fun _ stands' => .ok rfl stands'

/-- The depth never falls below zero, since a parenthesis that closes nothing ends the run. -/
theorem runTurn_performs (inParens : Bool) (run : List String × Nat) :
    Performs (Parse.runTurn inParens run) (runTurn inParens run) := by
  obtain ⟨before, depth⟩ := run
  intro closing cursor rest stands
  refine .peeking stands fun token seen => ?_
  cases rest with
  | nil =>
      have kind : token.kind = .endOfInput := eq_of_beq seen
      rw [kind]
      exact leaveRun_same stands before depth
  | cons first more =>
      cases seen
      unfold runTurn
      dsimp only
      have inner (other : token.kind ≠ .endOfInput) : token.isEnd = false := isEnd_of_kind rfl other
      cases kind : token.kind with
      | endOfInput | semicolon =>
          cases depth with
          | zero => exact .ok rfl stands
          | succ depth => exact .fail stands .closing
      | comma =>
          cases depth with
          | zero => exact .ok rfl stands
          | succ depth => exact takeText_same stands (inner (by simp [kind])) before _
      | openParen => exact takeText_same stands (inner (by simp [kind])) before _
      | closeParen =>
          cases depth with
          | zero =>
              cases inParens with
              | false => exact .fail stands .separatorOrEnd
              | true => exact .ok rfl stands
          | succ depth =>
              -- Here the machine counts down, which traps at zero only.
              change Same closing ((checked (decrement? (depth + 1)) >>= _) cursor) _
              rw [decrement?, bind_done (checked_some _)]
              exact takeText_same stands (inner (by simp [kind])) before _
      | _ => exact takeText_same stands (inner (by simp [kind])) before _

/-- A turn that goes on has taken a token. -/
theorem runTurn_shorter {inParens : Bool} {run next : List String × Nat} {tokens : List Token}
    (read : runTurn inParens run tokens = .ok (.again next, rest)) :
    rest.length < tokens.length := by
  unfold runTurn at read
  cases tokens with
  | nil =>
      dsimp only at read
      split at read <;> cases read
  | cons token tokens =>
      dsimp only at read
      split at read
      · cases read
      · cases read
      · cases read
        exact Nat.lt_succ_self _

/-- The texts of a run, of which some have been taken. -/
def runBehind (inParens : Bool) (run : List String × Nat) : Reader (List String) :=
  (run.1 ++ ·) <$> (runFrom inParens run.2 : Reader (List String))

/-- The reader is its own turn, followed by itself. -/
theorem runBehind_eq (inParens : Bool) (run : List String × Nat) :
    runBehind inParens run = runTurn inParens run >>= Performs.following (runBehind inParens) := by
  obtain ⟨before, depth⟩ := run
  funext tokens
  cases tokens with
  | nil =>
      cases depth with
      | zero =>
          have read : runFrom inParens 0 [] = .ok ([], []) := Reader.runFrom_of_stops (.nil _)
          rw [runBehind, map_of_ok read, List.append_nil]
          rfl
      | succ depth => rfl
  | cons token tokens =>
      -- Reader and turn take the same step.
      cases step : runStep inParens depth token.kind with
      | stop =>
          have read : runFrom inParens depth (token :: tokens) = .ok ([], token :: tokens) := by
            rw [runFrom, step]
          have turn : runTurn inParens (before, depth) (token :: tokens) =
              .ok (.leave before, token :: tokens) := by
            rw [runTurn, step]
          rw [runBehind, map_of_ok read, Reader.bind_of_ok turn, List.append_nil]
          rfl
      | refuse expected =>
          have read : runFrom inParens depth (token :: tokens) =
              .error (.expecting expected (token :: tokens)) := by
            rw [runFrom, step]
          have turn : runTurn inParens (before, depth) (token :: tokens) =
              .error (.expecting expected (token :: tokens)) := by
            rw [runTurn, step]
          rw [runBehind, map_of_error read, Reader.bind_of_error turn]
      | take next =>
          have turn : runTurn inParens (before, depth) (token :: tokens) =
              .ok (.again (before ++ [token.text], next), tokens) := by
            rw [runTurn, step]
          rw [runBehind, map_congr (Reader.runFrom_of_take step tokens), map_append_cons,
            Reader.bind_of_ok turn]
          rfl

/-- The loop over a run begins with no text, at depth zero. -/
theorem run_performs (inParens : Bool) : Performs (Parse.run inParens) (Reader.run inParens) := by
  have looped := Performs.loop (runTurn_performs inParens) runTurn_shorter (runBehind_eq inParens)
    ([], 0)
  rwa [runBehind, map_append_nil] at looped

/-! ## Type names -/

/-- The words of a type behind others, which are joined by blanks. -/
def named (name : String) : Reader String :=
  (fun texts => " ".intercalate (name :: texts)) <$> Reader.typeModifiers

/-- One turn of the reader of a name: a modifier more, or the end of the name. -/
def namedTurn (name : String) : Reader (Turn String String) := fun tokens =>
  match tokens with
  | [] => .ok (.leave name, [])
  | token :: rest =>
      if Reader.isTypeModifier token then .ok (.again (name ++ " " ++ token.text), rest)
      else .ok (.leave name, token :: rest)

theorem isEnd_of_isTypeModifier (modifier : Reader.isTypeModifier token = true) :
    token.isEnd = false := by
  cases spelt : token.keyword? with
  | none => simp [Reader.isTypeModifier, spelt] at modifier
  | some keyword => exact isEnd_of_kind (Token.kind_of_keyword? spelt) (by decide)

theorem namedTurn_performs (name : String) :
    Performs (Parse.typeModifiersTurn name) (namedTurn name) := by
  intro closing cursor rest stands
  unfold Parse.typeModifiersTurn
  rw [bind_done stands.peekKeyword]
  cases rest with
  | nil => exact .ok rfl stands
  | cons token more =>
      unfold namedTurn
      dsimp only
      change Same closing
        ((if Reader.isTypeModifier token then _ else _ : Parse (Turn String String)) cursor) _
      by_cases modifier : Reader.isTypeModifier token = true
      · rw [if_pos modifier, if_pos modifier]
        exact .taking stands (isEnd_of_isTypeModifier modifier) fun _ stands' => .ok rfl stands'
      · rw [if_neg modifier, if_neg modifier]
        exact .ok rfl stands

/-- A turn that goes on has taken a modifier. -/
theorem namedTurn_shorter {name name' : String} {tokens : List Token}
    (read : namedTurn name tokens = .ok (.again name', rest)) : rest.length < tokens.length := by
  cases tokens with
  | nil => cases read
  | cons token tokens =>
      unfold namedTurn at read
      dsimp only at read
      split at read
      · cases read
        exact Nat.lt_succ_self _
      · cases read

theorem named_eq (name : String) : named name = namedTurn name >>= Performs.following named := by
  funext tokens
  cases tokens with
  | nil => rfl
  | cons token tokens =>
      by_cases modifier : Reader.isTypeModifier token = true
      · have turn : namedTurn name (token :: tokens) =
            .ok (.again (name ++ " " ++ token.text), tokens) := if_pos modifier
        have read : Reader.typeModifiers (token :: tokens) = (Reader.typeModifiers >>= fun texts =>
            pure (token.text :: texts) : Reader (List String)) tokens := by
          unfold Reader.typeModifiers
          rw [List.takeWhile_cons_of_pos modifier, List.dropWhile_cons_of_pos modifier]
          rfl
        rw [Reader.bind_of_ok turn, named, map_congr read]
        rfl
      · have turn : namedTurn name (token :: tokens) = .ok (.leave name, token :: tokens) :=
          if_neg modifier
        have read : Reader.typeModifiers (token :: tokens) = .ok ([], token :: tokens) := by
          unfold Reader.typeModifiers
          rw [List.takeWhile_cons_of_neg modifier, List.dropWhile_cons_of_neg modifier]
          rfl
        rw [Reader.bind_of_ok turn, named, map_of_ok read]
        rfl

/-- The loop over modifiers adds them to a name one by one. -/
theorem typeModifiers_performs (name : String) :
    Performs (Parse.typeModifiers name) (named name) :=
  .loop namedTurn_performs namedTurn_shorter named_eq name

/-! ## Type arguments -/

/-- The arguments behind others, of which the last has begun. -/
def argumentsBehind (read : List String × List String) : Reader (List String) :=
  (read.1 ++ ·) <$> (Reader.argumentsFrom read.2 : Reader (List String))

/-- One turn of the reader of arguments, with the tokens of the last one apart. -/
def argumentsTurn (read : List String × List String) :
    Reader (Turn (List String × List String) (List String)) := fun tokens =>
  match tokens with
  | [] => .error (.expecting .closing [])
  | token :: rest =>
      match token.kind with
      | .endOfInput => .error (.expecting .closing (token :: rest))
      | .openParen => .error (.expecting .typeArgument (token :: rest))
      | .closeParen =>
          .ok (.leave (if read.2.isEmpty then read.1 else read.1 ++ [" ".intercalate read.2]), rest)
      | .comma => .ok (.again (read.1 ++ [" ".intercalate read.2], []), rest)
      | _ => .ok (.again (read.1, read.2 ++ [token.text]), rest)

/-- Each kind of token has the same effect on both sides. -/
theorem argumentsTurn_performs (read : List String × List String) :
    Performs (Parse.typeArgumentsTurn read) (argumentsTurn read) := by
  obtain ⟨arguments, current⟩ := read
  intro closing cursor rest stands
  refine .peeking stands fun token seen => ?_
  cases rest with
  | nil =>
      have kind : token.kind = .endOfInput := eq_of_beq seen
      rw [kind]
      exact .fail stands .closing
  | cons first more =>
      cases seen
      unfold argumentsTurn
      dsimp only
      have inner (other : token.kind ≠ .endOfInput) : token.isEnd = false := isEnd_of_kind rfl other
      cases kind : token.kind with
      | endOfInput => exact .fail stands .closing
      | openParen => exact .fail stands .typeArgument
      | _ => exact .taking stands (inner (by simp [kind])) fun _ stands' => .ok rfl stands'

/-- A turn that goes on has taken a token. -/
theorem argumentsTurn_shorter {read next : List String × List String} {tokens : List Token}
    (turn : argumentsTurn read tokens = .ok (.again next, rest)) : rest.length < tokens.length := by
  cases tokens with
  | nil => cases turn
  | cons token tokens =>
      unfold argumentsTurn at turn
      dsimp only at turn
      split at turn <;> cases turn <;> exact Nat.lt_succ_self _

/-- The arguments of a type, turn by turn. -/
theorem argumentsBehind_eq (read : List String × List String) :
    argumentsBehind read = argumentsTurn read >>= Performs.following argumentsBehind := by
  obtain ⟨arguments, current⟩ := read
  funext tokens
  unfold argumentsBehind
  cases tokens with
  | nil => rfl
  | cons token tokens =>
      cases kind : token.kind with
      | comma =>
          have turn : argumentsTurn (arguments, current) (token :: tokens) =
              .ok (.again (arguments ++ [" ".intercalate current], []), tokens) := by
            rw [argumentsTurn, kind]
          rw [map_congr (Reader.argumentsFrom_of_comma kind current tokens), map_append_cons,
            Reader.bind_of_ok turn]
          rfl
      | closeParen =>
          have read : Reader.argumentsFrom current (token :: tokens) =
              .ok (if current.isEmpty then [] else [" ".intercalate current], tokens) := by
            rw [Reader.argumentsFrom, kind]
          have turn : argumentsTurn (arguments, current) (token :: tokens) = .ok (.leave
              (if current.isEmpty then arguments else arguments ++ [" ".intercalate current]),
              tokens) := by
            rw [argumentsTurn, kind]
          rw [map_of_ok read, Reader.bind_of_ok turn]
          -- An argument of no tokens at the end is none.
          cases current with
          | nil =>
              exact congrArg (fun texts => Except.ok (texts, tokens)) (List.append_nil arguments)
          | cons text current => rfl
      | endOfInput | openParen =>
          rw [map_of_error (by rw [Reader.argumentsFrom, kind]),
            Reader.bind_of_error (by rw [argumentsTurn, kind])]
      | _ =>
          have read : Reader.argumentsFrom current (token :: tokens) =
              (Reader.argumentsFrom (current ++ [token.text]) : Reader (List String)) tokens := by
            rw [Reader.argumentsFrom, kind]
          have turn : argumentsTurn (arguments, current) (token :: tokens) =
              .ok (.again (arguments, current ++ [token.text]), tokens) := by
            rw [argumentsTurn, kind]
          rw [map_congr read, Reader.bind_of_ok turn]
          rfl

/-- The loop over arguments begins with none, and none has begun. -/
theorem typeArguments_performs :
    Performs Parse.typeArguments (Reader.argumentsFrom [] : Reader (List String)) := by
  have looped := Performs.loop argumentsTurn_performs argumentsTurn_shorter argumentsBehind_eq
    ([], [])
  rwa [argumentsBehind, map_append_nil] at looped

/-! ## Types -/

/-- The machine looks at a pair of keywords before it takes either of them. -/
theorem characterSet_performs : Performs Parse.characterSet Reader.characterSet := by
  have chosen : Performs (do let name ← Parse.identifier .characterSet; return some name)
      (some <$> Reader.identifier .characterSet) :=
    .bind (identifier_performs _) fun name => .pure (some name)
  refine .bind (acceptPair_performs _ _) fun _ => .ite chosen ?_
  exact .bind (acceptKeyword_performs _) fun _ => .ite chosen (.pure none)

theorem typeWord_performs : Performs Parse.typeWord Reader.typeWord := by
  intro closing cursor rest stands
  refine .peeking stands fun token seen => ?_
  cases rest with
  | nil =>
      have kind : token.kind = .endOfInput := eq_of_beq seen
      rw [if_neg (by simp [kind])]
      exact .fail stands .dataType
  | cons first more =>
      cases seen
      unfold Reader.typeWord
      dsimp only
      by_cases word : token.kind = .word
      · rw [if_pos word, if_pos word]
        exact .taking stands (isEnd_of_kind word (by decide)) fun _ stands' => .ok rfl stands'
      · rw [if_neg word, if_neg word]
        exact .fail stands .dataType

/-- A type is named once in front of its arguments and, if it has some, again behind them. -/
def typeBehind (front : String) : Reader DataType := do
  if ← Reader.accept .openParen then
    let arguments ← Reader.argumentsFrom []
    let name ← named front
    let characterSet ← Reader.characterSet
    return ⟨name, arguments, characterSet⟩
  else
    let characterSet ← Reader.characterSet
    return ⟨front, [], characterSet⟩

/-- A name with modifiers put behind it one by one is the name of all of them together. -/
theorem intercalate_append (word : String) (before behind : List String) :
    " ".intercalate (" ".intercalate (word :: before) :: behind) =
      " ".intercalate (word :: (before ++ behind)) := by
  induction before generalizing word with
  | nil => rfl
  | cons text before ih => exact ih (word ++ " " ++ text)

/-- Without arguments, there is nothing left for the attributes behind them. -/
theorem typeBehind_eq (word : String) (before : List String) {tokens : List Token}
    (front : Headed (¬Reader.isTypeModifier · = true) tokens) :
    (do
      let arguments ← Reader.typeArguments
      let behind ← Reader.typeModifiers
      let characterSet ← Reader.characterSet
      pure ⟨" ".intercalate (word :: (before ++ behind)), arguments, characterSet⟩ :
        Reader DataType) tokens = typeBehind (" ".intercalate (word :: before)) tokens := by
  unfold Reader.typeArguments typeBehind
  rw [bind_assoc]
  by_cases opens : Reader.beginsWith .openParen tokens = true
  · have accepted : Reader.accept .openParen tokens = .ok (true, tokens.tail) := by
      rw [Reader.accept, if_pos opens]
    rw [Reader.bind_of_ok accepted, Reader.bind_of_ok accepted, if_pos rfl, if_pos rfl]
    simp only [named, bind_map_left, intercalate_append]
  · have accepted : Reader.accept .openParen tokens = .ok (false, tokens) := by
      rw [Reader.accept, if_neg opens]
    rw [Reader.bind_of_ok accepted, Reader.bind_of_ok accepted, if_neg Bool.false_ne_true,
      if_neg Bool.false_ne_true, pure_bind,
      Reader.bind_of_ok (Reader.typeModifiers_of_headed front), List.append_nil]

/-- The name of a type as it is put together by the machine. -/
theorem dataType_eq : Reader.dataType = (do
    let word ← Reader.typeWord
    let front ← named word
    typeBehind front) := by
  refine bind_congr fun word => ?_
  rw [named, bind_map_left]
  funext tokens
  have read : Reader.typeModifiers tokens =
      .ok ((tokens.takeWhile Reader.isTypeModifier).map Token.text,
        tokens.dropWhile Reader.isTypeModifier) := rfl
  rw [Reader.bind_of_ok read, Reader.bind_of_ok read]
  exact typeBehind_eq word _ (headed_dropWhile Reader.isTypeModifier tokens)

theorem dataType_performs : Performs Parse.dataType Reader.dataType := by
  rw [dataType_eq]
  refine .bind typeWord_performs fun word => .bind (typeModifiers_performs word) fun front => ?_
  refine .bind (accept_performs (by decide)) fun _ => .ite ?_ ?_
  · refine .bind typeArguments_performs fun _ => .bind (typeModifiers_performs front) fun _ => ?_
    exact .bind characterSet_performs fun _ => .pure _
  · exact .bind characterSet_performs fun _ => .pure _

/-- A definition traps nowhere, in parentheses or not. -/
theorem definition_performs (inParens : Bool) :
    Performs (Parse.definition inParens) (Reader.definition inParens) := by
  refine .bind (identifier_performs _) fun _ => .bind dataType_performs fun _ => ?_
  exact .bind (run_performs inParens) fun _ => .pure _

end

end AlterRelay.Checked
