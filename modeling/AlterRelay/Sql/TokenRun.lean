/-
# AlterRelay.Sql.TokenRun — runs of tokens with balanced parentheses

The text behind a column type, and any clause that is passed over, is a run: it
reaches to the next comma outside parentheses, semicolon or end of input, and
its parentheses are balanced. Inside the parentheses of a column list an
unmatched `)` ends the run as well; elsewhere it is refused, and so is an end
inside an open parenthesis.

`runStep` decides about one token at a depth of open parentheses. A closing
parenthesis lowers the depth only where it is a successor.
-/
import AlterRelay.Sql.Reader

namespace AlterRelay.Sql

set_option autoImplicit false

inductive RunStep where
  | stop
  | refuse (expected : Expectation)
  | take (depth : Nat)
  deriving DecidableEq, Repr

def runEnd (depth : Nat) : RunStep := if depth = 0 then .stop else .refuse .closing

def runStep (inParens : Bool) (depth : Nat) (kind : TokenKind) : RunStep :=
  match kind with
  | .endOfInput | .semicolon => runEnd depth
  | .comma => if depth = 0 then .stop else .take depth
  | .openParen => .take (depth + 1)
  | .closeParen =>
      match depth with
      | 0 => if inParens then .stop else .refuse .separatorOrEnd
      | outer + 1 => .take outer
  | _ => .take depth

/-- The raw texts of the run that goes on at this depth, and the tokens behind it. -/
def runFrom (inParens : Bool) (depth : Nat) :
    List Token → Except ParseError (List String × List Token)
  | [] =>
      match runEnd depth with
      | .refuse expected => .error (.expecting expected [])
      | _ => .ok ([], [])
  | token :: rest =>
      match runStep inParens depth token.kind with
      | .stop => .ok ([], token :: rest)
      | .refuse expected => .error (.expecting expected (token :: rest))
      | .take next =>
          match runFrom inParens next rest with
          | .ok (texts, behind) => .ok (token.text :: texts, behind)
          | .error error => .error error

namespace Reader

def run (inParens : Bool) : Reader (List String) := runFrom inParens 0

/-- Passes over the rest of a clause. -/
def skipClause : Reader Unit := do
  let _ ← run false
  pure ()

theorem runFrom_suffix (inParens : Bool) {depth : Nat} {tokens rest : List Token}
    {texts : List String} (taken : runFrom inParens depth tokens = .ok (texts, rest)) :
    rest <:+ tokens := by
  fun_induction runFrom inParens depth tokens generalizing texts rest with
  | case1 => cases taken
  | case2 =>
      cases taken
      exact List.suffix_refl _
  | case3 =>
      cases taken
      exact List.suffix_refl _
  | case4 => cases taken
  | case5 depth token tokens next step more behind inner ih =>
      cases taken
      exact (ih inner).trans (List.suffix_cons token tokens)
  | case6 => cases taken

theorem run_shrinks (inParens : Bool) : Shrinks (run inParens) :=
  fun _ _ _ taken => runFrom_suffix inParens taken

theorem skipClause_shrinks : Shrinks skipClause :=
  Shrinks.bind (run_shrinks false) fun _ => Shrinks.pure ()

end Reader

end AlterRelay.Sql
