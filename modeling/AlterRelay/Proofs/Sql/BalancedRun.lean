/-
# AlterRelay.Proofs.Sql.BalancedRun — how far a run of tokens reaches

A run takes tokens whose parentheses are balanced, with no comma outside them and
no semicolon or end at all (`Balanced`). It stops at the first token that may end it.
There is at most one such place, and where there is none the run is refused: at a
parenthesis that closes what was not opened, or at the semicolon or the end that is
met inside parentheses (`run_balanced`).

`Nested` is the invariant of a run that has begun under some open parentheses. One
token of it is one step of the run (`nested_cons_iff`); both directions are
inductions from there.
-/
import AlterRelay.Proofs.Sql.Cutting
import AlterRelay.Proofs.Sql.ReadDefinition
import AlterRelay.Proofs.Sql.Reading
import Mathlib.Control.Monad.Basic

namespace AlterRelay.Sql

open AlterRelay.Text

set_option autoImplicit false

/-! ## Parentheses -/

/-- Behind `depth` open parentheses, nothing in these kinds ends a run: what closes was opened,
commas stand inside parentheses, and there is no semicolon and no end. -/
structure Nested (depth : Nat) (kinds : List TokenKind) : Prop where
  noEnd : .endOfInput ∉ kinds
  noSemicolon : .semicolon ∉ kinds
  opened : ∀ front, front <+: kinds → front.count .closeParen ≤ depth + front.count .openParen
  enclosed : ∀ front, front ++ [.comma] <+: kinds →
    front.count .closeParen < depth + front.count .openParen

/-- All parentheses that are opened are closed again. -/
structure Balanced (kinds : List TokenKind) : Prop extends Nested 0 kinds where
  closed : kinds.count .closeParen = kinds.count .openParen

theorem nested_nil (depth : Nat) : Nested depth [] where
  noEnd := List.not_mem_nil
  noSemicolon := List.not_mem_nil
  opened := by simp
  enclosed := by simp

/-- A run goes on with a token that leads from one depth to another. -/
theorem runStep_eq_take_iff {inParens : Bool} {depth next : Nat} {kind : TokenKind} :
    runStep inParens depth kind = .take next ↔
      kind ≠ .endOfInput ∧ kind ≠ .semicolon ∧ (kind = .comma → 0 < depth) ∧
        next + [kind].count .closeParen = depth + [kind].count .openParen := by
  cases kind <;> cases depth <;> cases inParens <;> simp [runStep, runEnd] <;> omega

theorem count_kind_cons (other kind : TokenKind) (kinds : List TokenKind) :
    (kind :: kinds).count other = [kind].count other + kinds.count other := by
  rw [← List.singleton_append, List.count_append]

theorem nested_cons_iff {inParens : Bool} {depth : Nat} {kind : TokenKind}
    {kinds : List TokenKind} :
    Nested depth (kind :: kinds) ↔
      ∃ next, runStep inParens depth kind = .take next ∧ Nested next kinds := by
  constructor
  · intro nested
    obtain ⟨noEnd, noEnd'⟩ := not_or.mp (mt List.mem_cons.mpr nested.noEnd)
    obtain ⟨noSemicolon, noSemicolon'⟩ := not_or.mp (mt List.mem_cons.mpr nested.noSemicolon)
    -- What the front of length one tells is the depth behind the first token.
    have here := nested.opened [kind] (List.prefix_append [kind] kinds)
    refine ⟨depth + [kind].count .openParen - [kind].count .closeParen, ?_, ?_⟩
    · refine runStep_eq_take_iff.mpr ⟨Ne.symm noEnd, Ne.symm noSemicolon, ?_, by omega⟩
      rintro rfl
      exact nested.enclosed [] (List.prefix_append [TokenKind.comma] kinds)
    · refine ⟨noEnd', noSemicolon', fun front within => ?_, fun front within => ?_⟩
      · have further := nested.opened (kind :: front) (List.cons_prefix_cons.mpr ⟨rfl, within⟩)
        rw [count_kind_cons .closeParen, count_kind_cons .openParen] at further
        omega
      · have further := nested.enclosed (kind :: front) (List.cons_prefix_cons.mpr ⟨rfl, within⟩)
        rw [count_kind_cons .closeParen, count_kind_cons .openParen] at further
        omega
  · rintro ⟨next, step, nested⟩
    obtain ⟨noEnd, noSemicolon, comma, same⟩ := runStep_eq_take_iff.mp step
    refine ⟨?_, ?_, fun front within => ?_, fun front within => ?_⟩
    · exact List.not_mem_cons_of_ne_of_not_mem (Ne.symm noEnd) nested.noEnd
    · exact List.not_mem_cons_of_ne_of_not_mem (Ne.symm noSemicolon) nested.noSemicolon
    -- A front of the whole is empty, or the first token and a front of what follows.
    · rcases List.prefix_cons_iff.mp within with rfl | ⟨further, rfl, inner⟩
      · exact Nat.zero_le _
      · have behind := nested.opened further inner
        rw [count_kind_cons .closeParen, count_kind_cons .openParen]
        omega
    · cases front with
      | nil =>
          obtain ⟨rfl, -⟩ := List.cons_prefix_cons.mp within
          exact comma rfl
      | cons first further =>
          obtain ⟨rfl, inner⟩ := List.cons_prefix_cons.mp within
          have behind := nested.enclosed further inner
          rw [count_kind_cons .closeParen, count_kind_cons .openParen]
          omega

/-! ## Runs -/

/-- The kinds of token that a run stops at. -/
theorem Token.stops_iff {inParens : Bool} {token : Token} :
    token.Stops inParens ↔
      token.kind ∈ [.endOfInput, .semicolon, .comma] ∨
        inParens = true ∧ token.kind = .closeParen := by
  unfold Token.Stops
  cases token.kind <;> cases inParens <;> simp [runStep, runEnd]

/-- What a run is refused at, `depth` being the number of parentheses that are open there. -/
inductive Refused (inParens : Bool) (depth : Nat) : List Token → ParseError → Prop where
  | unmatched {token : Token} {behind : List Token} (alone : inParens = false)
      (outside : depth = 0) (closes : token.kind = .closeParen) :
      Refused inParens depth (token :: behind)
        (.unexpectedToken token.text .separatorOrEnd token.span.line token.span.column)
  | semicolon {token : Token} {behind : List Token} (inside : 0 < depth)
      (ends : token.kind = .semicolon) :
      Refused inParens depth (token :: behind)
        (.unexpectedToken token.text .closing token.span.line token.span.column)
  | endOfInput {rest : List Token} (inside : 0 < depth)
      (ends : Headed (·.kind = .endOfInput) rest) :
      Refused inParens depth rest (.unexpectedEnd .closing)

namespace Reader

variable {inParens : Bool} {depth : Nat} {tokens rest : List Token} {texts : List String}

/-- How many parentheses are open behind the tokens, of which `depth` were open in front. -/
def stillOpen (depth : Nat) (taken : List Token) : Nat :=
  depth + (taken.map Token.kind).count .openParen - (taken.map Token.kind).count .closeParen

theorem stillOpen_cons {next : Nat} {token : Token} {taken : List Token}
    (step : runStep inParens depth token.kind = .take next) :
    stillOpen depth (token :: taken) = stillOpen next taken := by
  obtain ⟨-, -, -, same⟩ := runStep_eq_take_iff.mp step
  unfold stillOpen
  rw [List.map_cons, count_kind_cons .closeParen, count_kind_cons .openParen]
  omega

/-- A run takes what is nested and closes all that was open, up to where it stops. -/
theorem runFrom_eq_ok_iff :
    runFrom inParens depth tokens = .ok (texts, rest) ↔
      ∃ taken, tokens = taken ++ rest ∧ taken.map Token.text = texts ∧
        Nested depth (taken.map Token.kind) ∧ stillOpen depth taken = 0 ∧
        Headed (Token.Stops inParens) rest := by
  constructor
  -- From left to right by the recursion of the reader, and back by induction on the run.
  · intro taken
    fun_induction runFrom inParens depth tokens generalizing texts rest with
    | case1 => cases taken
    | case2 depth notRefused =>
        cases taken
        cases depth with
        | zero => exact ⟨[], rfl, rfl, nested_nil 0, rfl, Headed.nil _⟩
        | succ outer => exact absurd rfl (notRefused .closing)
    | case3 depth token tokens stop =>
        cases taken
        cases depth_of_runStep stop
        exact ⟨[], rfl, rfl, nested_nil 0, rfl, headed_cons.mpr stop⟩
    | case4 => cases taken
    | case5 depth token tokens next step more behind inner ih =>
        cases taken
        obtain ⟨run, rfl, rfl, nested, level, stops⟩ := ih inner
        refine ⟨token :: run, rfl, rfl, nested_cons_iff.mpr ⟨next, step, nested⟩, ?_, stops⟩
        rw [stillOpen_cons step, level]
    | case6 => cases taken
  · rintro ⟨taken, rfl, rfl, nested, level, stops⟩
    induction taken generalizing depth with
    | nil =>
        cases (level : depth = 0)
        exact runFrom_of_stops stops
    | cons token taken ih =>
        obtain ⟨next, step, inner⟩ := nested_cons_iff.mp nested
        rw [stillOpen_cons step] at level
        rw [List.cons_append, runFrom_of_take step, bind_of_ok (ih inner level)]
        rfl

/-- A run is refused at a parenthesis that was not opened, or inside parentheses. -/
theorem runStep_eq_refuse {kind : TokenKind} {expected : Expectation}
    (refused : runStep inParens depth kind = .refuse expected) :
    kind = .closeParen ∧ depth = 0 ∧ inParens = false ∧ expected = .separatorOrEnd ∨
      (kind = .endOfInput ∨ kind = .semicolon) ∧ 0 < depth ∧ expected = .closing := by
  cases kind <;> cases depth <;> cases inParens <;> cases refused <;> simp

theorem refused_of_runStep {token : Token} {expected : Expectation}
    (refused : runStep inParens depth token.kind = .refuse expected) (behind : List Token) :
    Refused inParens depth (token :: behind) (.expecting expected (token :: behind)) := by
  rcases runStep_eq_refuse refused with
    ⟨closes, outside, alone, rfl⟩ | ⟨ends | semicolon, inside, rfl⟩
  · have inner : token.isEnd = false := by simp [Token.isEnd, closes]
    rw [ParseError.expecting, inner]
    exact .unmatched alone outside closes
  · have last : token.isEnd = true := by simp [Token.isEnd, ends]
    rw [ParseError.expecting, last]
    exact .endOfInput inside (headed_cons.mpr ends)
  · have inner : token.isEnd = false := by simp [Token.isEnd, semicolon]
    rw [ParseError.expecting, inner]
    exact .semicolon inside semicolon

/-- A run that is refused is refused behind nested tokens. -/
theorem refused_of_runFrom {error : ParseError}
    (failed : runFrom inParens depth tokens = .error error) :
    ∃ taken rest, tokens = taken ++ rest ∧ Nested depth (taken.map Token.kind) ∧
      Refused inParens (stillOpen depth taken) rest error := by
  fun_induction runFrom inParens depth tokens with
  | case1 depth expected refused =>
      cases failed
      cases depth with
      | zero => cases refused
      | succ outer =>
          cases refused
          exact ⟨[], [], rfl, nested_nil _, .endOfInput (Nat.succ_pos outer) (Headed.nil _)⟩
  | case2 => cases failed
  | case3 => cases failed
  | case4 depth token tokens expected refused =>
      cases failed
      exact ⟨[], token :: tokens, rfl, nested_nil _, refused_of_runStep refused tokens⟩
  | case5 => cases failed
  | case6 depth token tokens next step error' inner ih =>
      cases failed
      obtain ⟨taken, rest, rfl, nested, refused⟩ := ih inner
      refine ⟨token :: taken, rest, rfl, nested_cons_iff.mpr ⟨next, step, nested⟩, ?_⟩
      rwa [stillOpen_cons step]

theorem balanced_iff {taken : List Token} :
    Balanced (taken.map Token.kind) ↔
      Nested 0 (taken.map Token.kind) ∧ stillOpen 0 taken = 0 := by
  unfold stillOpen
  constructor
  · intro balanced
    have closed := balanced.closed
    exact ⟨balanced.toNested, by omega⟩
  · rintro ⟨nested, none⟩
    have opened := nested.opened _ (List.prefix_refl _)
    exact ⟨nested, by omega⟩

/-! ## Places -/

theorem extract_append_drop {i j : Nat} (ordered : i ≤ j) :
    tokens.extract i j ++ tokens.drop j = tokens.drop i := by
  have behind : tokens.drop j = (tokens.drop i).drop (j - i) := by
    rw [List.drop_drop, Nat.add_sub_cancel' ordered]
  rw [List.extract_eq_take_drop, behind, List.take_append_drop]

/-- Tokens that are taken behind the place `i` reach to a place of their own. -/
theorem exists_place {i : Nat} (within : i ≤ tokens.length) {taken : List Token}
    (split : tokens.drop i = taken ++ rest) :
    ∃ j, i ≤ j ∧ j ≤ tokens.length ∧ taken = tokens.extract i j ∧ rest = tokens.drop j := by
  have long := congrArg List.length split
  rw [List.length_drop, List.length_append] at long
  refine ⟨i + taken.length, Nat.le_add_right _ _, by omega, ?_, ?_⟩
  · rw [List.extract_eq_take_drop, split, Nat.add_sub_cancel_left, List.take_left]
  · rw [← List.drop_drop, split, List.drop_left]

end Reader

/-- The tokens from `i` to `j` are a run, and the one at `j` may end it. The end of the list is
an end of input. -/
structure RunsTo (inParens : Bool) (tokens : List Token) (i j : Nat) : Prop where
  ordered : i ≤ j
  within : j ≤ tokens.length
  balanced : Balanced ((tokens.extract i j).map Token.kind)
  stops : ∀ token ∈ tokens[j]?, token.kind ∈ [.endOfInput, .semicolon, .comma] ∨
    inParens = true ∧ token.kind = .closeParen

theorem runsTo_iff {inParens : Bool} {tokens : List Token} {i j : Nat} :
    RunsTo inParens tokens i j ↔
      i ≤ j ∧ j ≤ tokens.length ∧ Nested 0 ((tokens.extract i j).map Token.kind) ∧
        Reader.stillOpen 0 (tokens.extract i j) = 0 ∧
        Headed (Token.Stops inParens) (tokens.drop j) := by
  have stops : Headed (Token.Stops inParens) (tokens.drop j) ↔ ∀ token ∈ tokens[j]?,
      token.kind ∈ [.endOfInput, .semicolon, .comma] ∨
        inParens = true ∧ token.kind = .closeParen := by
    unfold Headed
    rw [List.head?_drop]
    simp only [Token.stops_iff]
  rw [stops, ← and_assoc (a := Nested 0 _), ← Reader.balanced_iff]
  exact ⟨fun runs => ⟨runs.ordered, runs.within, runs.balanced, runs.stops⟩,
    fun ⟨ordered, within, balanced, stops⟩ => ⟨ordered, within, balanced, stops⟩⟩

theorem run_eq_ok_iff {inParens : Bool} {tokens rest : List Token} {texts : List String} {i : Nat}
    (within : i ≤ tokens.length) :
    Reader.run inParens (tokens.drop i) = .ok (texts, rest) ↔
      ∃ j, RunsTo inParens tokens i j ∧ texts = (tokens.extract i j).map Token.text ∧
        rest = tokens.drop j := by
  rw [Reader.run, Reader.runFrom_eq_ok_iff]
  constructor
  · rintro ⟨taken, split, rfl, nested, none, stops⟩
    obtain ⟨j, ordered, inside, rfl, rfl⟩ := Reader.exists_place within split
    exact ⟨j, runsTo_iff.mpr ⟨ordered, inside, nested, none, stops⟩, rfl, rfl⟩
  · rintro ⟨j, runs, rfl, rfl⟩
    obtain ⟨ordered, inside, nested, none, stops⟩ := runsTo_iff.mp runs
    exact ⟨_, (Reader.extract_append_drop ordered).symm, rfl, nested, none, stops⟩

/-- A run reaches to one place only. -/
theorem RunsTo.unique {inParens : Bool} {tokens : List Token} {i j j' : Nat}
    (runs : RunsTo inParens tokens i j) (runs' : RunsTo inParens tokens i j') : j = j' := by
  have within : i ≤ tokens.length := Nat.le_trans runs.ordered runs.within
  have first := (run_eq_ok_iff within).mpr ⟨j, runs, rfl, rfl⟩
  have second := (run_eq_ok_iff within).mpr ⟨j', runs', rfl, rfl⟩
  rw [first] at second
  have same := congrArg (fun read => read.toOption.map fun pair => pair.2.length) second
  simp only [Except.toOption, Option.map_some, List.length_drop, Option.some.injEq] at same
  have := runs.within
  have := runs'.within
  omega

/-- The run that begins at `i` is refused at `k`, behind tokens that it takes. -/
structure RefusedAt (inParens : Bool) (tokens : List Token) (i k : Nat) (error : ParseError) :
    Prop where
  ordered : i ≤ k
  within : k ≤ tokens.length
  nested : Nested 0 ((tokens.extract i k).map Token.kind)
  refused : Refused inParens (Reader.stillOpen 0 (tokens.extract i k)) (tokens.drop k) error

theorem refusedAt_of_run {inParens : Bool} {tokens : List Token} {i : Nat} {error : ParseError}
    (within : i ≤ tokens.length)
    (failed : Reader.run inParens (tokens.drop i) = .error error) :
    ∃ k, RefusedAt inParens tokens i k error := by
  obtain ⟨taken, rest, split, nested, refused⟩ := Reader.refused_of_runFrom failed
  obtain ⟨k, ordered, inside, rfl, rfl⟩ := Reader.exists_place within split
  exact ⟨k, ordered, inside, nested, refused⟩

/-! ## Specs -/

/-- The specs of a definition are the texts of a run of its tokens. -/
theorem ColumnDefinition.ReadFrom.run {tokens : List Token} {definition : ColumnDefinition}
    (read : definition.ReadFrom tokens) :
    ∃ run, run <:+: tokens ∧ run.map Token.text = definition.specs ∧
      Balanced (run.map Token.kind) := by
  obtain ⟨inParens, front, rest, suffix, taken⟩ := read
  obtain ⟨name, behind, named, taken⟩ := Reader.bind_eq_ok.mp taken
  obtain ⟨type, behind', typed, taken⟩ := Reader.bind_eq_ok.mp taken
  obtain ⟨specs, final, ran, taken⟩ := Reader.bind_eq_ok.mp taken
  obtain ⟨rfl, rfl⟩ := Reader.pure_eq_ok.mp taken
  obtain ⟨run, rfl, rfl, nested, none, -⟩ := Reader.runFrom_eq_ok_iff.mp ran
  have within := (Reader.dataType_shrinks typed).trans (Reader.identifier_shrinks _ named)
  refine ⟨run, ?_, rfl, Reader.balanced_iff.mpr ⟨nested, none⟩⟩
  exact (List.prefix_append run final).isInfix.trans (within.trans suffix).isInfix

/-- What a kind of token is for a run. -/
def TokenKind.mark : TokenKind → TokenKind
  | .openParen => .openParen
  | .closeParen => .closeParen
  | .comma => .comma
  | .semicolon => .semicolon
  | _ => .word

/-- What a raw text is for a run: only the marks that stand alone count, not those in quotes. -/
def markOf (text : String) : TokenKind :=
  if text = "(" then .openParen
  else if text = ")" then .closeParen
  else if text = "," then .comma
  else if text = ";" then .semicolon
  else .word

/-- A text that begins like a word, a number, a quoted text or an operator is no mark. -/
theorem markOf_of_front (front : Char → Prop)
    (other : ¬front '(' ∧ ¬front ')' ∧ ¬front ',' ∧ ¬front ';') {c : Char} (begins : front c)
    (raw : List Char) : markOf (String.ofList (c :: raw)) = .word := by
  have unlike : ∀ {d : Char}, ¬front d → c ≠ d := by
    rintro d noFront rfl
    exact noFront begins
  have opening := unlike other.1
  have closing := unlike other.2.1
  have comma := unlike other.2.2.1
  have semicolon := unlike other.2.2.2
  simp [markOf, ← String.toList_inj, opening, closing, comma, semicolon]

/-- A lexeme is a mark exactly if its text is one. -/
theorem mark_of_lexeme {c : Char} {rest behind : List Char} {cut : Lexeme}
    (found : lexeme c rest = .ok (cut, behind)) :
    markOf (String.ofList cut.raw) = cut.kind.mark := by
  cases cutOff_of_lexeme found with
  | word start => exact markOf_of_front (isWordStart · = true) (by decide) start _
  | number digit =>
      rcases digit with digit | ⟨sign, -⟩
      · exact markOf_of_front (Char.isDigit · = true) (by decide) digit _
      · exact markOf_of_front (fun c => c = '-' ∨ c = '+') (by decide) sign _
  | sign sign => exact markOf_of_front (fun c => c = '-' ∨ c = '+') (by decide) sign _
  | quoted meaning closed =>
      have text := fun raw => markOf_of_front
        (fun c => c = backQuote ∨ c = singleQuote ∨ c = doubleQuote) (by decide)
        (isQuote_of_quoteMeaning? meaning) raw
      rcases kind_of_quoteMeaning? meaning with rfl | rfl | rfl <;> exact text _
  | comparison compares =>
      exact markOf_of_front (isComparison · = true) (by decide) compares _
  | mark mark =>
      unfold punctuation? at mark
      split at mark <;> cases mark <;> decide

theorem mark_of_tokenize {source : String} {tokens : List Token}
    (lexed : tokenize source = .ok tokens) :
    ∀ token ∈ tokens, markOf token.text = token.kind.mark := by
  obtain ⟨lexemes, cut, each⟩ := cutInto_of_tokenize lexed
  intro token member
  rcases each token member with listed | ⟨final, rfl⟩
  · have mark := cut.forall_lexemes mark_of_lexeme _ listed
    rwa [Token.lexeme, String.ofList_toList] at mark
  · rfl

theorem Nested.mark {depth : Nat} {kinds : List TokenKind} (nested : Nested depth kinds) :
    Nested depth (kinds.map TokenKind.mark) := by
  induction kinds generalizing depth with
  | nil => exact nested
  | cons kind kinds ih =>
      obtain ⟨next, step, inner⟩ : ∃ next, runStep false depth kind = .take next ∧
          Nested next kinds := nested_cons_iff.mp nested
      have step' : runStep false depth kind.mark = .take next := by
        cases kind <;> cases depth <;> cases step <;> rfl
      exact nested_cons_iff.mpr ⟨next, step', ih inner⟩

theorem Balanced.mark {kinds : List TokenKind} (balanced : Balanced kinds) :
    Balanced (kinds.map TokenKind.mark) := by
  have kept : ∀ kind ∈ [TokenKind.openParen, .closeParen],
      (kinds.map TokenKind.mark).count kind = kinds.count kind := by
    intro kind parenthesis
    rw [List.count_eq_countP, List.count_eq_countP, List.countP_map]
    refine List.countP_congr fun other _ => ?_
    simp only [List.mem_cons, List.not_mem_nil, or_false] at parenthesis
    rcases parenthesis with rfl | rfl <;> cases other <;> simp [TokenKind.mark]
  refine ⟨balanced.toNested.mark, ?_⟩
  rw [kept .closeParen (by simp), kept .openParen (by simp), balanced.closed]

/-- The specs of a statement that was read from a source are balanced as texts. -/
theorem specs_balanced {source : String} {statement : AlterTable}
    (read : Statement.parse source = .ok (.alterTable statement)) {clause : Clause}
    (listed : clause ∈ statement.clauses) {definition : ColumnDefinition}
    (member : definition ∈ clause.definitions) : Balanced (definition.specs.map markOf) := by
  unfold Statement.parse at read
  split at read
  · cases read
  · rename_i tokens lexed
    obtain ⟨run, within, texts, balanced⟩ := (readFrom_of_ofTokens read listed member).run
    have marks : run.map (markOf ∘ Token.text) = (run.map Token.kind).map TokenKind.mark := by
      rw [List.map_map]
      exact List.map_congr_left fun token inside =>
        mark_of_tokenize lexed token (within.subset inside)
    rw [← texts, List.map_map, marks]
    exact balanced.mark

/-! ## Any run -/

/-- A run that begins at `i` takes the tokens up to `j` and leaves the others exactly if those are
balanced and the one at `j` may end it. There is at most one such place. Where there is none,
the run is refused at a parenthesis that closes what was not opened, or at the semicolon or the
end that it meets inside parentheses. So the specs of every definition that is read are balanced,
and so are their texts where the tokens come from a source. -/
theorem run_balanced {tokens : List Token} {i : Nat} (within : i ≤ tokens.length)
    (inParens : Bool) :
    (∀ texts rest, Reader.run inParens (tokens.drop i) = .ok (texts, rest) ↔
        ∃ j, RunsTo inParens tokens i j ∧ texts = (tokens.extract i j).map Token.text ∧
          rest = tokens.drop j) ∧
      (∀ j j', RunsTo inParens tokens i j → RunsTo inParens tokens i j' → j = j') ∧
      ((¬∃ j, RunsTo inParens tokens i j) →
        ∃ k error, Reader.run inParens (tokens.drop i) = .error error ∧
          RefusedAt inParens tokens i k error) ∧
      (∀ statement, Statement.ofTokens tokens = .ok (.alterTable statement) →
        ∀ clause ∈ statement.clauses, ∀ definition ∈ clause.definitions,
          ∃ run, run <:+: tokens ∧ run.map Token.text = definition.specs ∧
            Balanced (run.map Token.kind)) ∧
      ∀ source statement, Statement.parse source = .ok (.alterTable statement) →
        ∀ clause ∈ statement.clauses, ∀ definition ∈ clause.definitions,
          Balanced (definition.specs.map markOf) := by
  refine ⟨fun texts rest => run_eq_ok_iff within, fun j j' => RunsTo.unique, ?_, ?_, ?_⟩
  · intro none
    cases ran : Reader.run inParens (tokens.drop i) with
    | ok read =>
        obtain ⟨texts, rest⟩ := read
        obtain ⟨j, runs, -, -⟩ := (run_eq_ok_iff within).mp ran
        exact absurd ⟨j, runs⟩ none
    | error error =>
        obtain ⟨k, refused⟩ := refusedAt_of_run within ran
        exact ⟨k, error, rfl, refused⟩
  · exact fun statement read clause listed definition member =>
      (readFrom_of_ofTokens read listed member).run
  · exact fun source statement read clause listed definition member =>
      specs_balanced read listed member

/-- A comma in parentheses, and a parenthesis too many behind it. -/
def nestedTokens : List Token := (tokenize "t x (a, b) ) c").toOption.getD []

theorem run_balanced_nested :
    1 ≤ nestedTokens.length ∧
      (∃ j, RunsTo true nestedTokens 1 j ∧
        ["x", "(", "a", ",", "b", ")"] = (nestedTokens.extract 1 j).map Token.text) ∧
      (¬∃ j, RunsTo false nestedTokens 1 j) ∧
      ∃ k, RefusedAt false nestedTokens 1 k (.unexpectedToken ")" .separatorOrEnd 1 12) := by
  have within : 1 ≤ nestedTokens.length := by decide +kernel
  have ran : runFrom true 0 (nestedTokens.drop 1) =
      .ok (["x", "(", "a", ",", "b", ")"], nestedTokens.drop 7) := by decide +kernel
  have failed : runFrom false 0 (nestedTokens.drop 1) =
      .error (.unexpectedToken ")" .separatorOrEnd 1 12) := by decide +kernel
  obtain ⟨j, runs, texts, -⟩ := ((run_balanced within true).1 _ _).mp ran
  obtain ⟨taken, -, refused, -⟩ := run_balanced within false
  have none : ¬∃ j, RunsTo false nestedTokens 1 j := by
    rintro ⟨j, runs⟩
    have read := (taken _ _).mpr ⟨j, runs, rfl, rfl⟩
    cases failed.symm.trans read
  obtain ⟨k, error, same, blamed⟩ := refused none
  cases failed.symm.trans same
  exact ⟨within, ⟨j, runs, texts⟩, none, k, blamed⟩

end AlterRelay.Sql
