/-
# AlterRelay.Proofs.Checked.CursorReading — the cursor never traps

The cursor stands in front of the tokens that a reader is given (`Stands`): no end
token is behind it, and what there is beyond the reader's tokens are end tokens, of
which it can always see one. So the index of the token in front, and of the one behind
that, is always an index of the list, and a token that is taken is followed by another.

`Performs` says that from there the machine ends as the reader answers. It is kept by
sequencing, and a loop performs a recursive reader if one turn of it performs one step
of the recursion (`Performs.loop`). The machines for one token perform their readers.
-/
import AlterRelay.Proofs.Checked.Cursor
import AlterRelay.Proofs.Sql.Reading

namespace AlterRelay.Checked

open AlterRelay.Sql

set_option autoImplicit false

/-! ## Where the cursor stands -/

/-- The cursor is in front of `rest`, behind which there are the end tokens `closing`. -/
inductive Stands (closing : List Token) : Cursor → List Token → Prop where
  | intro {before rest : List Token} (passed : ∀ token ∈ before, token.isEnd = false)
      (closes : ∀ token ∈ closing, token.isEnd = true)
      (ends : ∃ token ∈ rest ++ closing, token.isEnd = true) :
      Stands closing ⟨before ++ (rest ++ closing), before.length⟩ rest

/-- The token that the cursor sees in front of `rest`. -/
def Seen (token : Token) : List Token → Prop
  | [] => token.isEnd = true
  | first :: _ => token = first

/-- The machine ends with what a reader answers, and in front of what it leaves. -/
inductive Same {α : Type} (closing : List Token)
    (result : Option (Except ParseError (α × Cursor))) :
    Except ParseError (α × List Token) → Prop where
  | ok {value : α} {cursor : Cursor} {rest : List Token} (ends : result = done value cursor)
      (stands : Stands closing cursor rest) : Same closing result (.ok (value, rest))
  | error {error : ParseError} (ends : result = failed error) : Same closing result (.error error)

/-- Wherever the cursor stands, the machine does what the reader does. -/
def Performs {α : Type} (machine : Parse α) (reader : Reader α) : Prop :=
  ∀ ⦃closing cursor rest⦄, Stands closing cursor rest →
    Same closing (machine cursor) (reader rest)

section

variable {α β : Type} {closing rest more : List Token} {cursor : Cursor} {token : Token}

/-! ## Single tokens -/

/-- Counting down from a positive number does not trap. -/
theorem decrement?_of_pos {number : Nat} (positive : 0 < number) :
    decrement? number = some (number - 1) := by
  cases number with
  | zero => cases positive
  | succ number => rfl

/-- Looking ahead is looking at a token that is there. -/
theorem peekAhead_eq (before : List Token) {ahead : List Token} {distance : Nat}
    (within : distance < ahead.length) :
    Parse.peekAhead distance ⟨before ++ ahead, before.length⟩ =
      done ahead[distance] ⟨before ++ ahead, before.length⟩ := by
  have long : (before ++ ahead).length = before.length + ahead.length := List.length_append
  have index : min (before.length + distance) ((before ++ ahead).length - 1) =
      before.length + distance := Nat.min_eq_left (by omega)
  have found : (before ++ ahead)[before.length + distance]? = some ahead[distance] := by
    rw [List.getElem?_append_right (Nat.le_add_right _ _), Nat.add_sub_cancel_left,
      List.getElem?_eq_getElem within]
  have last : decrement? (before ++ ahead).length = some ((before ++ ahead).length - 1) :=
    decrement?_of_pos (by omega)
  unfold Parse.peekAhead
  rw [bind_done get_done, last, bind_done (checked_some _)]
  dsimp only
  rw [index, found, checked_some]

namespace Stands

/-- In front of the closing tokens, some token is always ahead. -/
theorem ahead_ne_nil {closing rest : List Token}
    (ends : ∃ token ∈ rest ++ closing, token.isEnd = true) : 0 < (rest ++ closing).length := by
  obtain ⟨token, member, -⟩ := ends
  exact List.length_pos_of_mem member

/-- Where the cursor stands, a token is seen. -/
theorem peek (stands : Stands closing cursor rest) :
    ∃ token, Parse.peek cursor = done token cursor ∧ Seen token rest := by
  obtain @⟨before, rest, passed, closes, ends⟩ := stands
  refine ⟨_, peekAhead_eq before (ahead_ne_nil ends), ?_⟩
  cases rest with
  | nil => exact closes _ (List.getElem_mem _)
  | cons first rest => rfl

/-- Behind a token that does not end the input, there is one that does. -/
theorem more_ends (ends : ∃ last ∈ token :: more ++ closing, last.isEnd = true)
    (inner : token.isEnd = false) : ∃ last ∈ more ++ closing, last.isEnd = true := by
  obtain ⟨last, member, isEnd⟩ := ends
  rcases List.mem_cons.mp member with rfl | behind
  · rw [inner] at isEnd
    cases isEnd
  · exact ⟨last, behind, isEnd⟩

theorem peekAhead (stands : Stands closing cursor (token :: more)) (inner : token.isEnd = false) :
    ∃ next, Parse.peekAhead 1 cursor = done next cursor ∧ Seen next more := by
  obtain @⟨before, _, passed, closes, ends⟩ := stands
  have further := ahead_ne_nil (more_ends ends inner)
  refine ⟨_, peekAhead_eq before (Nat.succ_lt_succ further), ?_⟩
  cases more with
  | nil => exact closes _ (List.getElem_mem _)
  | cons first more => rfl

/-- The cursor moves over any token but an end. -/
theorem advance (stands : Stands closing cursor (token :: more)) (inner : token.isEnd = false) :
    ∃ cursor', Parse.advance cursor = done token cursor' ∧ Stands closing cursor' more := by
  obtain ⟨seen, peeked, same⟩ := stands.peek
  cases same
  obtain @⟨before, _, passed, closes, ends⟩ := stands
  have passed' : ∀ earlier ∈ before ++ [token], earlier.isEnd = false := by
    intro earlier member
    rcases List.mem_append.mp member with front | last
    · exact passed earlier front
    · rwa [List.mem_singleton.mp last]
  have behind : Cursor.behind? ⟨before ++ (token :: more ++ closing), before.length⟩ =
      some ⟨before ++ [token] ++ (more ++ closing), (before ++ [token]).length⟩ := by
    have same : before ++ (token :: more ++ closing) = before ++ [token] ++ (more ++ closing) := by
      simp
    have room : before.length + 1 ≤
        (before ++ [token] ++ (more ++ closing)).findIdx Token.isEnd := by
      rw [List.findIdx_append, List.findIdx_eq_length_of_false passed', if_neg (Nat.lt_irrefl _),
        List.length_append]
      exact Nat.le_add_left _ _
    rw [same]
    unfold Cursor.behind?
    rw [if_pos room, List.length_append]
    rfl
  refine ⟨_, ?_, .intro passed' closes (more_ends ends inner)⟩
  unfold Parse.advance
  rw [bind_done peeked, if_neg (by simp [inner]), bind_done get_done, behind,
    bind_done (checked_some _), bind_done set_done]
  rfl

/-- What is left of the tokens. -/
theorem left_eq (stands : Stands closing cursor rest) :
    cursor.tokens.length - cursor.position = rest.length + closing.length := by
  obtain @⟨before, rest, passed, closes, ends⟩ := stands
  simp

end Stands

/-! ## What a token in front means -/

namespace Seen

/-- The keyword that is seen is that of the first token left. -/
theorem keyword?_eq (seen : Seen token rest) : token.keyword? = rest.head?.bind Token.keyword? := by
  cases rest with
  | nil =>
      have kind : token.kind = .endOfInput := eq_of_beq seen
      rw [Token.keyword?, kind]
      rfl
  | cons first rest =>
      cases seen
      rfl

/-- A kind other than the end is seen only if such a token is left. -/
theorem kind_eq_iff (seen : Seen token rest) {kind : TokenKind} (inner : kind ≠ .endOfInput) :
    token.kind = kind ↔ Reader.beginsWith kind rest = true := by
  cases rest with
  | nil =>
      have ends : token.kind = .endOfInput := eq_of_beq seen
      rw [ends]
      exact iff_of_false (Ne.symm inner) Bool.false_ne_true
  | cons first rest =>
      cases seen
      exact beq_iff_eq.symm

/-- At an end token, the machine tells the error of a reader for which nothing is left. -/
theorem expecting_eq (seen : Seen token rest) (expected : Expectation) :
    ParseError.expecting expected [token] = ParseError.expecting expected rest := by
  cases rest with
  | nil => exact if_pos seen
  | cons first rest =>
      cases seen
      rfl

end Seen

/-! ## Rules -/

/-- Both fail at what is in front. -/
theorem Same.fail (stands : Stands closing cursor rest) (expected : Expectation) :
    Same closing (Parse.fail expected cursor : Option (Except ParseError (α × Cursor)))
      (.error (.expecting expected rest)) := by
  obtain ⟨token, peeked, seen⟩ := stands.peek
  refine .error ?_
  unfold Parse.fail
  rw [bind_done peeked, seen.expecting_eq]
  rfl

/-- It is enough to go on with whatever token is seen. -/
theorem Same.peeking {next : Token → Parse α} {result : Except ParseError (α × List Token)}
    (stands : Stands closing cursor rest)
    (seeing : ∀ token, Seen token rest → Same closing (next token cursor) result) :
    Same closing ((Parse.peek >>= next) cursor) result := by
  obtain ⟨token, peeked, seen⟩ := stands.peek
  rw [bind_done peeked]
  exact seeing token seen

/-- It is enough to go on behind the token. -/
theorem Same.taking {next : Token → Parse α} {result : Except ParseError (α × List Token)}
    (stands : Stands closing cursor (token :: more)) (inner : token.isEnd = false)
    (taken : ∀ ⦃cursor⦄, Stands closing cursor more → Same closing (next token cursor) result) :
    Same closing ((Parse.advance >>= next) cursor) result := by
  obtain ⟨cursor', advanced, stands'⟩ := stands.advance inner
  rw [bind_done advanced]
  exact taken stands'

namespace Performs

theorem pure (value : α) : Performs (Pure.pure value) (Pure.pure value) :=
  fun _ _ _ stands => .ok rfl stands

/-- Sequencing keeps the two together, step by step. -/
theorem bind {machine : Parse α} {reader : Reader α} {next : α → Parse β} {next' : α → Reader β}
    (first : Performs machine reader) (second : ∀ value, Performs (next value) (next' value)) :
    Performs (machine >>= next) (reader >>= next') := by
  intro closing cursor rest stands
  have result := first stands
  cases read : reader rest with
  | error error =>
      rw [read] at result
      rw [Reader.bind_of_error read]
      cases result with
      | error ends => exact .error (bind_failed ends)
  | ok pair =>
      obtain ⟨value, behind⟩ := pair
      rw [read] at result
      obtain ⟨ends, stands'⟩ := result
      rw [Reader.bind_of_ok read, bind_done ends]
      exact second value stands'

theorem ite {condition : Prop} [Decidable condition] {machine machine' : Parse α}
    {reader reader' : Reader α} (yes : Performs machine reader) (no : Performs machine' reader') :
    Performs (if condition then machine else machine') (if condition then reader else reader') := by
  split
  · exact yes
  · exact no

theorem fail (expected : Expectation) :
    Performs (Parse.fail expected : Parse α) (Reader.fail expected) :=
  fun _ _ _ stands => .fail stands expected

/-- What a reader does behind a turn, if `whole` is all that it does from a value on. -/
def following (whole : α → Reader β) : Turn α β → Reader β
  | .again value => whole value
  | .leave result => Pure.pure result

/-- A loop performs a reader that goes on as the loop does after every turn. -/
theorem loop {body : α → Parse (Turn α β)} {turn : α → Reader (Turn α β)} {whole : α → Reader β}
    (turns : ∀ value, Performs (body value) (turn value))
    (shorter : ∀ {value value' : α} {tokens rest : List Token},
      turn value tokens = .ok (.again value', rest) → rest.length < tokens.length)
    (unfolds : ∀ value, whole value = turn value >>= following whole)
    (value : α) : Performs (Parse.loop body value) (whole value) := by
  intro closing cursor rest stands
  -- By induction on what is left, which every turn that goes on makes less.
  induction size : rest.length using Nat.strongRecOn generalizing value cursor rest with
  | ind size ih =>
      have result := turns value stands
      rw [unfolds value]
      cases read : turn value rest with
      | error error =>
          rw [read] at result
          rw [Reader.bind_of_error read]
          cases result with
          | error ends => exact .error (loop_failed ends)
      | ok pair =>
          obtain ⟨outcome, behind⟩ := pair
          rw [read] at result
          obtain ⟨ends, stands'⟩ := result
          rw [Reader.bind_of_ok read]
          cases outcome with
          | leave result => exact .ok (loop_leave ends) stands'
          | again value' =>
              have progress := shorter read
              have further := ih _ (size ▸ progress) value' stands' rfl
              rw [Parse.loop, loop_again ends (by rw [stands'.left_eq, stands.left_eq]; omega)]
              exact further

end Performs

/-! ## Names and keywords -/

theorem isEnd_of_kind {kind : TokenKind} (same : token.kind = kind) (inner : kind ≠ .endOfInput) :
    token.isEnd = false := by
  rw [Token.isEnd, same]
  exact beq_eq_false_iff_ne.mpr inner

theorem isEnd_of_isKeyword {keyword : Keyword} (spelt : token.isKeyword keyword = true) :
    token.isEnd = false :=
  isEnd_of_kind (Token.kind_of_keyword? (eq_of_beq spelt)) (by decide)

/-- A name is no end. -/
theorem isEnd_of_identifier? {name : String} (named : token.identifier? = some name) :
    token.isEnd = false := by
  cases kind : token.kind with
  | endOfInput => simp [Token.identifier?, kind] at named
  | _ => exact isEnd_of_kind kind (by simp)

/-- Looking at a keyword leaves the cursor where it is. -/
theorem Stands.peekKeyword (stands : Stands closing cursor rest) :
    Parse.peekKeyword cursor = done (rest.head?.bind Token.keyword?) cursor := by
  obtain ⟨token, peeked, seen⟩ := stands.peek
  unfold Parse.peekKeyword
  rw [bind_done peeked, ← seen.keyword?_eq]
  rfl

theorem peekKeyword_performs : Performs Parse.peekKeyword Reader.peekKeyword :=
  fun _ _ _ stands => .ok stands.peekKeyword stands

/-- An end token is never taken by the machine, and is not among the tokens of the reader. -/
theorem accept_performs {kind : TokenKind} (inner : kind ≠ .endOfInput) :
    Performs (Parse.accept kind) (Reader.accept kind) := by
  intro closing cursor rest stands
  refine .peeking stands fun token seen => ?_
  unfold Reader.accept
  by_cases found : token.kind = kind
  · rw [if_pos found, if_pos ((seen.kind_eq_iff inner).mp found)]
    cases rest with
    | nil => exact absurd ((seen.kind_eq_iff inner).mp found) Bool.false_ne_true
    | cons first more =>
        cases seen
        exact .taking stands (isEnd_of_kind found inner) fun _ stands' => .ok rfl stands'
  · rw [if_neg found, if_neg (mt (seen.kind_eq_iff inner).mpr found)]
    exact .ok rfl stands

/-- A keyword is no end, so where one is seen a token is left. -/
theorem Seen.isKeyword_cons {keyword : Keyword} (seen : Seen token rest)
    (spelt : token.isKeyword keyword = true) : ∃ more, rest = token :: more := by
  cases rest with
  | nil =>
      have ends : token.isEnd = true := seen
      rw [isEnd_of_isKeyword spelt] at ends
      cases ends
  | cons first more =>
      cases seen
      exact ⟨more, rfl⟩

theorem Seen.headed {keyword : Keyword} (seen : Seen token rest)
    (other : ¬token.isKeyword keyword = true) : Headed (¬·.isKeyword keyword = true) rest := by
  cases rest with
  | nil => exact .nil _
  | cons first more =>
      cases seen
      exact headed_cons.mpr other

/-- One keyword is taken by both or by neither. -/
theorem acceptKeyword_performs (keyword : Keyword) :
    Performs (Parse.acceptKeyword keyword) (Reader.acceptKeyword keyword) := by
  intro closing cursor rest stands
  refine .peeking stands fun token seen => ?_
  by_cases spelt : token.isKeyword keyword = true
  · obtain ⟨more, rfl⟩ := seen.isKeyword_cons spelt
    rw [if_pos spelt, Reader.acceptKeyword_of_isKeyword spelt]
    exact .taking stands (isEnd_of_isKeyword spelt) fun _ stands' => .ok rfl stands'
  · rw [if_neg spelt, Reader.acceptKeyword, Reader.acceptKeywords_of_headed (seen.headed spelt)]
    exact .ok rfl stands

/-- Whether two keywords stand here, which both are taken then. -/
theorem isAtPair_cases (first second : Keyword) (stands : Stands closing cursor rest) :
    (∃ a b more, rest = a :: b :: more ∧ a.isKeyword first = true ∧ b.isKeyword second = true ∧
        Parse.isAtPair first second cursor = done true cursor) ∨
      Reader.afterKeywords? [first, second] rest = none ∧
        Parse.isAtPair first second cursor = done false cursor := by
  obtain ⟨a, peeked, seen⟩ := stands.peek
  unfold Parse.isAtPair
  rw [bind_done peeked]
  by_cases spelt : a.isKeyword first = true
  · obtain ⟨behind, rfl⟩ := seen.isKeyword_cons spelt
    obtain ⟨b, peeked', seen'⟩ := stands.peekAhead (isEnd_of_isKeyword spelt)
    rw [if_pos spelt, bind_done peeked']
    by_cases spelt' : b.isKeyword second = true
    · obtain ⟨more, rfl⟩ := seen'.isKeyword_cons spelt'
      refine .inl ⟨a, b, more, rfl, spelt, spelt', ?_⟩
      rw [spelt']
      rfl
    · refine .inr ⟨?_, ?_⟩
      · rw [Reader.afterKeywords?, if_pos spelt,
          Reader.afterKeywords?_of_headed (seen'.headed spelt')]
      · rw [eq_false_of_ne_true spelt']
        rfl
  · rw [if_neg spelt, Reader.afterKeywords?_of_headed (seen.headed spelt)]
    exact .inr ⟨rfl, rfl⟩

/-- Both keywords are seen before the first is taken. -/
theorem acceptPair_performs (first second : Keyword) :
    Performs (Parse.acceptPair first second) (Reader.acceptKeywords [first, second]) := by
  intro closing cursor rest stands
  unfold Parse.acceptPair
  rcases isAtPair_cases first second stands with
    ⟨a, b, more, rfl, spelt, spelt', found⟩ | ⟨other, found⟩
  · rw [bind_done found, if_pos rfl, Reader.acceptKeywords_of_both spelt spelt']
    refine .taking stands (isEnd_of_isKeyword spelt) fun _ stands' => ?_
    exact .taking stands' (isEnd_of_isKeyword spelt') fun _ stands'' => .ok rfl stands''
  · rw [bind_done found, if_neg Bool.false_ne_true, Reader.acceptKeywords, other]
    exact .ok rfl stands

/-- A name is taken by both, or the same error is told. -/
theorem identifier_performs (expected : Expectation) :
    Performs (Parse.identifier expected) (Reader.identifier expected) := by
  intro closing cursor rest stands
  refine .peeking stands fun token seen => ?_
  cases rest with
  | nil =>
      have kind : token.kind = .endOfInput := eq_of_beq seen
      have unnamed : token.identifier? = none := by rw [Token.identifier?, kind]
      rw [unnamed]
      exact .fail stands expected
  | cons first more =>
      cases seen
      unfold Reader.identifier
      dsimp only
      cases named : token.identifier? with
      | none => exact .fail stands expected
      | some name =>
          exact .taking stands (isEnd_of_identifier? named) fun _ stands' => .ok rfl stands'

end

end AlterRelay.Checked
