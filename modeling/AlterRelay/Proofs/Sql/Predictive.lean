/-
# AlterRelay.Proofs.Sql.Predictive — how far a reader looks

A reader decides by the tokens it takes and the one behind them. `Predicts` says
so of a reader at a list of tokens, in three parts:

* a result stays the same while the token behind it does, and in front of
  whatever a clause may stop at;
* an error is told at the first token that cannot stand where it stands, and
  nothing behind that token matters;
* where the input ends too early, some further tokens complete it.

It is proved one token at a time (`Predicts.take`, `refuse`, `supply`, `stay`)
and kept by sequencing (`Predicts.bind`).

Two readers look at two keywords at once. They have the property only together
with what follows: the first keyword by itself is then taken as a name, or as the
first token of a run (`keywordPair_predictive`).
-/
import AlterRelay.Proofs.Sql.Reading

namespace AlterRelay.Sql

set_option autoImplicit false

/-! ## What follows -/

def NoEnd (tokens : List Token) : Prop := ∀ token ∈ tokens, token.isEnd = false

theorem NoEnd.nil : NoEnd [] := by
  intro token member
  cases member

theorem NoEnd.append {tokens more : List Token} (first : NoEnd tokens) (second : NoEnd more) :
    NoEnd (tokens ++ more) := by
  intro token member
  rcases List.mem_append.mp member with here | there
  · exact first token here
  · exact second token there

/-- The tokens that stand in front of both lists are the same, or a clause stops in front of
both. -/
def Follows (stops : Token → Prop) (rest more : List Token) : Prop :=
  more.head? = rest.head? ∨ Headed (Token.Stops false) rest ∧ Headed stops more

theorem Follows.append {stops : Token → Prop} {taken rest more : List Token}
    (follows : Follows stops rest more) : Follows stops (taken ++ rest) (taken ++ more) := by
  cases taken with
  | nil => exact follows
  | cons token taken => exact .inl rfl

theorem Follows.mono {stops stops' : Token → Prop} (weaker : ∀ token, stops token → stops' token)
    {rest more : List Token} (follows : Follows stops rest more) : Follows stops' rest more :=
  follows.imp id fun both => ⟨both.1, both.2.mono weaker⟩

/-- What a reader asks of the token in front is answered alike. -/
theorem Follows.headed {stops front : Token → Prop} {rest more : List Token}
    (follows : Follows stops rest more) (allowed : ∀ token, stops token → front token)
    (headed : Headed front rest) : Headed front more := by
  rcases follows with same | ⟨-, stopped⟩
  · intro token first
    exact headed token (same ▸ first)
  · exact stopped.mono allowed

namespace Reader

variable {α β : Type} {opens middle stops : Token → Prop} {reader : Reader α}
  {tokens : List Token}

/-! ## Predictive readers -/

/-- How a reader decides at these tokens, where `opens` holds of a token that completes it
and `stops` of a token it may stop in front of. -/
structure Predicts (opens stops : Token → Prop) (reader : Reader α) (tokens : List Token) :
    Prop where
  reads : ∀ {rest value}, reader tokens = .ok (value, rest) →
    ∃ taken, tokens = taken ++ rest ∧
      ∀ more, Follows stops rest more → reader (taken ++ more) = .ok (value, more)
  fails : ∀ {error}, reader tokens = .error error →
    ∃ expected seen rest, tokens = seen ++ rest ∧
      ∀ more, more.head? = rest.head? → reader (seen ++ more) = .error (.expecting expected more)
  completes : ∀ {expected}, NoEnd tokens → reader tokens = .error (.unexpectedEnd expected) →
    ∃ extra value, NoEnd extra ∧ (tokens = [] → Headed opens extra) ∧
      ∀ more, Headed stops more → reader (tokens ++ extra ++ more) = .ok (value, more)

/-- A reader that decides so everywhere, and is completed by a plain token. -/
def Predictive (stops : Token → Prop) (reader : Reader α) : Prop :=
  ∀ tokens, Predicts Token.IsPlain stops reader tokens

/-- At the end of the input a reader has its result, or some tokens complete it. -/
theorem Predicts.completed (decides : Predicts opens stops reader []) :
    ∃ extra value, NoEnd extra ∧ Headed opens extra ∧
      ∀ more, Headed stops more → reader (extra ++ more) = .ok (value, more) := by
  cases read : reader [] with
  | error error =>
      obtain ⟨expected, seen, rest, split, stable⟩ := decides.fails read
      obtain ⟨rfl, rfl⟩ := List.append_eq_nil_iff.mp split.symm
      obtain ⟨extra, value, proper, opened, whole⟩ := decides.completes NoEnd.nil (stable [] rfl)
      exact ⟨extra, value, proper, opened rfl, whole⟩
  | ok result =>
      obtain ⟨value, rest⟩ := result
      obtain ⟨taken, split, stable⟩ := decides.reads read
      obtain ⟨rfl, rfl⟩ := List.append_eq_nil_iff.mp split.symm
      exact ⟨[], value, NoEnd.nil, Headed.nil _, fun more stopped =>
        stable more (.inr ⟨Headed.nil _, stopped⟩)⟩

/-! ### One token -/

/-- A token is taken, and what is behind it decides. -/
theorem Predicts.take (inner : Reader α) {opens' : Token → Prop} {token : Token}
    (same : ∀ tokens, reader (token :: tokens) = inner tokens)
    (behind : Predicts opens' stops inner tokens) :
    Predicts opens stops reader (token :: tokens) where
  reads := by
    intro rest value read
    rw [same] at read
    obtain ⟨taken, rfl, stable⟩ := behind.reads read
    refine ⟨token :: taken, rfl, fun more follows => ?_⟩
    rw [List.cons_append, same, stable more follows]
  fails := by
    intro error failed
    rw [same] at failed
    obtain ⟨expected, seen, rest, rfl, stable⟩ := behind.fails failed
    refine ⟨expected, token :: seen, rest, rfl, fun more front => ?_⟩
    rw [List.cons_append, same, stable more front]
  completes := by
    intro expected noEnd failed
    rw [same] at failed
    have noEnd' : NoEnd tokens := fun other member => noEnd other (List.mem_cons_of_mem _ member)
    obtain ⟨extra, value, proper, -, whole⟩ := behind.completes noEnd' failed
    refine ⟨extra, value, proper, fun empty => absurd empty (List.cons_ne_nil _ _), ?_⟩
    intro more stopped
    rw [List.cons_append, List.cons_append, same, whole more stopped]

/-- A token is refused. -/
theorem Predicts.refuse (expected : Expectation) {token : Token}
    (same : ∀ tokens, reader (token :: tokens) = .error (.expecting expected (token :: tokens))) :
    Predicts opens stops reader (token :: tokens) where
  reads := by
    intro rest value read
    rw [same] at read
    cases read
  fails := by
    intro error failed
    refine ⟨expected, [], token :: tokens, rfl, fun more front => ?_⟩
    cases more with
    | nil => cases front
    | cons first more =>
        cases front
        exact same more
  completes := by
    intro expected' noEnd failed
    have proper : token.isEnd = false := noEnd token (by simp)
    rw [same] at failed
    simp [ParseError.expecting, proper] at failed

/-- A token is missing at the end of the input. One that can stand there supplies it, and what
is behind it decides. -/
theorem Predicts.supply (inner : Reader α) {opens' : Token → Prop} {expected : Expectation}
    {token : Token} (missed : reader [] = .error (.expecting expected []))
    (proper : token.isEnd = false) (opening : opens token)
    (same : ∀ tokens, reader (token :: tokens) = inner tokens)
    (behind : Predicts opens' stops inner []) : Predicts opens stops reader [] where
  reads := by
    intro rest value read
    rw [missed] at read
    cases read
  fails := by
    intro error failed
    refine ⟨expected, [], [], rfl, fun more front => ?_⟩
    cases more with
    | nil => exact missed
    | cons first more => cases front
  completes := by
    intro expected' noEnd failed
    obtain ⟨extra, value, proper', -, whole⟩ := behind.completed
    have proper'' : NoEnd (token :: extra) := List.forall_mem_cons.mpr ⟨proper, proper'⟩
    refine ⟨token :: extra, value, proper'', fun _ => headed_cons.mpr opening, ?_⟩
    intro more stopped
    rw [List.nil_append, List.cons_append, same, whole more stopped]

/-- Nothing is taken, and the token in front decides. -/
theorem Predicts.stay (value : α)
    (same : ∀ more, Follows stops tokens more → reader more = .ok (value, more)) :
    Predicts opens stops reader tokens where
  reads := by
    intro rest result read
    rw [same tokens (.inl rfl)] at read
    cases read
    exact ⟨[], rfl, same⟩
  fails := by
    intro error failed
    rw [same tokens (.inl rfl)] at failed
    cases failed
  completes := by
    intro expected noEnd failed
    rw [same tokens (.inl rfl)] at failed
    cases failed

theorem Predicts.pure (value : α) : Predicts opens stops (Pure.pure value : Reader α) tokens :=
  Predicts.stay value fun _ _ => rfl

/-- A reader does what another does, unless a token in front that is not plain tells them
apart. -/
theorem Predicts.elsewhere {other : Reader α} {apart : Token → Prop}
    (same : ∀ tokens, Headed (¬apart ·) tokens → reader tokens = other tokens)
    (front : Headed (¬apart ·) tokens) (opening : ∀ token, opens token → ¬apart token)
    (stopping : ∀ token, stops token → ¬apart token)
    (decides : Predicts opens stops other tokens) : Predicts opens stops reader tokens where
  reads := by
    intro rest value read
    rw [same tokens front] at read
    obtain ⟨taken, rfl, stable⟩ := decides.reads read
    refine ⟨taken, rfl, fun more follows => ?_⟩
    rw [same _ ((follows.append).headed stopping front), stable more follows]
  fails := by
    intro error failed
    rw [same tokens front] at failed
    obtain ⟨expected, seen, rest, rfl, stable⟩ := decides.fails failed
    refine ⟨expected, seen, rest, rfl, fun more first => ?_⟩
    have follows : Follows stops rest more := .inl first
    rw [same _ ((follows.append).headed stopping front), stable more first]
  completes := by
    intro expected noEnd failed
    rw [same tokens front] at failed
    obtain ⟨extra, value, proper, opened, whole⟩ := decides.completes noEnd failed
    refine ⟨extra, value, proper, opened, fun more stopped => ?_⟩
    have front' : Headed (¬apart ·) (tokens ++ extra ++ more) := by
      rw [List.append_assoc]
      cases tokens with
      | cons token tokens => exact front
      | nil => exact ((opened rfl).mono opening).append (stopped.mono stopping)
    rw [same _ front', whole more stopped]

/-! ### Sequences -/

theorem Predicts.bind {next : α → Reader β} (first : Predicts opens middle reader tokens)
    (second : ∀ value rest, reader tokens = .ok (value, rest) →
      Predicts middle stops (next value) rest)
    (fresh : ∀ value, Predicts middle stops (next value) [])
    (further : ∀ token, stops token → middle token)
    (opening : ∀ token, middle token → opens token) :
    Predicts opens stops (reader >>= next) tokens where
  reads := by
    intro rest value read
    obtain ⟨value', behind, read, read'⟩ := bind_eq_ok.mp read
    obtain ⟨taken', rfl, stable'⟩ := (second value' behind read).reads read'
    obtain ⟨taken, rfl, stable⟩ := first.reads read
    refine ⟨taken ++ taken', by simp, fun more follows => ?_⟩
    have follows' : Follows middle (taken' ++ rest) (taken' ++ more) :=
      (follows.mono further).append
    rw [List.append_assoc, bind_of_ok (stable _ follows'), stable' more follows]
  fails := by
    intro error failed
    cases read : reader tokens with
    | error early =>
        -- The first reader fails, and the second is never asked.
        obtain ⟨expected, seen, rest, rfl, stable⟩ := first.fails read
        exact ⟨expected, seen, rest, rfl, fun more front => bind_of_error (stable more front)⟩
    | ok result =>
        obtain ⟨value, behind⟩ := result
        rw [bind_of_ok read] at failed
        obtain ⟨expected, seen, rest, rfl, stable'⟩ := (second value behind read).fails failed
        obtain ⟨taken, rfl, stable⟩ := first.reads read
        -- What the second reader has seen stays, so the first sees the same behind its own tokens.
        refine ⟨expected, taken ++ seen, rest, by simp, fun more front => ?_⟩
        have follows : Follows middle rest more := .inl front
        rw [List.append_assoc, bind_of_ok (stable _ follows.append), stable' more front]
  completes := by
    intro expected noEnd failed
    cases read : reader tokens with
    | error early =>
        rw [bind_of_error read] at failed
        cases failed
        obtain ⟨extra, value, proper, opened, whole⟩ := first.completes noEnd read
        -- The tokens end in the first reader, so whatever the second needs is supplied behind.
        obtain ⟨extra', value', proper', opened', whole'⟩ := (fresh value).completed
        refine ⟨extra ++ extra', value', proper.append proper', fun empty => ?_, ?_⟩
        · exact (opened empty).append (opened'.mono opening)
        · intro more stopped
          have follows := opened'.append (stopped.mono further)
          have split : tokens ++ (extra ++ extra') ++ more =
              tokens ++ extra ++ (extra' ++ more) := by
            simp
          rw [split, bind_of_ok (whole _ follows), whole' more stopped]
    | ok result =>
        obtain ⟨value, behind⟩ := result
        rw [bind_of_ok read] at failed
        obtain ⟨taken, rfl, stable⟩ := first.reads read
        have noEnd' : NoEnd behind := fun token member => noEnd token (by simp [member])
        obtain ⟨extra, value', proper, opened, whole⟩ :=
          (second value behind read).completes noEnd' failed
        refine ⟨extra, value', proper, fun empty => ?_, fun more stopped => ?_⟩
        · obtain ⟨-, rfl⟩ := List.append_eq_nil_iff.mp empty
          exact (opened rfl).mono opening
        -- If the first reader took all there was, what is supplied to the second one follows it.
        · have follows : Follows middle behind (behind ++ extra ++ more) := by
            cases behind with
            | cons token behind => exact .inl rfl
            | nil => exact .inr ⟨Headed.nil _, (opened rfl).append (stopped.mono further)⟩
          have split : taken ++ behind ++ extra ++ more = taken ++ (behind ++ extra ++ more) := by
            simp
          rw [split, bind_of_ok (stable _ follows), whole more stopped]

theorem Predicts.map (change : α → β) (decides : Predicts opens stops reader tokens) :
    Predicts opens stops (reader >>= fun value => Pure.pure (change value)) tokens where
  reads := by
    intro rest value whole
    obtain ⟨value', behind, read, read'⟩ := bind_eq_ok.mp whole
    obtain ⟨rfl, rfl⟩ := pure_eq_ok.mp read'
    obtain ⟨taken, rfl, stable⟩ := decides.reads read
    exact ⟨taken, rfl, fun more follows => bind_of_ok (stable more follows)⟩
  fails := by
    intro error failed
    cases read : reader tokens with
    | error early =>
        obtain ⟨expected, seen, rest, rfl, stable⟩ := decides.fails read
        exact ⟨expected, seen, rest, rfl, fun more front => bind_of_error (stable more front)⟩
    | ok result =>
        rw [bind_of_ok read] at failed
        cases failed
  completes := by
    intro expected noEnd failed
    cases read : reader tokens with
    | error early =>
        rw [bind_of_error read] at failed
        cases failed
        obtain ⟨extra, value, proper, opened, whole⟩ := decides.completes noEnd read
        exact ⟨extra, change value, proper, opened, fun more stopped =>
          bind_of_ok (whole more stopped)⟩
    | ok result =>
        rw [bind_of_ok read] at failed
        cases failed

theorem Predictive.pure (value : α) : Predictive stops (Pure.pure value : Reader α) :=
  fun _ => Predicts.pure value

theorem Predictive.bind {next : α → Reader β} (first : Predictive Token.IsPlain reader)
    (second : ∀ value, Predictive stops (next value))
    (plain : ∀ token, stops token → token.IsPlain) : Predictive stops (reader >>= next) :=
  fun tokens => (first tokens).bind (fun value rest _ => second value rest)
    (fun value => second value []) plain fun _ => id

theorem Predictive.ite {condition : Prop} [Decidable condition] {first second : Reader α}
    (yes : Predictive stops first) (no : Predictive stops second) :
    Predictive stops (if condition then first else second) := by
  split
  · exact yes
  · exact no

/-! ## Primitives -/

/-- A word that is no keyword. It supplies any missing name or type. -/
def filler : Token := ⟨.word, ⟨0, 0, 0, 0⟩, "x"⟩

theorem filler_isPlain : filler.IsPlain := ⟨by decide +kernel, by decide, by decide⟩

theorem identifier_predictive (expected : Expectation) :
    Predictive stops (identifier expected) := by
  intro tokens
  cases tokens with
  | nil =>
      exact Predicts.supply (Pure.pure filler.text) rfl rfl filler_isPlain (fun _ => rfl)
        (Predictive.pure _ [])
  | cons token tokens =>
      cases named : token.identifier? with
      | none => exact Predicts.refuse expected (identifier_of_none named)
      | some name =>
          exact Predicts.take (Pure.pure name) (identifier_of_some named)
            (Predictive.pure name tokens)

theorem typeWord_predictive : Predictive stops typeWord := by
  intro tokens
  cases tokens with
  | nil =>
      exact Predicts.supply (Pure.pure filler.text) rfl rfl filler_isPlain (fun _ => rfl)
        (Predictive.pure _ [])
  | cons token tokens =>
      by_cases word : token.kind = .word
      · refine Predicts.take (Pure.pure token.text) (fun more => ?_) (Predictive.pure _ tokens)
        rw [typeWord, if_pos word]
        rfl
      · exact Predicts.refuse .dataType fun more => by rw [typeWord, if_neg word]

theorem peekKeyword_predictive : Predictive Token.IsPlain peekKeyword := by
  intro tokens
  refine Predicts.stay (tokens.head?.bind Token.keyword?) fun more follows => ?_
  rcases follows with same | ⟨stopped, stopped'⟩
  · rw [peekKeyword, same]
  · have none_of : ∀ {tokens}, Headed Token.IsPlain tokens →
        tokens.head?.bind Token.keyword? = none := by
      intro tokens plain
      cases tokens with
      | nil => rfl
      | cons token tokens => exact (headed_cons.mp plain).1
    rw [peekKeyword, none_of stopped', none_of (stopped.mono fun _ => Token.Stops.isPlain)]

theorem acceptKeyword_predictive (keyword : Keyword) :
    Predictive Token.IsPlain (acceptKeyword keyword) := by
  have stays : ∀ {tokens}, Headed (¬·.isKeyword keyword = true) tokens →
      Predicts Token.IsPlain Token.IsPlain (acceptKeyword keyword) tokens := by
    intro tokens front
    refine Predicts.stay false fun more follows => ?_
    exact acceptKeywords_of_headed
      (follows.headed (fun token plain => plain.not_isKeyword keyword) front)
  intro tokens
  cases tokens with
  | nil => exact stays (Headed.nil _)
  | cons token tokens =>
      by_cases spelt : token.isKeyword keyword = true
      · refine Predicts.take (Pure.pure true) (fun more => ?_) (Predictive.pure true tokens)
        rw [acceptKeyword, acceptKeywords, afterKeywords?, if_pos spelt]
        rfl
      · exact stays (headed_cons.mpr spelt)

/-- Two keywords are looked at together. The reader behind them takes the first one by itself
if the second is missing. -/
theorem keywordPair_predictive {first second : Keyword} {next : Bool → Reader α}
    (single : Token → Reader α) (both : Predictive stops (next true))
    (neither : Predictive stops (next false))
    (takes : ∀ token tokens, token.isKeyword first = true →
      next false (token :: tokens) = single token tokens)
    (behind : ∀ token, Predictive stops (single token))
    (plain : ∀ token, stops token → token.IsPlain) :
    Predictive stops (acceptKeywords [first, second] >>= next) := by
  -- With another token in front, or none at all, the pair does nothing.
  have other : ∀ {tokens}, Headed (¬·.isKeyword first = true) tokens →
      Predicts Token.IsPlain stops (acceptKeywords [first, second] >>= next) tokens := by
    intro tokens front
    have passed : ∀ tokens, Headed (¬·.isKeyword first = true) tokens →
        (acceptKeywords [first, second] >>= next) tokens = next false tokens :=
      fun _ front => bind_of_ok (acceptKeywords_of_headed front)
    exact Predicts.elsewhere passed front (fun token plain => plain.not_isKeyword first)
      (fun token stopped => (plain token stopped).not_isKeyword first) (neither tokens)
  intro tokens
  cases tokens with
  | nil => exact other (Headed.nil _)
  | cons token tokens =>
      by_cases spelt : token.isKeyword first = true
      -- The first keyword is there, so the second one alone decides between the two readers.
      · have decides : Predictive stops
            (acceptKeyword second >>= fun hit => if hit then next true else single token) :=
          (acceptKeyword_predictive second).bind (fun _ => both.ite (behind token)) plain
        refine Predicts.take _ (fun more => ?_) (decides tokens)
        cases found : afterKeywords? [second] more with
        | none =>
            have here : acceptKeyword second more = .ok (false, more) := by
              rw [acceptKeyword, acceptKeywords, found]
            have whole : acceptKeywords [first, second] (token :: more) =
                .ok (false, token :: more) := by
              rw [acceptKeywords, afterKeywords?, if_pos spelt, found]
            rw [bind_of_ok whole, bind_of_ok here, takes token more spelt]
            rfl
        | some rest =>
            have here : acceptKeyword second more = .ok (true, rest) := by
              rw [acceptKeyword, acceptKeywords, found]
            have whole : acceptKeywords [first, second] (token :: more) = .ok (true, rest) := by
              rw [acceptKeywords, afterKeywords?, if_pos spelt, found]
            rw [bind_of_ok whole, bind_of_ok here]
            rfl
      · exact other (headed_cons.mpr spelt)

/-- A parenthesis in front decides which of two readers goes on. -/
theorem parens_predictive {inner outer : Reader α} (inside : Predictive stops inner)
    (outside : Predictive stops outer) (plain : ∀ token, stops token → token.IsPlain) :
    Predictive stops (accept .openParen >>= fun opened => if opened then inner else outer) := by
  have other : ∀ {tokens}, Headed (¬·.kind = .openParen) tokens → Predicts Token.IsPlain stops
      (accept .openParen >>= fun opened => if opened then inner else outer) tokens := by
    intro tokens front
    refine Predicts.elsewhere (fun tokens front => bind_of_ok (accept_of_headed front)) front
      (fun token plain => plain.2.2) (fun token stopped => (plain token stopped).2.2)
      (outside tokens)
  intro tokens
  cases tokens with
  | nil => exact other (Headed.nil _)
  | cons token tokens =>
      by_cases parenthesis : token.kind = .openParen
      · refine Predicts.take inner (fun more => ?_) (inside tokens)
        rw [bind_of_ok (accept_of_kind parenthesis more)]
        rfl
      · exact other (headed_cons.mpr parenthesis)

end Reader

end AlterRelay.Sql
