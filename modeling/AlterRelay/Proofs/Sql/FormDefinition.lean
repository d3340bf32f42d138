/-
# AlterRelay.Proofs.Sql.FormDefinition — definitions are read as they are meant

Every part of a written definition is read back, from the modifiers of its type
to the lexemes behind it, whatever follows (`definition_written`). What follows
has to stop a run: it is a comma or the end, or a closing parenthesis inside a
list. Then nothing of it can belong to the definition.
-/
import AlterRelay.Proofs.Sql.Form

namespace AlterRelay.Sql.Reader

set_option autoImplicit false

variable {rest : List Token}

/-! ## Modifiers -/

theorem typeModifiers_written (words : List ModifierWord)
    (front : Headed (¬isTypeModifier · = true) rest) :
    typeModifiers ((words.map Word.lexeme).map Lexeme.token ++ rest) =
      .ok (words.map Word.text, rest) := by
  have all : ∀ token ∈ (words.map Word.lexeme).map Lexeme.token, isTypeModifier token = true := by
    intro token member
    simp only [List.map_map, List.mem_map] at member
    obtain ⟨word, -, rfl⟩ := member
    exact word.spelt
  obtain ⟨none, same⟩ := Prod.mk.inj (Except.ok.inj (typeModifiers_of_headed front))
  unfold typeModifiers
  rw [List.takeWhile_append_of_pos all, List.dropWhile_append_of_pos all, List.map_append, none,
    same]
  simp [Function.comp_def]

/-! ## Arguments -/

theorem argumentsFrom_of_other {token : Token}
    (other : token.kind ∉ [.openParen, .closeParen, .comma, .endOfInput])
    (current : List String) (tokens : List Token) :
    argumentsFrom current (token :: tokens) = argumentsFrom (current ++ [token.text]) tokens := by
  rw [argumentsFrom]
  cases kind : token.kind <;> simp_all

theorem argumentsFrom_of_closeParen {token : Token} (close : token.kind = .closeParen)
    {current : List String} (nonempty : current ≠ []) (tokens : List Token) :
    argumentsFrom current (token :: tokens) = .ok ([" ".intercalate current], tokens) := by
  rw [argumentsFrom, close]
  simp [nonempty]

/-- What stands between two commas is one argument. -/
theorem argumentsFrom_plain {lexemes : List Lexeme} (whole : ∀ lexeme ∈ lexemes, lexeme.IsWhole)
    (plain : ∀ lexeme ∈ lexemes, lexeme.kind ∉ [.openParen, .closeParen, .comma])
    (current : List String) :
    argumentsFrom current (lexemes.map Lexeme.token ++ rest) =
      argumentsFrom (current ++ lexemes.map Lexeme.text) rest := by
  induction lexemes generalizing current with
  | nil => simp
  | cons lexeme lexemes ih =>
      obtain ⟨here, whole⟩ := List.forall_mem_cons.mp whole
      obtain ⟨other, plain⟩ := List.forall_mem_cons.mp plain
      have other' : lexeme.token.kind ∉ [.openParen, .closeParen, .comma, .endOfInput] := by
        have proper : lexeme.token.kind ≠ .endOfInput := here.kind_ne_endOfInput
        have other : lexeme.token.kind ∉ [.openParen, .closeParen, .comma] := other
        simp_all
      rw [List.map_cons, List.cons_append, argumentsFrom_of_other other']
      exact (ih whole plain (current ++ [lexeme.text])).trans (by simp)

/-- Arguments with commas between them, up to the closing parenthesis. The last one has to be
there to be read, the others may be empty. -/
theorem argumentsFrom_written {arguments : List (List Lexeme)} (nonempty : arguments ≠ [])
    (whole : ∀ argument ∈ arguments, ∀ lexeme ∈ argument, lexeme.IsWhole)
    (plain : ∀ argument ∈ arguments, ∀ lexeme ∈ argument,
      lexeme.kind ∉ [.openParen, .closeParen, .comma])
    (last : arguments.getLast? ≠ some []) :
    argumentsFrom [] (([.comma].intercalate arguments).map Lexeme.token ++
        Lexeme.closeParen.token :: rest) =
      .ok (arguments.map fun argument => " ".intercalate (argument.map Lexeme.text), rest) := by
  induction arguments with
  | nil => exact absurd rfl nonempty
  | cons first arguments ih =>
      obtain ⟨firstWhole, whole⟩ := List.forall_mem_cons.mp whole
      obtain ⟨firstPlain, plain⟩ := List.forall_mem_cons.mp plain
      have here : ∀ tokens, argumentsFrom [] (first.map Lexeme.token ++ tokens) =
          argumentsFrom (first.map Lexeme.text) tokens :=
        fun tokens => argumentsFrom_plain firstWhole firstPlain []
      cases arguments with
      | nil =>
          have some : first.map Lexeme.text ≠ [] := by simpa using last
          rw [intercalate_eq, List.flatMap_nil, List.append_nil, here]
          exact argumentsFrom_of_closeParen rfl some rest
      | cons second arguments =>
          have further := ih (List.cons_ne_nil _ _) whole plain (by simpa using last)
          have split : [Lexeme.comma].intercalate (first :: second :: arguments) =
              first ++ .comma :: [Lexeme.comma].intercalate (second :: arguments) := by
            simp [intercalate_eq]
          rw [split, List.map_append, List.map_cons, List.append_assoc, List.cons_append, here,
            argumentsFrom_of_comma rfl, bind_of_ok further]
          rfl

theorem typeArguments_written (form : ArgumentsForm) :
    typeArguments (form.lexemes.map Lexeme.token ++ rest) =
      .ok (form.texts, (form.modifiers.map Word.lexeme).map Lexeme.token ++ rest) := by
  have opening : Lexeme.openParen.token.kind = .openParen := rfl
  have nonempty : (form.first :: form.others).map ArgumentForm.lexemes ≠ [] := List.cons_ne_nil _ _
  have whole : ∀ argument ∈ (form.first :: form.others).map ArgumentForm.lexemes,
      ∀ lexeme ∈ argument, lexeme.IsWhole :=
    List.forall_mem_map.mpr fun argument _ => argument.whole
  have plain : ∀ argument ∈ (form.first :: form.others).map ArgumentForm.lexemes,
      ∀ lexeme ∈ argument, lexeme.kind ∉ [.openParen, .closeParen, .comma] :=
    List.forall_mem_map.mpr fun argument _ => argument.plain
  have last : ((form.first :: form.others).map ArgumentForm.lexemes).getLast? ≠ some [] := by
    intro empty
    obtain ⟨argument, -, none⟩ := List.mem_map.mp (List.mem_of_getLast? empty)
    exact argument.nonempty none
  have shape : form.lexemes.map Lexeme.token ++ rest = Lexeme.openParen.token ::
      (([.comma].intercalate ((form.first :: form.others).map ArgumentForm.lexemes)).map
        Lexeme.token ++ Lexeme.closeParen.token ::
          ((form.modifiers.map Word.lexeme).map Lexeme.token ++ rest)) := by
    simp [ArgumentsForm.lexemes, intercalate_eq, List.flatMap_map]
  rw [shape, typeArguments, bind_of_ok (accept_of_kind opening _), if_pos rfl]
  refine (argumentsFrom_written nonempty whole plain last).trans ?_
  rw [List.map_map]
  rfl

/-! ## Character sets -/

theorem characterSetName_written (name : CharacterSetName) (tokens : List Token) :
    (some <$> identifier .characterSet) (name.lexeme.token :: tokens) =
      .ok (some name.text, tokens) := by
  have read : identifier .characterSet (name.lexeme.token :: tokens) = .ok (name.text, tokens) := by
    cases name with
    | word spelt =>
        have named : spelt.lexeme.token.identifier? = some spelt.text :=
          congrArg some spelt.text_token
        exact identifier_of_some named tokens
    | quoted name => exact identifier_of_some rfl tokens
  rw [map_eq_pure_bind]
  exact bind_of_ok read

theorem characterSet_written (form : CharacterSetForm) :
    characterSet (form.lexemes.map Lexeme.token ++ rest) = .ok (some form.text, rest) := by
  cases form with
  | charset keyword name =>
      have other : Headed (¬·.isKeyword .character = true)
          (keyword.lexeme.token :: name.lexeme.token :: rest) :=
        headed_cons.mpr (not_isKeyword keyword.spells_token Keyword.noConfusion)
      show characterSet (keyword.lexeme.token :: name.lexeme.token :: rest) = _
      rw [characterSet, bind_of_ok (acceptKeywords_of_headed other), if_neg Bool.false_ne_true,
        bind_of_ok (acceptKeyword_of_isKeyword keyword.spells_token _), if_pos rfl]
      exact characterSetName_written name rest
  | characterSet character set name =>
      have both := acceptKeywords_of_both character.spells_token set.spells_token
        (name.lexeme.token :: rest)
      show characterSet
        (character.lexeme.token :: set.lexeme.token :: name.lexeme.token :: rest) = _
      rw [characterSet, bind_of_ok both, if_pos rfl]
      exact characterSetName_written name rest

theorem characterSet_absent {tokens : List Token} (ends : EndsType tokens) :
    characterSet tokens = .ok (none, tokens) := by
  have both : acceptKeywords [.character, .set] tokens = .ok (false, tokens) := by
    rw [acceptKeywords, ends.noCharacterSet]
  have one : acceptKeyword .charset tokens = .ok (false, tokens) :=
    acceptKeywords_of_headed ends.noCharset
  rw [characterSet, bind_of_ok both, if_neg Bool.false_ne_true, bind_of_ok one,
    if_neg Bool.false_ne_true]
  rfl

/-- Keywords that do not stand in front are not completed by tokens that are no keywords. -/
theorem afterKeywords?_append_of_headed {keywords : List Keyword} {tokens : List Token}
    (absent : afterKeywords? keywords tokens = none)
    (noKeyword : ∀ keyword, Headed (¬·.isKeyword keyword = true) rest) :
    afterKeywords? keywords (tokens ++ rest) = none := by
  fun_induction afterKeywords? keywords tokens with
  | case1 => cases absent
  | case2 keyword more => exact afterKeywords?_of_headed (noKeyword keyword)
  | case3 keyword more token tokens spelt ih =>
      rw [List.cons_append, afterKeywords?, if_pos spelt]
      exact ih absent
  | case4 keyword more token tokens other => exact afterKeywords?_of_headed (headed_cons.mpr other)

/-- A stop does not go on with a type, and completes nothing that does. -/
theorem EndsType.append {tokens : List Token} {inParens : Bool} (ends : EndsType tokens)
    (stops : Headed (Token.Stops inParens) rest) : EndsType (tokens ++ rest) where
  noModifier := ends.noModifier.append (stops.mono fun _ stop => stop.isPlain.not_isTypeModifier)
  noCharset := ends.noCharset.append (stops.mono fun _ stop => stop.isPlain.not_isKeyword .charset)
  noCharacterSet := afterKeywords?_append_of_headed ends.noCharacterSet fun keyword =>
    stops.mono fun _ stop => stop.isPlain.not_isKeyword keyword

/-! ## Types -/

/-- Tokens that no part of a type begins with. -/
structure Ends (form : TypeForm) (tokens : List Token) : Prop where
  noModifier : Headed (¬isTypeModifier · = true) tokens
  noCharset : Headed (¬·.isKeyword .charset = true) tokens
  noCharacterSet : afterKeywords? [.character, .set] tokens = none
  noArguments : form.arguments = none → Headed (¬·.kind = .openParen) tokens

theorem ends_of_claims {form : TypeForm} {tokens : List Token} (bare : form.characterSet = none)
    (unclaimed : form.claims tokens = false) : Ends form tokens := by
  simp only [TypeForm.claims, bare, Option.isNone_none, Bool.true_and, Bool.or_eq_false_iff,
    Option.isSome_eq_false_iff, Option.isNone_iff_eq_none, Bool.and_eq_false_imp] at unclaimed
  obtain ⟨⟨⟨noModifier, noCharset⟩, noCharacterSet⟩, noArguments⟩ := unclaimed
  cases tokens with
  | nil => exact ⟨Headed.nil _, Headed.nil _, rfl, fun _ => Headed.nil _⟩
  | cons token tokens =>
      refine ⟨headed_cons.mpr ?_, headed_cons.mpr ?_, noCharacterSet, fun absent => ?_⟩
      · simpa using noModifier
      · simpa using noCharset
      · simpa [beginsWith, headed_cons] using noArguments absent

theorem Ends.endsType {form : TypeForm} {tokens : List Token} (ends : Ends form tokens) :
    EndsType tokens :=
  ⟨ends.noModifier, ends.noCharset, ends.noCharacterSet⟩

/-- A stop begins no part of a type, and does not complete one. -/
theorem Ends.append {form : TypeForm} {tokens : List Token} {inParens : Bool}
    (ends : Ends form tokens) (stops : Headed (Token.Stops inParens) rest) :
    Ends form (tokens ++ rest) := by
  obtain ⟨noModifier, noCharset, noCharacterSet⟩ := ends.endsType.append stops
  refine ⟨noModifier, noCharset, noCharacterSet, fun absent => ?_⟩
  exact (ends.noArguments absent).append (stops.mono fun _ stop => stop.isPlain.2.2)

theorem typeWord_written (word : AnyWord) (tokens : List Token) :
    typeWord (word.lexeme.token :: tokens) = .ok (word.text, tokens) := by
  have isWord : word.lexeme.token.kind = .word := rfl
  rw [typeWord, if_pos isWord, word.text_token]

/-- The modifiers of a type on both sides of its arguments. -/
theorem attributes_written {α : Type} (modifiers : List ModifierWord)
    (arguments : Option ArgumentsForm)
    (front : Headed (fun token => ¬isTypeModifier token = true ∧
      (arguments = none → ¬token.kind = .openParen)) rest)
    {next : List String → List String → List String → Reader α} :
    (do
      let before ← typeModifiers
      let texts ← typeArguments
      let behind ← typeModifiers
      next before texts behind : Reader α)
        ((modifiers.map Word.lexeme ++ arguments.elim [] ArgumentsForm.lexemes).map Lexeme.token ++
          rest) =
      next (modifiers.map Word.text) (arguments.elim [] ArgumentsForm.texts)
        ((arguments.elim [] ArgumentsForm.modifiers).map Word.text) rest := by
  have noModifier : Headed (¬isTypeModifier · = true) rest := front.mono fun _ both => both.1
  rw [List.map_append, List.append_assoc]
  cases arguments with
  | none =>
      have absent : typeArguments rest = .ok ([], rest) := by
        have noArguments : Headed (¬·.kind = .openParen) rest := front.mono fun _ both => both.2 rfl
        rw [typeArguments, bind_of_ok (accept_of_headed noArguments)]
        rfl
      rw [Option.elim_none, List.map_nil, List.nil_append,
        bind_of_ok (typeModifiers_written modifiers noModifier), bind_of_ok absent]
      exact bind_of_ok (typeModifiers_of_headed noModifier)
  | some arguments =>
      have opening : Headed (¬isTypeModifier · = true)
          (arguments.lexemes.map Lexeme.token ++ rest) := headed_cons.mpr Bool.false_ne_true
      rw [Option.elim_some, bind_of_ok (typeModifiers_written modifiers opening),
        bind_of_ok (typeArguments_written arguments)]
      exact bind_of_ok (typeModifiers_written arguments.modifiers noModifier)

section Types

variable {form : TypeForm} (ends : form.characterSet = none → Ends form rest)
include ends

/-- The character set and what follows do not go on with the modifiers, nor open arguments. -/
theorem headed_characterSet :
    Headed (fun token => ¬isTypeModifier token = true ∧
        (form.arguments = none → ¬token.kind = .openParen))
      ((form.characterSet.elim [] CharacterSetForm.lexemes).map Lexeme.token ++ rest) := by
  cases bare : form.characterSet with
  | none =>
      intro token first
      have ends := ends bare
      exact ⟨ends.noModifier token first, fun absent => ends.noArguments absent token first⟩
  | some characterSet =>
      cases characterSet with
      | charset keyword name =>
          exact headed_cons.mpr
            ⟨not_isTypeModifier keyword.spells_token rfl, fun _ => TokenKind.noConfusion⟩
      | characterSet character set name =>
          exact headed_cons.mpr
            ⟨not_isTypeModifier character.spells_token rfl, fun _ => TokenKind.noConfusion⟩

theorem characterSet_optional :
    characterSet ((form.characterSet.elim [] CharacterSetForm.lexemes).map Lexeme.token ++ rest) =
      .ok (form.characterSet.map CharacterSetForm.text, rest) := by
  cases bare : form.characterSet with
  | some characterSet => exact characterSet_written characterSet
  | none => exact characterSet_absent (ends bare).endsType

theorem dataType_written :
    dataType (form.lexemes.map Lexeme.token ++ rest) = .ok (form.type, rest) := by
  have shape : form.lexemes.map Lexeme.token ++ rest = form.word.lexeme.token ::
      ((form.modifiers.map Word.lexeme ++ form.arguments.elim [] ArgumentsForm.lexemes).map
        Lexeme.token ++
          ((form.characterSet.elim [] CharacterSetForm.lexemes).map Lexeme.token ++ rest)) := by
    simp [TypeForm.lexemes]
  rw [shape, dataType, bind_of_ok (typeWord_written form.word _),
    attributes_written form.modifiers form.arguments (headed_characterSet ends),
    bind_of_ok (characterSet_optional ends)]
  simp only [TypeForm.type, List.map_append]
  rfl

end Types

/-! ## Definitions -/

theorem runStep_of_stepDepth? {depth next : Nat} {kind : TokenKind}
    (step : stepDepth? depth kind = some next) (other : kind ≠ .semicolon) (inParens : Bool) :
    runStep inParens depth kind = .take next := by
  cases kind <;> cases depth <;> cases step <;> first | rfl | exact absurd rfl other

theorem runFrom_written {inParens : Bool} {depth : Nat} {lexemes : List Lexeme}
    (balanced : depthBehind? depth (lexemes.map Lexeme.kind) = some 0)
    (noSemicolon : ∀ lexeme ∈ lexemes, lexeme.kind ≠ .semicolon)
    (stops : Headed (Token.Stops inParens) rest) :
    runFrom inParens depth (lexemes.map Lexeme.token ++ rest) =
      .ok (lexemes.map Lexeme.text, rest) := by
  induction lexemes generalizing depth with
  | nil =>
      cases balanced
      exact runFrom_of_stops stops
  | cons lexeme lexemes ih =>
      obtain ⟨next, step, behind⟩ := Option.bind_eq_some_iff.mp balanced
      have taken : runStep inParens depth lexeme.token.kind = .take next :=
        runStep_of_stepDepth? step (noSemicolon lexeme List.mem_cons_self) inParens
      have others := ih behind fun other member => noSemicolon other (List.mem_cons_of_mem _ member)
      rw [List.map_cons, List.cons_append, runFrom_of_take taken, bind_of_ok others]
      rfl

/-- A definition is read part by part: its name, its type and the rest. -/
theorem definition_of_parts {token : Token} {name : String} {type : DataType}
    {front specs : List Lexeme} {inParens : Bool} (named : token.identifier? = some name)
    (typed : dataType (front.map Lexeme.token ++ (specs.map Lexeme.token ++ rest)) =
      .ok (type, specs.map Lexeme.token ++ rest))
    (balanced : depthBehind? 0 (specs.map Lexeme.kind) = some 0)
    (noSemicolon : ∀ lexeme ∈ specs, lexeme.kind ≠ .semicolon)
    (stops : Headed (Token.Stops inParens) rest) :
    definition inParens (token :: ((front ++ specs).map Lexeme.token ++ rest)) =
      .ok (⟨name, type, specs.map Lexeme.text⟩, rest) := by
  have run : run inParens (specs.map Lexeme.token ++ rest) = .ok (specs.map Lexeme.text, rest) :=
    runFrom_written balanced noSemicolon stops
  rw [List.map_append, List.append_assoc, definition, bind_of_ok (identifier_of_some named _),
    bind_of_ok typed, bind_of_ok run]
  rfl

theorem definition_written (form : DefinitionForm) {inParens : Bool}
    (stops : Headed (Token.Stops inParens) rest) :
    definition inParens (form.lexemes.map Lexeme.token ++ rest) = .ok (form.definition, rest) := by
  have ends : form.type.characterSet = none →
      Ends form.type (form.specs.map Lexeme.token ++ rest) :=
    fun bare => (ends_of_claims bare form.unclaimed).append stops
  exact definition_of_parts rfl (dataType_written ends) form.balanced form.noSemicolon stops

/-- Definitions with commas between them, up to the closing parenthesis. -/
theorem definitionsFrom_written (first : DefinitionForm) (others : List DefinitionForm)
    (rest : List Token) :
    definitionsFrom (first.lexemes.map Lexeme.token ++
        ((others.flatMap fun other => .comma :: other.lexemes).map Lexeme.token ++
          Lexeme.closeParen.token :: rest)) =
      .ok ((first :: others).map DefinitionForm.definition, rest) := by
  have split : ∀ tokens, definitionsFrom tokens = (definition true >>= closing) tokens :=
    congrFun definitionsFrom_eq
  induction others generalizing first with
  | nil =>
      have stops : Headed (Token.Stops true) (Lexeme.closeParen.token :: rest) :=
        headed_cons.mpr rfl
      exact (split _).trans (bind_of_ok (definition_written first stops))
  | cons second others ih =>
      have stops : ∀ tokens, Headed (Token.Stops true) (Lexeme.comma.token :: tokens) :=
        fun _ => headed_cons.mpr rfl
      rw [split, List.flatMap_cons, List.map_append, List.map_cons, List.append_assoc,
        List.cons_append, bind_of_ok (definition_written first (stops _)),
        closing_of_comma _ rfl, bind_of_ok (ih second)]
      rfl

end AlterRelay.Sql.Reader
