/-
# AlterRelay.Proofs.Sql.TypeSigns — the sign of a type, on either side of its arguments

`UNSIGNED`, `SIGNED` and `ZEROFILL` may be written in front of the arguments of a
type or behind them, and all of them become a part of its name. Two spellings of a
type that agree in their word, in their arguments and in whether they are unsigned
(`SignedType.SameButSigns`) are read as types whose names say the same
(`dataType_agree`).

Nothing else in a statement depends on which of them is written. Two readings that
go on with the same tokens end alike (`Agree`), and what they read differs in that
one name only. So do whole statements, in the end.
-/
import AlterRelay.Proofs.Source.TypeWords
import AlterRelay.Proofs.Sql.FormStatement
import AlterRelay.Proofs.Sql.PredictiveClause

namespace AlterRelay.Sql

open AlterRelay.Source
open AlterRelay.Text

set_option autoImplicit false

/-! ## Words about the sign -/

def Keyword.isSign : Keyword → Bool
  | unsigned | signed | zerofill => true
  | _ => false

theorem Keyword.isTypeModifier_of_isSign {keyword : Keyword} (sign : keyword.isSign = true) :
    keyword.isTypeModifier = true := by
  cases keyword <;> first | rfl | cases sign

/-- `UNSIGNED`, `SIGNED` or `ZEROFILL` in any spelling. -/
abbrev SignWord :=
  Word fun token => ∃ keyword, token.keyword? = some keyword ∧ keyword.isSign = true

theorem Token.toUpper_of_keyword? {token : Token} {keyword : Keyword}
    (spelt : token.keyword? = some keyword) : token.text.toUpper = keyword.spelling := by
  rw [Token.keyword?, if_pos (Token.kind_of_keyword? spelt)] at spelt
  exact Keyword.ofWord?_eq_some.mp spelt

theorem tellsSign_of_isSign {keyword : Keyword} (sign : keyword.isSign = true) {text : String}
    (spelt : text.toUpper = keyword.spelling) : tellsSign text = true := by
  have each : ∀ keyword ∈ Keyword.all, keyword.isSign = true →
      isSignWord keyword.spelling = true := by decide
  rw [← isSignWord_toUpper, spelt]
  exact each keyword keyword.mem_all sign

theorem isTypeModifier_iff {token : Token} :
    Reader.isTypeModifier token = true ↔
      ∃ keyword, token.keyword? = some keyword ∧ keyword.isTypeModifier = true := by
  unfold Reader.isTypeModifier
  cases token.keyword? <;> simp

theorem isTypeModifier_of_sign (word : SignWord) :
    Reader.isTypeModifier word.lexeme.token = true := by
  obtain ⟨keyword, spelt, sign⟩ := word.spells_token
  exact isTypeModifier_iff.mpr ⟨keyword, spelt, Keyword.isTypeModifier_of_isSign sign⟩

theorem tellsSign_of_sign (word : SignWord) : tellsSign word.text = true := by
  obtain ⟨keyword, spelt, sign⟩ := word.spells_token
  have text := Token.toUpper_of_keyword? spelt
  rw [word.text_token] at text
  exact tellsSign_of_isSign sign text

/-! ## Texts without blanks -/

/-- A text that is one word of a type name. -/
def IsSolid (text : String) : Prop := text.toList ≠ [] ∧ ∀ c ∈ text.toList, isBlank c = false

theorem isSolid_of_isWordText {text : String} (word : isWordText text.toList = true) :
    IsSolid text := by
  unfold IsSolid
  cases chars : text.toList with
  | nil =>
      rw [chars] at word
      cases word
  | cons c raw =>
      rw [chars] at word
      obtain ⟨start, parts⟩ := (Bool.and_eq_true _ _).mp word
      refine ⟨List.cons_ne_nil _ _, List.forall_mem_cons.mpr ⟨?_, ?_⟩⟩
      · exact solid_of_isWordPart (isWordPart_of_isWordStart start)
      · exact fun part member => solid_of_isWordPart (List.all_eq_true.mp parts part member)

theorem isSolid_of_toUpper {text text' : String} (same : text.toUpper = text'.toUpper)
    (solid : IsSolid text') : IsSolid text := by
  have letters : text.toList.map Char.toUpper = text'.toList.map Char.toUpper := by
    rw [← String.toList_inj] at same
    simpa [String.toUpper] using same
  refine ⟨?_, fun c member => ?_⟩
  · intro empty
    rw [empty] at letters
    exact solid.1 (List.map_eq_nil_iff.mp letters.symm)
  · have among : c.toUpper ∈ text'.toList.map Char.toUpper :=
      letters ▸ List.mem_map_of_mem member
    obtain ⟨c', member', same'⟩ := List.mem_map.mp among
    rw [← isBlank_toUpper, ← same', isBlank_toUpper]
    exact solid.2 c' member'

theorem isSolid_of_keyword? {token : Token} {keyword : Keyword}
    (spelt : token.keyword? = some keyword) : IsSolid token.text := by
  have same : token.text.toUpper = keyword.spelling.toUpper := by
    rw [Token.toUpper_of_keyword? spelt, Keyword.spelling_toUpper]
  exact isSolid_of_toUpper same (isSolid_of_isWordText keyword.spelling_isWord)

/-! ## Types with their signs -/

/-- A type with arguments, and the words about its sign on both sides of them. -/
structure SignedType where
  word : AnyWord
  before : List SignWord
  inside : List Lexeme
  behind : List SignWord
  plain : ∀ lexeme ∈ inside, lexeme.kind ∉ [.openParen, .closeParen, .endOfInput]

namespace SignedType

def lexemes (type : SignedType) : List Lexeme :=
  type.word.lexeme :: (type.before.map Word.lexeme ++
    .openParen :: (type.inside ++ .closeParen :: type.behind.map Word.lexeme))

/-- The words about the sign, in the order they are written. -/
def signs (type : SignedType) : List String := (type.before ++ type.behind).map Word.text

/-- The same type word in any case with the same arguments, and as unsigned as the other. -/
structure SameButSigns (type type' : SignedType) : Prop where
  word : sameIgnoringCase type.word.text type'.word.text = true
  inside : type.inside = type'.inside
  sign : type.signs.any tellsUnsigned = type'.signs.any tellsUnsigned

/-- The same words about the sign may stand in another order and on other sides. -/
theorem SameButSigns.of_perm {type type' : SignedType}
    (word : sameIgnoringCase type.word.text type'.word.text = true)
    (inside : type.inside = type'.inside)
    (signs : (type.signs.map String.toUpper).Perm (type'.signs.map String.toUpper)) :
    SameButSigns type type' where
  word := word
  inside := inside
  sign := by
    have upper : ∀ texts : List String,
        texts.any tellsUnsigned = (texts.map String.toUpper).any isUnsignedWord := by
      intro texts
      rw [List.any_map]
      exact congrArg _ (funext fun text => (isUnsignedWord_toUpper text).symm)
    rw [upper, upper]
    exact signs.any_eq

end SignedType

theorem tellsUnsigned_congr {word word' : String} (same : sameIgnoringCase word word' = true) :
    tellsUnsigned word = tellsUnsigned word' := by
  rw [← isUnsignedWord_toUpper, ← isUnsignedWord_toUpper, sameIgnoringCase_iff.mp same]

theorem tellsSign_congr {word word' : String} (same : sameIgnoringCase word word' = true) :
    tellsSign word = tellsSign word' := by
  rw [← isSignWord_toUpper, ← isSignWord_toUpper, sameIgnoringCase_iff.mp same]

/-- The words about the sign do not matter to the name of a type, but for being unsigned. -/
theorem SignedType.SameButSigns.sameType {type type' : SignedType}
    (same : type.SameButSigns type') {more : List String} (solid : ∀ word ∈ more, IsSolid word) :
    SameType (" ".intercalate (type.word.text :: (type.signs ++ more)))
      (" ".intercalate (type'.word.text :: (type'.signs ++ more))) := by
  have words : ∀ type : SignedType,
      nameWords (" ".intercalate (type.word.text :: (type.signs ++ more))) =
        type.word.text :: (type.signs ++ more) := by
    intro type
    refine nameWords_intercalate (List.forall_mem_cons.mpr ⟨?_, ?_⟩)
    · exact isSolid_of_isWordText type.word.isWord
    · refine List.forall_mem_append.mpr ⟨?_, solid⟩
      exact List.forall_mem_map.mpr fun word _ => isSolid_of_isWordText word.isWord
  -- Signs are filtered out of the name of the type, so their order does not show.
  have noBase : ∀ type : SignedType, type.signs.filter (fun word => !tellsSign word) = [] := by
    intro type
    refine List.filter_eq_nil_iff.mpr (List.forall_mem_map.mpr fun word _ => ?_)
    simp [tellsSign_of_sign word]
  constructor
  · unfold baseWords
    simp only [words, List.filter_cons, List.filter_append, noBase, List.nil_append,
      tellsSign_congr same.word]
    have others : List.Forall₂ (fun word word' => sameIgnoringCase word word' = true)
        (more.filter fun word => !tellsSign word) (more.filter fun word => !tellsSign word) :=
      List.forall₂_same.mpr fun word _ => sameIgnoringCase_iff.mpr rfl
    split
    · exact .cons same.word others
    · exact others
  · unfold isUnsignedName
    simp only [words, List.any_cons, List.any_append, tellsUnsigned_congr same.word, same.sign]

/-! ## What differs in the sign alone -/

/-- Types with the same arguments and character set, whose names say the same. -/
structure DataType.SameButSigns (type type' : DataType) : Prop where
  name : SameType type.name type'.name
  arguments : type.arguments = type'.arguments
  characterSet : type.characterSet = type'.characterSet

structure ColumnDefinition.SameButSigns (definition definition' : ColumnDefinition) : Prop where
  name : definition.name = definition'.name
  type : definition.type.SameButSigns definition'.type
  specs : definition.specs = definition'.specs

theorem ColumnDefinition.SameButSigns.refl (definitions : List ColumnDefinition) :
    List.Forall₂ ColumnDefinition.SameButSigns definitions definitions :=
  List.forall₂_same.mpr fun _ _ => ⟨rfl, ⟨SameType.refl _, rfl, rfl⟩, rfl⟩

/-- The same clause, or columns added whose types differ in the sign alone. -/
inductive Clause.SameButSigns : Clause → Clause → Prop where
  | same (clause : Clause) : SameButSigns clause clause
  | added (column : Option String) {definitions definitions' : List ColumnDefinition}
      (same : List.Forall₂ ColumnDefinition.SameButSigns definitions definitions') :
      SameButSigns { operation := .add, column, definitions }
        { operation := .add, column, definitions := definitions' }

inductive Statement.SameButSigns : Statement → Statement → Prop where
  | alterTable (table : TableName) (ifExists : Bool) {clauses clauses' : List Clause}
      (same : List.Forall₂ Clause.SameButSigns clauses clauses') :
      SameButSigns (.alterTable ⟨table, ifExists, clauses⟩)
        (.alterTable ⟨table, ifExists, clauses'⟩)

theorem Clause.SameButSigns.refl (clauses : List Clause) :
    List.Forall₂ Clause.SameButSigns clauses clauses :=
  List.forall₂_same.mpr fun clause _ => .same clause

/-! ## Readings that end alike -/

/-- The same error, or related values. -/
inductive Agree {ε α : Type} (related : α → α → Prop) : Except ε α → Except ε α → Prop where
  | ok {value value' : α} (values : related value value') : Agree related (.ok value) (.ok value')
  | error (error : ε) : Agree related (.error error) (.error error)

theorem Agree.map {ε α β : Type} {related : α → α → Prop} {related' : β → β → Prop}
    {result result' : Except ε α} (agree : Agree related result result') {make : α → β}
    (kept : ∀ {value value'}, related value value' → related' (make value) (make value')) :
    Agree related' (result.map make) (result'.map make) := by
  cases agree with
  | ok values => exact .ok (kept values)
  | error error => exact .error error

namespace Reader

variable {α β : Type}

/-- Related values in front of the same tokens. -/
abbrev InFront (related : α → α → Prop) (read read' : α × List Token) : Prop :=
  related read.1 read'.1 ∧ read.2 = read'.2

/-- Readings that agree go on to agree, if the readers behind them do. -/
theorem agree_bind {related : α → α → Prop} {related' : β → β → Prop} {reader reader' : Reader α}
    {next next' : α → Reader β} {tokens tokens' : List Token}
    (first : Agree (InFront related) (reader tokens) (reader' tokens'))
    (second : ∀ {value value'} (rest : List Token), related value value' →
      Agree (InFront related') (next value rest) (next' value' rest)) :
    Agree (InFront related') ((reader >>= next) tokens) ((reader' >>= next') tokens') := by
  cases read : reader tokens with
  | error error =>
      rw [read] at first
      generalize read' : reader' tokens' = result' at first
      cases first
      rw [bind_of_error read, bind_of_error read']
      exact .error error
  | ok result =>
      rw [read] at first
      generalize read' : reader' tokens' = result' at first
      cases first with
      | ok values =>
          rw [bind_of_ok read, bind_of_ok read', ← values.2]
          exact second _ values.1

theorem agree_pure {related : β → β → Prop} {value value' : β} (kept : related value value')
    (tokens : List Token) :
    Agree (InFront related) ((pure value : Reader β) tokens)
      ((pure value' : Reader β) tokens) := .ok ⟨kept, rfl⟩

/-- A reader agrees with itself. -/
theorem agree_same (reader : Reader α) (tokens : List Token) :
    Agree (InFront Eq) (reader tokens) (reader tokens) := by
  cases reader tokens with
  | error error => exact .error error
  | ok result => exact .ok ⟨rfl, rfl⟩

/-! ## Types -/

theorem typeModifiers_signs (words : List SignWord) (rest : List Token) :
    typeModifiers ((words.map Word.lexeme).map Lexeme.token ++ rest) =
      .ok (words.map Word.text ++ (rest.takeWhile isTypeModifier).map Token.text,
        rest.dropWhile isTypeModifier) := by
  have all : ∀ token ∈ (words.map Word.lexeme).map Lexeme.token, isTypeModifier token = true := by
    simpa using fun word _ => isTypeModifier_of_sign word
  unfold typeModifiers
  rw [List.takeWhile_append_of_pos all, List.dropWhile_append_of_pos all]
  simp [Function.comp_def]

/-- What stands between the parentheses decides the arguments, whatever stands behind them. -/
theorem argumentsFrom_inside {inside : List Lexeme}
    (plain : ∀ lexeme ∈ inside, lexeme.kind ∉ [.openParen, .closeParen, .endOfInput])
    (current : List String) :
    ∃ arguments, ∀ rest, argumentsFrom current
      (inside.map Lexeme.token ++ Lexeme.closeParen.token :: rest) = .ok (arguments, rest) := by
  induction inside generalizing current with
  | nil => exact ⟨_, fun rest => rfl⟩
  | cons lexeme inside ih =>
      obtain ⟨here, others⟩ := List.forall_mem_cons.mp plain
      by_cases comma : lexeme.token.kind = .comma
      · obtain ⟨arguments, read⟩ := ih others []
        refine ⟨" ".intercalate current :: arguments, fun rest => ?_⟩
        rw [List.map_cons, List.cons_append, argumentsFrom_of_comma comma, bind_of_ok (read rest)]
        rfl
      · obtain ⟨arguments, read⟩ := ih others (current ++ [lexeme.token.text])
        refine ⟨arguments, fun rest => ?_⟩
        have other : lexeme.token.kind ∉ [.openParen, .closeParen, .comma, .endOfInput] := by
          have kind : lexeme.kind = lexeme.token.kind := rfl
          rw [kind] at here
          simp_all
        rw [List.map_cons, List.cons_append, argumentsFrom_of_other other, read]

/-- The tokens of a type, in front of others. -/
theorem dataType_signed (type : SignedType) {arguments : List String}
    (read : ∀ rest, argumentsFrom []
      (type.inside.map Lexeme.token ++ Lexeme.closeParen.token :: rest) = .ok (arguments, rest))
    (rest : List Token) :
    dataType (type.lexemes.map Lexeme.token ++ rest) =
      (do
        let characterSet ← characterSet
        pure ⟨" ".intercalate (type.word.text ::
          (type.signs ++ (rest.takeWhile isTypeModifier).map Token.text)), arguments,
          characterSet⟩ : Reader DataType) (rest.dropWhile isTypeModifier) := by
  have opening : Lexeme.openParen.token.kind = .openParen := rfl
  have open_ : ¬isTypeModifier Lexeme.openParen.token = true := by decide
  have before : ∀ tokens, typeModifiers ((type.before.map Word.lexeme).map Lexeme.token ++
      Lexeme.openParen.token :: tokens) =
        .ok (type.before.map Word.text, Lexeme.openParen.token :: tokens) := by
    intro tokens
    rw [typeModifiers_signs, List.takeWhile_cons_of_neg open_, List.dropWhile_cons_of_neg open_]
    simp
  have inside : ∀ tokens, typeArguments (Lexeme.openParen.token ::
      (type.inside.map Lexeme.token ++ Lexeme.closeParen.token :: tokens)) =
        .ok (arguments, tokens) := by
    intro tokens
    rw [typeArguments, bind_of_ok (accept_of_kind opening _), if_pos rfl]
    exact read tokens
  have shape : type.lexemes.map Lexeme.token ++ rest =
      type.word.lexeme.token :: ((type.before.map Word.lexeme).map Lexeme.token ++
        Lexeme.openParen.token :: (type.inside.map Lexeme.token ++ Lexeme.closeParen.token ::
          ((type.behind.map Word.lexeme).map Lexeme.token ++ rest))) := by
    simp [SignedType.lexemes]
  rw [shape, dataType, bind_of_ok (typeWord_written type.word _), bind_of_ok (before _),
    bind_of_ok (inside _), bind_of_ok (typeModifiers_signs _ _)]
  simp [SignedType.signs]

theorem dataType_agree {type type' : SignedType} (same : type.SameButSigns type')
    (rest : List Token) :
    Agree (InFront DataType.SameButSigns) (dataType (type.lexemes.map Lexeme.token ++ rest))
      (dataType (type'.lexemes.map Lexeme.token ++ rest)) := by
  obtain ⟨arguments, read⟩ := argumentsFrom_inside type.plain []
  have solid : ∀ text ∈ (rest.takeWhile isTypeModifier).map Token.text, IsSolid text := by
    refine List.forall_mem_map.mpr fun token member => ?_
    obtain ⟨keyword, spelt, -⟩ := isTypeModifier_iff.mp (List.mem_takeWhile_imp member)
    exact isSolid_of_keyword? spelt
  rw [dataType_signed type read, dataType_signed type' (same.inside ▸ read)]
  refine agree_bind (agree_same _ _) fun tokens sameSet => agree_pure ?_ tokens
  exact ⟨same.sameType solid, rfl, sameSet⟩

end Reader

end AlterRelay.Sql
