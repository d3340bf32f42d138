/-
# AlterRelay.Proofs.Sql.Grammar — the tokens that a statement was read from

A grammar for statements: which runs of tokens spell a type, a definition, a clause
or a list of them. Every token of a run has its place in it, so a statement that
was parsed can be taken back to the tokens it came from: its clauses stand in the
source one behind the other, with commas between them, and each of them is spelt
by its tokens (`spelt_of_parse`).

`Takes` is a promise about the tokens that a reader takes from the front. It is
kept by sequencing, which joins the runs.
-/
import AlterRelay.Proofs.Sql.Contract
import AlterRelay.Proofs.Sql.Enclosed
import AlterRelay.Proofs.Text.Splitting
import Mathlib.Data.List.Forall2
import Mathlib.Data.List.TakeWhile

namespace AlterRelay.Sql

set_option autoImplicit false

/-! ## The grammar -/

/-- The tokens spell these keywords. -/
abbrev KeywordRun (keywords : List Keyword) (run : List Token) : Prop :=
  List.Forall₂ (fun token keyword => token.isKeyword keyword = true) run keywords

/-- The tokens spell these keywords, or there are none. -/
def OptionalRun (keywords : List Keyword) (run : List Token) : Prop :=
  run = [] ∨ KeywordRun keywords run

/-- Values with commas between them, each spelt by a run of its own. -/
inductive ListRun {α : Type} (spells : List Token → α → Prop) : List Token → List α → Prop where
  | last {run : List Token} {value : α} (spelt : spells run value) : ListRun spells run [value]
  | more {run behind : List Token} {separator : Token} {value : α} {values : List α}
      (spelt : spells run value) (comma : separator.kind = .comma)
      (others : ListRun spells behind values) :
      ListRun spells (run ++ separator :: behind) (value :: values)

/-- The parts of a table reference, with dots between them. -/
inductive ReferenceRun : List Token → List String → Prop where
  | last {token : Token} {name : String} (named : token.identifier? = some name) :
      ReferenceRun [token] [name]
  | more {token separator : Token} {name : String} {behind : List Token} {names : List String}
      (named : token.identifier? = some name) (dot : separator.kind = .dot)
      (others : ReferenceRun behind names) :
      ReferenceRun (token :: separator :: behind) (name :: names)

/-- The texts of tokens as they are kept of a source: one blank between any two. -/
def joinedText (run : List Token) : String := " ".intercalate (run.map Token.text)

def Token.isComma (token : Token) : Bool := token.kind == .comma

/-- The stretches between the commas. The last one counts only if it is not empty. -/
def argumentRuns (inside : List Token) : List (List Token) :=
  let stretches := inside.splitOnP Token.isComma
  if stretches.getLast? = some [] then stretches.dropLast else stretches

/-- The arguments of a type: no parentheses, or a pair of them with no other inside. -/
inductive ArgumentsRun : List Token → List String → Prop where
  | absent : ArgumentsRun [] []
  | written {opening closing : Token} {inside : List Token} (opens : opening.kind = .openParen)
      (closes : closing.kind = .closeParen)
      (plain : ∀ token ∈ inside, token.kind ∉ [.openParen, .closeParen, .endOfInput]) :
      ArgumentsRun (opening :: (inside ++ [closing])) ((argumentRuns inside).map joinedText)

/-- The character set of a type, in one of its two spellings. -/
inductive CharacterSetRun : List Token → Option String → Prop where
  | absent : CharacterSetRun [] none
  | written {words : List Token} {token : Token} {name : String}
      (introduced : KeywordRun [.charset] words ∨ KeywordRun [.character, .set] words)
      (named : token.identifier? = some name) : CharacterSetRun (words ++ [token]) (some name)

/-- The tokens spell the type, in front of others. It goes as far as it can: unless it ends with a
character set, the others are none that it could have gone on with. -/
inductive TypeRun : List Token → DataType → List Token → Prop where
  | mk {word : Token} {before arguments behind set rest : List Token} {texts : List String}
      {characterSet : Option String} (isWord : word.kind = .word)
      (modifiers : ∀ token ∈ before ++ behind, Reader.isTypeModifier token = true)
      (inside : ArgumentsRun arguments texts) (coded : CharacterSetRun set characterSet)
      (ends : characterSet = none → Reader.EndsType rest)
      (noArguments : characterSet = none → arguments = [] →
        Headed (¬·.kind = .openParen) rest) :
      TypeRun (word :: (before ++ (arguments ++ (behind ++ set))))
        ⟨joinedText (word :: (before ++ behind)), texts, characterSet⟩ rest

/-- A name, a type as far as it goes, and whatever else stands in the definition. -/
inductive DefinitionRun : List Token → ColumnDefinition → Prop where
  | mk {token : Token} {run specs : List Token} {name : String} {type : DataType}
      (named : token.identifier? = some name) (typed : TypeRun run type specs) :
      DefinitionRun (token :: (run ++ specs)) ⟨name, type, specs.map Token.text⟩

/-- What stands between `RENAME` and a name that is not behind `COLUMN`. -/
def LeadRun (run : List Token) : Prop :=
  run = [] ∨ KeywordRun [.toWord] run ∨ KeywordRun [.asWord] run

/-- A column is renamed behind `COLUMN`, or without it. In that case its old name is read as a
table reference, and may have several parts. -/
inductive RenameRun : List Token → Clause → Prop where
  | ofColumn {rename column token link token' : Token} {oldName newName : String}
      (renames : rename.isKeyword .rename = true) (ofColumn : column.isKeyword .column = true)
      (old : token.identifier? = some oldName) (toWord : link.isKeyword .toWord = true)
      (new : token'.identifier? = some newName) :
      RenameRun [rename, column, token, link, token']
        { operation := .rename, column := newName, oldColumn := oldName }
  | bare {rename link token : Token} {lead reference : List Token} {names : List String}
      {newName : String} (renames : rename.isKeyword .rename = true) (leads : LeadRun lead)
      (old : ReferenceRun reference names) (toWord : link.isKeyword .toWord = true)
      (new : token.identifier? = some newName) :
      RenameRun (rename :: (lead ++ (reference ++ [link, token])))
        { operation := .rename, column := newName, oldColumn := TableName.text ⟨names⟩ }

/-- The tokens of a clause. Of a clause that is passed over only the first one is known. -/
inductive ClauseRun : List Token → Clause → Prop where
  | addOne {add : Token} {column run : List Token} {only : ColumnDefinition}
      (adds : add.isKeyword .add = true) (optional : OptionalRun [.column] column)
      (defined : DefinitionRun run only) :
      ClauseRun (add :: (column ++ run))
        { operation := .add, column := only.name, definitions := [only] }
  | addSeveral {add opening closing : Token} {column run : List Token}
      {definitions : List ColumnDefinition} (adds : add.isKeyword .add = true)
      (optional : OptionalRun [.column] column) (opens : opening.kind = .openParen)
      (listed : ListRun DefinitionRun run definitions) (closes : closing.kind = .closeParen) :
      ClauseRun (add :: (column ++ opening :: (run ++ [closing])))
        { operation := .add, column := definitions.head?.map (·.name), definitions }
  | drop {drop token : Token} {column ifExists behaviour : List Token} {name : String}
      (drops : drop.isKeyword .drop = true) (optional : OptionalRun [.column] column)
      (condition : OptionalRun [.ifWord, .existsWord] ifExists)
      (named : token.identifier? = some name)
      (ignored : ∀ token ∈ behaviour, Reader.isDropBehaviour token = true) :
      ClauseRun (drop :: (column ++ (ifExists ++ token :: behaviour)))
        { operation := .drop, column := name }
  | change {change token : Token} {column run : List Token} {name : String}
      {new : ColumnDefinition} (changes : change.isKeyword .change = true)
      (optional : OptionalRun [.column] column) (named : token.identifier? = some name)
      (defined : DefinitionRun run new) :
      ClauseRun (change :: (column ++ token :: run))
        { operation := .change, column := new.name, oldColumn := name, definitions := [new] }
  | rename {run : List Token} {clause : Clause} (renamed : RenameRun run clause) :
      ClauseRun run clause
  | renameTable {rename : Token} {lead reference : List Token} {names : List String}
      (renames : rename.isKeyword .rename = true) (leads : LeadRun lead)
      (new : ReferenceRun reference names) :
      ClauseRun (rename :: (lead ++ reference)) { operation := .renameTable }
  | modify {modify : Token} {column run : List Token} {new : ColumnDefinition}
      (modifies : modify.isKeyword .modify = true) (optional : OptionalRun [.column] column)
      (defined : DefinitionRun run new) :
      ClauseRun (modify :: (column ++ run))
        { operation := .modify, column := new.name, definitions := [new] }
  | alterColumn {alter token : Token} {column behind : List Token} {name : String}
      (alters : alter.isKeyword .alter = true) (optional : OptionalRun [.column] column)
      (named : token.identifier? = some name) :
      ClauseRun (alter :: (column ++ token :: behind)) { operation := .alterColumn, column := name }
  | skipped {word : Token} {behind : List Token} {operation : Operation}
      (isWord : word.kind = .word)
      (other : operation ∉ [.add, .drop, .change, .rename, .modify, .alterColumn]) :
      ClauseRun (word :: behind) { operation }

/-- A type without a character set goes on as long as anything could belong to it. -/
theorem TypeRun.ends {run rest : List Token} {type : DataType} (spelt : TypeRun run type rest)
    (bare : type.characterSet = none) : Reader.EndsType rest := by
  cases spelt with
  | mk _ _ _ _ ends _ => exact ends bare

/-- Where a type ends in front of some tokens it ends in front of fewer of them. -/
theorem TypeRun.of_append {run rest more : List Token} {type : DataType}
    (spelt : TypeRun run type (rest ++ more)) : TypeRun run type rest := by
  cases spelt with
  | mk isWord modifiers inside coded ends noArguments =>
      exact .mk isWord modifiers inside coded (fun bare => (ends bare).of_append)
        fun bare absent => (noArguments bare absent).of_append

/-- What stands in a list stands in it with its own run. -/
theorem ListRun.forall {α : Type} {spells : List Token → α → Prop} {run : List Token}
    {values : List α} (listed : ListRun spells run values) :
    ∀ value ∈ values, ∃ part, part <:+: run ∧ spells part value := by
  induction listed with
  | @last run value spelt =>
      intro value' member
      rw [List.mem_singleton.mp member]
      exact ⟨run, List.infix_rfl, spelt⟩
  | @more run behind separator value values spelt comma others ih =>
      refine List.forall_mem_cons.mpr ⟨⟨run, (List.prefix_append _ _).isInfix, spelt⟩, ?_⟩
      intro value' member
      obtain ⟨part, within, spelt'⟩ := ih value' member
      have suffix : behind <:+ run ++ separator :: behind :=
        (List.suffix_cons _ _).trans (List.suffix_append _ _)
      exact ⟨part, within.trans suffix.isInfix, spelt'⟩

/-- A definition in a clause has a run of its own. -/
theorem ClauseRun.definitions {run : List Token} {clause : Clause} (spelt : ClauseRun run clause) :
    ∀ definition ∈ clause.definitions, ∃ part, part <:+: run ∧ DefinitionRun part definition := by
  have only : ∀ (front : List Token) {part : List Token} {definition : ColumnDefinition},
      DefinitionRun part definition → ∀ other ∈ [definition],
        ∃ within, within <:+: front ++ part ∧ DefinitionRun within other := by
    intro front part definition defined other member
    rw [List.mem_singleton.mp member]
    exact ⟨part, (List.suffix_append front part).isInfix, defined⟩
  cases spelt with
  | @addOne add column part definition adds optional defined =>
      exact only (add :: column) defined
  | @addSeveral add opening closing column part definitions adds optional opens listed closes =>
      intro definition member
      obtain ⟨within, infix_, defined⟩ := listed.forall definition member
      refine ⟨within, infix_.trans ⟨add :: (column ++ [opening]), [closing], ?_⟩, defined⟩
      simp
  | @change change token column part name new changes optional named defined =>
      simpa using only (change :: (column ++ [token])) defined
  | @modify modify column part new modifies optional defined =>
      exact only (modify :: column) defined
  | rename renamed => cases renamed <;> simp
  | _ => simp

namespace Reader

variable {α β : Type} {spells : List Token → α → Prop}

/-! ## Readers and the tokens they take -/

/-- The reader takes tokens from the front that spell its result. -/
def Takes (reader : Reader α) (spells : List Token → α → Prop) : Prop :=
  ∀ ⦃tokens rest : List Token⦄ ⦃value : α⦄, reader tokens = .ok (value, rest) →
    ∃ run, tokens = run ++ rest ∧ spells run value

theorem Takes.pure {value : α} (kept : spells [] value) : Takes (Pure.pure value) spells := by
  intro tokens rest result taken
  obtain ⟨rfl, rfl⟩ := pure_eq_ok.mp taken
  exact ⟨[], rfl, kept⟩

/-- The second reader takes its tokens behind those of the first. -/
theorem Takes.bind {reader : Reader α} {next : α → Reader β} {spells' : List Token → β → Prop}
    (first : Takes reader spells)
    (second : ∀ run value, spells run value →
      Takes (next value) fun more result => spells' (run ++ more) result) :
    Takes (reader >>= next) spells' := by
  intro tokens rest result taken
  obtain ⟨value, behind, taken, taken'⟩ := bind_eq_ok.mp taken
  obtain ⟨run, rfl, spelt⟩ := first taken
  obtain ⟨more, rfl, spelt'⟩ := second run value spelt taken'
  exact ⟨run ++ more, (List.append_assoc _ _ _).symm, spelt'⟩

theorem Takes.ite {condition : Prop} [Decidable condition] {first second : Reader α}
    (yes : condition → Takes first spells) (no : ¬condition → Takes second spells) :
    Takes (if condition then first else second) spells := by
  split
  · exact yes ‹_›
  · exact no ‹_›

theorem Takes.mono {reader : Reader α} {spells' : List Token → α → Prop}
    (takes : Takes reader spells) (weaker : ∀ run value, spells run value → spells' run value) :
    Takes reader spells' := by
  intro tokens rest value taken
  obtain ⟨run, split, spelt⟩ := takes taken
  exact ⟨run, split, weaker run value spelt⟩

/-- Of any reader it can be said that it takes something from the front. -/
theorem Takes.of_shrinks {reader : Reader α} (shrinks : Shrinks reader) :
    Takes reader fun _ _ => True := by
  intro tokens rest value taken
  obtain ⟨run, split⟩ := shrinks taken
  exact ⟨run, split.symm, trivial⟩

/-! ## Tokens -/

theorem fail_takes (expected : Expectation) : Takes (fail expected) spells := by
  intro tokens rest value taken
  cases taken

/-- A name is one token. -/
theorem identifier_takes (expected : Expectation) :
    Takes (identifier expected) fun run name =>
      ∃ token, run = [token] ∧ token.identifier? = some name := by
  intro tokens rest name taken
  unfold identifier at taken
  split at taken
  · cases taken
  · rename_i token behind
    split at taken
    · rename_i named
      cases taken
      exact ⟨[token], rfl, token, rfl, named⟩
    · cases taken

theorem peekKeyword_takes : Takes peekKeyword fun run _ => run = [] := by
  intro tokens rest value taken
  cases taken
  exact ⟨[], rfl, rfl⟩

/-- Either the token stands there and is taken, or nothing is. -/
theorem accept_takes (kind : TokenKind) :
    Takes (accept kind) fun run found =>
      if found then ∃ token, run = [token] ∧ token.kind = kind else run = [] := by
  intro tokens rest found taken
  unfold accept at taken
  split at taken
  · rename_i begins
    cases taken
    cases tokens with
    | nil => cases begins
    | cons token tokens => exact ⟨[token], rfl, token, rfl, eq_of_beq begins⟩
  · cases taken
    exact ⟨[], rfl, rfl⟩

theorem afterKeywords?_taken {keywords : List Keyword} {tokens rest : List Token}
    (found : afterKeywords? keywords tokens = some rest) :
    ∃ run, tokens = run ++ rest ∧ KeywordRun keywords run := by
  fun_induction afterKeywords? keywords tokens with
  | case1 tokens =>
      cases found
      exact ⟨[], rfl, .nil⟩
  | case2 => cases found
  | case3 keyword more token tokens spelt ih =>
      obtain ⟨run, rfl, others⟩ := ih found
      exact ⟨token :: run, rfl, .cons spelt others⟩
  | case4 => cases found

/-- Keywords are taken all together or not at all. -/
theorem acceptKeywords_takes (keywords : List Keyword) :
    Takes (acceptKeywords keywords) fun run found =>
      if found then KeywordRun keywords run else run = [] := by
  intro tokens rest found taken
  unfold acceptKeywords at taken
  split at taken
  · rename_i behind accepted
    cases taken
    exact afterKeywords?_taken accepted
  · cases taken
    exact ⟨[], rfl, rfl⟩

/-- Whether they were found or not, the keywords are optional. -/
theorem optional_takes (keywords : List Keyword) :
    Takes (acceptKeywords keywords) fun run _ => OptionalRun keywords run := by
  refine (acceptKeywords_takes keywords).mono fun _ found spelt => ?_
  cases found with
  | false => exact .inl spelt
  | true => exact .inr spelt

theorem keywordRun_singleton {keyword : Keyword} {run : List Token}
    (spelt : KeywordRun [keyword] run) :
    ∃ token, run = [token] ∧ token.isKeyword keyword = true := by
  cases spelt with
  | cons first others =>
      cases others
      exact ⟨_, rfl, first⟩

/-- A run gives the texts of the tokens that it takes. -/
theorem run_takes (inParens : Bool) :
    Takes (run inParens) fun run texts => run.map Token.text = texts :=
  fun _ _ _ taken =>
    let ⟨run, split, texts, _⟩ := runFrom_taken taken
    ⟨run, split, texts⟩

/-! ## Types -/

theorem typeWord_takes :
    Takes typeWord fun run text => ∃ token, run = [token] ∧ token.kind = .word ∧
      token.text = text := by
  intro tokens rest text taken
  unfold typeWord at taken
  split at taken
  · cases taken
  · rename_i token behind
    split at taken
    · rename_i word
      cases taken
      exact ⟨[token], rfl, token, rfl, word, rfl⟩
    · cases taken

/-- All modifiers in front are taken. -/
theorem typeModifiers_takes :
    Takes typeModifiers fun run texts =>
      (∀ token ∈ run, isTypeModifier token = true) ∧ run.map Token.text = texts := by
  intro tokens rest texts taken
  cases taken
  refine ⟨tokens.takeWhile isTypeModifier, List.takeWhile_append_dropWhile.symm, ?_, rfl⟩
  exact fun token member => List.mem_takeWhile_imp member

/-- The stretch up to the first comma is the first argument, be it empty or not. -/
theorem argumentRuns_comma {run inside : List Token} {separator : Token}
    (none : ∀ token ∈ run, token.isComma = false) (comma : separator.isComma = true) :
    argumentRuns (run ++ separator :: inside) = run :: argumentRuns inside := by
  unfold argumentRuns
  rw [List.splitOnP_append_cons _ _ comma, List.splitOnP_eq_singleton none]
  cases stretches : inside.splitOnP Token.isComma with
  | nil => exact absurd stretches (List.splitOnP_ne_nil _ _)
  | cons first others =>
      dsimp only
      rw [List.singleton_append, List.getLast?_cons_cons, List.dropLast_cons_cons]
      split <;> rfl

/-- A stretch with no comma is one argument, if there is anything in it. -/
theorem argumentRuns_last {run : List Token} (none : ∀ token ∈ run, token.isComma = false) :
    argumentRuns run = if run.isEmpty then [] else [run] := by
  unfold argumentRuns
  rw [List.splitOnP_eq_singleton none]
  cases run <;> simp

theorem mem_splitOnP_of_mem_argumentRuns {inside stretch : List Token}
    (member : stretch ∈ argumentRuns inside) : stretch ∈ inside.splitOnP Token.isComma := by
  unfold argumentRuns at member
  dsimp only at member
  split at member
  · exact (List.dropLast_subset _) member
  · exact member

theorem subset_of_mem_argumentRuns {inside stretch : List Token}
    (member : stretch ∈ argumentRuns inside) : stretch ⊆ inside :=
  Text.subset_of_mem_splitOnP (mem_splitOnP_of_mem_argumentRuns member)

/-- The arguments are spelt by the tokens up to the closing parenthesis, where the first of them
has begun with the tokens in `front`. -/
theorem argumentsFrom_taken (front : List Token) {tokens rest : List Token} {texts : List String}
    (none : ∀ token ∈ front, token.isComma = false)
    (taken : argumentsFrom (front.map Token.text) tokens = .ok (texts, rest)) :
    ∃ inside closing, tokens = inside ++ closing :: rest ∧ closing.kind = .closeParen ∧
      (∀ token ∈ inside, token.kind ∉ [.openParen, .closeParen, .endOfInput]) ∧
      (argumentRuns (front ++ inside)).map joinedText = texts := by
  generalize current : front.map Token.text = begun at taken
  -- `front` are the tokens of the argument that has begun. A comma ends it, and others join it.
  fun_induction argumentsFrom begun tokens generalizing front texts rest with
  | case1 => cases taken
  | case2 => cases taken
  | case3 => cases taken
  | case4 begun token tokens close =>
      cases taken
      subst current
      refine ⟨[], token, rfl, close, by simp, ?_⟩
      rw [List.append_nil, argumentRuns_last none]
      cases front <;> simp [joinedText]
  | case5 begun token tokens comma more behind inner ih =>
      cases taken
      obtain ⟨inside, closing, rfl, close, plain, texts⟩ := ih [] (by simp) rfl inner
      refine ⟨token :: inside, closing, rfl, close, ?_, ?_⟩
      · exact List.forall_mem_cons.mpr ⟨by simp [comma], plain⟩
      · rw [argumentRuns_comma none (beq_iff_eq.mpr comma), List.map_cons,
          ← List.nil_append inside, texts, joinedText, current]
  | case6 => cases taken
  | case7 begun token tokens noEnd noOpen noClose noComma ih =>
      have none' : ∀ other ∈ front ++ [token], other.isComma = false := by
        refine List.forall_mem_append.mpr ⟨none, fun other member => ?_⟩
        rw [List.mem_singleton.mp member]
        exact beq_eq_false_iff_ne.mpr noComma
      obtain ⟨inside, closing, rfl, close, plain, texts⟩ := ih _ none' (by simp [current]) taken
      refine ⟨token :: inside, closing, rfl, close, ?_, ?_⟩
      · refine List.forall_mem_cons.mpr ⟨?_, plain⟩
        simp_all
      · rw [← texts, List.append_assoc, List.singleton_append]

/-- Where no parenthesis opens, no arguments are taken. -/
theorem typeArguments_takes : Takes typeArguments ArgumentsRun := by
  refine (accept_takes .openParen).bind fun run found spelt => ?_
  refine .ite (fun yes => ?_) fun no => ?_
  · rw [if_pos yes] at spelt
    obtain ⟨opening, rfl, opens⟩ := spelt
    intro tokens rest texts taken
    obtain ⟨inside, closing, rfl, closes, plain, rfl⟩ :=
      argumentsFrom_taken [] (by simp) taken
    exact ⟨inside ++ [closing], by simp, .written opens closes plain⟩
  · rw [if_neg no] at spelt
    subst spelt
    exact .pure .absent

/-- Where no arguments are taken, no parenthesis stands. -/
theorem typeArguments_absent {tokens : List Token} {texts : List String}
    (taken : typeArguments tokens = .ok (texts, tokens)) :
    Headed (¬·.kind = .openParen) tokens := by
  cases tokens with
  | nil => exact Headed.nil _
  | cons token tokens =>
      refine headed_cons.mpr fun opens => ?_
      rw [typeArguments, bind_of_ok (accept_of_kind opens tokens), if_pos rfl] at taken
      have shorter : tokens.length + 1 ≤ tokens.length := (argumentsFrom_suffix taken).length_le
      omega

/-- `CHARACTER SET` is tried before `CHARSET`. -/
theorem characterSet_takes : Takes characterSet CharacterSetRun := by
  have named : ∀ {words : List Token},
      KeywordRun [.charset] words ∨ KeywordRun [.character, .set] words →
        Takes (some <$> identifier .characterSet) fun more result =>
          CharacterSetRun (words ++ more) result := by
    intro words introduced
    show Takes (identifier .characterSet >>= fun name => Pure.pure (some name)) _
    refine (identifier_takes .characterSet).bind fun run name spelt => ?_
    obtain ⟨token, rfl, named⟩ := spelt
    exact .pure (.written introduced named)
  refine (acceptKeywords_takes _).bind fun run found spelt => ?_
  refine .ite (fun yes => ?_) fun no => ?_
  · rw [if_pos yes] at spelt
    exact named (.inr spelt)
  · rw [if_neg no] at spelt
    subst spelt
    refine (acceptKeywords_takes _).bind fun run found spelt => ?_
    refine .ite (fun yes => ?_) fun no => ?_
    · rw [if_pos yes] at spelt
      exact named (.inl spelt)
    · rw [if_neg no] at spelt
      subst spelt
      exact .pure .absent

/-- Keywords that are not taken do not stand there. -/
theorem acceptKeywords_refused {keywords : List Keyword} {tokens rest : List Token}
    (taken : acceptKeywords keywords tokens = .ok (false, rest)) :
    rest = tokens ∧ afterKeywords? keywords tokens = none := by
  unfold acceptKeywords at taken
  split at taken
  · cases taken
  · cases taken
    exact ⟨rfl, ‹_›⟩

theorem headed_of_afterKeywords? {keyword : Keyword} {tokens : List Token}
    (absent : afterKeywords? [keyword] tokens = none) :
    Headed (¬·.isKeyword keyword = true) tokens := by
  cases tokens with
  | nil => exact Headed.nil _
  | cons token tokens => simpa [afterKeywords?, headed_cons] using absent

/-- Where no character set is read, neither of its spellings stands. -/
theorem characterSet_refused {tokens rest : List Token}
    (taken : characterSet tokens = .ok (none, rest)) :
    rest = tokens ∧ afterKeywords? [.character, .set] tokens = none ∧
      Headed (¬·.isKeyword .charset = true) tokens := by
  have named : Returns (some <$> identifier .characterSet) (· ≠ none) := by
    show Returns (identifier .characterSet >>= fun name => Pure.pure (some name)) _
    exact Returns.after fun name => Returns.pure (Option.some_ne_none name)
  obtain ⟨both, behind, first, others⟩ := bind_eq_ok.mp taken
  cases both with
  | true => exact absurd rfl (named others)
  | false =>
      obtain ⟨rfl, noCharacterSet⟩ := acceptKeywords_refused first
      obtain ⟨one, behind', second, final⟩ := bind_eq_ok.mp others
      cases one with
      | true => exact absurd rfl (named final)
      | false =>
          obtain ⟨rfl, noCharset⟩ := acceptKeywords_refused second
          cases final
          exact ⟨rfl, noCharacterSet, headed_of_afterKeywords? noCharset⟩

/-- A type is spelt by the tokens that are taken for it, in front of those that are left. -/
theorem dataType_taken {tokens rest : List Token} {type : DataType}
    (taken : dataType tokens = .ok (type, rest)) :
    ∃ run, tokens = run ++ rest ∧ TypeRun run type rest := by
  obtain ⟨text, behindWord, worded, taken⟩ := bind_eq_ok.mp taken
  obtain ⟨texts, opening, modified, taken⟩ := bind_eq_ok.mp taken
  obtain ⟨arguments, closing, listed, taken⟩ := bind_eq_ok.mp taken
  obtain ⟨texts', behind, modified', taken⟩ := bind_eq_ok.mp taken
  obtain ⟨characterSet, final, coding, taken⟩ := bind_eq_ok.mp taken
  obtain ⟨rfl, rfl⟩ := pure_eq_ok.mp taken
  -- Modifiers are taken as long as there are any, on either side of the arguments.
  have front : Headed (¬isTypeModifier · = true) opening := by
    cases modified
    exact headed_dropWhile isTypeModifier behindWord
  have back : Headed (¬isTypeModifier · = true) behind := by
    cases modified'
    exact headed_dropWhile isTypeModifier closing
  have ends : characterSet = none → EndsType final := by
    rintro rfl
    obtain ⟨same, noCharacterSet, noCharset⟩ := characterSet_refused coding
    subst same
    exact ⟨back, noCharset, noCharacterSet⟩
  -- If there are no arguments, the name of the type ended where they were looked for.
  have noArguments : characterSet = none → opening = closing →
      Headed (¬·.kind = .openParen) final := by
    rintro rfl rfl
    obtain ⟨same, -⟩ := characterSet_refused coding
    rw [typeModifiers_of_headed front] at modified'
    cases modified'
    exact same ▸ typeArguments_absent listed
  obtain ⟨_, rfl, word, rfl, isWord, rfl⟩ := typeWord_takes worded
  obtain ⟨before, rfl, modifiers, rfl⟩ := typeModifiers_takes modified
  obtain ⟨inside, rfl, spelt⟩ := typeArguments_takes listed
  obtain ⟨after, rfl, modifiers', rfl⟩ := typeModifiers_takes modified'
  obtain ⟨set, rfl, coded⟩ := characterSet_takes coding
  have run := TypeRun.mk isWord (List.forall_mem_append.mpr ⟨modifiers, modifiers'⟩) spelt coded
    ends fun bare absent => noArguments bare (by rw [absent, List.nil_append])
  refine ⟨word :: (before ++ (inside ++ (after ++ set))), by simp, ?_⟩
  simpa [joinedText] using run

/-! ## Definitions -/

/-- The tokens of the type end where those of the run behind it begin. -/
theorem definition_takes (inParens : Bool) : Takes (definition inParens) DefinitionRun := by
  intro tokens rest value taken
  obtain ⟨name, behind, first, taken⟩ := bind_eq_ok.mp taken
  obtain ⟨type, behind', second, taken⟩ := bind_eq_ok.mp taken
  obtain ⟨texts, final, third, taken⟩ := bind_eq_ok.mp taken
  obtain ⟨rfl, rfl⟩ := pure_eq_ok.mp taken
  obtain ⟨_, rfl, token, rfl, named⟩ := identifier_takes _ first
  obtain ⟨run, rfl, typed⟩ := dataType_taken second
  obtain ⟨specs, rfl, rfl⟩ := run_takes inParens third
  exact ⟨token :: (run ++ specs), by simp, .mk named typed.of_append⟩

/-- The closing parenthesis is taken with the list. -/
theorem definitionsFrom_takes :
    Takes definitionsFrom fun run definitions => ∃ inner closing, run = inner ++ [closing] ∧
      closing.kind = .closeParen ∧ ListRun DefinitionRun inner definitions := by
  intro tokens rest definitions taken
  fun_induction definitionsFrom tokens generalizing definitions rest with
  | case1 => cases taken
  | case2 => cases taken
  | case3 tokens first token behind read close =>
      cases taken
      obtain ⟨run, rfl, defined⟩ := definition_takes true read
      exact ⟨run ++ [token], by simp, run, token, rfl, close, .last defined⟩
  | case4 => cases taken
  | case5 tokens first token behind read comma more final inner ih =>
      cases taken
      obtain ⟨run, rfl, defined⟩ := definition_takes true read
      obtain ⟨_, rfl, others, closing, rfl, close, listed⟩ := ih inner
      refine ⟨run ++ token :: (others ++ [closing]), by simp, run ++ token :: others, closing,
        by simp, close, .more defined comma listed⟩
  | case6 => cases taken

theorem addedDefinitions_takes {add : Token} {column : List Token}
    (adds : add.isKeyword .add = true) (optional : OptionalRun [.column] column) :
    Takes addedDefinitions fun run definitions => ClauseRun (add :: (column ++ run))
      { operation := .add, column := definitions.head?.map (·.name), definitions } := by
  refine (accept_takes .openParen).bind fun run found spelt => ?_
  refine .ite (fun yes => ?_) fun no => ?_
  · rw [if_pos yes] at spelt
    obtain ⟨opening, rfl, opens⟩ := spelt
    refine definitionsFrom_takes.mono fun run definitions spelt => ?_
    obtain ⟨inner, closing, rfl, closes, listed⟩ := spelt
    exact .addSeveral adds optional opens listed closes
  · rw [if_neg no] at spelt
    subst spelt
    refine (definition_takes false).bind fun run only defined => .pure ?_
    simpa using ClauseRun.addOne adds optional defined

/-! ## Clauses -/

/-- What is passed over is a run of any tokens. -/
theorem skipped_takes {word : Token} (isWord : word.kind = .word) {operation : Operation}
    (other : operation ∉ [.add, .drop, .change, .rename, .modify, .alterColumn]) :
    Takes (skipped operation) fun run clause => ClauseRun (word :: run) clause :=
  (Takes.of_shrinks skipClause_shrinks).bind fun _ _ _ => .pure (.skipped isWord other)

section

variable {word : Token}

/-- Behind `ADD`, an index, a constraint or a partition is passed over. -/
theorem addClause_takes (adds : word.isKeyword .add = true) :
    Takes addClause fun run clause => ClauseRun (word :: run) clause := by
  have isWord : word.kind = .word := Token.kind_of_keyword? (eq_of_beq adds)
  refine peekKeyword_takes.bind fun run next none => ?_
  subst none
  split
  · rename_i operation same
    refine skipped_takes isWord ?_
    obtain ⟨keyword, -, object⟩ := Option.bind_eq_some_iff.mp same
    cases keyword <;> cases object <;> decide
  · refine (optional_takes _).bind fun column _ optional => ?_
    refine (addedDefinitions_takes adds optional).bind fun run definitions spelt => .pure ?_
    simpa using spelt

theorem acceptDropBehaviour_takes :
    Takes acceptDropBehaviour fun run _ => ∀ token ∈ run, isDropBehaviour token = true := by
  intro tokens rest value taken
  cases taken
  cases tokens with
  | nil => exact ⟨[], rfl, by simp⟩
  | cons token tokens =>
      by_cases ignored : isDropBehaviour token = true
      · exact ⟨[token], by simp [ignored], by simpa using ignored⟩
      · exact ⟨[], by simp [ignored], by simp⟩

theorem dropClause_takes (drops : word.isKeyword .drop = true) :
    Takes dropClause fun run clause => ClauseRun (word :: run) clause := by
  have isWord : word.kind = .word := Token.kind_of_keyword? (eq_of_beq drops)
  refine peekKeyword_takes.bind fun run next none => ?_
  subst none
  split
  · rename_i operation same
    refine skipped_takes isWord ?_
    obtain ⟨keyword, -, object⟩ := Option.bind_eq_some_iff.mp same
    cases keyword <;> cases object <;> decide
  · refine (optional_takes _).bind fun column _ optional => ?_
    refine (optional_takes _).bind fun ifExists _ condition => ?_
    refine (identifier_takes _).bind fun run name spelt => ?_
    obtain ⟨token, rfl, named⟩ := spelt
    refine acceptDropBehaviour_takes.bind fun behaviour _ ignored => .pure ?_
    simpa using ClauseRun.drop drops optional condition named ignored

theorem changeClause_takes (changes : word.isKeyword .change = true) :
    Takes changeClause fun run clause => ClauseRun (word :: run) clause := by
  refine (optional_takes _).bind fun column _ optional => ?_
  refine (identifier_takes _).bind fun run name spelt => ?_
  obtain ⟨token, rfl, named⟩ := spelt
  refine (definition_takes false).bind fun run new defined => .pure ?_
  simpa using ClauseRun.change changes optional named defined

/-- Every dot has a name behind it. -/
theorem furtherParts_taken {tokens rest : List Token} {names : List String}
    (taken : furtherParts tokens = .ok (names, rest)) {token : Token} {name : String}
    (named : token.identifier? = some name) :
    ∃ run, tokens = run ++ rest ∧ ReferenceRun (token :: run) (name :: names) := by
  fun_induction furtherParts tokens generalizing names rest token name with
  | case1 =>
      cases taken
      exact ⟨[], rfl, .last named⟩
  | case2 => cases taken
  | case3 =>
      cases taken
      exact ⟨[], rfl, .last named⟩
  | case4 => cases taken
  | case5 => cases taken
  | case6 separator next tokens dot part spelt more behind inner ih =>
      cases taken
      obtain ⟨run, rfl, others⟩ := ih inner spelt
      exact ⟨separator :: next :: run, rfl, .more named dot others⟩
  | case7 =>
      cases taken
      exact ⟨[], rfl, .last named⟩

/-- A table reference is names with dots between them. -/
theorem tableName_takes : Takes tableName fun run table => ReferenceRun run table.parts := by
  refine (identifier_takes _).bind fun run name spelt => ?_
  obtain ⟨token, rfl, named⟩ := spelt
  intro tokens rest table taken
  obtain ⟨names, behind, further, whole⟩ := bind_eq_ok.mp taken
  obtain ⟨rfl, rfl⟩ := pure_eq_ok.mp whole
  exact furtherParts_taken further named

theorem renamedTo_takes (oldColumn : String) :
    Takes (renamedTo oldColumn) fun run clause => ∃ token newName, run = [token] ∧
      token.identifier? = some newName ∧
      clause = { operation := .rename, column := newName, oldColumn } := by
  refine (identifier_takes _).bind fun run name spelt => ?_
  obtain ⟨token, rfl, named⟩ := spelt
  exact .pure ⟨token, name, rfl, named, rfl⟩

theorem renamedColumn_takes (renames : word.isKeyword .rename = true) {column : Token}
    (ofColumn : column.isKeyword .column = true) :
    Takes renamedColumn fun run clause => ClauseRun (word :: column :: run) clause := by
  refine (identifier_takes _).bind fun run oldName spelt => ?_
  obtain ⟨token, rfl, old⟩ := spelt
  refine (acceptKeywords_takes _).bind fun run found spelt => ?_
  refine .ite (fun yes => ?_) fun _ => fail_takes _
  rw [if_pos yes] at spelt
  obtain ⟨link, rfl, toWord⟩ := keywordRun_singleton spelt
  refine (renamedTo_takes oldName).mono fun run clause spelt => ?_
  obtain ⟨token', newName, rfl, new, rfl⟩ := spelt
  exact .rename (.ofColumn renames ofColumn old toWord new)

theorem acceptToOrAs_takes : Takes acceptToOrAs fun run _ => LeadRun run := by
  refine (acceptKeywords_takes _).bind fun run found spelt => ?_
  refine .ite (fun yes => .pure ?_) fun no => ?_
  · rw [if_pos yes] at spelt
    simpa using .inr (.inl spelt)
  · rw [if_neg no] at spelt
    subst spelt
    refine (optional_takes _).mono fun run _ spelt => ?_
    exact spelt.imp id .inr

/-- Behind the reference, `TO` makes the clause one that renames a column. -/
theorem renamedTable_takes (renames : word.isKeyword .rename = true) :
    Takes renamedTable fun run clause => ClauseRun (word :: run) clause := by
  refine acceptToOrAs_takes.bind fun lead _ leads => ?_
  refine tableName_takes.bind fun reference table old => ?_
  refine (acceptKeywords_takes _).bind fun run found spelt => ?_
  refine .ite (fun yes => ?_) fun no => ?_
  · rw [if_pos yes] at spelt
    obtain ⟨link, rfl, toWord⟩ := keywordRun_singleton spelt
    refine (renamedTo_takes table.text).mono fun run clause spelt => ?_
    obtain ⟨token, newName, rfl, new, rfl⟩ := spelt
    exact .rename (.bare renames leads old toWord new)
  · rw [if_neg no] at spelt
    subst spelt
    refine .pure ?_
    simpa using ClauseRun.renameTable renames leads old

/-- `RENAME COLUMN` is decided first, then `RENAME INDEX` and `RENAME KEY`. -/
theorem renameClause_takes (renames : word.isKeyword .rename = true) :
    Takes renameClause fun run clause => ClauseRun (word :: run) clause := by
  have isWord : word.kind = .word := Token.kind_of_keyword? (eq_of_beq renames)
  refine (acceptKeywords_takes _).bind fun run found spelt => ?_
  refine .ite (fun yes => ?_) fun no => ?_
  · rw [if_pos yes] at spelt
    obtain ⟨column, rfl, ofColumn⟩ := keywordRun_singleton spelt
    exact renamedColumn_takes renames ofColumn
  · rw [if_neg no] at spelt
    subst spelt
    refine peekKeyword_takes.bind fun run next none => ?_
    subst none
    split
    · exact skipped_takes isWord (by decide)
    · exact skipped_takes isWord (by decide)
    · exact renamedTable_takes renames

theorem modifyClause_takes (modifies : word.isKeyword .modify = true) :
    Takes modifyClause fun run clause => ClauseRun (word :: run) clause := by
  refine (optional_takes _).bind fun column _ optional => ?_
  refine (definition_takes false).bind fun run new defined => .pure ?_
  simpa using ClauseRun.modify modifies optional defined

theorem alterColumnClause_takes (alters : word.isKeyword .alter = true) :
    Takes alterColumnClause fun run clause => ClauseRun (word :: run) clause := by
  refine (optional_takes _).bind fun column _ optional => ?_
  refine (identifier_takes _).bind fun run name spelt => ?_
  obtain ⟨token, rfl, named⟩ := spelt
  refine (Takes.of_shrinks skipClause_shrinks).bind fun behind _ _ => .pure ?_
  simpa using ClauseRun.alterColumn alters optional named

/-- The run of a clause begins with the word that decides about it. -/
theorem clauseBehind_takes (isWord : word.kind = .word) :
    Takes (clauseBehind word) fun run clause => ClauseRun (word :: run) clause := by
  have spelt : ∀ {keyword : Keyword}, word.keyword? = some keyword →
      word.isKeyword keyword = true := fun same => beq_iff_eq.mpr same
  unfold clauseBehind
  split
  · exact addClause_takes (spelt ‹_›)
  · exact dropClause_takes (spelt ‹_›)
  · exact changeClause_takes (spelt ‹_›)
  · exact renameClause_takes (spelt ‹_›)
  · exact modifyClause_takes (spelt ‹_›)
  · exact alterColumnClause_takes (spelt ‹_›)
  · exact skipped_takes isWord (by simp)

end

theorem clause_takes : Takes clause ClauseRun := by
  intro tokens rest value taken
  unfold clause at taken
  split at taken
  · cases taken
  rename_i token behind
  split at taken
  · rename_i isWord
    obtain ⟨run, rfl, spelt⟩ := clauseBehind_takes isWord taken
    exact ⟨token :: run, rfl, spelt⟩
  · cases taken

/-- By induction on the tokens: a comma is taken between two clauses, and none behind the last. -/
theorem clausesFrom_takes : Takes clausesFrom (ListRun ClauseRun) := by
  intro tokens rest clauses taken
  fun_induction clausesFrom tokens generalizing clauses rest with
  | case1 => cases taken
  | case2 tokens first read =>
      cases taken
      obtain ⟨run, rfl, spelt⟩ := clause_takes read
      exact ⟨run, rfl, .last spelt⟩
  | case3 => cases taken
  | case4 tokens first token behind read comma more final inner ih =>
      cases taken
      obtain ⟨run, rfl, spelt⟩ := clause_takes read
      obtain ⟨others, rfl, listed⟩ := ih inner
      exact ⟨run ++ token :: others, by simp, .more spelt comma listed⟩
  | case5 tokens first token behind read _ =>
      cases taken
      obtain ⟨run, rfl, spelt⟩ := clause_takes read
      exact ⟨run, rfl, .last spelt⟩

end Reader

/-! ## Statements -/

/-- The clauses of a statement that was parsed stand in its source, in order and with commas
between them. -/
theorem spelt_of_parse {source : String} {statement : AlterTable}
    (read : Statement.parse source = .ok (.alterTable statement)) :
    ∃ tokens run, tokenize source = .ok tokens ∧ run <:+: tokens ∧
      ListRun ClauseRun run statement.clauses := by
  obtain ⟨tokens, behind, rest, lexed, within, taken⟩ := alterTable_of_parse read
  obtain ⟨_, behind', condition, taken⟩ := Reader.bind_eq_ok.mp taken
  obtain ⟨_, behind'', named, taken⟩ := Reader.bind_eq_ok.mp taken
  obtain ⟨clauses, final, listed, taken⟩ := Reader.bind_eq_ok.mp taken
  obtain ⟨_, _, _, taken⟩ := Reader.bind_eq_ok.mp taken
  obtain ⟨rfl, rfl⟩ := Reader.pure_eq_ok.mp taken
  obtain ⟨run, split, spelt⟩ := Reader.clausesFrom_takes listed
  have given := (Reader.acceptKeywords_shrinks _ condition).trans within
  have front : behind'' <:+ tokens := (Reader.tableName_shrinks named).trans given
  refine ⟨tokens, run, lexed, ?_, spelt⟩
  exact (split ▸ (List.prefix_append run final).isInfix).trans front.isInfix

end AlterRelay.Sql
