/-
# AlterRelay.Proofs.Checked.Engine — the whole work on a source never traps

Behind the reader, one step is partial: the quotes of a literal are taken off by cutting
between two byte offsets. A quote is one byte, so the offsets lie between characters
whenever the text begins and ends with one and is longer than that (`decode?_eq`). All
other steps are the ones of the engine, and sizes stop at the largest word of 32 bits
where their product would not fit.

`engine_never_traps` puts together what is known of the scanner, of the cursor, of
values and of sizes: no step is undefined for any source that is short enough to count
its lines and columns, and for any tokens and raw texts at all.
-/
import AlterRelay.Proofs.Checked.Scanning
import AlterRelay.Proofs.Checked.CursorStatement
import AlterRelay.Relay.Run

namespace AlterRelay.Checked

open AlterRelay.Column (ColumnOption OptionValue)
open AlterRelay.Doris (ColumnType NewColumn)
open AlterRelay.Relay
open AlterRelay.Source (Connector TypeResolver)
open AlterRelay.Sql
open AlterRelay.Text

set_option autoImplicit false

/-! ## Values -/

/-- Whether the content begins and ends with this quote, as two tests on the string. -/
def isBetween (quote : Char) (content : String) : Bool :=
  content.toList.head? == some quote && content.toList.getLast? == some quote

/-- The text without its first and its last byte. -/
def inner? (content : String) : Option String := do
  let stop ← decrement? content.utf8ByteSize
  slice? content 1 stop

/-- What stands between the quotes of the content, or all of it, if it has none. -/
def removeQuotes? (content : String) : Option String :=
  if 1 < content.utf8ByteSize then
    if isBetween singleQuote content || isBetween doubleQuote content then inner? content
    else some content
  else some content

/-- The value that a token's text spells, unless taking off its quotes traps. -/
def decode? (raw : String) : Option String := do
  let content ← removeQuotes? raw
  match raw.toList.head? with
  | none => return content
  | some quote =>
      if content.utf8ByteSize = raw.utf8ByteSize then return content
      else return String.ofList (resolveEscapes quote content.toList)

/-- A text with a quote of one byte at both ends is longer than that quote exactly if it has
more than one byte. -/
theorem isWrappedIn_eq {quote : Char} (narrow : quote.utf8Size = 1) (text : List Char) :
    isWrappedIn quote text = (decide (1 < (String.ofList text).utf8ByteSize) &&
      isBetween quote (.ofList text)) := by
  unfold isBetween
  rw [String.utf8ByteSize_ofList, String.toList_ofList]
  cases text with
  | nil => rfl
  | cons first rest =>
      cases rest with
      | nil =>
          by_cases same : first = quote
          · subst same
            simp [isWrappedIn, narrow]
          · simp [isWrappedIn, same]
      | cons second rest =>
          have long : 1 < String.utf8Len (first :: second :: rest) := by
            have := first.utf8Size_pos
            have := second.utf8Size_pos
            simp only [String.utf8Len_cons]
            omega
          rw [decide_eq_true long, Bool.true_and, List.head?_cons, List.getLast?_cons_cons]
          rfl

/-- The cut falls on boundaries of characters, as a quote takes one byte. -/
theorem inner?_wrapped {quote : Char} (narrow : quote.utf8Size = 1) (body : List Char) :
    inner? (.ofList (quote :: (body ++ [quote]))) = some (.ofList body) := by
  let source : String := .ofList (quote :: (body ++ [quote]))
  have walked : Walked source (Position.start.after [quote]) (body ++ [quote]) :=
    ⟨[quote], String.toList_ofList, rfl⟩
  have cut := slice?_text walked
  have size : source.utf8ByteSize = String.utf8Len body + 1 + 1 := by
    rw [String.utf8ByteSize_ofList, String.utf8Len_cons, String.utf8Len_append, narrow,
      String.utf8Len_cons, narrow]
    rfl
  have first : (Position.start.after [quote]).offset = 1 := by
    rw [Position.offset_after, String.utf8Len_cons, narrow]
    rfl
  rw [Position.offset_after _ body, first, Nat.add_comm] at cut
  change (do
    let stop ← decrement? source.utf8ByteSize
    slice? source 1 stop) = _
  rw [size]
  exact cut

/-- Wrapped text is a quote, a body and a quote. -/
theorem wrapped_split {quote : Char} {text : List Char} (wrapped : isWrappedIn quote text = true) :
    ∃ body, text = quote :: (body ++ [quote]) := by
  cases text with
  | nil => cases wrapped
  | cons first rest =>
      obtain ⟨same, ends⟩ := Bool.and_eq_true_iff.mp wrapped
      cases eq_of_beq same
      exact ⟨rest.dropLast, by rw [List.dropLast_append_getLast? _ (eq_of_beq ends)]⟩

/-- Quoted text gives its body with the escapes resolved. -/
theorem decode?_wrapped {quote : Char} (literal : quote = singleQuote ∨ quote = doubleQuote)
    (body : List Char) :
    decode? (.ofList (quote :: (body ++ [quote]))) =
      some (String.ofList (resolveEscapes quote body)) := by
  have narrow : quote.utf8Size = 1 := by rcases literal with rfl | rfl <;> rfl
  have wrapped : isWrappedIn quote (quote :: (body ++ [quote])) = true := by simp [isWrappedIn]
  rw [isWrappedIn_eq narrow, Bool.and_eq_true_iff] at wrapped
  obtain ⟨long, between⟩ := wrapped
  have either : (isBetween singleQuote (.ofList (quote :: (body ++ [quote]))) ||
      isBetween doubleQuote (.ofList (quote :: (body ++ [quote])))) = true := by
    rcases literal with rfl | rfl
    · rw [between, Bool.true_or]
    · rw [between, Bool.or_true]
  have taken : removeQuotes? (.ofList (quote :: (body ++ [quote]))) = some (.ofList body) := by
    rw [removeQuotes?, if_pos (of_decide_eq_true long), if_pos either, inner?_wrapped narrow]
  have shorter : ¬(String.ofList body).utf8ByteSize =
      (String.ofList (quote :: (body ++ [quote]))).utf8ByteSize := by
    simp only [String.utf8ByteSize_ofList, String.utf8Len_cons, String.utf8Len_append, narrow]
    omega
  rw [decode?, taken, Option.bind_eq_bind, Option.bind_some, String.toList_ofList,
    String.toList_ofList]
  exact if_neg shorter

/-- Text without quotes stands for itself. -/
theorem decode?_bare {text : List Char}
    (bare : (isWrappedIn singleQuote text || isWrappedIn doubleQuote text) = false) :
    decode? (.ofList text) = some (String.ofList text) := by
  have kept : removeQuotes? (.ofList text) = some (.ofList text) := by
    rw [isWrappedIn_eq rfl, isWrappedIn_eq rfl, ← Bool.and_or_distrib_left] at bare
    unfold removeQuotes?
    split
    · rename_i long
      rw [decide_eq_true long, Bool.true_and] at bare
      rw [if_neg (ne_true_of_eq_false bare)]
    · rfl
  rw [decode?, kept, Option.bind_eq_bind, Option.bind_some]
  split
  · rfl
  · exact if_pos rfl

theorem decode?_ofList (text : List Char) :
    decode? (.ofList text) = some (String.ofList (literalValue text)) := by
  cases wrapped : isWrappedIn singleQuote text || isWrappedIn doubleQuote text with
  | true =>
      rcases Bool.or_eq_true_iff.mp wrapped with first | second
      · obtain ⟨body, rfl⟩ := wrapped_split first
        rw [decode?_wrapped (.inl rfl), literalValue_wrapped (.inl rfl)]
      · obtain ⟨body, rfl⟩ := wrapped_split second
        rw [decode?_wrapped (.inr rfl), literalValue_wrapped (.inr rfl)]
  | false =>
      have itself : literalValue text = text := by
        cases text with
        | nil => rfl
        | cons first rest => exact if_neg (ne_true_of_eq_false wrapped)
      rw [decode?_bare wrapped, itself]

/-- Decoding by slices of bytes gives the value of the literal, and does not trap. -/
theorem decode?_eq (raw : String) :
    decode? raw = some (String.ofList (literalValue raw.toList)) := by
  rw [← decode?_ofList, String.ofList_toList]

/-! ## The engine -/

/-- The statement that a source text spells, read by the scanner and the cursor. -/
def parse? (source : String) : Option (Except ParseError Statement) := do
  match ← tokenize? source with
  | .error error => return .error (.lex error)
  | .ok tokens => statement? tokens

/-- The value of an option, decoded by the checked machine. -/
def value? : OptionValue → Option (Option String)
  | .absent | .dangling => some none
  | .present raw => do return some (← decode? raw)

/-- The new column, with its options decoded. -/
def newColumn? (definition : ColumnDefinition) (type : String) : Option NewColumn := do
  let defaultValue ← value? (ColumnOption.defaultValue.lookup definition.specs)
  let comment ← value? (ColumnOption.comment.lookup definition.specs)
  return { name := definition.name, type, defaultValue, comment }

/-- The entries of an added column, in the order of `addedEntries`. -/
def addedEntries? (definition : ColumnDefinition) (type : String) : Option (List Entry) := do
  let column ← newColumn? definition type
  return danglingEntries definition .defaultValue ++ danglingEntries definition .comment ++
    [.applied (.addColumn column)]

section

variable (engine : Engine) (connector : Connector)

/-- The work on one alteration. Only an added column has values. -/
def alterationRun? : Alteration → Option Run
  | .add definition declarations =>
      match targetType engine.resolver connector definition with
      | .error error => return ⟨surplusEntries definition declarations, some error⟩
      | .ok type => do
          let added ← addedEntries? definition type
          return ⟨surplusEntries definition declarations ++ added, none⟩
  | alteration => return engine.alterationRun connector alteration

/-- The run of a clause, with the options of its columns decoded. -/
def clauseRun? (clause : Clause) : Option Run :=
  match Alteration.ofClause clause with
  | .error error => return ⟨[], some error⟩
  | .ok alteration => alterationRun? engine connector alteration

/-- The clauses in order, up to the first that fails. -/
def clausesRun? : List Clause → Option Run
  | [] => return ⟨[], none⟩
  | clause :: more => do
      let first ← clauseRun? engine connector clause
      match first.failure with
      | some _ => return first
      | none => return first.followedBy (← clausesRun? more)

def statementRun? : Statement → Option Run
  | .other keyword => return ⟨[.otherStatement keyword], none⟩
  | .alterTable statement => do
      let started : Run := ⟨[.started statement.table statement.clauses.length], none⟩
      return started.followedBy (← clausesRun? engine connector statement.clauses)

/-- The run of a source: its error, or the run of its statement. -/
def run? (source : String) : Option Run := do
  match ← parse? source with
  | .error error => return ⟨[.unreadable error], none⟩
  | .ok statement => statementRun? engine connector statement

/-- What the engine answers, unless one of its steps traps. -/
def relay? (source table : String) : Option (Except RelayError Outcome) := do
  let run ← run? engine connector source
  return run.outcome (engine.telling source table)

end

/-- The parser does not trap on a countable source. -/
theorem parse?_eq {source : String} (countable : Countable source) :
    parse? source = some (Statement.parse source) := by
  rw [parse?, tokenize?_eq countable, Statement.parse, Option.bind_eq_bind, Option.bind_some]
  cases tokenize source with
  | error error => rfl
  | ok tokens => exact statement?_eq tokens

theorem value?_eq (value : OptionValue) : value? value = some value.value? := by
  cases value with
  | absent | dangling => rfl
  | present raw =>
      rw [value?, decode?_eq]
      rfl

theorem newColumn?_eq (definition : ColumnDefinition) (type : String) :
    newColumn? definition type = some (newColumn definition type) := by
  rw [newColumn?, value?_eq, value?_eq]
  rfl

theorem addedEntries?_eq (definition : ColumnDefinition) (type : String) :
    addedEntries? definition type = some (addedEntries definition type) := by
  rw [addedEntries?, newColumn?_eq]
  rfl

section

variable (engine : Engine) (connector : Connector)

/-- Only the options of an added column are decoded, so nothing else could trap. -/
theorem alterationRun?_eq (alteration : Alteration) :
    alterationRun? engine connector alteration =
      some (engine.alterationRun connector alteration) := by
  cases alteration with
  | add definition declarations =>
      rw [alterationRun?, Engine.alterationRun]
      cases targetType engine.resolver connector definition with
      | error error => rfl
      | ok type =>
          dsimp only
          rw [addedEntries?_eq]
          rfl
  | _ => rfl

theorem clauseRun?_eq (clause : Clause) :
    clauseRun? engine connector clause = some (engine.clauseRun connector clause) := by
  rw [clauseRun?, Engine.clauseRun]
  cases Alteration.ofClause clause with
  | error error => rfl
  | ok alteration => exact alterationRun?_eq engine connector alteration

/-- The runs agree clause by clause, and so does where they stop. -/
theorem clausesRun?_eq (clauses : List Clause) :
    clausesRun? engine connector clauses = some (engine.clausesRun connector clauses) := by
  induction clauses with
  | nil => rfl
  | cons clause more ih =>
      rw [clausesRun?, clauseRun?_eq, ih, Engine.clausesRun, Option.bind_eq_bind,
        Option.bind_some]
      -- A clause that fails ends the work, and a failed run is followed by nothing.
      cases failure : (engine.clauseRun connector clause).failure with
      | none => rfl
      | some error =>
          rw [Run.followedBy, failure]
          rfl

theorem statementRun?_eq (statement : Statement) :
    statementRun? engine connector statement = some (engine.statementRun connector statement) := by
  cases statement with
  | other keyword => rfl
  | alterTable statement =>
      rw [statementRun?, clausesRun?_eq]
      rfl

end

/-- An engine that reads statements with the scanner and the cursor. -/
theorem relay?_eq (resolver : TypeResolver) (config : Config) (connector : Connector)
    {source : String} (countable : Countable source) (table : String) :
    relay? { resolver, config } connector source table =
      some (Engine.relay { resolver, config } connector source table) := by
  have run : run? { resolver, config } connector source =
      some (Engine.run { resolver, config } connector source) := by
    rw [run?, parse?_eq countable, Option.bind_eq_bind, Option.bind_some]
    change _ = some (match Statement.parse source with
      | .error error => _
      | .ok statement => _)
    cases Statement.parse source with
    | error error => rfl
    | ok statement => exact statementRun?_eq _ connector statement
  rw [relay?, run]
  rfl

/-- No step of the work traps. A source of fewer than 2 ^ 32 - 1 characters is scanned, and
whatever tokens and raw texts come from it or from anywhere else are read and decoded; sizes are
tripled up to the largest word and not beyond. So the engine answers for every such source, with
any resolver and switches, for any connector and table. -/
theorem engine_never_traps :
    (∀ source : String, source.length < 2 ^ 32 - 1 →
        tokenize? source = some (tokenize source)) ∧
      (∀ tokens : List Token, statement? tokens = some (Statement.ofTokens tokens)) ∧
      (∀ raw : String, decode? raw = some (String.ofList (literalValue raw.toList))) ∧
      (∀ length : UInt32,
        (ColumnType.byteLength length).toNat = min (3 * length.toNat) (2 ^ 32 - 1)) ∧
      ∀ (resolver : TypeResolver) (config : Config) (connector : Connector) (source table : String),
        source.length < 2 ^ 32 - 1 →
          relay? { resolver, config } connector source table =
            some (Engine.relay { resolver, config } connector source table) := by
  have countable {source : String} (short : source.length < 2 ^ 32 - 1) : Countable source := by
    change source.length + 1 < 2 ^ 32
    omega
  exact ⟨fun source short => tokenize?_eq (countable short), statement?_eq, decode?_eq,
    ColumnType.toNat_byteLength, fun resolver config connector source table short =>
      relay?_eq resolver config connector (countable short) table⟩

/-- Characters of one to four bytes, in a name, a comment and a literal. -/
def wideSource : String :=
  "ALTER TABLE t ADD é VARCHAR(2000000000) /* ß */ DEFAULT '𝄞''\\\\ü' -- €"

def wideOutcome : Outcome where
  statements := ["ALTER TABLE `d` ADD COLUMN `é` STRING DEFAULT '𝄞\\'\\\\ü'"]
  notices := []

theorem engine_never_traps_wide :
    wideSource.length < 2 ^ 32 - 1 ∧
      relay? {} .mysql wideSource "d" = some (.ok wideOutcome) := by
  have short : wideSource.length < 2 ^ 32 - 1 := by decide +kernel
  have relayed : Engine.relay {} .mysql wideSource "d" = .ok wideOutcome := by decide +kernel
  exact ⟨short, relayed ▸ engine_never_traps.2.2.2.2 .doris {} .mysql wideSource "d" short⟩

end AlterRelay.Checked
