/-
# AlterRelay.Proofs.Doris.TableReference — how the table of a change is written

A table is given as a text and split at its dots. Each part is put in back-quotes,
unless it begins and ends with one. What is written is a reference with one quoted
name for each part, exactly if every part that is kept is a quoted name
(`reference_iff`). A reference is cut into its names again, whatever change stands
behind it (`cutInto_text_of_reference`).

The dots are looked for before the back-quotes. So a reference that is given already
is kept exactly if each dot inside its names stands between two back-quotes
(`referenceText_kept_iff`). Any other name with a dot is torn there, and a part
such as `a`b`, which only looks quoted, is kept though nothing can read it
(`torn_reference`).

A table that was written begins and ends each of its parts with a back-quote, so to
write it again changes nothing (`tableText_idem`).
-/
import AlterRelay.Proofs.Doris.WrittenChange
import AlterRelay.Proofs.Sql.WrittenStatement
import AlterRelay.Proofs.Text.Splitting
import Mathlib.Data.Set.List

namespace AlterRelay.Doris

open AlterRelay.Sql
open AlterRelay.Text

set_option autoImplicit false

/-! ## Parts -/

/-- Doubling adds no new characters. -/
theorem mem_doubled {c d : Char} {text : List Char} : d ∈ doubled c text ↔ d ∈ text := by
  induction text with
  | nil => rfl
  | cons e text ih =>
      rw [doubled, List.flatMap_cons, List.mem_append, ← doubled, ih, List.mem_cons]
      by_cases same : e = c <;> simp [same]

theorem dot_mem_backQuoted {name : List Char} : '.' ∈ backQuoted name ↔ '.' ∈ name := by
  simp [backQuoted, mem_doubled, backQuote]

theorem isWrappedIn_backQuoted (name : List Char) :
    isWrappedIn backQuote (backQuoted name) = true := by
  simp [isWrappedIn, backQuoted]

/-- A part is kept exactly if it is wrapped in back-quotes already. -/
theorem quotedPart_eq_self {part : List Char} :
    quotedPart part = part ↔ isWrappedIn backQuote part = true := by
  unfold quotedPart
  split
  · rename_i wrapped
    simp [wrapped]
  · rename_i bare
    refine iff_of_false (fun same => bare ?_) bare
    rw [← same]
    exact isWrappedIn_backQuoted part

/-- Quoting a part brings no dot into it and takes none out. -/
theorem dot_mem_quotedPart {part : List Char} : '.' ∈ quotedPart part ↔ '.' ∈ part := by
  unfold quotedPart
  split
  · rfl
  · exact dot_mem_backQuoted

/-- So the parts of a quoted table are the quoted parts. -/
theorem splitOn_quotedTable (table : List Char) :
    (quotedTable table).splitOn '.' = (table.splitOn '.').map quotedPart := by
  refine List.splitOn_intercalate '.' ?_ (by simp)
  simp only [List.forall_mem_map, dot_mem_quotedPart]
  exact fun part member => not_mem_of_mem_splitOn member

/-- A table is kept if every stretch between two dots looks quoted. -/
theorem quotedTable_eq_self {table : List Char} :
    quotedTable table = table ↔
      ∀ part ∈ table.splitOn '.', isWrappedIn backQuote part = true := by
  have kept : (table.splitOn '.').map quotedPart = table.splitOn '.' ↔
      ∀ part ∈ table.splitOn '.', isWrappedIn backQuote part = true := by
    simp only [← quotedPart_eq_self]
    conv_lhs => rhs; rw [← List.map_id (table.splitOn '.')]
    exact List.map_inj_left
  rw [← kept]
  constructor
  · intro same
    rw [← splitOn_quotedTable, same]
  · intro same
    rw [quotedTable, same, List.intercalate_splitOn]

/-! ## Tables that were written -/

theorem isWrappedIn_quotedPart (part : List Char) :
    isWrappedIn backQuote (quotedPart part) = true := by
  unfold quotedPart
  split
  · assumption
  · exact isWrappedIn_backQuoted part

theorem parts_quotedTable_wrapped (table : List Char) :
    ∀ part ∈ (quotedTable table).splitOn '.', isWrappedIn backQuote part = true := by
  rw [splitOn_quotedTable, List.forall_mem_map]
  exact fun part _ => isWrappedIn_quotedPart part

/-- What was quoted once looks quoted, and is kept. -/
theorem quotedTable_quotedTable (table : List Char) :
    quotedTable (quotedTable table) = quotedTable table :=
  quotedTable_eq_self.mpr (parts_quotedTable_wrapped table)

/-! ## References -/

theorem toList_referenceText (names : List String) :
    (referenceText names).toList =
      ['.'].intercalate (names.map fun name => backQuoted name.toList) := by
  simp [referenceText, Function.comp_def]

theorem toList_tableText (table : String) :
    (tableText true table).toList = quotedTable table.toList := by
  simp [tableText]

/-- The equation between texts, as one between lists of characters. -/
theorem tableText_eq_referenceText {table : String} {names : List String} :
    tableText true table = referenceText names ↔
      quotedTable table.toList =
        ['.'].intercalate (names.map fun name => backQuoted name.toList) := by
  rw [← String.toList_inj, toList_tableText, toList_referenceText]

/-- A table is written as one quoted name for each part exactly if no part is kept that is no
quoted name. -/
theorem reference_iff {table : String} :
    (∀ part ∈ table.toList.splitOn '.', isWrappedIn backQuote part = true →
        ∃ name, part = backQuoted name) ↔
      ∃ names : List String, names.length = (table.toList.splitOn '.').length ∧
        tableText true table = referenceText names := by
  simp only [tableText_eq_referenceText]
  constructor
  · intro proper
    have each : ∀ text ∈ (table.toList.splitOn '.').map quotedPart,
        text ∈ Set.range fun name : String => backQuoted name.toList := by
      rw [List.forall_mem_map]
      intro part member
      by_cases wrapped : isWrappedIn backQuote part = true
      · obtain ⟨name, rfl⟩ := proper part member wrapped
        exact ⟨String.ofList name, by simp [quotedPart_eq_self.mpr wrapped]⟩
      · exact ⟨String.ofList part, by simp [quotedPart, wrapped]⟩
    -- A list of quoted names comes from a list of names.
    obtain ⟨names, same⟩ := (Set.range_list_map _).symm.subset each
    refine ⟨names, by simpa using congrArg List.length same, ?_⟩
    rw [quotedTable, ← same]
  · rintro ⟨names, asMany, written⟩ part member wrapped
    have nonempty : names.map (fun name => backQuoted name.toList) ≠ [] := by
      intro none
      have empty : (table.toList.splitOn '.').length = 0 := by
        rw [← asMany, List.map_eq_nil_iff.mp none, List.length_nil]
      exact List.splitOn_ne_nil _ _ (List.eq_nil_of_length_eq_zero empty)
    have parts := splitOn_quotedTable table.toList
    rw [written] at parts
    -- There are as many names as parts, so no name has a dot in it.
    have counted := congrArg List.length parts
    rw [List.length_map, ← asMany, ← List.length_map fun name : String => backQuoted name.toList]
      at counted
    have apart := not_mem_of_length_splitOn nonempty counted
    rw [List.splitOn_intercalate '.' apart nonempty] at parts
    have quoted := List.mem_map_of_mem (f := quotedPart) member
    rw [← parts, quotedPart_eq_self.mpr wrapped] at quoted
    obtain ⟨name, -, same⟩ := List.mem_map.mp quoted
    exact ⟨name.toList, same.symm⟩

/-- A reference is cut into its names, with dots between them. -/
theorem written_reference {names : List String} (nonempty : names ≠ []) :
    WrittenAs (referenceText names).toList ((names.map Lexeme.name).intersperse .dot) := by
  rw [toList_referenceText]
  exact WrittenAs.reference nonempty

/-- What stands behind a table begins with a space. -/
theorem SchemaChange.action_head? (change : SchemaChange) :
    (change.action true).toList.head? = some ' ' := by
  have front {text : String} (spaced : text.toList.head? = some ' ') (more : String) :
      (text ++ more).toList.head? = some ' ' := by
    rw [String.toList_append, List.head?_append, spaced, Option.some_or]
  cases change with
  | addColumn column => exact front (front (front (front (by decide) _) _) _) _
  | dropColumn name => exact front (by decide) _
  | renameColumn oldName newName => exact front (front (front (by decide) _) _) _

/-- A change is cut into the names of its table and what its action is cut into. -/
theorem cutInto_text_of_reference {table : String} {names : List String} (nonempty : names ≠ [])
    (written : tableText true table = referenceText names) (change : SchemaChange)
    {lexemes : List Lexeme} (action : CutInto (change.action true).toList lexemes) :
    CutInto (change.text true table).toList
      ([.word "ALTER", .word "TABLE"] ++ (names.map Lexeme.name).intersperse .dot ++ lexemes) := by
  have alterWord : WrittenAs "ALTER".toList [.word "ALTER"] := WrittenAs.word (by decide)
  have tableWord : WrittenAs "TABLE".toList [.word "TABLE"] := WrittenAs.word (by decide)
  have front := alterWord.space (tableWord.space (written_reference nonempty))
  have behind := front (by simp [change.action_head?]) action
  simpa [SchemaChange.text, written] using behind

/-! ## References that are given already -/

/-- Every dot of the name stands between two back-quotes. -/
def DotsEnclosed (name : List Char) : Prop :=
  ∀ before after, name = before ++ '.' :: after →
    before.getLast? = some backQuote ∧ after.head? = some backQuote

/-- A name without a dot has no dot to be enclosed. -/
theorem dotsEnclosed_of_not_mem {name : List Char} (none : '.' ∉ name) : DotsEnclosed name := by
  rintro before after rfl
  exact absurd (by simp) none

/-- The condition at the first dot of a name, and behind it. -/
theorem dotsEnclosed_dot {front behind : List Char} (none : '.' ∉ front) :
    DotsEnclosed (front ++ '.' :: behind) ↔
      front.getLast? = some backQuote ∧ behind.head? = some backQuote ∧ DotsEnclosed behind := by
  constructor
  · intro enclosed
    refine ⟨(enclosed _ _ rfl).1, (enclosed _ _ rfl).2, ?_⟩
    rintro before after rfl
    obtain ⟨last, first⟩ := enclosed (front ++ '.' :: before) after (by simp)
    refine ⟨?_, first⟩
    cases before with
    | nil => simp [backQuote] at last
    | cons c before => simpa using last
  · rintro ⟨last, first, enclosed⟩ before after same
    rcases List.append_eq_append_iff.mp same with ⟨more, rfl, later⟩ | ⟨more, rfl, later⟩
    · cases more with
      | nil =>
          cases later
          exact ⟨by simpa using last, first⟩
      | cons c more =>
          obtain ⟨rfl, rfl⟩ := List.cons.inj later
          obtain ⟨last', first'⟩ := enclosed more after rfl
          exact ⟨by simp [List.getLast?_append, List.getLast?_cons, last'], first'⟩
    · cases more with
      | nil =>
          cases later
          exact ⟨by simpa using last, first⟩
      | cons c more =>
          obtain ⟨rfl, -⟩ := List.cons.inj later
          exact absurd (by simp) none

/-- One back-quote alone is no wrapped text, hence the length. -/
theorem isWrappedIn_iff {quote : Char} {text : List Char} :
    isWrappedIn quote text = true ↔
      2 ≤ text.length ∧ text.head? = some quote ∧ text.getLast? = some quote := by
  cases text with
  | nil => simp [isWrappedIn]
  | cons first rest =>
      cases rest with
      | nil => simp [isWrappedIn]
      | cons second rest => simp [isWrappedIn]

theorem head?_doubled (c : Char) (text : List Char) : (doubled c text).head? = text.head? := by
  cases text with
  | nil => rfl
  | cons d text =>
      rw [doubled, List.flatMap_cons]
      split
      · rename_i same
        rw [same]
        rfl
      · rfl

theorem getLast?_doubled (c : Char) (text : List Char) :
    (doubled c text).getLast? = text.getLast? := by
  rcases List.eq_nil_or_concat text with rfl | ⟨front, d, rfl⟩
  · rfl
  · rw [doubled, List.concat_eq_append, List.flatMap_append, List.flatMap_singleton,
      List.getLast?_append, List.getLast?_append]
    split
    · rename_i same
      rw [same]
      rfl
    · rfl

theorem two_le_length_doubled {c : Char} {text : List Char} (member : c ∈ text) :
    2 ≤ (doubled c text).length := by
  obtain ⟨front, behind, rfl⟩ := List.append_of_mem member
  simp [doubled]
  omega

/-- A stretch of a name in front of a dot. Where the name begins, a back-quote leads. -/
theorem isWrappedIn_inner {lead name : List Char} (leads : lead = [] ∨ lead = [backQuote]) :
    isWrappedIn backQuote (lead ++ doubled backQuote name) = true ↔
      (lead ++ name).head? = some backQuote ∧ name.getLast? = some backQuote := by
  rcases leads with rfl | rfl
  · rw [isWrappedIn_iff]
    simp only [List.nil_append, head?_doubled, getLast?_doubled]
    exact and_iff_right_of_imp fun ends => two_le_length_doubled (List.mem_of_getLast? ends.2)
  · simp [isWrappedIn, getLast?_doubled]

/-- The last stretch of a name, with the back-quote that closes it. -/
theorem isWrappedIn_last {lead name : List Char} (leads : lead = [] ∨ lead = [backQuote]) :
    isWrappedIn backQuote (lead ++ (doubled backQuote name ++ [backQuote])) = true ↔
      (lead ++ name).head? = some backQuote := by
  rcases leads with rfl | rfl
  · have first := head?_doubled backQuote name
    cases spelt : doubled backQuote name with
    | nil => simp [isWrappedIn, ← first, spelt]
    | cons d rest => simp [isWrappedIn, ← first, spelt]
  · simp [isWrappedIn]

/-- The parts of a quoted name begin and end with back-quotes exactly if its dots are enclosed.
Behind the first dot, the rest of the name has no quote in front of it. -/
theorem parts_wrapped_iff {lead : List Char} (leads : lead = [] ∨ lead = [backQuote])
    (name : List Char) :
    (∀ part ∈ (lead ++ (doubled backQuote name ++ [backQuote])).splitOn '.',
        isWrappedIn backQuote part = true) ↔
      (lead ++ name).head? = some backQuote ∧ DotsEnclosed name := by
  have noLead : '.' ∉ lead := by rcases leads with rfl | rfl <;> simp [backQuote]
  by_cases dotted : '.' ∈ name
  · obtain ⟨front, behind, same, apart⟩ := List.eq_append_cons_of_mem dotted
    have shorter : behind.length < name.length := by
      rw [same, List.length_append, List.length_cons]
      omega
    have rest := parts_wrapped_iff (.inl rfl) behind
    rw [List.nil_append, List.nil_append] at rest
    subst same
    have cut : lead ++ (doubled backQuote (front ++ '.' :: behind) ++ [backQuote]) =
        (lead ++ doubled backQuote front) ++ '.' :: (doubled backQuote behind ++ [backQuote]) := by
      simp [doubled, backQuote]
    have inner : '.' ∉ lead ++ doubled backQuote front := by simp [noLead, mem_doubled, apart]
    have first : (lead ++ (front ++ '.' :: behind)).head? = some backQuote ↔
        (lead ++ front).head? = some backQuote := by
      rw [← List.append_assoc]
      cases lead ++ front <;> simp [backQuote]
    rw [cut, List.splitOn_append_cons_self_of_not_mem inner, List.forall_mem_cons, rest,
      isWrappedIn_inner leads, dotsEnclosed_dot apart, first, and_assoc]
  · have whole : '.' ∉ lead ++ (doubled backQuote name ++ [backQuote]) := by
      simp [noLead, mem_doubled, dotted, backQuote]
    rw [List.splitOn_eq_singleton whole, List.forall_mem_singleton, isWrappedIn_last leads]
    exact (and_iff_left (dotsEnclosed_of_not_mem dotted)).symm
termination_by name.length

/-- A reference is kept as it is exactly if each dot in its names stands between two
back-quotes. -/
theorem referenceText_kept_iff {names : List String} (nonempty : names ≠ []) :
    tableText true (referenceText names) = referenceText names ↔
      ∀ name ∈ names, DotsEnclosed name.toList := by
  have quoted : names.map (fun name => backQuoted name.toList) ≠ [] := by simpa using nonempty
  have each (name : String) :
      (∀ part ∈ (backQuoted name.toList).splitOn '.', isWrappedIn backQuote part = true) ↔
        DotsEnclosed name.toList := by
    have parts := parts_wrapped_iff (.inr rfl) name.toList
    simpa [backQuoted] using parts
  rw [← String.toList_inj, toList_tableText, quotedTable_eq_self, toList_referenceText,
    splitOn_intercalate_flatMap '.' quoted, List.forall_mem_flatMap, List.forall_mem_map]
  simp only [each]

/-! ## Any table -/

/-- A table that was written is kept when it is written again, whatever its parts are, so a
change of it has the same text as a change of the table that was given. -/
theorem tableText_idem (table : String) :
    tableText true (tableText true table) = tableText true table ∧
      ∀ change : SchemaChange,
        change.text true (tableText true table) = change.text true table := by
  have again : tableText true (tableText true table) = tableText true table := by
    rw [← String.toList_inj, toList_tableText, toList_tableText, quotedTable_quotedTable]
  refine ⟨again, fun change => ?_⟩
  rw [SchemaChange.text, again, SchemaChange.text]

/-- An empty part, a lone back-quote, and back-quotes inside a part. -/
example : tableText true ".`.a`b.`c``d`" = "``.````.`a``b`.`c``d`" := by decide +kernel

/-- A table is written as a reference with one name for each part exactly if all that is kept of
it are quoted names. Whatever reference is written is cut into its names, also in front of a
change. A reference that is given is kept exactly if each dot in its names stands between two
back-quotes. -/
theorem tableText_reference (table : String) :
    ((∀ part ∈ table.toList.splitOn '.', isWrappedIn backQuote part = true →
          ∃ name, part = backQuoted name) ↔
        ∃ names : List String, names.length = (table.toList.splitOn '.').length ∧
          tableText true table = referenceText names) ∧
      ∀ names : List String, names ≠ [] →
        (tableText true table = referenceText names →
          CutInto (tableText true table).toList ((names.map Lexeme.name).intersperse .dot) ∧
            ∀ (change : SchemaChange) (lexemes : List Lexeme),
              CutInto (change.action true).toList lexemes →
                CutInto (change.text true table).toList ([.word "ALTER", .word "TABLE"] ++
                  (names.map Lexeme.name).intersperse .dot ++ lexemes)) ∧
        (table = referenceText names →
          (tableText true table = table ↔ ∀ name ∈ names, DotsEnclosed name.toList)) := by
  refine ⟨reference_iff, fun names nonempty => ⟨fun written => ?_, ?_⟩⟩
  · rw [written]
    refine ⟨(written_reference nonempty).cutInto, fun change lexemes action => ?_⟩
    exact cutInto_text_of_reference nonempty written change action
  · rintro rfl
    exact referenceText_kept_iff nonempty

theorem tableText_reference_mixed :
    (∀ part ∈ "`a``b`.c".toList.splitOn '.', isWrappedIn backQuote part = true →
        ∃ name, part = backQuoted name) ∧
      CutInto ((SchemaChange.dropColumn "x").text true "`a``b`.c").toList
        [.word "ALTER", .word "TABLE", .name "a`b", .dot, .name "c", .word "DROP",
          .word "COLUMN", .name "x"] ∧
      tableText true "`a`.`b``.``c`" = "`a`.`b``.``c`" ∧ DotsEnclosed "b`.`c".toList := by
  have written : tableText true "`a``b`.c" = referenceText ["a`b", "c"] := by decide +kernel
  have action : CutInto ((SchemaChange.dropColumn "x").action true).toList
      [.word "DROP", .word "COLUMN", .name "x"] := cutInto_of_toOption (by decide +kernel)
  have kept : tableText true "`a`.`b``.``c`" = "`a`.`b``.``c`" := by decide +kernel
  obtain ⟨parts, mixed⟩ := tableText_reference "`a``b`.c"
  have cut := ((mixed ["a`b", "c"] (by simp)).1 written).2 _ _ action
  have enclosed := (((tableText_reference "`a`.`b``.``c`").2 ["a", "b`.`c"] (by simp)).2
    (by decide +kernel)).mp kept
  exact ⟨parts.mpr ⟨["a`b", "c"], by decide +kernel, written⟩, cut, kept,
    enclosed "b`.`c" (by simp)⟩

/-- A quoted name with a dot is torn into two, and a text that is none is kept because it looks
like one. -/
theorem torn_reference :
    (referenceText ["a.b"] = "`a.b`" ∧ tableText true "`a.b`" = "```a`.`b```") ∧
      tableText true "`a`b`" = "`a`b`" ∧
        tokenize "`a`b`" = .error ⟨.unterminated .quotedIdentifier, 1, 5⟩ := by
  decide +kernel

end AlterRelay.Doris
