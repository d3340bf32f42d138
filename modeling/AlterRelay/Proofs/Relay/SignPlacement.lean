/-
# AlterRelay.Proofs.Relay.SignPlacement — where a sign is told means nothing

A type is resolved by the words of its name that tell no sign and by whether it is
unsigned. So the words about the sign of an added column may be written in any
order, on either side of its arguments, in any case and any spacing: the statement
is relayed to the same changes, or refused with the same error (`relay_signs`).
-/
import AlterRelay.Proofs.Relay.Composition
import AlterRelay.Proofs.Relay.Respaced
import AlterRelay.Proofs.Sql.SignedAddition

namespace AlterRelay.Relay

open AlterRelay.Source
open AlterRelay.Sql
open AlterRelay.Text

set_option autoImplicit false

variable {config : Config} {connector : Connector}

/-! ## Clauses -/

theorem targetType_sameButSigns {definition definition' : ColumnDefinition}
    (same : definition.SameButSigns definition') :
    targetType TypeResolver.doris connector definition =
      targetType TypeResolver.doris connector definition' := by
  have sizes : sizesOf definition = sizesOf definition' := by
    rw [sizesOf, sizesOf, same.type.arguments, same.name]
  rw [targetType, targetType, sizes]
  simp only [doris_of_sameType same.type.name, same.name]

theorem alterationRun_sameButSigns {definition definition' : ColumnDefinition}
    (same : definition.SameButSigns definition') (declarations : Nat) :
    Engine.alterationRun { config } connector (.add definition declarations) =
      Engine.alterationRun { config } connector (.add definition' declarations) := by
  have surplus : surplusEntries definition declarations =
      surplusEntries definition' declarations := by
    rw [surplusEntries, surplusEntries, same.name]
  have added : addedEntries definition = addedEntries definition' := by
    funext type
    simp only [addedEntries, danglingEntries, newColumn, same.name, same.specs]
  rw [Engine.alterationRun, Engine.alterationRun, targetType_sameButSigns same, surplus, added]

theorem clauseRun_sameButSigns {clause clause' : Clause} (same : clause.SameButSigns clause') :
    Engine.clauseRun { config } connector clause =
      Engine.clauseRun { config } connector clause' := by
  cases same with
  | same => rfl
  | @added column definitions definitions' all =>
      cases all with
      | nil => rfl
      | @cons first first' others others' same all =>
          have counted : (first :: others).length = (first' :: others').length := by
            rw [List.length_cons, List.length_cons, all.length_eq]
          show Engine.alterationRun _ _ (.add first (first :: others).length) =
            Engine.alterationRun _ _ (.add first' (first' :: others').length)
          rw [counted]
          exact alterationRun_sameButSigns same _

/-! ## Statements -/

/-- Clauses that differ in signs alone are relayed alike. -/
theorem relay_sameButSigns {source source' : String} {statement statement' : Statement}
    (read : Statement.parse source = .ok statement)
    (read' : Statement.parse source' = .ok statement') (same : statement.SameButSigns statement')
    (table : String) :
    Engine.relay { config } connector source table =
      Engine.relay { config } connector source' table := by
  obtain ⟨name, ifExists, all⟩ := same
  rename_i clauses clauses'
  have relayed : Engine.relay { config } connector source table = _ :=
    Engine.relay_of_parse read table ""
  have relayed' : Engine.relay { config } connector source' table = _ :=
    Engine.relay_of_parse read' table ""
  have outcomes : (clauses.mapM fun clause => (Engine.clauseRun { config } connector clause).outcome
        (Engine.telling { config } "" table)) =
      clauses'.mapM fun clause => (Engine.clauseRun { config } connector clause).outcome
        (Engine.telling { config } "" table) := by
    clear read read' relayed relayed'
    induction all with
    | nil => rfl
    | cons first others ih =>
        rw [List.mapM_cons, List.mapM_cons, clauseRun_sameButSigns first, ih]
  rw [relayed, relayed', outcomes]

/-- Sources whose tokens spell the same but for signs are relayed alike. -/
theorem sameResult_of_agree {source source' : String}
    {spelt spelt' : Except ParseError Statement} (agree : Agree Statement.SameButSigns spelt spelt')
    (read : (Statement.parse source).mapError ParseError.unplaced =
      spelt.mapError ParseError.unplaced)
    (read' : (Statement.parse source').mapError ParseError.unplaced =
      spelt'.mapError ParseError.unplaced) (table : String) :
    SameResult (Engine.relay { config } connector source table)
      (Engine.relay { config } connector source' table) := by
  cases agree with
  | error error =>
      exact sameResult_of_parse (read.trans read'.symm) TypeResolver.doris config connector table
  | ok values =>
      rw [relay_sameButSigns (eq_ok_of_mapError read) (eq_ok_of_mapError read') values table]
      exact SameResult.refl _

/-- Type names that say the same are resolved alike. So a column may be added with the words
about the sign of its type anywhere around its arguments. -/
theorem relay_signs :
    (∀ {name name' : String}, SameType name name' →
      ∀ (connector : Connector) (length scale : Option UInt32),
        TypeResolver.doris connector name length scale =
          TypeResolver.doris connector name' length scale) ∧
      ∀ (front : AdditionFront) {type type' : SignedType}, type.SameButSigns type' →
        ∀ {behind : List Lexeme} {source source' : String},
          CutInto source.toList (front.lexemes ++ (type.lexemes ++ behind)) →
          CutInto source'.toList (front.lexemes ++ (type'.lexemes ++ behind)) →
          ∀ (config : Config) (connector : Connector) (table : String),
            SameResult (Engine.relay { config } connector source table)
              (Engine.relay { config } connector source' table) := by
  refine ⟨doris_of_sameType, ?_⟩
  intro front type type' same behind source source' cut cut' config connector table
  have agree := ofTokens_addition front same (behind.map Lexeme.token ++ [Token.finish])
  have read := parse_unplaced cut
  have read' := parse_unplaced cut'
  simp only [List.map_append, List.append_assoc] at read read'
  exact sameResult_of_agree agree read read' table

def unsignedFront : AdditionFront where
  semicolons := 0
  alter := Keyword.capitals .alter
  table := Keyword.capitals .table
  ifExists := none
  names := [.word "shop", .quoted "t"]
  named := List.cons_ne_nil _ _
  clauses := [⟨[.word "DROP", .word "x"], { operation := .drop, column := "x" }, by decide +kernel⟩]
  column :=
    { add := Keyword.capitals .add
      column := some (Keyword.capitals .column)
      listed := none
      name := .word "index"
      apart := fun bare => by cases bare }
  apart := by decide +kernel

def wordUnsigned : SignWord := ⟨"unsigned", by decide, .unsigned, by decide +kernel, rfl⟩

def wordZerofill : SignWord := ⟨"ZEROFILL", by decide, .zerofill, by decide +kernel, rfl⟩

/-- A type with one word about its sign on either side. -/
def signsAround : SignedType where
  word := ⟨"TINYINT", by decide, trivial⟩
  before := [wordUnsigned]
  inside := [.number "1"]
  behind := [wordZerofill]
  plain := by decide

/-- The same type with both of the words behind. -/
def signsBehind : SignedType where
  word := ⟨"tinyint", by decide, trivial⟩
  before := []
  inside := [.number "1"]
  behind := [wordZerofill, wordUnsigned]
  plain := by decide

def aroundSource : String :=
  "ALTER TABLE shop.`t` DROP x, ADD COLUMN index TINYINT unsigned(1)ZEROFILL NOT NULL"

def behindSource : String :=
  "ALTER TABLE shop . `t` DROP x,ADD COLUMN index tinyint ( 1 ) ZEROFILL unsigned NOT NULL"

theorem relay_signs_unsigned :
    SameType "TINYINT unsigned ZEROFILL" "tinyint ZEROFILL unsigned" ∧
      TypeResolver.doris .mysql "TINYINT unsigned ZEROFILL" (some 1) none =
        TypeResolver.doris .mysql "tinyint ZEROFILL unsigned" (some 1) none ∧
      Engine.relay {} .mysql aroundSource "t" =
        .ok ⟨["ALTER TABLE `t` DROP COLUMN `x`", "ALTER TABLE `t` ADD COLUMN `index` SMALLINT"],
          []⟩ ∧
      SameResult (Engine.relay {} .mysql aroundSource "t")
        (Engine.relay {} .mysql behindSource "t") := by
  have capitals : "TINYINT".toUpper = "TINYINT" := by decide +kernel
  have letters : "tinyint".toUpper = "TINYINT" := by decide +kernel
  have same : signsAround.SameButSigns signsBehind :=
    .of_perm (sameIgnoringCase_iff.mpr (capitals.trans letters.symm)) rfl (.swap _ _ [])
  have alike : SameType "TINYINT unsigned ZEROFILL" "tinyint ZEROFILL unsigned" := by
    have around : " ".intercalate (signsAround.word.text :: (signsAround.signs ++ [])) =
        "TINYINT unsigned ZEROFILL" := by decide +kernel
    have behind : " ".intercalate (signsBehind.word.text :: (signsBehind.signs ++ [])) =
        "tinyint ZEROFILL unsigned" := by decide +kernel
    rw [← around, ← behind]
    exact same.sameType (by simp)
  have cut : CutInto aroundSource.toList
      (unsignedFront.lexemes ++ (signsAround.lexemes ++ [.word "NOT", .word "NULL"])) :=
    cutInto_of_toOption (by decide +kernel)
  have cut' : CutInto behindSource.toList
      (unsignedFront.lexemes ++ (signsBehind.lexemes ++ [.word "NOT", .word "NULL"])) :=
    cutInto_of_toOption (by decide +kernel)
  refine ⟨alike, relay_signs.1 alike .mysql (some 1) none, by decide +kernel, ?_⟩
  exact relay_signs.2 unsignedFront same cut cut' {} .mysql "t"

end AlterRelay.Relay
