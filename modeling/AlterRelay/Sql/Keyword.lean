/-
# AlterRelay.Sql.Keyword — the words with a meaning of their own

Keywords are contextual: a keyword is still a word, and a column may be called
by one. A word is a keyword if it is spelt like it in any case of its ASCII
letters (`ofWord?_eq_some`).
-/
namespace AlterRelay.Sql

set_option autoImplicit false

inductive Keyword where
  | alter | table | ifWord | existsWord
  | add | drop | change | rename | modify
  | column | toWord | asWord
  | index | key | primary | unique | fulltext | spatial | constraint | foreign | check | partition
  | character | charset | set
  | unsigned | signed | zerofill | precision | varying
  deriving DecidableEq, Repr

namespace Keyword

def spelling : Keyword → String
  | alter => "ALTER"
  | table => "TABLE"
  | ifWord => "IF"
  | existsWord => "EXISTS"
  | add => "ADD"
  | drop => "DROP"
  | change => "CHANGE"
  | rename => "RENAME"
  | modify => "MODIFY"
  | column => "COLUMN"
  | toWord => "TO"
  | asWord => "AS"
  | index => "INDEX"
  | key => "KEY"
  | primary => "PRIMARY"
  | unique => "UNIQUE"
  | fulltext => "FULLTEXT"
  | spatial => "SPATIAL"
  | constraint => "CONSTRAINT"
  | foreign => "FOREIGN"
  | check => "CHECK"
  | partition => "PARTITION"
  | character => "CHARACTER"
  | charset => "CHARSET"
  | set => "SET"
  | unsigned => "UNSIGNED"
  | signed => "SIGNED"
  | zerofill => "ZEROFILL"
  | precision => "PRECISION"
  | varying => "VARYING"

def all : List Keyword :=
  [alter, table, ifWord, existsWord, add, drop, change, rename, modify, column, toWord, asWord,
    index, key, primary, unique, fulltext, spatial, constraint, foreign, check, partition,
    character, charset, set, unsigned, signed, zerofill, precision, varying]

theorem mem_all (keyword : Keyword) : keyword ∈ all := by
  cases keyword <;> decide

theorem spelling_injective {a b : Keyword} (same : a.spelling = b.spelling) : a = b := by
  have table : ∀ a ∈ all, ∀ b ∈ all, a.spelling = b.spelling → a = b := by decide +kernel
  exact table a (mem_all a) b (mem_all b) same

/-- The keyword that a word spells. -/
def ofWord? (word : String) : Option Keyword :=
  all.find? fun keyword => keyword.spelling == word.toUpper

theorem ofWord?_eq_some {word : String} {keyword : Keyword} :
    ofWord? word = some keyword ↔ word.toUpper = keyword.spelling := by
  constructor
  · intro found
    unfold ofWord? at found
    have matched := List.find?_some found
    exact (eq_of_beq matched).symm
  · intro spelt
    unfold ofWord?
    rw [spelt]
    have matched : ∃ k ∈ all, (k.spelling == keyword.spelling) = true :=
      ⟨keyword, mem_all keyword, by simp⟩
    obtain ⟨k, hk⟩ := Option.isSome_iff_exists.mp (List.find?_isSome.mpr matched)
    have same : k.spelling = keyword.spelling := by simpa using List.find?_some hk
    rw [hk, spelling_injective same]

/-- The attributes of a numeric or character type, written after its name. -/
def isTypeModifier : Keyword → Bool
  | unsigned | signed | zerofill | precision | varying => true
  | _ => false

end Keyword

end AlterRelay.Sql
