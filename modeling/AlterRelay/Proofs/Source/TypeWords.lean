/-
# AlterRelay.Proofs.Source.TypeWords — what a type name says

A type name is a list of words. Whichever words it holds to tell the sign, and
wherever they stand, all that is asked of it is the list of the other words, in any
case, and whether it is unsigned (`ofText_of_sameType`). So two names that agree in
these two are resolved alike.

The words of a name are those it was put together from, as long as no blank stands
in one of them (`nameWords_intercalate`).
-/
import AlterRelay.Proofs.Sql.Written
import AlterRelay.Proofs.Text.Splitting
import AlterRelay.Source.TypeResolver
import AlterRelay.Text.LetterCase
import Mathlib.Data.List.Forall2

namespace AlterRelay.Source

open AlterRelay.Text

set_option autoImplicit false

/-! ## Words -/

/-- The words of a type name, as they are spelt. -/
def nameWords (name : String) : List String := (words name.toList).map String.ofList

/-- `UNSIGNED` or `ZEROFILL`, in any case. -/
def tellsUnsigned (word : String) : Bool :=
  sameIgnoringCase word "UNSIGNED" || sameIgnoringCase word "ZEROFILL"

/-- A word that is no part of the name of the type itself. -/
def tellsSign (word : String) : Bool := tellsUnsigned word || sameIgnoringCase word "SIGNED"

/-- The words of a type name that do not tell its sign. -/
def baseWords (name : String) : List String :=
  (nameWords name).filter fun word => !tellsSign word

/-- Whether some word of the name makes the type unsigned. -/
def isUnsignedName (name : String) : Bool := (nameWords name).any tellsUnsigned

/-- The same base words in any case, and the same sign. -/
structure SameType (name name' : String) : Prop where
  base : List.Forall₂ (fun word word' => sameIgnoringCase word word' = true) (baseWords name)
    (baseWords name')
  sign : isUnsignedName name = isUnsignedName name'

theorem SameType.refl (name : String) : SameType name name :=
  ⟨List.forall₂_same.mpr fun _ _ => sameIgnoringCase_iff.mpr rfl, rfl⟩

/-! ## Letter case -/

/-- Only letters are changed, and no letter is blank. -/
theorem isBlank_toUpper (c : Char) : isBlank c.toUpper = isBlank c := by
  by_cases lower : 'a'.val ≤ c.val ∧ c.val ≤ 'z'.val
  · have checked : ∀ code ∈ List.range' 97 26,
        isBlank (Char.ofNat code).toUpper = isBlank (Char.ofNat code) := by decide
    have bounds : 97 ≤ c.toNat ∧ c.toNat ≤ 122 := by
      simpa [UInt32.le_iff_toNat_le] using lower
    have listed : c.toNat ∈ List.range' 97 26 := by
      rw [List.mem_range'_1]
      omega
    simpa using checked c.toNat listed
  · rw [show c.toUpper = c from dif_neg lower]

/-- Words are the same whether they are capitalised before or after they are split. -/
theorem words_toUpper (text : List Char) :
    words (text.map Char.toUpper) = (words text).map (List.map Char.toUpper) := by
  unfold words
  rw [splitOnP_map isBlank_toUpper, List.filter_map]
  congr 1
  exact List.filter_congr fun word _ => by simp

/-- The words by which a type is resolved are the capitalised words of its name. -/
theorem typeWords_eq (name : String) :
    typeWords name = (nameWords name).map String.toUpper := by
  unfold typeWords nameWords
  rw [String.toUpper, String.toList_map, words_toUpper, List.map_map, List.map_map]
  refine List.map_congr_left fun word _ => String.toList_inj.mp ?_
  simp [String.toUpper]

theorem isUnsignedWord_toUpper (word : String) :
    isUnsignedWord word.toUpper = tellsUnsigned word := by
  have unsigned : "UNSIGNED".toUpper = "UNSIGNED" := by decide +kernel
  have zerofill : "ZEROFILL".toUpper = "ZEROFILL" := by decide +kernel
  rw [isUnsignedWord, tellsUnsigned, sameIgnoringCase, sameIgnoringCase, unsigned, zerofill]

theorem isSignWord_toUpper (word : String) : isSignWord word.toUpper = tellsSign word := by
  have signed : "SIGNED".toUpper = "SIGNED" := by decide +kernel
  rw [isSignWord, tellsSign, isUnsignedWord_toUpper, sameIgnoringCase, signed]

/-! ## Names that say the same -/

/-- All that is kept of a name: its words that tell no sign, and whether it is unsigned. -/
theorem ofText_eq (name : String) (length scale : Option UInt32) :
    DeclaredType.ofText name length scale =
      ⟨" ".intercalate ((baseWords name).map String.toUpper), isUnsignedName name, length,
        scale⟩ := by
  have base : (typeWords name).filter (fun word => !isSignWord word) =
      (baseWords name).map String.toUpper := by
    rw [typeWords_eq, List.filter_map]
    exact congrArg _ (List.filter_congr fun word _ => by simp [isSignWord_toUpper])
  have sign : (typeWords name).any isUnsignedWord = isUnsignedName name := by
    rw [typeWords_eq, List.any_map]
    exact congrArg _ (funext isUnsignedWord_toUpper)
  rw [DeclaredType.ofText, base, sign]

/-- So names that say the same are declared alike. -/
theorem ofText_of_sameType {name name' : String} (same : SameType name name')
    (length scale : Option UInt32) :
    DeclaredType.ofText name length scale = DeclaredType.ofText name' length scale := by
  have base : (baseWords name).map String.toUpper = (baseWords name').map String.toUpper := by
    rw [← List.forall₂_eq_eq_eq, List.forall₂_map_left_iff, List.forall₂_map_right_iff]
    exact same.base.imp fun _ _ => sameIgnoringCase_iff.mp
  rw [ofText_eq, ofText_eq, base, same.sign]

theorem doris_of_sameType {name name' : String} (same : SameType name name')
    (connector : Connector) (length scale : Option UInt32) :
    TypeResolver.doris connector name length scale =
      TypeResolver.doris connector name' length scale := by
  unfold TypeResolver.doris
  rw [ofText_of_sameType same]

/-! ## Names put together from words -/

/-- A blank belongs to no word. -/
theorem words_append_blank {z : Char} (blank : isBlank z = true) (text rest : List Char) :
    words (text ++ z :: rest) = words text ++ words rest := by
  unfold words
  rw [List.splitOnP_append_cons text rest blank, List.filter_append]

theorem words_solid {word : List Char} (nonempty : word ≠ [])
    (solid : ∀ c ∈ word, isBlank c = false) : words word = [word] := by
  unfold words
  rw [List.splitOnP_eq_singleton solid]
  simp [nonempty]

/-- Words joined by spaces are split again. -/
theorem words_intercalate {spelt : List (List Char)}
    (solid : ∀ word ∈ spelt, word ≠ [] ∧ ∀ c ∈ word, isBlank c = false) :
    words ([' '].intercalate spelt) = spelt := by
  induction spelt with
  | nil => rfl
  | cons first spelt ih =>
      obtain ⟨⟨nonempty, solidFirst⟩, others⟩ := List.forall_mem_cons.mp solid
      cases spelt with
      | nil => simpa [List.intercalate] using words_solid nonempty solidFirst
      | cons second spelt =>
          have split := words_append_blank (z := ' ') (by decide) first
            ([' '].intercalate (second :: spelt))
          rw [words_solid nonempty solidFirst, ih others] at split
          simpa [List.intercalate] using split

theorem nameWords_intercalate {spelt : List String}
    (solid : ∀ word ∈ spelt, word.toList ≠ [] ∧ ∀ c ∈ word.toList, isBlank c = false) :
    nameWords (" ".intercalate spelt) = spelt := by
  have each : words (" ".intercalate spelt).toList = spelt.map String.toList := by
    rw [String.toList_intercalate]
    exact words_intercalate (List.forall_mem_map.mpr solid)
  rw [nameWords, each, List.map_map]
  exact List.map_id'' (fun word => String.ofList_toList) spelt

end AlterRelay.Source
