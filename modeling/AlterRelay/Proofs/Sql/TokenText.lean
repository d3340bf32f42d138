/-
# AlterRelay.Proofs.Sql.TokenText — no token begins or ends with a blank

Blanks stand between tokens, and inside of quotes. So the text of a token begins and
ends with a character that is no blank (`Lexeme.IsWhole.hasEnds`). The same holds of
several such texts with one blank between any two of them (`HasEnds.intercalate`), as
an argument of a type consists of, and nothing is trimmed off it.
-/
import AlterRelay.Proofs.Sql.Form

namespace AlterRelay.Sql

open AlterRelay.Text

set_option autoImplicit false

/-! ## Texts -/

/-- A text with a first and a last character that are no blanks. -/
structure HasEnds (text : List Char) : Prop where
  nonempty : text ≠ []
  first : ∀ c ∈ text.head?, isBlank c = false
  last : ∀ c ∈ text.getLast?, isBlank c = false

namespace HasEnds

variable {text text' : List Char}

theorem of_forall (nonempty : text ≠ []) (solid : ∀ c ∈ text, isBlank c = false) :
    HasEnds text where
  nonempty := nonempty
  first c member := solid c (List.mem_of_mem_head? member)
  last c member := solid c (List.mem_of_mem_getLast? member)

theorem append (front : HasEnds text) (back : HasEnds text') (between : List Char) :
    HasEnds (text ++ (between ++ text')) where
  nonempty := by simp [front.nonempty]
  first := by
    rw [List.head?_append_of_ne_nil _ front.nonempty]
    exact front.first
  last := by
    rw [← List.append_assoc, List.getLast?_append_of_ne_nil _ back.nonempty]
    exact back.last

theorem dropWhile_eq (first : ∀ c ∈ text.head?, isBlank c = false) :
    text.dropWhile isBlank = text := by
  cases text with
  | nil => rfl
  | cons c text => exact List.dropWhile_cons_of_neg (by simp [first c rfl])

theorem trimBlank_eq (ends : HasEnds text) : trimBlank text = text := by
  have back : ∀ c ∈ text.reverse.head?, isBlank c = false := by
    rw [List.head?_reverse]
    exact ends.last
  rw [trimBlank, dropWhile_eq ends.first, dropWhile_eq back, List.reverse_reverse]

theorem intercalate {texts : List (List Char)} (nonempty : texts ≠ [])
    (each : ∀ text ∈ texts, HasEnds text) (between : List Char) :
    HasEnds (between.intercalate texts) := by
  induction texts with
  | nil => exact absurd rfl nonempty
  | cons first texts ih =>
      obtain ⟨here, others⟩ := List.forall_mem_cons.mp each
      cases texts with
      | nil => simpa using here
      | cons second texts =>
          simpa using here.append (ih (List.cons_ne_nil _ _) others) between

end HasEnds

/-! ## Tokens -/

theorem solid_of_isDigit {c : Char} (digit : c.isDigit = true) : isBlank c = false := by
  by_contra blank
  rw [isDigit_of_isBlank (by simpa using blank)] at digit
  cases digit

theorem numberTail_solid (text : List Char) : ∀ c ∈ (numberTail text).1, isBlank c = false := by
  have digits : ∀ text : List Char, ∀ c ∈ text.takeWhile Char.isDigit, isBlank c = false :=
    fun text c member => solid_of_isDigit (List.mem_takeWhile_imp member)
  have point : isBlank '.' = false := by decide
  unfold numberTail
  split
  · split
    · exact List.forall_mem_append.mpr ⟨digits _, List.forall_mem_cons.mpr ⟨point, digits _⟩⟩
    · exact digits _
  · exact digits _

/-- A quoted text ends with its quote. -/
theorem quotedTail_getLast? {quote : Char} {text : List Char} {tail : QuotedTail}
    (closed : quotedTail quote text = some tail) : tail.raw.getLast? = some quote := by
  have pushed : ∀ {inner : Option QuotedTail} {tail : QuotedTail} {c : Char} {written : List Char},
      (∀ {t}, inner = some t → t.raw.getLast? = some quote) →
        inner.map (·.push c written) = some tail → tail.raw.getLast? = some quote := by
    intro inner tail c written last pushed
    obtain ⟨t, same, rfl⟩ := Option.map_eq_some_iff.mp pushed
    simp [QuotedTail.push, List.getLast?_append, last same]
  fun_induction quotedTail quote text generalizing tail with
  | case1 => cases closed
  | case2 =>
      cases closed
      rfl
  | case3 => cases closed
  | case4 rest ih => exact pushed ih closed
  | case5 =>
      cases closed
      rfl
  | case6 c d rest _ _ ih => exact pushed ih closed
  | case7 c d rest _ _ ih => exact pushed ih closed

theorem hasEnds_of_lexeme {c : Char} {rest behind : List Char} {cut : Lexeme}
    (found : lexeme c rest = .ok (cut, behind)) : HasEnds cut.raw := by
  cases cutOff_of_lexeme found with
  | word start =>
      refine .of_forall (List.cons_ne_nil _ _) (List.forall_mem_cons.mpr ⟨?_, ?_⟩)
      · exact solid_of_isWordPart (isWordPart_of_isWordStart start)
      · exact fun c member => solid_of_isWordPart (List.mem_takeWhile_imp member)
  | number digit =>
      refine .of_forall (List.cons_ne_nil _ _)
        (List.forall_mem_cons.mpr ⟨?_, numberTail_solid rest⟩)
      rcases digit with digit | ⟨rfl | rfl, -⟩
      · exact solid_of_isDigit digit
      · decide
      · decide
  | sign sign =>
      have here : isBlank c = false := by rcases sign with rfl | rfl <;> decide
      exact .of_forall (List.cons_ne_nil _ _) (by simpa using here)
  | @quoted what kind tail meaning closed =>
      have quote : isBlank c = false := by
        rcases isQuote_of_quoteMeaning? meaning with rfl | rfl | rfl <;> decide
      have last : (c :: tail.raw).getLast? = some c := by
        rw [List.getLast?_cons, quotedTail_getLast? closed]
        rfl
      refine ⟨List.cons_ne_nil _ _, by simpa using quote, fun d member => ?_⟩
      rw [last] at member
      exact Option.some.inj member ▸ quote
  | comparison compares =>
      have here : isBlank c = false := by
        simp only [isComparison, Bool.or_eq_true, beq_iff_eq] at compares
        rcases compares with ((rfl | rfl) | rfl) | rfl <;> decide
      have second : ∀ d ∈ (comparisonTail c rest).1, d = '=' ∨ d = '>' := by
        unfold comparisonTail
        split
        · simp
        · split <;> simp
        · simp
      refine .of_forall (List.cons_ne_nil _ _) (List.forall_mem_cons.mpr ⟨here, ?_⟩)
      intro d member
      rcases second d member with rfl | rfl <;> decide
  | mark mark =>
      have here : isBlank c = false := by
        unfold punctuation? at mark
        split at mark <;> first | decide | cases mark
      exact .of_forall (List.cons_ne_nil _ _) (by simpa using here)

theorem Lexeme.IsWhole.hasEnds {lexeme : Lexeme} (whole : lexeme.IsWhole) :
    HasEnds lexeme.text.toList := by
  rw [Lexeme.text, String.toList_ofList]
  exact CutInto.forall_lexemes whole hasEnds_of_lexeme lexeme List.mem_cons_self

/-- Nothing is trimmed off the text of an argument. -/
theorem ArgumentForm.trimBlank_text (form : ArgumentForm) :
    trimBlank form.text.toList = form.text.toList := by
  have ends : HasEnds form.text.toList := by
    rw [ArgumentForm.text, String.toList_intercalate]
    refine .intercalate (by simpa using form.nonempty) ?_ _
    refine List.forall_mem_map.mpr (List.forall_mem_map.mpr fun lexeme member => ?_)
    exact (form.whole lexeme member).hasEnds
  exact ends.trimBlank_eq

end AlterRelay.Sql
