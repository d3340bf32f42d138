/-
# AlterRelay.Proofs.Text.Splitting — what a list is split into

A type name is split at blanks, the arguments of a type at commas and a table name at
dots. Each part is a part of the list (`subset_of_mem_splitOnP`) and holds no
separator (`not_separator_of_mem_splitOnP`).

Lists that are joined are split into what each of them is split into
(`splitOn_intercalate_flatMap`). If that gives no more parts than there were lists,
none of them holds the separator (`not_mem_of_length_splitOn`).
-/
namespace AlterRelay.Text

set_option autoImplicit false

variable {α : Type}

/-! ## Parts -/

/-- A first element is a separator, with nothing in front, or it stands in front of a part. -/
theorem mem_splitOnP_cons {p : α → Bool} {a : α} {list part : List α}
    (member : part ∈ (a :: list).splitOnP p) :
    part = [] ∨ part ∈ list.splitOnP p ∨
      p a = false ∧ ∃ first ∈ list.splitOnP p, part = a :: first := by
  rw [List.splitOnP_cons_eq_if_modifyHead] at member
  split at member
  · rcases List.mem_cons.mp member with empty | later
    · exact .inl empty
    · exact .inr (.inl later)
  · rename_i other
    cases parts : list.splitOnP p with
    | nil => exact absurd parts (List.splitOnP_ne_nil _ _)
    | cons first others =>
        rw [parts, List.modifyHead_cons] at member
        rcases List.mem_cons.mp member with here | later
        · exact .inr (.inr ⟨by simpa using other, first, List.mem_cons_self, here⟩)
        · exact .inr (.inl (List.mem_cons_of_mem _ later))

theorem subset_of_mem_splitOnP {p : α → Bool} {list part : List α}
    (member : part ∈ list.splitOnP p) : part ⊆ list := by
  induction list generalizing part with
  | nil => simp_all
  | cons a list ih =>
      rcases mem_splitOnP_cons member with rfl | later | ⟨-, first, here, rfl⟩
      · exact List.nil_subset _
      · exact List.Subset.trans (ih later) (List.subset_cons_self _ _)
      · exact List.cons_subset_cons _ (ih here)

theorem not_separator_of_mem_splitOnP {p : α → Bool} {list part : List α}
    (member : part ∈ list.splitOnP p) : ∀ a ∈ part, p a = false := by
  induction list generalizing part with
  | nil => simp_all
  | cons a list ih =>
      rcases mem_splitOnP_cons member with rfl | later | ⟨other, first, here, rfl⟩
      · simp
      · exact ih later
      · exact List.forall_mem_cons.mpr ⟨other, ih here⟩

/-- What keeps every separator and makes no other commutes with splitting. -/
theorem splitOnP_map {p : α → Bool} {f : α → α} (kept : ∀ a, p (f a) = p a) (list : List α) :
    (list.map f).splitOnP p = (list.splitOnP p).map (List.map f) := by
  induction list with
  | nil => simp
  | cons a list ih =>
      rw [List.map_cons, List.splitOnP_cons_eq_if_modifyHead,
        List.splitOnP_cons_eq_if_modifyHead, kept, ih]
      split
      · simp
      · cases List.splitOnP p list <;> simp

/-! ## Joined lists -/

variable [BEq α] [LawfulBEq α]

theorem not_mem_of_mem_splitOn {a : α} {list part : List α} (member : part ∈ list.splitOn a) :
    a ∉ part := by
  intro inside
  simpa using not_separator_of_mem_splitOnP member a inside

theorem length_splitOn (a : α) (list : List α) :
    (list.splitOn a).length = list.count a + 1 := by
  induction list with
  | nil => rfl
  | cons b list ih =>
      rw [List.splitOn_cons_eq_if_modifyHead, List.count_cons]
      by_cases same : b = a <;> simp [same, ih]

theorem splitOn_intercalate_flatMap (a : α) {lists : List (List α)} (nonempty : lists ≠ []) :
    ([a].intercalate lists).splitOn a = lists.flatMap (List.splitOn a) := by
  induction lists with
  | nil => exact absurd rfl nonempty
  | cons first lists ih =>
      cases lists with
      | nil => simp [List.intercalate]
      | cons second lists =>
          have joined : [a].intercalate (first :: second :: lists) =
              first ++ a :: [a].intercalate (second :: lists) := by
            simp [List.intercalate]
          rw [joined, List.splitOn_append_cons_self, ih (List.cons_ne_nil _ _)]
          rfl

theorem length_flatMap_splitOn (a : α) (lists : List (List α)) :
    (lists.flatMap (List.splitOn a)).length = lists.length + lists.flatten.count a := by
  induction lists with
  | nil => rfl
  | cons list lists ih =>
      simp only [List.flatMap_cons, List.length_append, length_splitOn, ih, List.length_cons,
        List.flatten_cons, List.count_append]
      omega

/-- Lists that are joined and split into as many parts again hold no separator. -/
theorem not_mem_of_length_splitOn {a : α} {lists : List (List α)} (nonempty : lists ≠ [])
    (asMany : (([a].intercalate lists).splitOn a).length = lists.length) :
    ∀ list ∈ lists, a ∉ list := by
  rw [splitOn_intercalate_flatMap a nonempty, length_flatMap_splitOn] at asMany
  have none : a ∉ lists.flatten := List.count_eq_zero.mp (by omega)
  exact fun list member inside => none (List.mem_flatten_of_mem member inside)

end AlterRelay.Text
