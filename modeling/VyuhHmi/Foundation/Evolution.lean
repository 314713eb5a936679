import Mathlib.Data.List.Forall2

/-!
# Lists of records that change in place and grow at the end

What a table's life does to its rows: every row stays at its place, changed or not, and new rows
come after all others.  A step is described by the changes that it may make to a row and by the
rows that it may add; such descriptions compose, and they answer where a row of the later list
comes from and what has become of a row of the earlier one.
-/

namespace Evolution

variable {Row : Type*} {Change Change' Change'' : Row → Row → Prop}
  {Added Added' Added'' : Row → Prop}
  {rows rows' rows'' : List Row}

/-- The rows of the first list, each changed, followed by added ones. -/
def Evolves (Change : Row → Row → Prop) (Added : Row → Prop) (rows rows' : List Row) : Prop :=
  ∃ kept added, rows' = kept ++ added ∧ List.Forall₂ Change rows kept ∧ ∀ row ∈ added, Added row

theorem Evolves.refl (hrefl : ∀ row, Change row row) (rows : List Row) :
    Evolves Change Added rows rows :=
  ⟨rows, [], (List.append_nil rows).symm, List.forall₂_same.mpr fun row _ ↦ hrefl row, nofun⟩

/-- Rows are added. -/
theorem Evolves.append (hrefl : ∀ row, Change row row) {added : List Row}
    (hadded : ∀ row ∈ added, Added row) : Evolves Change Added rows (rows ++ added) :=
  ⟨rows, added, rfl, List.forall₂_same.mpr fun row _ ↦ hrefl row, hadded⟩

/-- Rows are rewritten. -/
theorem Evolves.map {f : Row → Row} (hchange : ∀ row ∈ rows, Change row (f row)) :
    Evolves Change Added rows (rows.map f) := by
  refine ⟨rows.map f, [], (List.append_nil _).symm, ?_, nofun⟩
  rw [List.forall₂_map_right_iff, List.forall₂_same]
  exact hchange

theorem Evolves.mono (h : Evolves Change Added rows rows')
    (hchange : ∀ row row', Change row row' → Change' row row')
    (hadded : ∀ row, Added row → Added' row) : Evolves Change' Added' rows rows' := by
  obtain ⟨kept, added, heq, hkept, hnew⟩ := h
  exact ⟨kept, added, heq, hkept.imp hchange, fun row hmem ↦ hadded row (hnew row hmem)⟩

/-- Without additions, rows and their changes correspond one to one. -/
theorem Evolves.forall₂ (h : Evolves Change (fun _ ↦ False) rows rows') :
    List.Forall₂ Change rows rows' := by
  obtain ⟨kept, added, rfl, hkept, hadded⟩ := h
  rw [List.eq_nil_iff_forall_not_mem.mpr hadded, List.append_nil]
  exact hkept

theorem forall₂_trans {l₁ l₂ l₃ : List Row} (h : List.Forall₂ Change l₁ l₂)
    (h' : List.Forall₂ Change' l₂ l₃)
    (htrans : ∀ a b c, Change a b → Change' b c → Change'' a c) :
    List.Forall₂ Change'' l₁ l₃ := by
  induction h generalizing l₃ with
  | nil =>
      cases h'
      exact .nil
  | cons hab _ ih =>
      cases h' with
      | cons hbc hrest => exact .cons (htrans _ _ _ hab hbc) (ih hrest)

section matching

variable {α β : Type*} {R : α → β → Prop} {l : List α} {l' : List β} {a : α} {b : β}

theorem exists_of_mem_left (h : List.Forall₂ R l l') (hmem : a ∈ l) : ∃ b ∈ l', R a b := by
  induction h with
  | nil => cases hmem
  | cons hhead _ ih =>
      cases hmem with
      | head => exact ⟨_, List.mem_cons_self, hhead⟩
      | tail _ hmem =>
          obtain ⟨b, hmem', hrow⟩ := ih hmem
          exact ⟨b, List.mem_cons_of_mem _ hmem', hrow⟩

theorem exists_of_mem_right (h : List.Forall₂ R l l') (hmem : b ∈ l') : ∃ a ∈ l, R a b :=
  exists_of_mem_left h.flip hmem

/-- An order between the elements of a list is one between their counterparts. -/
theorem pairwise_of_forall₂ {S : α → α → Prop} {T : β → β → Prop} (h : List.Forall₂ R l l')
    (hl : l.Pairwise S) (himp : ∀ a a' b b', R a b → R a' b' → S a a' → T b b') :
    l'.Pairwise T := by
  induction h with
  | nil => exact .nil
  | cons hhead htail ih =>
      obtain ⟨hfirst, hrest⟩ := List.pairwise_cons.mp hl
      refine List.pairwise_cons.mpr ⟨fun b' hmem ↦ ?_, ih hrest⟩
      obtain ⟨a', ha', hrow⟩ := exists_of_mem_right htail hmem
      exact himp _ _ _ _ hhead hrow (hfirst a' ha')

end matching

/-- **Composition.** A row added by the first step may be changed by the second. -/
theorem Evolves.trans (h : Evolves Change Added rows rows')
    (h' : Evolves Change' Added' rows' rows'')
    (hchange : ∀ a b c, Change a b → Change' b c → Change'' a c)
    (hfirst : ∀ a b, Added a → Change' a b → Added'' b) (hsecond : ∀ a, Added' a → Added'' a) :
    Evolves Change'' Added'' rows rows'' := by
  obtain ⟨kept, added, rfl, hkept, hadded⟩ := h
  obtain ⟨kept', added', rfl, hkept', hadded'⟩ := h'
  obtain ⟨first, second, hfirsts, hseconds, rfl⟩ : ∃ first second,
      List.Forall₂ Change' kept first ∧ List.Forall₂ Change' added second ∧
        kept' = first ++ second := by
    refine ⟨kept'.take kept.length, kept'.drop kept.length, ?_, ?_, (List.take_append_drop _ _).symm⟩
    · exact (List.forall₂_take_append _ _ _ hkept'.flip).flip
    · exact (List.forall₂_drop_append _ _ _ hkept'.flip).flip
  refine ⟨first, second ++ added', List.append_assoc _ _ _, forall₂_trans hkept hfirsts hchange, ?_⟩
  intro row hmem
  rcases List.mem_append.mp hmem with hold | hnew
  · obtain ⟨before, hbefore, hrow⟩ := exists_of_mem_right hseconds hold
    exact hfirst before row (hadded before hbefore) hrow
  · exact hsecond row (hadded' row hnew)

/-- What has become of a row. -/
theorem Evolves.exists_successor (h : Evolves Change Added rows rows') {row : Row}
    (hmem : row ∈ rows) : ∃ row' ∈ rows', Change row row' := by
  obtain ⟨kept, added, rfl, hkept, -⟩ := h
  obtain ⟨row', hmem', hrow⟩ := exists_of_mem_left hkept hmem
  exact ⟨row', List.mem_append_left _ hmem', hrow⟩

/-- Where a row comes from. -/
theorem Evolves.origin (h : Evolves Change Added rows rows') {row' : Row} (hmem : row' ∈ rows') :
    (∃ row ∈ rows, Change row row') ∨ Added row' := by
  obtain ⟨kept, added, rfl, hkept, hadded⟩ := h
  rcases List.mem_append.mp hmem with hold | hnew
  · exact .inl (exists_of_mem_right hkept hold)
  · exact .inr (hadded row' hnew)

/-- Changes and additions elsewhere leave the rows of `p` as they are. -/
theorem Evolves.filter_eq (h : Evolves Change Added rows rows') {p : Row → Bool}
    (hchange : ∀ row row', Change row row' → p row' = p row ∧ (p row → row' = row))
    (hadded : ∀ row, Added row → p row = false) : rows'.filter p = rows.filter p := by
  obtain ⟨kept, added, rfl, hkept, hnew⟩ := h
  have hnone : added.filter p = [] := by
    rw [List.filter_eq_nil_iff]
    intro row hmem
    simp [hadded row (hnew row hmem)]
  rw [List.filter_append, hnone, List.append_nil]
  induction hkept with
  | nil => rfl
  | cons hhead _ ih =>
      obtain ⟨hp, hsame⟩ := hchange _ _ hhead
      rw [List.filter_cons, List.filter_cons, hp, ih]
      split
      case isTrue hrow => rw [hsame hrow]
      case isFalse => rfl

/-- What holds of every row keeps holding if changes and additions respect it. -/
theorem Evolves.forall_mem (h : Evolves Change Added rows rows') {Good : Row → Prop}
    (hgood : ∀ row ∈ rows, Good row) (hchange : ∀ row row', Change row row' → Good row → Good row')
    (hadded : ∀ row, Added row → Good row) : ∀ row ∈ rows', Good row := by
  intro row' hmem
  rcases h.origin hmem with ⟨row, hrow, hchanged⟩ | hnew
  · exact hchange row row' hchanged (hgood row hrow)
  · exact hadded row' hnew

theorem countP_eq_of_forall₂ {l l' : List Row} (h : List.Forall₂ Change l l') {p : Row → Bool}
    (hp : ∀ row row', Change row row' → p row' = p row) : l'.countP p = l.countP p := by
  induction h with
  | nil => rfl
  | cons hhead _ ih => rw [List.countP_cons, List.countP_cons, ih, hp _ _ hhead]

/-- Under changes that leave `p` alone, the count of `p` grows exactly when a row of `p` is
added. -/
theorem Evolves.countP_lt (h : Evolves Change Added rows rows') {p : Row → Bool}
    (hp : ∀ row row', Change row row' → p row' = p row) {row' : Row} (hmem : row' ∈ rows')
    (hrow : p row') (hnew : ∀ row ∈ rows, ¬Change row row') : rows.countP p < rows'.countP p := by
  obtain ⟨kept, added, rfl, hkept, -⟩ := h
  rw [List.countP_append, countP_eq_of_forall₂ hkept hp]
  have hadded : row' ∈ added := by
    rcases List.mem_append.mp hmem with hold | hadded
    · obtain ⟨row, hrow, hchange⟩ := exists_of_mem_right hkept hold
      exact absurd hchange (hnew row hrow)
    · exact hadded
  have hpos : 0 < added.countP p := List.countP_pos_iff.mpr ⟨row', hadded, hrow⟩
  exact Nat.lt_add_of_pos_right hpos

end Evolution
