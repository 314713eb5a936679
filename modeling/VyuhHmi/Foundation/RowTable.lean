import Mathlib.Data.List.Basic
import Mathlib.Tactic.Linarith

/-!
# Tables with an autoincremented row id

A database table whose primary key is assigned by the database, strictly above every key it has
ever assigned.  The rows are kept in key order, and the table carries that order and the bound as
fields, so the queries "one row by key" and "the matching row with the largest key" are list
searches.  Rows are inserted and updated in place; an update never touches the key.
-/

/-- Rows in key order, together with the largest key ever assigned. -/
structure RowTable (Row : Type*) (rowid : Row → ℤ) where
  rows : List Row
  seq : ℤ
  sorted : rows.Pairwise fun r s ↦ rowid r < rowid s
  bounded : ∀ r ∈ rows, rowid r ≤ seq

namespace RowTable

variable {Row : Type*} {rowid : Row → ℤ} (table : RowTable Row rowid)

/-- A freshly created table. -/
def empty : RowTable Row rowid where
  rows := []
  seq := 0
  sorted := List.Pairwise.nil
  bounded := by simp

/-- `INSERT`: the new row gets the next key. -/
def insert (row : ℤ → Row) (hrow : ∀ n, rowid (row n) = n) : RowTable Row rowid where
  rows := table.rows ++ [row (table.seq + 1)]
  seq := table.seq + 1
  sorted := by
    rw [List.pairwise_append]
    refine ⟨table.sorted, List.pairwise_singleton _ _, fun r hr s hs ↦ ?_⟩
    obtain rfl := List.mem_singleton.mp hs
    have hle := table.bounded r hr
    rw [hrow]
    omega
  bounded := by
    intro r hr
    rcases List.mem_append.mp hr with hr | hr
    · have hle := table.bounded r hr
      omega
    · obtain rfl := List.mem_singleton.mp hr
      rw [hrow]

/-- `UPDATE ... WHERE p`: rewrite every matching row, keeping its key. -/
def updateWhere (p : Row → Bool) (f : Row → Row) (hf : ∀ r, rowid (f r) = rowid r) :
    RowTable Row rowid where
  rows := table.rows.map fun r ↦ if p r then f r else r
  seq := table.seq
  sorted := by
    rw [List.pairwise_map]
    refine table.sorted.imp fun {r s} hrs ↦ ?_
    split <;> split <;> simpa [hf] using hrs
  bounded := by
    intro r hr
    obtain ⟨s, hs, rfl⟩ := List.mem_map.mp hr
    have hle := table.bounded s hs
    split <;> simpa [hf] using hle

/-- `DELETE ... WHERE p`. -/
def deleteWhere (p : Row → Bool) : RowTable Row rowid where
  rows := table.rows.filter fun r ↦ !p r
  seq := table.seq
  sorted := table.sorted.filter _
  bounded := fun r hr ↦ table.bounded r (List.mem_of_mem_filter hr)

/-- `SELECT COUNT(*) ... WHERE p`. -/
def count (p : Row → Bool) : ℕ := table.rows.countP p

/-- `SELECT ... WHERE id = ?`. -/
def byId (id : ℤ) : Option Row := table.rows.find? fun r ↦ rowid r == id

/-- `LIMIT`: a negative limit is none. -/
def limited {Row : Type*} (limit : ℤ) (rows : List Row) : List Row :=
  if limit < 0 then rows else rows.take limit.toNat

/-- `SELECT ... WHERE p ORDER BY id DESC LIMIT ?`. -/
def newest (p : Row → Bool) (limit : ℤ) : List Row := limited limit (table.rows.reverse.filter p)

/-- `SELECT ... WHERE p ORDER BY id DESC LIMIT 1`. -/
def latest (p : Row → Bool) : Option Row := table.rows.reverse.find? p

@[simp] theorem rows_empty : (empty : RowTable Row rowid).rows = [] := rfl

@[simp] theorem rows_insert (row : ℤ → Row) (hrow : ∀ n, rowid (row n) = n) :
    (table.insert row hrow).rows = table.rows ++ [row (table.seq + 1)] := rfl

@[simp] theorem rows_updateWhere (p : Row → Bool) (f : Row → Row)
    (hf : ∀ r, rowid (f r) = rowid r) :
    (table.updateWhere p f hf).rows = table.rows.map fun r ↦ if p r then f r else r := rfl

@[simp] theorem rows_deleteWhere (p : Row → Bool) :
    (table.deleteWhere p).rows = table.rows.filter fun r ↦ !p r := rfl

/-! ## Keys identify rows -/

variable {table}

theorem eq_of_rowid_eq {r s : Row} (hr : r ∈ table.rows) (hs : s ∈ table.rows)
    (hid : rowid r = rowid s) : r = s := by
  obtain ⟨i, hi, rfl⟩ := List.getElem_of_mem hr
  obtain ⟨j, hj, rfl⟩ := List.getElem_of_mem hs
  have hpair := List.pairwise_iff_getElem.mp table.sorted
  rcases lt_trichotomy i j with hlt | rfl | hlt
  · have := hpair i j hi hj hlt
    omega
  · rfl
  · have := hpair j i hj hi hlt
    omega

theorem byId_eq_some_iff {id : ℤ} {r : Row} :
    table.byId id = some r ↔ r ∈ table.rows ∧ rowid r = id := by
  constructor
  · intro h
    exact ⟨List.mem_of_find?_eq_some h, by simpa using List.find?_some h⟩
  · rintro ⟨hr, rfl⟩
    have hsome : (table.byId (rowid r)).isSome := by
      simpa [byId] using ⟨r, hr, rfl⟩
    obtain ⟨s, hs⟩ := Option.isSome_iff_exists.mp hsome
    have hsid : rowid s = rowid r := by simpa using List.find?_some hs
    obtain rfl := eq_of_rowid_eq (List.mem_of_find?_eq_some hs) hr hsid
    exact hs

theorem any_byId_iff {id : ℤ} {p : Row → Bool} :
    (table.byId id).any p ↔ ∃ r ∈ table.rows, rowid r = id ∧ p r := by
  simp only [Option.any_eq_true, byId_eq_some_iff, and_assoc]

/-- An update by key leaves the table as it is exactly when it leaves the row as it is. -/
theorem rows_updateWhere_eq_iff {id : ℤ} {f : Row → Row} {hf : ∀ r, rowid (f r) = rowid r} :
    (table.updateWhere (fun r ↦ rowid r == id) f hf).rows = table.rows ↔
      ∀ r ∈ table.rows, rowid r = id → f r = r := by
  rw [rows_updateWhere]
  calc
    _ ↔ table.rows.map (fun r ↦ if rowid r == id then f r else r) = table.rows.map fun r ↦ r := by
        rw [List.map_id']
    _ ↔ ∀ r ∈ table.rows, (if rowid r == id then f r else r) = r := List.map_inj_left
    _ ↔ ∀ r ∈ table.rows, rowid r = id → f r = r := by
        simp only [beq_iff_eq, ite_eq_right_iff]

/-! ## The latest matching row -/

theorem latest_eq_none_iff {p : Row → Bool} :
    table.latest p = none ↔ ∀ r ∈ table.rows, p r = false := by
  simp [latest]

theorem latest_mem {p : Row → Bool} {r : Row} (h : table.latest p = some r) :
    r ∈ table.rows ∧ p r := by
  exact ⟨List.mem_reverse.mp (List.mem_of_find?_eq_some h), List.find?_some h⟩

theorem latest_insert_of_not (row : ℤ → Row) (hrow : ∀ n, rowid (row n) = n) {p : Row → Bool}
    (hp : p (row (table.seq + 1)) = false) : (table.insert row hrow).latest p = table.latest p := by
  simp [latest, hp]

/-- An update of rows that match neither before nor after does not change the latest match. -/
theorem latest_updateWhere_of_not {p q : Row → Bool} {f : Row → Row}
    {hf : ∀ r, rowid (f r) = rowid r}
    (h : ∀ r ∈ table.rows, p r → q r = false ∧ q (f r) = false) :
    (table.updateWhere p f hf).latest q = table.latest q := by
  unfold latest
  rw [rows_updateWhere, ← List.map_reverse]
  have hrows : ∀ r ∈ table.rows.reverse, p r → q r = false ∧ q (f r) = false := fun r hr ↦
    h r (List.mem_reverse.mp hr)
  generalize table.rows.reverse = rows at hrows
  induction rows with
  | nil => rfl
  | cons r rest ih =>
      have hrest := ih fun s hs ↦ hrows s (List.mem_cons_of_mem r hs)
      rw [List.map_cons]
      by_cases hp : p r
      · obtain ⟨hbefore, hafter⟩ := hrows r List.mem_cons_self hp
        rw [if_pos hp, List.find?_cons_of_neg (by simp [hafter]),
          List.find?_cons_of_neg (by simp [hbefore]), hrest]
      · rw [if_neg hp]
        by_cases hq : q r
        · rw [List.find?_cons_of_pos hq, List.find?_cons_of_pos hq]
        · rw [List.find?_cons_of_neg hq, List.find?_cons_of_neg hq, hrest]

/-! ## Counting -/

theorem count_pos_iff {p : Row → Bool} : 0 < table.count p ↔ ∃ r ∈ table.rows, p r := by
  simp [count, List.countP_pos_iff]

theorem count_insert (row : ℤ → Row) (hrow : ∀ n, rowid (row n) = n) (p : Row → Bool) :
    (table.insert row hrow).count p = table.count p + if p (row (table.seq + 1)) then 1 else 0 := by
  simp [count, List.countP_append, List.countP_singleton]

/-- An update that turns no row into a match of `q` cannot raise the count of `q`. -/
theorem count_updateWhere_le {p q : Row → Bool} {f : Row → Row} {hf : ∀ r, rowid (f r) = rowid r}
    (h : ∀ r ∈ table.rows, p r → q (f r) → q r) :
    (table.updateWhere p f hf).count q ≤ table.count q := by
  rw [count, rows_updateWhere, List.countP_map]
  refine List.countP_mono_left fun r hr hq ↦ ?_
  by_cases hp : p r
  · exact h r hr hp (by simpa [hp] using hq)
  · simpa [hp] using hq

/-- An update that leaves the truth of `q` alone on every row keeps the count of `q`. -/
theorem count_updateWhere_eq {p q : Row → Bool} {f : Row → Row} {hf : ∀ r, rowid (f r) = rowid r}
    (h : ∀ r ∈ table.rows, p r → q (f r) = q r) :
    (table.updateWhere p f hf).count q = table.count q := by
  rw [count, rows_updateWhere, List.countP_map]
  refine List.countP_congr fun r hr ↦ ?_
  by_cases hp : p r
  · simp [hp, h r hr hp]
  · simp [hp]

theorem count_le_one_iff {p : Row → Bool} :
    table.count p ≤ 1 ↔ ∀ r ∈ table.rows, ∀ s ∈ table.rows, p r → p s → r = s := by
  have hnodup : table.rows.Nodup := table.sorted.imp fun h heq ↦ by simp [heq] at h
  rw [count, List.countP_eq_length_filter]
  constructor
  · intro hle r hr s hs hpr hps
    have hr' := List.mem_filter.mpr ⟨hr, hpr⟩
    have hs' := List.mem_filter.mpr ⟨hs, hps⟩
    match hfilter : table.rows.filter p, hle with
    | [], _ => simp [hfilter] at hr'
    | [x], _ =>
        simp only [hfilter, List.mem_singleton] at hr' hs'
        rw [hr', hs']
  · intro huniq
    match hfilter : table.rows.filter p with
    | [] => simp
    | [x] => simp
    | x :: y :: rest =>
        have hmem (z : Row) (hz : z ∈ x :: y :: rest) : z ∈ table.rows ∧ p z := by
          rw [← hfilter] at hz
          exact List.mem_filter.mp hz
        have hx := hmem x (by simp)
        have hy := hmem y (by simp)
        have hnd : (x :: y :: rest).Nodup := hfilter ▸ hnodup.filter p
        have hxy : x = y := huniq x hx.1 y hy.1 hx.2 hy.2
        simp [hxy] at hnd

/-! ## The newest matching rows -/

theorem mem_of_mem_limited {limit : ℤ} {rows : List Row} {r : Row} (h : r ∈ limited limit rows) :
    r ∈ rows := by
  unfold limited at h
  split at h
  case isTrue => exact h
  case isFalse => exact List.mem_of_mem_take h

theorem mem_of_mem_newest {p : Row → Bool} {limit : ℤ} {r : Row} (h : r ∈ table.newest p limit) :
    r ∈ table.rows ∧ p r := by
  obtain ⟨hmem, hp⟩ := List.mem_filter.mp (mem_of_mem_limited h)
  exact ⟨List.mem_reverse.mp hmem, hp⟩

theorem take_filter_eq_iff {p : Row → Bool} {rows : List Row} {n : ℕ} :
    (rows.filter p).take n = rows.take n ↔ ∀ r ∈ rows.take n, p r := by
  constructor
  · intro heq r hr
    rw [← heq] at hr
    exact (List.mem_filter.mp (List.mem_of_mem_take hr)).2
  · intro hall
    have hsplit : rows.filter p = rows.take n ++ (rows.drop n).filter p := by
      rw [← List.filter_eq_self.mpr hall, ← List.filter_append, List.take_append_drop]
    rcases le_total n rows.length with hle | hle
    · rw [hsplit, List.take_left' (List.length_take_of_le hle)]
    · rw [hsplit, List.drop_eq_nil_of_le hle, List.filter_nil, List.append_nil, List.take_take,
        min_self]

/-- A stronger condition makes no difference to the newest rows exactly when they all meet it. -/
theorem newest_eq_newest_iff {p q : Row → Bool} (hpq : ∀ r, p r → q r) {limit : ℤ} :
    table.newest p limit = table.newest q limit ↔ ∀ r ∈ table.newest q limit, p r := by
  have hfilter : table.rows.reverse.filter p = (table.rows.reverse.filter q).filter p := by
    rw [List.filter_filter]
    refine List.filter_congr fun r _ ↦ ?_
    rw [Bool.eq_iff_iff, Bool.and_eq_true]
    exact ⟨fun hp ↦ ⟨hp, hpq r hp⟩, And.left⟩
  unfold newest limited
  rw [hfilter]
  split
  case isTrue => exact List.filter_eq_self
  case isFalse => exact take_filter_eq_iff

/-- The rows that match `p`, newest first, cut to the first `limit`. -/
def IsNewestOf (table : RowTable Row rowid) (p : Row → Prop) (limit : ℕ) (result : List Row) :
    Prop :=
  ∃ matching : List Row, matching.Pairwise (fun r s ↦ rowid s < rowid r) ∧
    (∀ r, r ∈ matching ↔ r ∈ table.rows ∧ p r) ∧ result = matching.take limit

theorem pairwise_reverse (table : RowTable Row rowid) :
    table.rows.reverse.Pairwise fun r s ↦ rowid s < rowid r :=
  List.pairwise_reverse.mpr table.sorted

/-- Lists in the same order with the same rows are one list. -/
theorem eq_of_pairwise_of_mem_iff {l l' : List Row}
    (hl : l.Pairwise fun r s ↦ rowid s < rowid r) (hl' : l'.Pairwise fun r s ↦ rowid s < rowid r)
    (hmem : ∀ r, r ∈ l ↔ r ∈ l') : l = l' := by
  have hnodup {l : List Row} (h : l.Pairwise fun r s ↦ rowid s < rowid r) : l.Nodup :=
    h.imp fun hlt heq ↦ by simp [heq] at hlt
  have hperm : l.Perm l' := (List.perm_ext_iff_of_nodup (hnodup hl) (hnodup hl')).mpr hmem
  exact hperm.eq_of_pairwise (fun r s _ _ hrs hsr ↦ absurd hrs hsr.asymm) hl hl'

/-- **Queries.** `SELECT ... ORDER BY id DESC LIMIT ?` is the only such list of rows. -/
theorem isNewestOf_iff {p : Row → Prop} [DecidablePred p] {limit : ℤ} (hlimit : 0 ≤ limit)
    {result : List Row} :
    table.IsNewestOf p limit.toNat result ↔ result = table.newest (fun r ↦ decide (p r)) limit := by
  have hsorted : (table.rows.reverse.filter fun r ↦ decide (p r)).Pairwise fun r s ↦
      rowid s < rowid r := table.pairwise_reverse.filter _
  have hmem (r : Row) :
      r ∈ (table.rows.reverse.filter fun r ↦ decide (p r)) ↔ r ∈ table.rows ∧ p r := by
    rw [List.mem_filter, List.mem_reverse, decide_eq_true_iff]
  unfold newest limited
  rw [if_neg hlimit.not_gt]
  constructor
  · rintro ⟨matching, hmatching, hrows, rfl⟩
    rw [eq_of_pairwise_of_mem_iff hmatching hsorted fun r ↦ (hrows r).trans (hmem r).symm]
  · rintro rfl
    exact ⟨_, hsorted, hmem, rfl⟩

theorem mem_take_iff_of_pairwise {l : List Row} (hl : l.Pairwise fun r s ↦ rowid s < rowid r)
    {n : ℕ} {r : Row} :
    r ∈ l.take n ↔ r ∈ l ∧ l.countP (fun s ↦ rowid r < rowid s) < n := by
  induction l generalizing n with
  | nil => simp
  | cons s l ih =>
      obtain ⟨hfirst, hrest⟩ := List.pairwise_cons.mp hl
      cases n with
      | zero => simp
      | succ n =>
          rw [List.take_succ_cons, List.mem_cons, List.mem_cons, ih hrest, List.countP_cons]
          by_cases hrs : r = s
          · subst hrs
            have hnone : l.countP (fun s ↦ rowid r < rowid s) = 0 := by
              rw [List.countP_eq_zero]
              intro s hs
              simpa using (hfirst s hs).le
            simp [hnone]
          · simp only [hrs, false_or]
            refine and_congr_right fun hr ↦ ?_
            simp [hfirst r hr]

/-- A matching row shows unless `limit` newer rows match. -/
theorem mem_newest_iff {p : Row → Bool} {limit : ℤ} (hlimit : 0 ≤ limit) {r : Row} :
    r ∈ table.newest p limit ↔
      r ∈ table.rows ∧ p r ∧ table.count (fun s ↦ rowid r < rowid s && p s) < limit := by
  unfold newest limited count
  rw [if_neg hlimit.not_gt, mem_take_iff_of_pairwise (table.pairwise_reverse.filter p),
    List.mem_filter, List.mem_reverse, List.countP_filter, List.countP_reverse, and_assoc,
    Int.lt_toNat]

section rewriting

variable {View : Type*} {e p : Row → Bool} {f : Row → Row} {g : Row → View} {r : Row}
  {rest : List Row}

/-- A first row that is rewritten and matches before or after shows. -/
theorem map_take_ne_of_shown (hf : ∀ r, rowid (f r) = rowid r)
    (hid : ∀ r s, g r = g s → rowid r = rowid s) (hfirst : ∀ s ∈ rest, rowid s < rowid r)
    (hchange : g (f r) ≠ g r) (he : e r) (hshown : p r ∨ p (f r)) (n : ℕ) :
    ((((r :: rest).map fun r ↦ if e r then f r else r).filter p).take (n + 1)).map g ≠
      (((r :: rest).filter p).take (n + 1)).map g := by
  have heq_first {s : Row} (hs : s ∈ r :: rest) (hsame : rowid s = rowid r) : s = r := by
    rcases List.mem_cons.mp hs with rfl | hs
    · rfl
    · exact absurd hsame (hfirst s hs).ne
  intro heq
  by_cases hp : p r
  · -- the row as it was is missing from the rewritten ones
    have hmem : g r ∈ (((r :: rest).filter p).take (n + 1)).map g := by simp [hp]
    rw [← heq] at hmem
    obtain ⟨x, hx, hgx⟩ := List.mem_map.mp hmem
    obtain ⟨s, hs, rfl⟩ := List.mem_map.mp (List.mem_filter.mp (List.mem_of_mem_take hx)).1
    have hsame : rowid (if e s then f s else s) = rowid s := by
      split
      · exact hf s
      · rfl
    obtain rfl := heq_first hs (hsame.symm.trans (hid _ _ hgx))
    rw [if_pos he] at hgx
    exact hchange hgx
  · -- the row as it is now was not there before
    have hp' : p (f r) := hshown.resolve_left hp
    have hmem : g (f r) ∈
        ((((r :: rest).map fun r ↦ if e r then f r else r).filter p).take (n + 1)).map g := by
      simp [he, hp']
    rw [heq] at hmem
    obtain ⟨s, hs, hgs⟩ := List.mem_map.mp hmem
    obtain ⟨hmem', hps⟩ := List.mem_filter.mp (List.mem_of_mem_take hs)
    obtain rfl := heq_first hmem' ((hid _ _ hgs).trans (hf r))
    exact hp hps

/-- Rewriting the rows that match `e` shows in the first rows that match `p`, seen through `g`,
unless every rewritten row that matches, as it was or as it is, comes after enough others. -/
theorem take_filter_map_eq_iff {rows : List Row} (hf : ∀ r, rowid (f r) = rowid r)
    (hid : ∀ r s, g r = g s → rowid r = rowid s)
    (hsorted : rows.Pairwise fun r s ↦ rowid s < rowid r)
    (hchange : ∀ r ∈ rows, e r → g (f r) ≠ g r) (n : ℕ) :
    (((rows.map fun r ↦ if e r then f r else r).filter p).take n).map g =
        ((rows.filter p).take n).map g ↔
      ∀ r ∈ rows, e r → p r ∨ p (f r) → n ≤ rows.countP fun s ↦ rowid r < rowid s && p s := by
  induction rows generalizing n with
  | nil => simp
  | cons r rest ih =>
      obtain ⟨hfirst, hrest⟩ := List.pairwise_cons.mp hsorted
      have ih' := ih hrest fun s hs ↦ hchange s (List.mem_cons_of_mem _ hs)
      have hnone : (r :: rest).countP (fun s ↦ rowid r < rowid s && p s) = 0 := by
        rw [List.countP_eq_zero]
        intro s hs
        rcases List.mem_cons.mp hs with rfl | hs
        · simp
        · simp [(hfirst s hs).le]
      have hcount : ∀ s ∈ rest, (r :: rest).countP (fun x ↦ rowid s < rowid x && p x) =
          rest.countP (fun x ↦ rowid s < rowid x && p x) + if p r then 1 else 0 := by
        intro s hs
        simp [List.countP_cons, hfirst s hs]
      by_cases hshown : e r ∧ (p r ∨ p (f r))
      · cases n with
        | zero => simp
        | succ n =>
            refine iff_of_false (map_take_ne_of_shown hf hid hfirst
              (hchange r List.mem_cons_self hshown.1) hshown.1 hshown.2 n) fun hbound ↦ ?_
            have hle := hbound r List.mem_cons_self hshown.1 hshown.2
            rw [hnone] at hle
            omega
      · have hbound (n : ℕ) : (∀ s ∈ r :: rest, e s → p s ∨ p (f s) →
            n ≤ (r :: rest).countP fun x ↦ rowid s < rowid x && p x) ↔
            ∀ s ∈ rest, e s → p s ∨ p (f s) →
              n ≤ (rest.countP fun x ↦ rowid s < rowid x && p x) + if p r then 1 else 0 := by
          rw [List.forall_mem_cons]
          have hvacuous : e r → p r ∨ p (f r) →
              n ≤ (r :: rest).countP fun x ↦ rowid r < rowid x && p x :=
            fun he hp ↦ absurd ⟨he, hp⟩ hshown
          refine (and_iff_right hvacuous).trans (forall₂_congr fun s hs ↦ ?_)
          rw [hcount s hs]
        rw [hbound]
        by_cases hp : p r
        · have he : ¬e r := fun he ↦ hshown ⟨he, .inl hp⟩
          cases n with
          | zero => simp
          | succ n =>
              rw [List.map_cons, if_neg he, List.filter_cons_of_pos hp, List.filter_cons_of_pos hp,
                List.take_succ_cons, List.take_succ_cons, List.map_cons, List.map_cons,
                List.cons_inj_right, ih']
              simp [hp]
        · have hskip : ¬p (if e r then f r else r) := by
            split
            case isTrue he => exact fun hpf ↦ hshown ⟨he, .inr hpf⟩
            case isFalse => exact hp
          rw [List.map_cons, List.filter_cons_of_neg hskip, List.filter_cons_of_neg hp, ih']
          simp [hp]

end rewriting

/-- An update shows in the newest rows that match `p`, seen through `g`, unless every updated row
that matches, as it was or as it is, is older than `limit` others that match. -/
theorem newest_updateWhere_iff {View : Type*} {e p : Row → Bool} {f : Row → Row} {g : Row → View}
    {hf : ∀ r, rowid (f r) = rowid r} (hid : ∀ r s, g r = g s → rowid r = rowid s)
    (hchange : ∀ r ∈ table.rows, e r → g (f r) ≠ g r) {limit : ℤ} :
    ((table.updateWhere e f hf).newest p limit).map g = (table.newest p limit).map g ↔
      ∀ r ∈ table.rows, e r → p r ∨ p (f r) →
        0 ≤ limit ∧ limit ≤ table.count fun s ↦ rowid r < rowid s && p s := by
  have hsorted := table.pairwise_reverse
  have htake (n : ℕ) := take_filter_map_eq_iff (p := p) hf hid hsorted
    (fun r hr ↦ hchange r (List.mem_reverse.mp hr)) n
  simp only [List.mem_reverse, List.countP_reverse] at htake
  unfold newest limited count
  rw [rows_updateWhere, ← List.map_reverse]
  by_cases hlimit : limit < 0
  · rw [if_pos hlimit, if_pos hlimit]
    -- no limit: more rows than there are
    have hwhole {rows : List Row} (hle : rows.length ≤ table.rows.length) :
        (rows.filter p).take (table.rows.length + 1) = rows.filter p :=
      List.take_of_length_le ((List.length_filter_le p rows).trans (hle.trans (Nat.le_succ _)))
    have hall := htake (table.rows.length + 1)
    rw [hwhole (by simp), hwhole (by simp)] at hall
    rw [hall]
    refine forall₄_congr fun r hr he hp ↦ ?_
    have hfew : table.rows.countP (fun s ↦ rowid r < rowid s && p s) ≤ table.rows.length :=
      List.countP_le_length
    omega
  · rw [if_neg hlimit, if_neg hlimit, htake]
    refine forall₄_congr fun r hr he hp ↦ ?_
    omega

end RowTable
