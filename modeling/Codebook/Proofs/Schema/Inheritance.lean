import Codebook.Proofs.Schema.Undelivered

/-!
# What a new column inherits

When the columns of a table are declared again, the earlier columns offer their comments to the new
ones.  Each offers its comment to the column that its name leads to, and a column keeps the first
comment that it is offered.  A name that is not among the new ones leads to a column of that name up
to case.  So an earlier column that is gone can get ahead of one that stays, and then the comment of
the one that stays is lost.

What is here: `offers` and `getElem?_replaceColumns`, what each new column is offered and takes;
`diverted`, when a column that is gone offers its comment to another one; and
`keeps_own_comment_iff`.
-/

set_option autoImplicit false

namespace Codebook.Table

/-! ## Offers -/

/-- The comments that earlier columns offer to the column at a place, in the order of these
columns. -/
def offers (t : Table) (i : Nat) (olds : List Column) : List String :=
  (olds.filter fun old => t.columnIndex? old.name == some i).filterMap Column.comment

theorem offers_append (t : Table) (i : Nat) (olds more : List Column) :
    t.offers i (olds ++ more) = t.offers i olds ++ t.offers i more := by
  rw [offers, List.filter_append, List.filterMap_append]
  rfl

/-- Offers go by the names of the columns, and these stay. -/
@[simp] theorem offers_inherit (t : Table) (old : Column) (i : Nat) (olds : List Column) :
    (t.inherit old).offers i olds = t.offers i olds := by
  simp [offers]

/-- One column takes what one earlier column offers, if it has no comment. -/
theorem getElem?_inherit (t : Table) (old : Column) (i : Nat) :
    (t.inherit old).columns[i]? = t.columns[i]?.map fun c =>
      { c with comment := c.comment.or (t.offers i [old]).head? } := by
  have hnothing (h : (t.offers i [old]).head? = none) : t.columns[i]? = t.columns[i]?.map fun c =>
      { c with comment := c.comment.or (t.offers i [old]).head? } := by
    simp [h]
  rw [inherit]
  cases hcomment : old.comment with
  | none =>
    have hnone : (t.offers i [old]).head? = none := by
      rw [offers, List.head?_filterMap]
      exact List.findSome?_eq_none_iff.2 fun x hx =>
        List.mem_singleton.1 (List.mem_filter.1 hx).1 ▸ hcomment
    exact hnothing hnone
  | some text =>
    simp only [updateColumn?]
    by_cases hindex : t.columnIndex? old.name = some i
    · have hoffer : t.offers i [old] = [text] := by simp [offers, hindex, hcomment]
      rw [hindex, hoffer]
      cases hc : t.columns[i]? with
      | none => simp [hc]
      | some c => cases hown : c.comment <;> simp [hc, hown]
    · have hnone : (t.offers i [old]).head? = none := by simp [offers, hindex]
      refine Eq.trans ?_ (hnothing hnone)
      cases hj : t.columnIndex? old.name with
      | none => rfl
      | some j =>
        have hne : j ≠ i := fun e => hindex (by rw [hj, e])
        simp [hne]

theorem getElem?_foldl_inherit (t : Table) (olds : List Column) (i : Nat) :
    (olds.foldl inherit t).columns[i]? = t.columns[i]?.map fun c =>
      { c with comment := c.comment.or (t.offers i olds).head? } := by
  induction olds generalizing t with
  | nil => simp [offers]
  | cons old olds ih =>
    rw [List.foldl_cons, ih, getElem?_inherit, Option.map_map, offers_inherit,
      show old :: olds = [old] ++ olds from rfl, offers_append, List.head?_append]
    simp [Function.comp_def, Option.or_assoc]

/-- **Each new column takes the first comment that it is offered**, unless it comes with one. -/
theorem getElem?_replaceColumns (t : Table) (columns : List Column) (i : Nat) :
    (t.replaceColumns columns).columns[i]? = columns[i]?.map fun c =>
      { c with
        comment := c.comment.or (offers { t with columns := columns } i t.columns).head? } :=
  getElem?_foldl_inherit { t with columns := columns } t.columns i

/-! ## Diverted comments -/

/-- Whether an earlier column offers its comment to a new column of another name: its own name is
not among the new ones, and the new column is the first that has it up to case. -/
def diverted (columns : List Column) (c old : Column) : Bool :=
  decide (old.name ∉ columns.map Column.name) &&
    columns.find? (fun x => sameNameAsciiCase x.name old.name) == some c

section

variable {columns : List Column} (hnew : (columns.map Column.name).Nodup) {i : Nat} {c : Column}
  (hc : columns[i]? = some c)

include hnew hc

/-- Where names are distinct, a search for a column ends at its place. -/
theorem findIdx?_eq_some_iff_find? (p : Column → Bool) :
    columns.findIdx? p = some i ↔ columns.find? p = some c := by
  obtain ⟨hi, rfl⟩ := List.getElem?_eq_some_iff.1 hc
  have hcolumns : columns.Nodup :=
    List.Pairwise.of_map Column.name (fun _ _ hne e => hne (e ▸ rfl)) hnew
  rw [List.findIdx?_eq_some_iff_getElem, List.find?_eq_some_iff_getElem]
  constructor
  · rintro ⟨hi, hp, hfirst⟩
    exact ⟨hp, i, hi, rfl, fun j hj => by simpa using hfirst j hj⟩
  · rintro ⟨hp, k, hk, heq, hfirst⟩
    obtain rfl : k = i := (List.getElem_inj hcolumns).1 heq
    exact ⟨hi, hp, fun j hj => by simpa using hfirst j hj⟩

/-- An earlier column offers its comment to the new column of its name, or is diverted. -/
theorem columnIndex?_eq_some_iff (t : Table) (old : Column) :
    columnIndex? { t with columns := columns } old.name = some i ↔
      old.name = c.name ∨ diverted columns c old = true := by
  have hmem : c ∈ columns := List.mem_of_getElem? hc
  rw [columnIndex?, diverted, Bool.and_eq_true, decide_eq_true_eq, beq_iff_eq]
  by_cases hname : old.name ∈ columns.map Column.name
  · -- there is a column of the very name, so case does not matter
    obtain ⟨d, hd, hdname⟩ := List.mem_map.1 hname
    have hexact : (columns.findIdx? (·.name == old.name)).isSome := by
      rw [List.findIdx?_isSome, List.any_eq_true]
      exact ⟨d, hd, beq_iff_eq.2 hdname⟩
    rw [Option.or_of_isSome hexact, findIdx?_eq_some_iff_find? hnew hc]
    constructor
    · intro hfind
      have hfound : c.name = old.name := by simpa using List.find?_some hfind
      exact .inl hfound.symm
    · rintro (hown | ⟨hnot, -⟩)
      · rw [hown]
        exact (mem_iff_find?_eq_some hnew c).1 hmem
      · exact absurd hname hnot
  · have hnone : columns.findIdx? (·.name == old.name) = none := by
      rw [List.findIdx?_eq_none_iff]
      intro d hd
      rw [beq_eq_false_iff_ne]
      exact fun e => hname (List.mem_map.2 ⟨d, hd, e⟩)
    have hown : old.name ≠ c.name := fun e => hname (e ▸ List.mem_map_of_mem hmem)
    simp only [hnone, Option.none_or, findIdx?_eq_some_iff_find? hnew hc, hname, hown,
      not_false_eq_true, true_and, false_or]

end

/-- **A column keeps its own comment, unless a column that is gone gets ahead of it.**  Among the
earlier columns and among the new ones all names are distinct, and the new ones come without
comments.  A new column has the name of an earlier one that has a comment.  Then it has the comment
of the first earlier column before that one which is diverted to it and has a comment, and its own
comment if there is none.  So its own comment is kept exactly if such a comment says the same. -/
theorem keeps_own_comment_iff {t : Table} {columns : List Column} (hold : t.columnNames.Nodup)
    (hnew : (columns.map Column.name).Nodup) (hnone : ∀ c ∈ columns, c.comment = none)
    {before after : List Column} {old c : Column} {i : Nat} {text : String}
    (ht : t.columns = before ++ old :: after) (htext : old.comment = some text)
    (hc : columns[i]? = some c) (hname : c.name = old.name) :
    (t.replaceColumns columns).columns[i]? = some
        { c with comment :=
          ((before.filter (diverted columns c)).findSome? Column.comment).or (some text) } ∧
      ((t.replaceColumns columns).columns[i]? = some { c with comment := some text } ↔
        ∀ other, (before.filter (diverted columns c)).findSome? Column.comment = some other →
          other = text) := by
  have hearlier : before.filter (fun o =>
      columnIndex? { t with columns := columns } o.name == some i) =
        before.filter (diverted columns c) := by
    refine List.filter_congr fun o ho => ?_
    have hother : o.name ≠ c.name := by
      rw [columnNames, ht, List.map_append, List.map_cons, List.nodup_append] at hold
      exact fun e => hold.2.2 o.name (List.mem_map_of_mem ho) old.name List.mem_cons_self
        (e.trans hname)
    rw [Bool.eq_iff_iff, beq_iff_eq, columnIndex?_eq_some_iff hnew hc t o]
    exact or_iff_right hother
  have hown : columnIndex? { t with columns := columns } old.name = some i :=
    (columnIndex?_eq_some_iff hnew hc t old).2 (.inl hname.symm)
  have hoffers : (offers { t with columns := columns } i t.columns).head? =
      ((before.filter (diverted columns c)).findSome? Column.comment).or (some text) := by
    rw [ht, offers, List.filter_append, List.filterMap_append, List.head?_append, hearlier,
      List.head?_filterMap, List.filter_cons_of_pos (by simpa using hown),
      List.filterMap_cons_some htext, List.head?_cons]
  have htaken : (t.replaceColumns columns).columns[i]? = some { c with comment :=
      ((before.filter (diverted columns c)).findSome? Column.comment).or (some text) } := by
    rw [getElem?_replaceColumns, hc, Option.map_some, hoffers, hnone c (List.mem_of_getElem? hc),
      Option.none_or]
  refine ⟨htaken, ?_⟩
  rw [htaken]
  cases (before.filter (diverted columns c)).findSome? Column.comment <;> simp

/-- A table with two columns whose names differ in case only, and a third column; all have
comments. -/
def cased : Table where
  name := "t"
  columns := [⟨"A", "int", some "x"⟩, ⟨"a", "int", some "y"⟩, ⟨"b", "text", some "z"⟩]

/-- Its columns without the first one. -/
def uncased : List Column :=
  [{ name := "b", dataType := "text" }, { name := "a", dataType := "int" }]

/-- The column `b` keeps its comment.  The column `a` does not: the comment of `A` is diverted to it
and comes first. -/
theorem keeps_own_comment_iff_cased :
    (cased.replaceColumns uncased).columns[0]? = some ⟨"b", "text", some "z"⟩ ∧
      (cased.replaceColumns uncased).columns[1]? = some ⟨"a", "int", some "x"⟩ ∧
      (cased.replaceColumns uncased).columns[1]? ≠ some ⟨"a", "int", some "y"⟩ := by
  have hold : cased.columnNames.Nodup := by decide
  have hnew : (uncased.map Column.name).Nodup := by decide
  have hnone : ∀ c ∈ uncased, c.comment = none := by decide
  have hthird : cased.columns =
      [⟨"A", "int", some "x"⟩, ⟨"a", "int", some "y"⟩] ++ ⟨"b", "text", some "z"⟩ :: [] := rfl
  have hsecond : cased.columns =
      [⟨"A", "int", some "x"⟩] ++ ⟨"a", "int", some "y"⟩ :: [⟨"b", "text", some "z"⟩] := rfl
  have hb : uncased[0]? = some ⟨"b", "text", none⟩ := rfl
  have ha : uncased[1]? = some ⟨"a", "int", none⟩ := rfl
  obtain ⟨-, hkept⟩ := keeps_own_comment_iff hold hnew hnone hthird rfl hb rfl
  obtain ⟨htaken, hlost⟩ := keeps_own_comment_iff hold hnew hnone hsecond rfl ha rfl
  refine ⟨hkept.2 (by decide), htaken.trans (by decide), fun h => ?_⟩
  exact absurd (hlost.1 h "x" (by decide)) (by decide)

/-- There are columns with distinct names, earlier and new ones, where a new column without a
comment has the name of an earlier one, and another comment than that one afterwards. -/
theorem exists_own_comment_lost :
    ∃ (t : Table) (columns : List Column) (i : Nat) (old c : Column),
      t.columnNames.Nodup ∧ (columns.map Column.name).Nodup ∧
        (∀ c ∈ columns, c.comment = none) ∧ old ∈ t.columns ∧ columns[i]? = some c ∧
        c.name = old.name ∧ old.comment.isSome ∧
        (t.replaceColumns columns).columns[i]? ≠ some { c with comment := old.comment } := by
  refine ⟨cased, uncased, 1, ⟨"a", "int", some "y"⟩, ⟨"a", "int", none⟩, ?_⟩
  decide

end Codebook.Table
