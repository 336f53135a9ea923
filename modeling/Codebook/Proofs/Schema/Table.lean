import Codebook.Schema.Table

/-!
# Remarks on the columns of a table

Everything that happens to the columns of a table after their declaration is that their comments
change.  This file gives that change a name, `Table.remark`, and describes a whole list of remarks
by what is said last about each column.

What is here:

* `columnIndex?_eq` — a column is looked up by the names of the columns alone, so a remark never
  changes where another remark goes;
* `getElem?_remarks` — each column carries what was last said about it;
* `declared_remarks`, `declared_replaceColumns` — names and types are those of the declaration.
-/

set_option autoImplicit false

namespace Codebook

/-- What is said about a column: the column as it is spelled there, and its comment, or none if the
comment is removed. -/
structure Remark where
  /-- The column. -/
  column : String
  /-- The comment. -/
  text : Option String
deriving DecidableEq, Repr

namespace Table

/-! ## Looking up -/

/-- A column is looked up by the names of the columns alone. -/
theorem columnIndex?_eq (t : Table) (name : String) :
    t.columnIndex? name = (t.columnNames.findIdx? (· == name)).or
      (t.columnNames.findIdx? fun n => sameNameAsciiCase n name) := by
  simp [columnIndex?, columnNames, List.findIdx?_map, Function.comp_def]

theorem columnIndex?_congr {t u : Table} (h : t.columnNames = u.columnNames) (name : String) :
    t.columnIndex? name = u.columnIndex? name := by
  rw [columnIndex?_eq, columnIndex?_eq, h]

/-- A table without columns has no place for a name. -/
theorem columnIndex?_of_columns_nil {t : Table} (h : t.columns = []) (name : String) :
    t.columnIndex? name = none := by
  simp [columnIndex?, h]

/-- The first column of a name is the one that is found. -/
theorem columnIndex?_of_columns_eq {t : Table} {before after : List Column} {c : Column}
    (hcolumns : t.columns = before ++ c :: after) (hbefore : ∀ x ∈ before, x.name ≠ c.name) :
    t.columnIndex? c.name = some before.length := by
  have hnone : before.findIdx? (·.name == c.name) = none := by
    rw [List.findIdx?_eq_none_iff]
    intro x hx
    rw [beq_eq_false_iff_ne]
    exact hbefore x hx
  have hfirst : (before ++ c :: after).findIdx? (·.name == c.name) = some before.length := by
    simp [List.findIdx?_append, hnone, List.findIdx?_cons]
  rw [columnIndex?, hcolumns, hfirst]
  rfl

/-! ## One remark -/

/-- The table after a remark.  A remark on a column that it does not have changes nothing. -/
def remark (t : Table) (r : Remark) : Table :=
  (t.updateColumn? r.column fun c => { c with comment := r.text }).getD t

/-- The table after some remarks, in order. -/
def remarks (t : Table) (rs : List Remark) : Table := rs.foldl remark t

/-- The names and types of the columns. -/
def declared (t : Table) : List (String × String) := t.columns.map fun c => (c.name, c.dataType)

/-- The columns after a remark: the comment of one of them has changed, if any. -/
theorem columns_remark (t : Table) (r : Remark) :
    (t.remark r).columns = match t.columnIndex? r.column with
      | some i => t.columns.modify i fun c => { c with comment := r.text }
      | none => t.columns := by
  rw [remark, updateColumn?]
  cases t.columnIndex? r.column <;> rfl

@[simp] theorem name_remark (t : Table) (r : Remark) : (t.remark r).name = t.name := by
  rw [remark, updateColumn?]
  cases t.columnIndex? r.column <;> rfl

@[simp] theorem comment_remark (t : Table) (r : Remark) : (t.remark r).comment = t.comment := by
  rw [remark, updateColumn?]
  cases t.columnIndex? r.column <;> rfl

/-- A list keeps what it shows of its entries when one entry is changed in some other respect. -/
theorem map_modify_of_forall_eq {α β : Type} (f : α → α) (g : α → β) (h : ∀ a, g (f a) = g a)
    (l : List α) (i : Nat) : (l.modify i f).map g = l.map g := by
  apply List.ext_getElem?
  intro j
  rw [List.getElem?_map, List.getElem?_map, List.getElem?_modify]
  cases l[j]? with
  | none => rfl
  | some a => by_cases hij : i = j <;> simp [hij, h]

/-- Changing the comment of a column leaves what is declared. -/
theorem declared_modify (t : Table) (i : Nat) (f : Column → Option String) :
    declared { t with columns := t.columns.modify i fun c => { c with comment := f c } } =
      t.declared :=
  map_modify_of_forall_eq (fun c : Column => { c with comment := f c }) _ (fun _ => rfl) _ _

@[simp] theorem declared_remark (t : Table) (r : Remark) : (t.remark r).declared = t.declared := by
  rw [remark, updateColumn?]
  cases t.columnIndex? r.column with
  | none => rfl
  | some i => exact declared_modify t i fun _ => r.text

/-- The names of the columns are part of what is declared. -/
theorem columnNames_eq_map_declared (t : Table) : t.columnNames = t.declared.map Prod.fst := by
  simp [columnNames, declared]

@[simp] theorem columnIndex?_remark (t : Table) (r : Remark) (name : String) :
    (t.remark r).columnIndex? name = t.columnIndex? name :=
  columnIndex?_congr (by rw [columnNames_eq_map_declared, declared_remark,
    ← columnNames_eq_map_declared]) name

/-- One column after a remark. -/
theorem getElem?_remark (t : Table) (r : Remark) (i : Nat) :
    (t.remark r).columns[i]? = t.columns[i]?.map fun c =>
      if t.columnIndex? r.column = some i then { c with comment := r.text } else c := by
  rw [columns_remark]
  cases t.columnIndex? r.column with
  | none => simp
  | some j =>
    simp only [List.getElem?_modify, Option.some.injEq]
    rfl

/-- A change at the place of an entry changes that entry. -/
theorem modify_length_append {α : Type} (f : α → α) (before : List α) (a : α) (after : List α) :
    (before ++ a :: after).modify before.length f = before ++ f a :: after := by
  induction before with
  | nil => rfl
  | cons x before ih =>
    rw [List.cons_append, List.length_cons, List.modify_succ_cons, ih]
    rfl

/-- A remark on the name of a column goes to the first column of that name, and to no other. -/
theorem remark_of_columns_eq {t : Table} {before after : List Column} {c : Column}
    (hcolumns : t.columns = before ++ c :: after) (hbefore : ∀ x ∈ before, x.name ≠ c.name)
    (text : Option String) :
    t.remark ⟨c.name, text⟩ =
      { t with columns := before ++ { c with comment := text } :: after } := by
  rw [remark, updateColumn?, columnIndex?_of_columns_eq hcolumns hbefore, Option.map_some,
    Option.getD_some, hcolumns, modify_length_append]

/-! ## Many remarks -/

@[simp] theorem remarks_nil (t : Table) : t.remarks [] = t := rfl

@[simp] theorem remarks_cons (t : Table) (r : Remark) (rs : List Remark) :
    t.remarks (r :: rs) = (t.remark r).remarks rs := rfl

@[simp] theorem remarks_append (t : Table) (rs ss : List Remark) :
    t.remarks (rs ++ ss) = (t.remarks rs).remarks ss := List.foldl_append

@[simp] theorem name_remarks (t : Table) (rs : List Remark) : (t.remarks rs).name = t.name := by
  induction rs generalizing t with
  | nil => rfl
  | cons r rs ih => simp [ih]

@[simp] theorem comment_remarks (t : Table) (rs : List Remark) :
    (t.remarks rs).comment = t.comment := by
  induction rs generalizing t with
  | nil => rfl
  | cons r rs ih => simp [ih]

/-- Remarks leave names and types, and the order of the columns, as they are. -/
@[simp] theorem declared_remarks (t : Table) (rs : List Remark) :
    (t.remarks rs).declared = t.declared := by
  induction rs generalizing t with
  | nil => rfl
  | cons r rs ih => simp [ih]

@[simp] theorem columnIndex?_remarks (t : Table) (rs : List Remark) (name : String) :
    (t.remarks rs).columnIndex? name = t.columnIndex? name := by
  induction rs generalizing t with
  | nil => rfl
  | cons r rs ih => simp [ih]

/-- The remarks that go to the column at a place. -/
def remarksAt (t : Table) (i : Nat) (rs : List Remark) : List Remark :=
  rs.filter fun r => t.columnIndex? r.column == some i

theorem remarksAt_append (t : Table) (i : Nat) (rs ss : List Remark) :
    t.remarksAt i (rs ++ ss) = t.remarksAt i rs ++ t.remarksAt i ss := List.filter_append ..

/-- **Each column carries what was last said about it.** -/
theorem getElem?_remarks (t : Table) (rs : List Remark) (i : Nat) :
    (t.remarks rs).columns[i]? = t.columns[i]?.map fun c =>
      { c with comment := ((t.remarksAt i rs).getLast?.map Remark.text).getD c.comment } := by
  induction rs generalizing t with
  | nil => simp [remarksAt]
  | cons r rs ih =>
    have hat : (t.remark r).remarksAt i rs = t.remarksAt i rs := by simp [remarksAt]
    rw [remarks_cons, ih, getElem?_remark, Option.map_map, hat]
    by_cases hr : t.columnIndex? r.column = some i
    · have hcons : t.remarksAt i (r :: rs) = r :: t.remarksAt i rs := by simp [remarksAt, hr]
      rw [hcons, List.getLast?_cons]
      cases (t.remarksAt i rs).getLast? <;> simp [hr, Function.comp_def]
    · have hcons : t.remarksAt i (r :: rs) = t.remarksAt i rs := by simp [remarksAt, hr]
      rw [hcons]
      simp [hr, Function.comp_def]

/-! ## A new list of columns -/

/-- Inheriting a comment is a remark, made only if the column has no comment yet. -/
theorem declared_inherit (t : Table) (old : Column) : (t.inherit old).declared = t.declared := by
  rw [inherit]
  split
  · rfl
  · rw [updateColumn?]
    cases t.columnIndex? old.name with
    | none => rfl
    | some i => exact declared_modify t i fun c => some (c.comment.getD _)

theorem name_inherit (t : Table) (old : Column) : (t.inherit old).name = t.name := by
  rw [inherit]
  split
  · rfl
  · rw [updateColumn?]
    cases t.columnIndex? old.name <;> rfl

theorem comment_inherit (t : Table) (old : Column) : (t.inherit old).comment = t.comment := by
  rw [inherit]
  split
  · rfl
  · rw [updateColumn?]
    cases t.columnIndex? old.name <;> rfl

/-- A property of tables that inheriting keeps holds after a whole list has been inherited from. -/
theorem foldl_inherit_induction {β : Type} (f : Table → β)
    (h : ∀ t old, f (inherit t old) = f t) (t : Table) (olds : List Column) :
    f (olds.foldl inherit t) = f t := by
  induction olds generalizing t with
  | nil => rfl
  | cons old olds ih => rw [List.foldl_cons, ih, h]

@[simp] theorem name_replaceColumns (t : Table) (columns : List Column) :
    (t.replaceColumns columns).name = t.name :=
  foldl_inherit_induction Table.name name_inherit _ _

@[simp] theorem comment_replaceColumns (t : Table) (columns : List Column) :
    (t.replaceColumns columns).comment = t.comment :=
  foldl_inherit_induction Table.comment comment_inherit _ _

/-- The columns after a replacement are the new ones, but for their comments. -/
@[simp] theorem declared_replaceColumns (t : Table) (columns : List Column) :
    (t.replaceColumns columns).declared = columns.map fun c => (c.name, c.dataType) :=
  foldl_inherit_induction Table.declared declared_inherit _ _

/-- Where there are no earlier columns nothing is inherited. -/
theorem replaceColumns_of_columns_nil {t : Table} (h : t.columns = []) (columns : List Column) :
    t.replaceColumns columns = { t with columns := columns } := by
  rw [replaceColumns, h]
  rfl

end Table

end Codebook
