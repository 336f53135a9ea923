import Codebook.Proofs.Keyed
import Codebook.Proofs.Schema.Table
import Codebook.Schema

/-!
# Comments that wait

The comments that wait are a list in which `insert` changes an entry in its place or adds one at the
end, and `erase` takes one out.  Two things are read off such a list: `only table`, the entries for
the columns of one table, and `remarksOn table`, the same entries as remarks.

The main statement is `deliver_eq`: delivering makes the waiting remarks on a table in the order in
which they stand, and keeps what goes to no column.
-/

set_option autoImplicit false

namespace Codebook.Waiting

/-- The comments that wait for columns of one table. -/
def only (table : String) (w : Waiting) : Waiting := w.filter (·.1.1 == table)

/-- The comments that wait for columns of one table, as remarks. -/
def remarksOn (table : String) (w : Waiting) : List Remark :=
  (w.only table).map fun entry => ⟨entry.1.2, some entry.2⟩

/-- A comment is let wait among others by its key. -/
theorem insert_eq (key : String × String) (text : String) (w : Waiting) :
    w.insert key text = insertByKey Prod.fst (fun _ => (key, text)) (key, text) w := by
  induction w with
  | nil => rfl
  | cons entry w ih => rw [insert, insertByKey, ih]

/-! ## A filter on the columns -/

/-- A condition on the column that holds of the key lets an insertion through. -/
theorem filter_insert_of_true {p : String × String → Bool} {key : String × String}
    (h : p key = true) (text : String) (w : Waiting) :
    (w.insert key text).filter (fun entry => p entry.1) =
      Waiting.insert key text (w.filter fun entry => p entry.1) := by
  rw [insert_eq, insert_eq]
  exact filter_insertByKey_of_true (fun _ _ => rfl) h

/-- One that fails for the key hides the insertion. -/
theorem filter_insert_of_false {p : String × String → Bool} {key : String × String}
    (h : p key = false) (text : String) (w : Waiting) :
    (w.insert key text).filter (fun entry => p entry.1) = w.filter fun entry => p entry.1 := by
  rw [insert_eq]
  exact filter_insertByKey_of_false (fun _ _ => rfl) h

/-- A condition on the entries and an erasure can be taken in either order. -/
theorem filter_erase (p : (String × String) × String → Bool) (key : String × String)
    (w : Waiting) : (w.erase key).filter p = Waiting.erase key (w.filter p) := by
  simp [erase, List.filter_filter, Bool.and_comm]

/-! ## One table -/

theorem only_insert_self (table column text : String) (w : Waiting) :
    (w.insert (table, column) text).only table = (w.only table).insert (table, column) text :=
  filter_insert_of_true (p := fun key => key.1 == table) (by simp) text w

theorem only_insert_of_ne {table other : String} (h : other ≠ table) (column text : String)
    (w : Waiting) : (w.insert (other, column) text).only table = w.only table :=
  filter_insert_of_false (p := fun key => key.1 == table) (by simpa using h) text w

theorem only_erase_self (table column : String) (w : Waiting) :
    (w.erase (table, column)).only table = (w.only table).erase (table, column) :=
  filter_erase _ _ w

theorem only_erase_of_ne {table other : String} (h : other ≠ table) (column : String)
    (w : Waiting) : (w.erase (other, column)).only table = w.only table := by
  rw [only, filter_erase]
  refine List.filter_eq_self.2 fun entry hentry => ?_
  have htable : entry.1.1 = table := by simpa using (List.mem_filter.1 hentry).2
  simp only [ne_eq, decide_eq_true_eq]
  exact fun e => h (by rw [← htable, e])

@[simp] theorem only_only (table : String) (w : Waiting) :
    (w.only table).only table = w.only table := by
  simp [only, List.filter_filter]

@[simp] theorem remarksOn_only (table : String) (w : Waiting) :
    (w.only table).remarksOn table = w.remarksOn table := by
  rw [remarksOn, only_only, remarksOn]

/-! ## Delivery -/

/-- Whether a comment waits for a column that a table has. -/
def isFor (t : Table) (entry : (String × String) × String) : Bool :=
  entry.1.1 == t.name && (t.columnIndex? entry.1.2).isSome

/-- A remark goes to a column if and only if there is one of the name. -/
theorem updateColumn?_eq (t : Table) (r : Remark) :
    (t.updateColumn? r.column fun c => { c with comment := r.text }) =
      if (t.columnIndex? r.column).isSome then some (t.remark r) else none := by
  rw [Table.remark, Table.updateColumn?]
  cases t.columnIndex? r.column <;> simp

theorem remark_of_isNone {t : Table} {r : Remark} (h : (t.columnIndex? r.column).isSome = false) :
    t.remark r = t := by
  rw [Table.remark, updateColumn?_eq, h]
  rfl

theorem isFor_remark (t : Table) (r : Remark) : isFor (t.remark r) = isFor t := by
  funext entry
  simp [isFor]

/-- **Delivery makes the waiting remarks on a table**, and keeps what goes to none of its
columns. -/
theorem deliver_eq (t : Table) (w : Waiting) :
    deliver t w = (t.remarks (w.remarksOn t.name), w.filter fun entry => !isFor t entry) := by
  induction w generalizing t with
  | nil => rfl
  | cons entry w ih =>
    obtain ⟨⟨table, column⟩, text⟩ := entry
    rw [deliver, updateColumn?_eq t ⟨column, some text⟩]
    by_cases htable : table = t.name
    · subst htable
      have hremarks : remarksOn t.name (((t.name, column), text) :: w) =
          ⟨column, some text⟩ :: remarksOn t.name w := by simp [remarksOn, only]
      have hfor : isFor t ((t.name, column), text) = (t.columnIndex? column).isSome := by
        simp [isFor]
      rw [if_pos rfl, hremarks, Table.remarks_cons, List.filter_cons, hfor]
      cases hc : (t.columnIndex? column).isSome with
      | true => simp [ih, isFor_remark]
      | false => simp [ih, remark_of_isNone (r := ⟨column, some text⟩) hc]
    · have hremarks : remarksOn t.name (((table, column), text) :: w) =
          remarksOn t.name w := by simp [remarksOn, only, htable]
      have hfor : isFor t ((table, column), text) = false := by simp [isFor, htable]
      rw [if_neg htable, ih, hremarks, List.filter_cons, hfor]
      rfl

end Codebook.Waiting
