import Codebook.Proofs.Keyed
import Codebook.Schema.Catalog

/-!
# What a catalog holds

A catalog is a list of tables with distinct names.  `put` is the only operation on it, and this file
says what `put` does to each of the three views of a catalog: the look-up `get?`, the list of
`names`, and `only name`, the part of the catalog that is about one name.

The main statement is `sorted_eq_of_get?_eq`: the list of tables in ascending order, which is what
documents are made of, is determined by the look-ups.
-/

set_option autoImplicit false

namespace Codebook.Catalog

/-- The names of the tables, in order of discovery. -/
def names (c : Catalog) : List String := c.tables.map Table.name

/-- The part of the catalog that is about one name. -/
def only (name : String) (c : Catalog) : Catalog := ⟨c.tables.filter (·.name == name)⟩

/-! ## Looking up -/

/-- A table is found under its own name. -/
theorem name_of_get? {c : Catalog} {name : String} {t : Table} (h : c.get? name = some t) :
    t.name = name := by
  simpa using List.find?_some h

@[simp] theorem name_getOrEmpty (c : Catalog) (name : String) :
    (c.getOrEmpty name).name = name := by
  rw [getOrEmpty]
  cases h : c.get? name with
  | none => rfl
  | some t => exact name_of_get? h

theorem getOrEmpty_of_get? {c : Catalog} {name : String} {t : Table} (h : c.get? name = some t) :
    c.getOrEmpty name = t := by
  rw [getOrEmpty, h, Option.getD_some]

/-- A table is put among others by its name. -/
theorem putIn_eq (t : Table) (tables : List Table) :
    putIn t tables = insertByKey Table.name (fun _ => t) t tables := by
  induction tables with
  | nil => rfl
  | cons old tables ih => rw [putIn, insertByKey, ih]

/-- The look-up after a table has been put. -/
theorem get?_put (c : Catalog) (t : Table) (name : String) :
    (c.put t).get? name = if t.name = name then some t else c.get? name := by
  rw [get?, put, putIn_eq, find?_insertByKey fun _ _ => rfl, get?]
  split
  · cases c.tables.find? (·.name == name) <;> rfl
  · rfl

@[simp] theorem get?_put_self (c : Catalog) (t : Table) : (c.put t).get? t.name = some t := by
  rw [get?_put, if_pos rfl]

theorem get?_put_of_ne (c : Catalog) {t : Table} {name : String} (h : t.name ≠ name) :
    (c.put t).get? name = c.get? name := by
  rw [get?_put, if_neg h]

theorem getOrEmpty_put (c : Catalog) (t : Table) (name : String) :
    (c.put t).getOrEmpty name = if t.name = name then t else c.getOrEmpty name := by
  rw [getOrEmpty, get?_put]
  split <;> rfl

@[simp] theorem getOrEmpty_put_self (c : Catalog) (t : Table) :
    (c.put t).getOrEmpty t.name = t :=
  getOrEmpty_of_get? (get?_put_self c t)

/-- A table takes the place of one of its name that has been put before. -/
theorem put_put_of_name_eq (c : Catalog) {t u : Table} (h : t.name = u.name) :
    (c.put t).put u = c.put u := by
  simp only [put, putIn_eq, insertByKey_insertByKey_of_eq h]

/-- A table is put in the place where the one of its name stands, and the others stay where they
are. -/
theorem putIn_append {before after : List Table} {t u : Table}
    (hbefore : ∀ x ∈ before, x.name ≠ t.name) (hname : u.name = t.name) :
    putIn u (before ++ t :: after) = before ++ u :: after := by
  have hnew : u.name ∉ before.map Table.name := by
    rintro hmem
    obtain ⟨x, hx, hxname⟩ := List.mem_map.1 hmem
    exact hbefore x hx (hxname.trans hname)
  rw [putIn_eq, insertByKey_append_of_not_mem hnew, insertByKey, if_pos hname.symm]

theorem put_of_tables_eq {c : Catalog} {before after : List Table} {t u : Table}
    (htables : c.tables = before ++ t :: after) (hbefore : ∀ x ∈ before, x.name ≠ t.name)
    (hname : u.name = t.name) : c.put u = ⟨before ++ u :: after⟩ := by
  rw [put, htables, putIn_append hbefore hname]

theorem getOrEmpty_of_tables_eq {c : Catalog} {before after : List Table} {t : Table}
    (htables : c.tables = before ++ t :: after) (hbefore : ∀ x ∈ before, x.name ≠ t.name) :
    c.getOrEmpty t.name = t := by
  refine getOrEmpty_of_get? ?_
  rw [get?, htables, List.find?_eq_some_iff_append]
  exact ⟨beq_self_eq_true _, before, after, rfl, fun x hx => by simp [hbefore x hx]⟩

/-! ## One name -/

/-- The part about a name answers for that name. -/
@[simp] theorem get?_only_self (c : Catalog) (name : String) :
    (c.only name).get? name = c.get? name := by
  obtain ⟨tables⟩ := c
  simp only [only, get?]
  induction tables with
  | nil => rfl
  | cons t tables ih =>
    by_cases h : t.name = name
    · simp [h]
    · simpa [h] using ih

@[simp] theorem getOrEmpty_only_self (c : Catalog) (name : String) :
    (c.only name).getOrEmpty name = c.getOrEmpty name := by
  rw [getOrEmpty, getOrEmpty, get?_only_self]

/-- A table of the name is put into the part about it. -/
theorem only_put_of_eq (c : Catalog) {t : Table} {name : String} (h : t.name = name) :
    (c.put t).only name = (c.only name).put t := by
  have hname : (t.name == name) = true := beq_iff_eq.2 h
  rw [put, put, only, only, putIn_eq, putIn_eq]
  exact congrArg Catalog.mk
    (filter_insertByKey_of_true (p := (· == name)) (fun _ _ => rfl) hname)

/-- A table of another name leaves the part about a name alone. -/
theorem only_put_of_ne (c : Catalog) {t : Table} {name : String} (h : t.name ≠ name) :
    (c.put t).only name = c.only name := by
  have hname : (t.name == name) = false := beq_eq_false_iff_ne.2 h
  rw [put, only, only, putIn_eq]
  exact congrArg Catalog.mk
    (filter_insertByKey_of_false (p := (· == name)) (fun _ _ => rfl) hname)

/-! ## Names -/

@[simp] theorem names_empty : ({} : Catalog).names = [] := rfl

/-- A name that is there stays where it is. -/
theorem names_put_of_mem {c : Catalog} {t : Table} (h : t.name ∈ c.names) :
    (c.put t).names = c.names := by
  rw [names, put, putIn_eq]
  exact map_insertByKey_of_mem (fun _ _ => rfl) h

/-- A new name comes last. -/
theorem names_put_of_not_mem {c : Catalog} {t : Table} (h : t.name ∉ c.names) :
    (c.put t).names = c.names ++ [t.name] := by
  rw [names, put, putIn_eq]
  exact map_insertByKey_of_not_mem h

theorem nodup_names_put {c : Catalog} (h : c.names.Nodup) (t : Table) : (c.put t).names.Nodup := by
  rw [names, put, putIn_eq]
  exact nodup_map_insertByKey (fun _ _ => rfl) h

/-! ## The list in ascending order -/

/-- Where names are distinct, the tables are what is found under their names. -/
theorem mem_tables_iff {c : Catalog} (hc : c.names.Nodup) (t : Table) :
    t ∈ c.tables ↔ c.get? t.name = some t := mem_iff_find?_eq_some hc t

theorem nodup_tables {c : Catalog} (hc : c.names.Nodup) : c.tables.Nodup :=
  List.Pairwise.of_map Table.name (fun _ _ hne e => hne (e ▸ rfl)) hc

/-- Two catalogs with distinct names and the same look-ups hold the same tables. -/
theorem perm_tables {c d : Catalog} (hc : c.names.Nodup) (hd : d.names.Nodup)
    (h : ∀ name, c.get? name = d.get? name) : c.tables.Perm d.tables := by
  rw [List.perm_ext_iff_of_nodup (nodup_tables hc) (nodup_tables hd)]
  intro t
  rw [mem_tables_iff hc, mem_tables_iff hd, h]

/-- The sorted tables ascend by name. -/
theorem pairwise_sorted (c : Catalog) : c.sorted.Pairwise fun a b => a.name ≤ b.name := by
  have h : c.sorted.Pairwise fun a b => decide (a.name ≤ b.name) = true := by
    apply List.pairwise_mergeSort
    · intro a b c hab hbc
      simp only [decide_eq_true_eq] at *
      exact String.le_trans hab hbc
    · intro a b
      simpa using String.le_total a.name b.name
  exact h.imp fun hab => of_decide_eq_true hab

theorem perm_sorted (c : Catalog) : c.sorted.Perm c.tables := List.mergeSort_perm ..

/-- **The look-ups determine the sorted list.** -/
theorem sorted_eq_of_get?_eq {c d : Catalog} (hc : c.names.Nodup) (hd : d.names.Nodup)
    (h : ∀ name, c.get? name = d.get? name) : c.sorted = d.sorted := by
  refine List.Perm.eq_of_pairwise (fun a b ha hb hab hba => ?_) c.pairwise_sorted
    d.pairwise_sorted (c.perm_sorted.trans ((perm_tables hc hd h).trans d.perm_sorted.symm))
  have hname : a.name = b.name := String.le_antisymm hab hba
  have ha' := (mem_tables_iff hc a).1 (c.perm_sorted.mem_iff.1 ha)
  have hb' := (mem_tables_iff hd b).1 (d.perm_sorted.mem_iff.1 hb)
  rw [hname, h, hb', Option.some.injEq] at ha'
  exact ha'.symm

end Codebook.Catalog
