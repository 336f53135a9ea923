import Codebook.Proofs.Schema.Isolation
import Codebook.Proofs.Text.ByteOrder

/-!
# The order of discovery

A catalog finds its tables by their names, so it could as well be an index: entries of a key and a
table, where a key that is new comes last.  `Entries` is such an index, which never looks at the
names of the tables that it holds.  It works because no operation renames a table, so each table
stays under its own name.

What happens to a catalog is a list of operations, also where statements are followed: each request
comes to some operations on the table that it is about.  The names then stand in the order in which
the operations, or the requests, first mention them, and never leave or change places.

What is here: `Operation` and `Entries`; `entries_performAll`, the index beside the catalog;
`names_foldl`, the names after any steps that put a table each; `Schema.operationsAll`, the
operations of some requests; and `Run.index_in_order_of_discovery`.
-/

set_option autoImplicit false

namespace Codebook

open Sql

namespace Catalog

/-! ## Operations -/

/-- What can be done to a table of a catalog.  Each operation makes the table if it is not known. -/
inductive Operation where
  /-- Nothing else is done. -/
  | create (table : String)
  /-- The comment of the table is set or removed. -/
  | comment (table : String) (text : Option String)
  /-- The columns are replaced. -/
  | replaceColumns (table : String) (columns : List Column)
  /-- The comment of a column is set or removed, if there is such a column. -/
  | commentColumn (table column : String) (text : Option String)
deriving DecidableEq, Repr

namespace Operation

/-- The table that an operation is on. -/
def table : Operation → String
  | create table => table
  | comment table _ => table
  | replaceColumns table _ => table
  | commentColumn table _ _ => table

/-- What an operation does to its table. -/
def change : Operation → Table → Table
  | create _ => id
  | comment _ text => fun t => { t with comment := text }
  | replaceColumns _ columns => fun t => t.replaceColumns columns
  | commentColumn _ column text => fun t => t.remark ⟨column, text⟩

/-- No operation renames a table. -/
@[simp] theorem name_change (op : Operation) (t : Table) : (op.change t).name = t.name := by
  cases op <;> simp [change]

end Operation

/-- The catalog after an operation. -/
def perform (c : Catalog) (op : Operation) : Catalog := c.update op.table op.change

/-- The catalog after some operations, in order. -/
def performAll (c : Catalog) (ops : List Operation) : Catalog := ops.foldl perform c

@[simp] theorem performAll_nil (c : Catalog) : c.performAll [] = c := rfl

@[simp] theorem performAll_cons (c : Catalog) (op : Operation) (ops : List Operation) :
    c.performAll (op :: ops) = (c.perform op).performAll ops := rfl

theorem performAll_append (c : Catalog) (ops more : List Operation) :
    c.performAll (ops ++ more) = (c.performAll ops).performAll more := List.foldl_append

/-! ## Entries -/

/-- Tables under keys, in the order in which the keys were first used. -/
abbrev Entries := List (String × Table)

namespace Entries

/-- The entries with the table under a key changed in its place; a key that is not there comes last,
with a table of that name. -/
def update (entries : Entries) (key : String) (f : Table → Table) : Entries :=
  insertByKey Prod.fst (fun entry => (entry.1, f entry.2)) (key, f { name := key }) entries

/-- The entries after an operation. -/
def perform (entries : Entries) (op : Operation) : Entries := entries.update op.table op.change

/-- The entries after some operations, in order. -/
def performAll (entries : Entries) (ops : List Operation) : Entries := ops.foldl perform entries

end Entries

/-- The tables of a catalog, each under its name. -/
def entries (c : Catalog) : Entries := c.tables.map fun t => (t.name, t)

@[simp] theorem map_fst_entries (c : Catalog) : c.entries.map Prod.fst = c.names := by
  simp [entries, names]

/-- A table that is not renamed is found under its key and under its name alike. -/
theorem entries_update {f : Table → Table} (hf : ∀ t, (f t).name = t.name) (c : Catalog)
    (key : String) : (c.update key f).entries = c.entries.update key f := by
  obtain ⟨tables⟩ := c
  induction tables with
  | nil =>
    show [((f { name := key }).name, f { name := key })] = [(key, f { name := key })]
    rw [hf]
  | cons t tables ih =>
    by_cases ht : t.name = key
    · have hget : getOrEmpty ⟨t :: tables⟩ key = t := by simp [getOrEmpty, get?, ht]
      have hput : putIn (f t) (t :: tables) = f t :: tables := by
        rw [putIn, if_pos (hf t).symm]
      rw [Catalog.update, hget, entries, put, hput, entries, Entries.update, List.map_cons,
        List.map_cons, insertByKey, if_pos ht, hf]
    · have hget : getOrEmpty ⟨t :: tables⟩ key = getOrEmpty ⟨tables⟩ key := by
        simp [getOrEmpty, get?, ht]
      have hput (u : Table) (hu : u.name = key) : putIn u (t :: tables) = t :: putIn u tables := by
        rw [putIn, if_neg fun e => ht (e.trans hu)]
      rw [Catalog.update, hget, entries, put, hput _ (by rw [hf, name_getOrEmpty]), entries,
        Entries.update, List.map_cons, List.map_cons, insertByKey, if_neg ht]
      exact congrArg ((t.name, t) :: ·) ih

/-- **The entries are the tables under their names**, whatever is done. -/
theorem entries_performAll (c : Catalog) (ops : List Operation) :
    (c.performAll ops).entries = c.entries.performAll ops := by
  induction ops generalizing c with
  | nil => rfl
  | cons op ops ih =>
    rw [performAll_cons, ih, perform, entries_update (Operation.name_change op)]
    rfl

/-! ## Names -/

/-- A list of distinct names is the list of the first occurrences in it. -/
theorem eraseDups_of_nodup {ns : List String} (h : ns.Nodup) : ns.eraseDups = ns := by
  induction ns with
  | nil => rfl
  | cons n ns ih =>
    rw [List.nodup_cons] at h
    have hfilter : ns.filter (fun m => !m == n) = ns := by
      refine List.filter_eq_self.2 fun m hm => ?_
      have hne : m ≠ n := fun e => h.1 (e ▸ hm)
      simpa using hne
    rw [List.eraseDups_cons, hfilter, ih h.2]

/-- After steps that put one table each, or nothing, there are the names that were there and then
the new ones, in the order in which the steps first mention them. -/
theorem names_foldl {α β : Type} (view : β → Catalog) {step : β → α → β}
    {named : α → Option String} (h : ∀ b a, (named a = none ∧ view (step b a) = view b) ∨
      ∃ t : Table, named a = some t.name ∧ view (step b a) = (view b).put t)
    {b : β} (hb : (view b).names.Nodup) (as : List α) :
    (view (as.foldl step b)).names.Nodup ∧
      (view (as.foldl step b)).names = ((view b).names ++ as.filterMap named).eraseDups := by
  induction as generalizing b with
  | nil => exact ⟨hb, by simp [eraseDups_of_nodup hb]⟩
  | cons a as ih =>
    rcases h b a with ⟨hnamed, hview⟩ | ⟨t, hnamed, hview⟩
    · rw [List.foldl_cons, List.filterMap_cons_none hnamed, ← hview]
      exact ih (hview ▸ hb)
    · have hput : (view (step b a)).names.Nodup := by
        rw [hview]
        exact nodup_names_put hb t
      obtain ⟨hnodup, hnames⟩ := ih hput
      refine ⟨hnodup, ?_⟩
      rw [List.foldl_cons, hnames, List.filterMap_cons_some hnamed, hview]
      by_cases hmem : t.name ∈ (view b).names
      · rw [names_put_of_mem hmem, List.eraseDups_append, List.eraseDups_append]
        simp [List.removeAll, hmem]
      · rw [names_put_of_not_mem hmem, List.append_assoc, List.singleton_append]

/-- What is there stays where it is. -/
theorem prefix_of_names_eq {c d : Catalog} (hc : c.names.Nodup) {ns : List String}
    (h : d.names = (c.names ++ ns).eraseDups) : c.names <+: d.names := by
  rw [h, List.eraseDups_append, eraseDups_of_nodup hc]
  exact List.prefix_append _ _

theorem names_performAll {c : Catalog} (hc : c.names.Nodup) (ops : List Operation) :
    (c.performAll ops).names.Nodup ∧
      (c.performAll ops).names = (c.names ++ ops.map Operation.table).eraseDups := by
  have hstep (c : Catalog) (op : Operation) : ∃ t : Table,
      some op.table = some t.name ∧ c.perform op = c.put t :=
    ⟨op.change (c.getOrEmpty op.table), by simp, rfl⟩
  have htables : ops.filterMap (fun op => some op.table) = ops.map Operation.table :=
    congrFun List.filterMap_eq_map ops
  rw [← htables]
  exact names_foldl id (fun c op => .inr (hstep c op)) hc ops

/-! ## Ascending order -/

/-- Where names are distinct the sorted tables ascend strictly, in the order of the bytes of their
names. -/
theorem sorted_ascends {c : Catalog} (hc : c.names.Nodup) :
    c.sorted.Pairwise fun s t => s.name.toUTF8.toList < t.name.toUTF8.toList := by
  have hnames : (c.sorted.map Table.name).Nodup := (c.perm_sorted.map Table.name).nodup_iff.2 hc
  have hdistinct : c.sorted.Pairwise fun s t => s.name ≠ t.name := List.pairwise_map.1 hnames
  refine (c.pairwise_sorted.and hdistinct).imp fun ⟨hle, hne⟩ => ?_
  exact Text.Utf8.toUTF8_lt_of_lt (String.not_le.1 fun hge => hne (String.le_antisymm hle hge))

/-! ## Indexes -/

/-- A catalog is an index of some names, kept as entries: what that comes to. -/
structure IsIndex (c : Catalog) (entries : Entries) (named : List String) : Prop where
  /-- The tables stand under their own names, and they are the tables of the catalog. -/
  entries_eq : entries = c.tables.map fun t => (t.name, t)
  /-- No key occurs twice. -/
  nodup : (entries.map Prod.fst).Nodup
  /-- The keys are the names, in the order in which they first occur. -/
  keys_eq : entries.map Prod.fst = named.eraseDups
  /-- The sorted list has the same tables. -/
  perm : c.sorted.Perm c.tables
  /-- It ascends strictly, in the order of the bytes of names. -/
  ascends : c.sorted.Pairwise fun s t => s.name.toUTF8.toList < t.name.toUTF8.toList

theorem IsIndex.of_names_eq {c : Catalog} (hc : c.names.Nodup) {named : List String}
    (h : c.names = named.eraseDups) : c.IsIndex c.entries named where
  entries_eq := rfl
  nodup := by rwa [map_fst_entries]
  keys_eq := by rw [map_fst_entries, h]
  perm := c.perm_sorted
  ascends := sorted_ascends hc

end Catalog

/-! ## The operations of requests -/

namespace Schema

open Catalog (Operation)

/-- The operations that a request comes to: a definition replaces the columns, and the comments that
wait for the table are made on them. -/
def operations (s : Schema) : Reading → List Operation
  | .nothing => []
  | .defineTable table columns =>
    .replaceColumns table (columns.map fun (name, dataType) =>
        { name := name, dataType := dataType }) ::
      (s.waiting.remarksOn table).map fun r => .commentColumn table r.column r.text
  | .describeTable table comment => [.comment table comment]
  | .describeColumn table column comment => [.commentColumn table column comment]

/-- The operations that some requests come to, in order. -/
def operationsAll (s : Schema) : List Reading → List Operation
  | [] => []
  | r :: rs => s.operations r ++ (s.apply r).operationsAll rs

/-- Comments on columns of a table that has just been put are remarks on it. -/
theorem performAll_put (c : Catalog) (t : Table) (rs : List Remark) :
    (c.put t).performAll (rs.map fun r => .commentColumn t.name r.column r.text) =
      c.put (t.remarks rs) := by
  induction rs generalizing t with
  | nil => rfl
  | cons r rs ih =>
    have hperform : (c.put t).perform (.commentColumn t.name r.column r.text) =
        c.put (t.remark r) := by
      show (c.put t).put (((c.put t).getOrEmpty t.name).remark r) = _
      rw [Catalog.getOrEmpty_put_self, Catalog.put_put_of_name_eq _ (by simp)]
    have hrest := ih (t.remark r)
    rw [Table.name_remark] at hrest
    rw [List.map_cons, Catalog.performAll_cons, hperform, hrest, Table.remarks_cons]

theorem catalog_apply_eq_performAll (s : Schema) (r : Reading) :
    (s.apply r).catalog = s.catalog.performAll (s.operations r) := by
  cases r with
  | nothing => rfl
  | defineTable table columns =>
    have hrest := performAll_put s.catalog (s.redeclared table columns) (s.waiting.remarksOn table)
    rw [name_redeclared] at hrest
    rw [apply, defineTable_eq, operations, Catalog.performAll_cons]
    exact hrest.symm
  | describeTable table comment => rfl
  | describeColumn table column comment =>
    exact congrArg Schema.catalog (describeColumn_eq s table column comment)

/-- **Requests come to operations.** -/
theorem catalog_applyAll_eq_performAll (s : Schema) (rs : List Reading) :
    (s.applyAll rs).catalog = s.catalog.performAll (s.operationsAll rs) := by
  induction rs generalizing s with
  | nil => rfl
  | cons r rs ih =>
    rw [applyAll_cons, ih, operationsAll, Catalog.performAll_append, catalog_apply_eq_performAll]

theorem names_applyAll {s : Schema} (hs : s.catalog.names.Nodup) (rs : List Reading) :
    (s.applyAll rs).catalog.names = (s.catalog.names ++ rs.filterMap Reading.table?).eraseDups :=
  (Catalog.names_foldl catalog
    (fun s r => (catalog_apply s r).imp_left fun h => ⟨h.1, congrArg Schema.catalog h.2⟩) hs rs).2

end Schema

/-! ## Runs -/

namespace Run

/-- The operations that the statements of a run come to. -/
def operations (d : Dialect) (l : Run) : List Catalog.Operation :=
  ({} : Schema).operationsAll (requests d l)

/-- The tables that the statements of a run are about, one for each statement that is about a
table. -/
def named (d : Dialect) (l : Run) : List String := (requests d l).filterMap Reading.table?

theorem mem_named_iff (d : Dialect) (l : Run) (name : String) :
    name ∈ named d l ↔
      ∃ x ∈ l, (x.2.kind = .createTable ∨ x.2.kind = .commentOn) ∧
        x.2.isAbout d name = true := by
  rw [named, requests, List.filterMap_filterMap, List.mem_filterMap]
  refine exists_congr fun x => and_congr_right fun _ => ?_
  rw [Statement.isAbout]
  cases hread : x.2.read d with
  | error fault => simp [Except.toOption]
  | ok reading =>
    simp only [Except.toOption, Option.bind_some, beq_iff_eq]
    refine ⟨fun h => ⟨?_, h⟩, And.right⟩
    cases hkind : x.2.kind with
    | createTable => exact .inl rfl
    | commentOn => exact .inr rfl
    | alterTable =>
      rw [Statement.read, hkind] at hread
      cases hread
      cases h

/-- **A catalog is an index in order of discovery.**  Whatever operations are done on a catalog that
is empty at first, and whatever statements are followed from the start: each table stands under its
own name, and no name occurs twice; the names are those that the operations are on, or that the
statements which can be read and create a table or comment are about, in the order in which they
first come up; what is done later removes none and puts none in another place; and the sorted list
has the same tables, and ascends strictly in the order of the bytes of their names. -/
theorem index_in_order_of_discovery (d : Dialect) :
    (∀ ops more : List Catalog.Operation,
      (Catalog.performAll {} ops).IsIndex (Catalog.Entries.performAll [] ops)
          (ops.map Catalog.Operation.table) ∧
        (Catalog.performAll {} ops).names <+: (Catalog.performAll {} (ops ++ more)).names) ∧
      ∀ l more : Run,
        (schema d l).catalog.IsIndex (Catalog.Entries.performAll [] (operations d l))
            (named d l) ∧
          (∀ name, name ∈ (schema d l).catalog.names ↔
            ∃ x ∈ l, (x.2.kind = .createTable ∨ x.2.kind = .commentOn) ∧
              x.2.isAbout d name = true) ∧
          (schema d l).catalog.names <+: (schema d (l ++ more)).catalog.names := by
  have hempty : ({} : Catalog).names.Nodup := List.nodup_nil
  constructor
  · intro ops more
    obtain ⟨hnodup, hnames⟩ := Catalog.names_performAll hempty ops
    have hentries : Catalog.Entries.performAll [] ops = (Catalog.performAll {} ops).entries :=
      (Catalog.entries_performAll {} ops).symm
    rw [hentries, Catalog.performAll_append]
    exact ⟨.of_names_eq hnodup hnames,
      Catalog.prefix_of_names_eq hnodup (Catalog.names_performAll hnodup more).2⟩
  · intro l more
    have hnodup : (schema d l).catalog.names.Nodup := by
      rw [schema_eq]
      exact Schema.nodup_names_applyAll hempty _
    have hnames : (schema d l).catalog.names = (named d l).eraseDups := by
      rw [schema_eq]
      exact Schema.names_applyAll hempty _
    have hentries : Catalog.Entries.performAll [] (operations d l) =
        (schema d l).catalog.entries := by
      rw [schema_eq, Schema.catalog_applyAll_eq_performAll, Catalog.entries_performAll]
      rfl
    refine ⟨hentries ▸ .of_names_eq hnodup hnames, fun name => ?_, ?_⟩
    · rw [hnames, List.mem_eraseDups, mem_named_iff]
    · have hmore : schema d (l ++ more) = (schema d l).applyAll (requests d more) := by
        rw [schema_eq, requests_append, Schema.applyAll_append, ← schema_eq]
      rw [hmore]
      exact Catalog.prefix_of_names_eq hnodup (Schema.names_applyAll hnodup _)

end Run

end Codebook
