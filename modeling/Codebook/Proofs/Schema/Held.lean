import Codebook.Proofs.Schema.Waiting

/-!
# Remarks that are held back

While a table has no columns every remark on it is held back: a comment waits, in the place of an
earlier one in the same spelling, and a removal gives up what waits in that spelling.  Delivery then
makes the held remarks in the order in which their spellings came up, which need not be the order in
which the remarks were made.

What is here: `standing`, the remarks that no later removal takes back; `Settled`, the condition
that the spelling that came up last has the last word; and `lastText_held_iff`, that this is exactly
when holding the remarks back makes no difference to the column.
-/

set_option autoImplicit false

namespace Codebook

/-! ## The last word -/

/-- What was said last, if it was not a removal. -/
def lastText (rs : List Remark) : Option String := rs.getLast?.bind Remark.text

@[simp] theorem lastText_nil : lastText [] = none := rfl

theorem lastText_append_singleton (rs : List Remark) (r : Remark) :
    lastText (rs ++ [r]) = r.text := by simp [lastText]

/-- What comes before something that is said does not matter. -/
theorem lastText_append_of_ne_nil (rs : List Remark) {ss : List Remark} (h : ss ≠ []) :
    lastText (rs ++ ss) = lastText ss := by
  rw [lastText, lastText, List.getLast?_append, List.getLast?_eq_some_getLast h]
  rfl

/-! ## The remarks that stand -/

/-- The remarks that stand after one more: a removal takes back all those in its spelling. -/
def stand (rs : List Remark) (r : Remark) : List Remark :=
  match r.text with
  | some _ => rs ++ [r]
  | none => rs.filter (·.column ≠ r.column)

/-- The remarks that no later removal in the same spelling takes back. -/
def standing (rs : List Remark) : List Remark := rs.foldl stand []

theorem standing_append_singleton (rs : List Remark) (r : Remark) :
    standing (rs ++ [r]) = stand (standing rs) r := by
  rw [standing, List.foldl_append]
  rfl

/-- The spelling that came up last, among the remarks that stand, has the last word. -/
def Settled (rs : List Remark) : Prop :=
  ∀ (pre : List Remark) (r : Remark) (post : List Remark), standing rs = pre ++ r :: post →
    r.column ∉ pre.map Remark.column →
    (∀ s ∈ post, s.column ∈ (pre ++ [r]).map Remark.column) →
    lastText ((r :: post).filter (·.column = r.column)) = lastText rs

/-- In a list of remarks there is one that brings the last new spelling. -/
theorem exists_last_new {rs : List Remark} (h : rs ≠ []) :
    ∃ pre r post, rs = pre ++ r :: post ∧ r.column ∉ pre.map Remark.column ∧
      ∀ s ∈ post, s.column ∈ (pre ++ [r]).map Remark.column := by
  induction hn : rs.length generalizing rs with
  | zero => exact absurd (List.eq_nil_of_length_eq_zero hn) h
  | succ n ih =>
    obtain ⟨init, last, rfl⟩ : ∃ init last, rs = init ++ [last] :=
      ⟨rs.dropLast, rs.getLast h, (List.dropLast_concat_getLast h).symm⟩
    by_cases hnew : last.column ∈ init.map Remark.column
    · have hne : init ≠ [] := by rintro rfl; simp at hnew
      obtain ⟨pre, r, post, rfl, hr, hpost⟩ := ih hne (by simpa using hn)
      refine ⟨pre, r, post ++ [last], by simp, hr, fun s hs => ?_⟩
      rcases List.mem_append.1 hs with hs | hs
      · exact hpost s hs
      · obtain rfl := List.mem_singleton.1 hs
        simp only [List.map_append, List.map_cons, List.mem_append, List.mem_cons] at hnew
        rcases hnew with hnew | hnew | hnew
        · simp [hnew]
        · simp [hnew]
        · obtain ⟨s', hs', e⟩ := List.mem_map.1 hnew
          exact e ▸ hpost s' hs'
    · exact ⟨init, last, [], by simp, hnew, by simp⟩

/-- A removal is the last thing that was said where nothing stands. -/
theorem lastText_of_standing_nil {rs : List Remark} (h : standing rs = []) :
    lastText rs = none := by
  cases hl : rs.getLast? with
  | none => simp [lastText, hl]
  | some r =>
    obtain ⟨init, rfl⟩ := List.getLast?_eq_some_iff.1 hl
    rw [lastText_append_singleton]
    rw [standing_append_singleton, stand] at h
    cases ht : r.text with
    | none => rfl
    | some text => simp [ht] at h

theorem isSome_of_mem_standing {rs : List Remark} {r : Remark} (h : r ∈ standing rs) :
    r.text.isSome := by
  have key : ∀ ss : List Remark, (∀ s ∈ ss, s.text.isSome) →
      ∀ s ∈ rs.foldl stand ss, s.text.isSome := by
    clear h
    induction rs with
    | nil => exact fun ss h => h
    | cons r rs ih =>
      intro ss hss
      refine ih (stand ss r) fun s hs => ?_
      rw [stand] at hs
      split at hs
      · rename_i text ht
        rcases List.mem_append.1 hs with hs | hs
        · exact hss s hs
        · rw [List.mem_singleton.1 hs, ht]; rfl
      · exact hss s (List.mem_filter.1 hs).1
  exact key [] (by simp) r h

/-! ## Holding back -/

namespace Waiting

/-- A remark on a table is held back: a comment waits, and a removal gives up what waits. -/
def hold (table : String) (w : Waiting) (r : Remark) : Waiting :=
  match r.text with
  | some text => w.insert (table, r.column) text
  | none => w.erase (table, r.column)

/-- The remarks on a table, held back one after another. -/
def held (table : String) (rs : List Remark) : Waiting := rs.foldl (hold table) []

theorem held_append_singleton (table : String) (rs : List Remark) (r : Remark) :
    held table (rs ++ [r]) = hold table (held table rs) r := by
  rw [held, List.foldl_append]
  rfl

/-- A condition on the column can be asked before holding back or after. -/
theorem filter_hold (table : String) (p : String × String → Bool) (w : Waiting) (r : Remark) :
    (hold table w r).filter (fun entry => p entry.1) =
      if p (table, r.column) then hold table (w.filter fun entry => p entry.1) r
      else w.filter fun entry => p entry.1 := by
  rw [hold, hold]
  cases r.text with
  | some text =>
    cases hp : p (table, r.column) with
    | true => exact filter_insert_of_true hp text w
    | false => exact filter_insert_of_false hp text w
  | none =>
    simp only [filter_erase]
    split
    · rfl
    · rename_i hp
      refine List.filter_eq_self.2 fun entry hentry => ?_
      have hentry' : p entry.1 = true := (List.mem_filter.1 hentry).2
      exact decide_eq_true fun e => hp (e ▸ hentry')

theorem filter_held (table : String) (p : String × String → Bool) (rs : List Remark) :
    (held table rs).filter (fun entry => p entry.1) =
      held table (rs.filter fun r => p (table, r.column)) := by
  have key : ∀ w : Waiting, (rs.foldl (hold table) w).filter (fun entry => p entry.1) =
      (rs.filter fun r => p (table, r.column)).foldl (hold table)
        (w.filter fun entry => p entry.1) := by
    induction rs with
    | nil => exact fun w => rfl
    | cons r rs ih =>
      intro w
      rw [List.foldl_cons, ih, filter_hold, List.filter_cons]
      split <;> rfl
  exact key []

/-- Only what stands is held. -/
theorem held_standing (table : String) (rs : List Remark) :
    held table (standing rs) = held table rs := by
  have key : ∀ ss : List Remark,
      held table (rs.foldl stand ss) = rs.foldl (hold table) (held table ss) := by
    induction rs with
    | nil => exact fun ss => rfl
    | cons r rs ih =>
      intro ss
      rw [List.foldl_cons, ih, List.foldl_cons]
      congr 1
      rw [stand, hold]
      split
      · rename_i text ht
        rw [held_append_singleton, hold, ht]
      · have h := filter_held table (fun key => decide (key ≠ (table, r.column))) ss
        simpa [erase] using h.symm
  exact key []

/-- What is held back for a column is what the remarks on it alone hold back. -/
theorem remarksAt_remarksOn_held (t : Table) (i : Nat) (table : String) (rs : List Remark) :
    t.remarksAt i (remarksOn table (held table rs)) =
      remarksOn table (held table (t.remarksAt i rs)) := by
  have h : held table (t.remarksAt i rs) =
      (held table rs).filter fun entry => t.columnIndex? entry.1.2 == some i :=
    (filter_held table (fun key => t.columnIndex? key.2 == some i) rs).symm
  rw [h, Table.remarksAt, remarksOn, remarksOn, only, only, List.filter_map, List.filter_filter,
    List.filter_filter]
  simp [Bool.and_comm]

/-! ## What is held last -/

/-- A new key comes last. -/
theorem insert_of_not_mem {key : String × String} {w : Waiting} (h : key ∉ w.map Prod.fst)
    (text : String) : w.insert key text = w ++ [(key, text)] := by
  rw [insert_eq]
  exact insertByKey_of_not_mem h

/-- A key that is there keeps its place, and those of the others. -/
theorem insert_append_of_mem {key : String × String} {w : Waiting} (h : key ∈ w.map Prod.fst)
    (text : String) (v : Waiting) : Waiting.insert key text (w ++ v) = w.insert key text ++ v := by
  rw [insert_eq, insert_eq]
  exact insertByKey_append_of_mem h v

theorem insert_append_of_not_mem {key : String × String} {w : Waiting}
    (h : key ∉ w.map Prod.fst) (text : String) (v : Waiting) :
    Waiting.insert key text (w ++ v) = w ++ v.insert key text := by
  rw [insert_eq, insert_eq]
  exact insertByKey_append_of_not_mem h v

theorem keys_insert_of_mem {key : String × String} {w : Waiting} (h : key ∈ w.map Prod.fst)
    (text : String) : (w.insert key text).map Prod.fst = w.map Prod.fst := by
  rw [insert_eq]
  exact map_insertByKey_of_mem (fun _ _ => rfl) h

theorem mem_keys_insert {key key' : String × String} (text : String) (w : Waiting) :
    key' ∈ (w.insert key text).map Prod.fst ↔ key' = key ∨ key' ∈ w.map Prod.fst := by
  by_cases h : key ∈ w.map Prod.fst
  · rw [keys_insert_of_mem h]
    exact ⟨.inr, fun h' => h'.elim (fun e => e ▸ h) id⟩
  · rw [insert_of_not_mem h, List.map_append, List.mem_append, or_comm]
    simp

/-- The spellings in which a comment waits, where nothing is removed. -/
theorem mem_keys_held {table column : String} {rs : List Remark} (h : ∀ r ∈ rs, r.text.isSome) :
    (table, column) ∈ (held table rs).map Prod.fst ↔ column ∈ rs.map Remark.column := by
  have key : ∀ w : Waiting, (table, column) ∈ (rs.foldl (hold table) w).map Prod.fst ↔
      column ∈ rs.map Remark.column ∨ (table, column) ∈ w.map Prod.fst := by
    induction rs with
    | nil => intro w; simp
    | cons r rs ih =>
      intro w
      obtain ⟨text, ht⟩ := Option.isSome_iff_exists.1 (h r (by simp))
      rw [List.foldl_cons, ih (fun s hs => h s (List.mem_cons_of_mem _ hs)), hold, ht,
        mem_keys_insert, List.map_cons, List.mem_cons, Prod.mk.injEq, or_left_comm, or_assoc]
      simp
  rw [held, key]
  simp

/-- A comment that waits last keeps the last place as long as no new spelling comes up. -/
theorem getLast?_foldl_hold {table column : String} {post : List Remark} :
    ∀ {w : Waiting} {text : String}, (table, column) ∉ w.map Prod.fst →
      (∀ s ∈ post, s.text.isSome ∧ (s.column = column ∨ (table, s.column) ∈ w.map Prod.fst)) →
      (post.foldl (hold table) (w ++ [((table, column), text)])).getLast?.map Prod.snd =
        lastText (⟨column, some text⟩ :: post.filter (·.column = column)) := by
  induction post with
  | nil => intro w text _ _; simp [lastText]
  | cons s post ih =>
    intro w text hcolumn hpost
    obtain ⟨hs, hs'⟩ := hpost s (by simp)
    obtain ⟨c, text'⟩ := s
    obtain ⟨text', rfl⟩ := Option.isSome_iff_exists.1 hs
    have hpost' : ∀ s ∈ post, s.text.isSome ∧
        (s.column = column ∨ (table, s.column) ∈ w.map Prod.fst) :=
      fun s hs => hpost s (List.mem_cons_of_mem _ hs)
    by_cases hc : c = column
    · subst hc
      have hold_eq : hold table (w ++ [((table, c), text)]) ⟨c, some text'⟩ =
          w ++ [((table, c), text')] := by
        rw [hold]
        simp only
        rw [insert_append_of_not_mem hcolumn, insert, if_pos rfl]
      rw [List.foldl_cons, hold_eq, ih hcolumn hpost', List.filter_cons_of_pos (by simp)]
      simp [lastText]
    · have hmem : (table, c) ∈ w.map Prod.fst := hs'.resolve_left hc
      have hold_eq : hold table (w ++ [((table, column), text)]) ⟨c, some text'⟩ =
          w.insert (table, c) text' ++ [((table, column), text)] := insert_append_of_mem hmem _ _
      rw [List.foldl_cons, hold_eq, List.filter_cons_of_neg (by simpa using hc)]
      rw [← keys_insert_of_mem hmem text'] at hcolumn
      exact ih hcolumn (by rwa [keys_insert_of_mem hmem])

/-- What is held last is the last word in the spelling that came up last. -/
theorem getLast?_held {table : String} {rs pre post : List Remark} {r : Remark}
    (hrs : standing rs = pre ++ r :: post) (hr : r.column ∉ pre.map Remark.column)
    (hpost : ∀ s ∈ post, s.column ∈ (pre ++ [r]).map Remark.column) :
    (held table rs).getLast?.map Prod.snd =
      lastText ((r :: post).filter (·.column = r.column)) := by
  have hsome : ∀ s ∈ pre ++ r :: post, s.text.isSome := fun s hs =>
    isSome_of_mem_standing (hrs ▸ hs)
  have hpre : ∀ s ∈ pre, s.text.isSome := fun s hs => hsome s (by simp [hs])
  have hnew : (table, r.column) ∉ (held table pre).map Prod.fst := by
    rwa [mem_keys_held hpre]
  obtain ⟨text, ht⟩ := Option.isSome_iff_exists.1 (hsome r (by simp))
  have hheld : held table rs =
      post.foldl (hold table) (held table pre ++ [((table, r.column), text)]) := by
    rw [← held_standing, hrs, held, List.foldl_append, List.foldl_cons, ← held, hold, ht]
    simp only
    rw [insert_of_not_mem hnew]
  rw [hheld, getLast?_foldl_hold hnew, List.filter_cons_of_pos (by simp), ← ht]
  intro s hs
  refine ⟨hsome s (by simp [hs]), ?_⟩
  rw [mem_keys_held hpre]
  simpa [or_comm] using hpost s hs

/-- All that is held is about the table. -/
theorem lastText_remarksOn_held (table : String) (rs : List Remark) :
    lastText (remarksOn table (held table rs)) = (held table rs).getLast?.map Prod.snd := by
  have honly : only table (held table rs) = held table rs := by
    rw [only, filter_held table (fun key => key.1 == table), List.filter_eq_self.2 (by simp)]
  rw [remarksOn, honly, lastText, List.getLast?_map]
  cases (held table rs).getLast? <;> rfl

/-- **Holding back makes no difference exactly to settled remarks.** -/
theorem lastText_held_iff (table : String) (rs : List Remark) :
    lastText (remarksOn table (held table rs)) = lastText rs ↔ Settled rs := by
  rw [lastText_remarksOn_held]
  constructor
  · intro h pre r post hrs hr hpost
    rw [← h, getLast?_held hrs hr hpost]
  · intro h
    by_cases hne : standing rs = []
    · rw [← held_standing, hne, lastText_of_standing_nil hne]
      rfl
    · obtain ⟨pre, r, post, hrs, hr, hpost⟩ := exists_last_new hne
      rw [getLast?_held hrs hr hpost, h pre r post hrs hr hpost]

end Waiting

end Codebook
