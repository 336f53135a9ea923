/-!
# Lists with one entry for each key

Tables, groups and comments that wait are kept in lists, in the order in which their keys were first
met.  What has a key that is there changes the entry of that key in its place, and what has a new
key comes last.  What that does to the keys, to a look-up and to a part of the list does not depend
on what the entries are.

What is here: `insertByKey`; `map_insertByKey_of_mem` and `insertByKey_of_not_mem`, the keys;
`find?_insertByKey`, the look-up; and `filter_insertByKey`, the entries of some keys.
-/

set_option autoImplicit false

namespace Codebook

section

variable {α κ : Type} [DecidableEq κ]

/-- Changes the first entry that has the key of `x`, or puts `x` at the end. -/
def insertByKey (key : α → κ) (f : α → α) (x : α) : List α → List α
  | [] => [x]
  | y :: ys => if key y = key x then f y :: ys else y :: insertByKey key f x ys

variable {key : α → κ} {f : α → α} {x : α} {l : List α}

/-! ## Keys -/

/-- A new key comes last. -/
theorem insertByKey_of_not_mem (h : key x ∉ l.map key) : insertByKey key f x l = l ++ [x] := by
  induction l with
  | nil => rfl
  | cons y l ih =>
    rw [List.map_cons, List.mem_cons, not_or] at h
    rw [insertByKey, if_neg (Ne.symm h.1), ih h.2, List.cons_append]

theorem insertByKey_append_of_not_mem (h : key x ∉ l.map key) (l' : List α) :
    insertByKey key f x (l ++ l') = l ++ insertByKey key f x l' := by
  induction l with
  | nil => rfl
  | cons y l ih =>
    rw [List.map_cons, List.mem_cons, not_or] at h
    rw [List.cons_append, insertByKey, if_neg (Ne.symm h.1), ih h.2, List.cons_append]

/-- A key that is there is looked for no further. -/
theorem insertByKey_append_of_mem (h : key x ∈ l.map key) (l' : List α) :
    insertByKey key f x (l ++ l') = insertByKey key f x l ++ l' := by
  induction l with
  | nil => simp at h
  | cons y l ih =>
    rw [List.cons_append, insertByKey, insertByKey]
    split
    · rfl
    · rename_i hne
      rw [ih ((List.mem_cons.1 h).resolve_left (Ne.symm hne)), List.cons_append]

/-- A key that is there stays where it is. -/
theorem map_insertByKey_of_mem (hf : ∀ y, key y = key x → key (f y) = key x)
    (h : key x ∈ l.map key) : (insertByKey key f x l).map key = l.map key := by
  induction l with
  | nil => simp at h
  | cons y l ih =>
    by_cases hy : key y = key x
    · rw [insertByKey, if_pos hy, List.map_cons, List.map_cons, hf y hy, hy]
    · rw [insertByKey, if_neg hy, List.map_cons, List.map_cons,
        ih ((List.mem_cons.1 h).resolve_left (Ne.symm hy))]

theorem map_insertByKey_of_not_mem (h : key x ∉ l.map key) :
    (insertByKey key f x l).map key = l.map key ++ [key x] := by
  rw [insertByKey_of_not_mem h, List.map_append, List.map_singleton]

theorem nodup_map_insertByKey (hf : ∀ y, key y = key x → key (f y) = key x)
    (h : (l.map key).Nodup) : ((insertByKey key f x l).map key).Nodup := by
  by_cases hmem : key x ∈ l.map key
  · rwa [map_insertByKey_of_mem hf hmem]
  · rw [map_insertByKey_of_not_mem hmem, List.nodup_append]
    refine ⟨h, by simp, fun a ha b hb => ?_⟩
    rw [List.mem_singleton.1 hb]
    exact fun e => hmem (e ▸ ha)

/-! ## Looking up -/

/-- What is found afterwards under the key is what was there, changed, or else what has been put. -/
theorem find?_insertByKey (hf : ∀ y, key y = key x → key (f y) = key x) (k : κ) :
    (insertByKey key f x l).find? (key · == k) =
      if key x = k then some (((l.find? (key · == k)).map f).getD x)
      else l.find? (key · == k) := by
  induction l with
  | nil => by_cases h : key x = k <;> simp [insertByKey, h]
  | cons y l ih =>
    by_cases hy : key y = key x
    · rw [insertByKey, if_pos hy, List.find?_cons, List.find?_cons, hf y hy, hy]
      by_cases h : key x = k
      · simp [h]
      · simp [beq_eq_false_iff_ne.2 h, h]
    · rw [insertByKey, if_neg hy, List.find?_cons, List.find?_cons, ih]
      by_cases h : key x = k
      · have hne : key y ≠ k := fun e => hy (e.trans h.symm)
        simp [h, beq_eq_false_iff_ne.2 hne]
      · simp [h]

/-- What is found and does not change is there already. -/
theorem insertByKey_eq_self {y : α} (hfind : l.find? (key · == key x) = some y) (hy : f y = y) :
    insertByKey key f x l = l := by
  induction l with
  | nil => cases hfind
  | cons z l ih =>
    by_cases hz : key z = key x
    · rw [List.find?_cons_of_pos (by simpa using hz)] at hfind
      obtain rfl := Option.some.inj hfind
      rw [insertByKey, if_pos hz, hy]
    · rw [List.find?_cons_of_neg (by simpa using hz)] at hfind
      rw [insertByKey, if_neg hz, ih hfind]

/-- What is put in the place of its key takes the place of what has been put there before. -/
theorem insertByKey_insertByKey_of_eq {x y : α} (h : key x = key y) (l : List α) :
    insertByKey key (fun _ => y) y (insertByKey key (fun _ => x) x l) =
      insertByKey key (fun _ => y) y l := by
  induction l with
  | nil =>
    show insertByKey key (fun _ => y) y [x] = [y]
    rw [insertByKey, if_pos h]
  | cons z l ih =>
    by_cases hz : key z = key x
    · rw [insertByKey, if_pos hz, insertByKey, if_pos h, insertByKey, if_pos (hz.trans h)]
    · have hz' : key z ≠ key y := fun e => hz (e.trans h.symm)
      rw [insertByKey, if_neg hz, insertByKey, if_neg hz', insertByKey, if_neg hz', ih]

/-- What has been put in the place of its key is there when it is put again. -/
theorem insertByKey_insertByKey (x : α) (l : List α) :
    insertByKey key (fun _ => x) x (insertByKey key (fun _ => x) x l) =
      insertByKey key (fun _ => x) x l :=
  insertByKey_insertByKey_of_eq rfl l

/-- Where keys are distinct, the entries are what is found under their keys. -/
theorem mem_iff_find?_eq_some (h : (l.map key).Nodup) (x : α) :
    x ∈ l ↔ l.find? (key · == key x) = some x := by
  refine ⟨fun hx => ?_, List.mem_of_find?_eq_some⟩
  induction l with
  | nil => simp at hx
  | cons y l ih =>
    rw [List.map_cons, List.nodup_cons] at h
    rcases List.mem_cons.1 hx with rfl | htail
    · simp
    · have hne : key y ≠ key x := fun e => h.1 (e ▸ List.mem_map_of_mem htail)
      simpa [hne] using ih h.2 htail

/-! ## The entries of some keys -/

/-- A condition on keys lets the change through if it holds of the key, and else hides it. -/
theorem filter_insertByKey {p : κ → Bool} (hf : ∀ y, key y = key x → key (f y) = key x) :
    (insertByKey key f x l).filter (fun y => p (key y)) =
      if p (key x) then insertByKey key f x (l.filter fun y => p (key y))
      else l.filter fun y => p (key y) := by
  induction l with
  | nil => simp [insertByKey, List.filter_cons]
  | cons y l ih =>
    by_cases hy : key y = key x
    · by_cases hp : p (key x) = true <;> simp [insertByKey, hy, hf y hy, hp]
    · rw [insertByKey, if_neg hy, List.filter_cons, ih, List.filter_cons]
      split <;> split <;> simp [insertByKey, hy]

theorem filter_insertByKey_of_true {p : κ → Bool} (hf : ∀ y, key y = key x → key (f y) = key x)
    (h : p (key x) = true) :
    (insertByKey key f x l).filter (fun y => p (key y)) =
      insertByKey key f x (l.filter fun y => p (key y)) := by
  rw [filter_insertByKey hf, if_pos h]

theorem filter_insertByKey_of_false {p : κ → Bool} (hf : ∀ y, key y = key x → key (f y) = key x)
    (h : p (key x) = false) :
    (insertByKey key f x l).filter (fun y => p (key y)) = l.filter fun y => p (key y) := by
  rw [filter_insertByKey hf, h, if_neg Bool.false_ne_true]

end

end Codebook
