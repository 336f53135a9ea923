import Codebook.Go.Grammar

/-!
# What a form takes

`Takes n f ts trees rest` says that a form takes what stands before `rest` and gives `trees`, and
`Fails n f ts` that it does not fit, with a depth of `n` or more.  Each lemma here is about one
constructor of forms: it tells what a form does from what its parts do one level deeper.

What is here: `Takes`, `Fails`, and their lemmas.
-/

set_option autoImplicit false

namespace Codebook.Go

open Form

-- each lemma opens one step of the reader
attribute [local simp] readWith

/-- A form takes what stands before `rest` and gives these trees, however deep beyond `n` the
reading may go. -/
def Takes (n : Nat) (f : Form Rule) (ts : List Token) (trees : List Tree) (rest : List Token) :
    Prop :=
  ∀ m, n ≤ m → readWith Rule.form m f ts = some (trees, rest)

/-- A form does not fit, however deep beyond `n` the reading may go. -/
def Fails (n : Nat) (f : Form Rule) (ts : List Token) : Prop :=
  ∀ m, n ≤ m → readWith Rule.form m f ts = none

section

variable {n : Nat} {a b f : Form Rule} {r : Rule} {ts rest rest' : List Token}
  {trees more : List Tree}

/-! ## Forms that do not fit -/

namespace Fails

theorem of_succ (h : ∀ m, n ≤ m → readWith Rule.form (m + 1) f ts = none) : Fails (n + 1) f ts
  | m + 1, hm => h m (Nat.le_of_succ_le_succ hm)

theorem mono {k : Nat} (h : Fails n f ts) (hk : n ≤ k) : Fails k f ts :=
  fun m hm => h m (Nat.le_trans hk hm)

theorem rule (h : Fails n r.form ts) : Fails (n + 1) (.rule r) ts := by
  refine of_succ fun m hm => ?_
  exact h m hm

theorem seqLeft (h : Fails n a ts) : Fails (n + 1) (.seq a b) ts := by
  refine of_succ fun m hm => ?_
  simp [h m hm]

theorem seqRight (ha : Takes n a ts trees rest) (hb : Fails n b rest) :
    Fails (n + 1) (.seq a b) ts := by
  refine of_succ fun m hm => ?_
  simp [ha m hm, hb m hm]

theorem alt (ha : Fails n a ts) (hb : Fails n b ts) : Fails (n + 1) (.alt a b) ts := by
  refine of_succ fun m hm => ?_
  simp [ha m hm, hb m hm]

theorem node {label : Label} (h : Fails n a ts) : Fails (n + 1) (.node label a) ts := by
  refine of_succ fun m hm => ?_
  simp [h m hm]

theorem notAhead (h : Takes n a ts trees rest) : Fails (n + 1) (.notAhead a) ts := by
  refine of_succ fun m hm => ?_
  simp [h m hm]

end Fails

/-! ## Forms that fit -/

namespace Takes

theorem of_succ (h : ∀ m, n ≤ m → readWith Rule.form (m + 1) f ts = some (trees, rest)) :
    Takes (n + 1) f ts trees rest
  | m + 1, hm => h m (Nat.le_of_succ_le_succ hm)

theorem mono {k : Nat} (h : Takes n f ts trees rest) (hk : n ≤ k) : Takes k f ts trees rest :=
  fun m hm => h m (Nat.le_trans hk hm)

theorem empty : Takes (n + 1) .empty ts [] ts := by
  refine of_succ fun m _ => ?_
  rfl

theorem token {t : Terminal} (h : take true t.fits ts = some (trees, rest)) :
    Takes (n + 1) (.token t) ts trees rest := by
  refine of_succ fun m _ => ?_
  exact h

theorem rule (h : Takes n r.form ts trees rest) : Takes (n + 1) (.rule r) ts trees rest := by
  refine of_succ fun m hm => ?_
  exact h m hm

theorem seq (ha : Takes n a ts trees rest) (hb : Takes n b rest more rest') :
    Takes (n + 1) (.seq a b) ts (trees ++ more) rest' := by
  refine of_succ fun m hm => ?_
  simp [ha m hm, hb m hm]

/-- What gives no trees stands before something. -/
theorem seqNil (ha : Takes n a ts [] rest) (hb : Takes n b rest more rest') :
    Takes (n + 1) (.seq a b) ts more rest' := seq ha hb

theorem altLeft (ha : Takes n a ts trees rest) : Takes (n + 1) (.alt a b) ts trees rest := by
  refine of_succ fun m hm => ?_
  simp [ha m hm]

theorem altRight (ha : Fails n a ts) (hb : Takes n b ts trees rest) :
    Takes (n + 1) (.alt a b) ts trees rest := by
  refine of_succ fun m hm => ?_
  simp [ha m hm, hb m hm]

/-- A repetition of what does not fit takes nothing. -/
theorem manyNil (h : Fails n a ts) : Takes (n + 1) (.many a) ts [] ts := by
  refine of_succ fun m hm => ?_
  simp [h m hm]

theorem manyCons (ha : Takes n a ts trees rest) (hrest : rest.length < ts.length)
    (hmore : Takes n (.many a) rest more rest') :
    Takes (n + 1) (.many a) ts (trees ++ more) rest' := by
  refine of_succ fun m hm => ?_
  simp [ha m hm, if_pos hrest, hmore m hm]

theorem node (label : Label) (h : Takes n a ts trees rest) :
    Takes (n + 1) (.node label a) ts (Tree.mark label trees) rest := by
  refine of_succ fun m hm => ?_
  simp [h m hm]

theorem notAhead (h : Fails n a ts) : Takes (n + 1) (.notAhead a) ts [] ts := by
  refine of_succ fun m hm => ?_
  simp [h m hm]

theorem terminator (h : take false endsStatement ts = some (trees, rest)) :
    Takes (n + 1) .terminator ts trees rest := by
  refine of_succ fun m _ => ?_
  exact h

/-- What may be left out is left out where it does not fit. -/
theorem optNone (h : Fails n a ts) : Takes (n + 2) (opt a) ts [] ts :=
  altRight (fun m hm => h m (by omega)) empty

/-- Nothing stands before the next token on the same line. -/
theorem sameLine {t : Token} (ht : t.isLineEnd = false) (hskip : (skip false ts).2 = t :: rest) :
    Takes (n + 1) .sameLine ts [] ts := by
  refine of_succ fun m _ => ?_
  simp [hskip, ht]

theorem finish : Takes (n + 1) .finish [] [] [] := by
  refine of_succ fun m _ => ?_
  rfl

end Takes

end

end Codebook.Go
