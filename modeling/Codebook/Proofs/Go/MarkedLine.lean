import Codebook.Proofs.Go.Origin
import Codebook.Proofs.Text.Search

/-!
# Which lines a description is made of

A declaration is marked by the first line above it that holds the marker.  The description of its
group is what is left of the whole comment that has this line: of a comment to the end of the line,
that is the line; of one in slashes and stars, the other lines of the comment come with it.  So the
description is what the first marked line says exactly if the other lines of its comment are blank.

What is here: `exists_marked_commentLines_iff`, that a comment is marked if one of its lines is;
`firstMarkedLine?`, what the first marked line of some comments says; `trim_joinWith_eq_iff`, when
lines that are joined say what one of them says; and `description_eq_firstMarkedLine_iff`.
-/

set_option autoImplicit false

namespace Codebook

open Text

namespace Text

/-! ## Blank lines -/

/-- The characters that are not trimmed away are still there. -/
theorem countP_trim (cs : List Char) :
    (trim cs).countP (fun c => !isBlank c) = cs.countP fun c => !isBlank c := by
  obtain ⟨before, after, heq, hbefore, hafter⟩ := exists_trimWhile_append isBlank cs
  have hnone : ∀ l : List Char, (∀ c ∈ l, isBlank c = true) → l.countP (fun c => !isBlank c) = 0 :=
    fun l hl => List.countP_eq_zero.2 fun c hc => by simp [hl c hc]
  conv_rhs => rw [heq, List.countP_append, List.countP_append, hnone _ hbefore, hnone _ hafter]
  rw [Nat.zero_add, Nat.add_zero]
  rfl

theorem countP_joinWith_newline (lines : List (List Char)) :
    (joinWith ['\n'] lines).countP (fun c => !isBlank c) =
      lines.flatten.countP fun c => !isBlank c := by
  induction lines with
  | nil => rfl
  | cons line lines ih =>
    cases lines with
    | nil => simp [joinWith]
    | cons next lines =>
      have hnewline : (!isBlank '\n') = false := by decide
      rw [joinWith_char_cons (List.cons_ne_nil next lines), List.countP_append, List.countP_cons,
        ih, List.flatten_cons (l := line), List.countP_append, hnewline]
      rfl

/-- **Lines that are joined say what one of them says if the others are blank.** -/
theorem trim_joinWith_eq_iff (pre post : List (List Char)) (line : List Char) :
    trim (joinWith ['\n'] (pre ++ line :: post)) = trim line ↔
      ∀ other ∈ pre ++ post, ∀ c ∈ other, isBlank c = true := by
  constructor
  · intro h other hother c hc
    have hcount := congrArg (List.countP fun c => !isBlank c) h
    rw [countP_trim, countP_trim, countP_joinWith_newline, List.flatten_append, List.flatten_cons,
      List.countP_append, List.countP_append] at hcount
    have hzero : (pre ++ post).flatten.countP (fun c => !isBlank c) = 0 := by
      rw [List.flatten_append, List.countP_append]
      omega
    have hblank := List.countP_eq_zero.1 hzero c (List.mem_flatten_of_mem hother hc)
    simpa using hblank
  · intro h
    have hpost : ∀ c ∈ post.flatMap (['\n'] ++ ·), isBlank c = true := by
      intro c hc
      obtain ⟨other, hother, hc⟩ := List.mem_flatMap.1 hc
      rcases List.mem_cons.1 hc with rfl | hc
      · decide
      · exact h other (List.mem_append_right _ hother) c hc
    replace h : ∀ other ∈ pre, ∀ c ∈ other, isBlank c = true := fun other hother =>
      h other (List.mem_append_left _ hother)
    induction pre with
    | nil => rw [List.nil_append, joinWith_cons, trim_append_blanks hpost]
    | cons other pre ih =>
      have hother : ∀ c ∈ other ++ ['\n'], isBlank c = true := by
        intro c hc
        rcases List.mem_append.1 hc with hc | hc
        · exact h other List.mem_cons_self c hc
        · obtain rfl := List.mem_singleton.1 hc
          decide
      rw [List.cons_append, joinWith_char_cons (by simp), ← List.singleton_append,
        ← List.append_assoc, trim_blanks_append hother,
        ih fun x hx => h x (List.mem_cons_of_mem other hx)]

end Text

namespace Go

/-! ## Marked lines -/

theorem marker_ne_nil : marker ≠ [] := by decide

/-- What is found in a comment is found between its markers. -/
theorem infix_insideBlock?_iff {needle raw inside : List Char} (hne : needle ≠ [])
    (hslash : '/' ∉ needle) (hstar : '*' ∉ needle) (h : insideBlock? raw = some inside) :
    needle <:+: inside ↔ needle <:+: raw := by
  unfold insideBlock? at h
  split at h
  · rename_i rest
    obtain ⟨r, hr, rfl⟩ := Option.map_eq_some_iff.1 h
    obtain rfl : rest = r.reverse ++ ['*', '/'] := by
      simpa using congrArg List.reverse ((afterPrefix?_eq_some_iff ..).1 hr)
    rw [infix_cons_iff_of_not_mem hne hslash, infix_cons_iff_of_not_mem hne hstar,
      infix_append_cons_iff hstar, infix_cons_iff_of_not_mem hne hslash, List.infix_nil,
      or_iff_left hne]
  · cases h

/-- What is found in a text is found in one of its lines. -/
theorem exists_infix_linesOf_iff {needle : List Char} (hne : needle ≠ []) (hline : '\n' ∉ needle)
    (cs : List Char) : (∃ line ∈ linesOf cs, needle <:+: line) ↔ needle <:+: cs := by
  have hcut : (∃ line ∈ cutLines cs, needle <:+: line) ↔ needle <:+: cs := by
    rw [← infix_joinWith_iff hne hline, cutLines, joinWith_cutAt]
  rw [← hcut, linesOf]
  split
  · rename_i hlast
    conv_rhs => rw [← List.dropLast_append_getLast? [] hlast]
    simp [or_and_right, exists_or, hne]
  · rfl

/-- **A comment is marked if one of its lines is.** -/
theorem exists_marked_commentLines_iff (raw : List Char) :
    (∃ line ∈ commentLines raw, containsText marker line = true) ↔
      containsText marker raw = true := by
  have hblank : ∀ c ∈ marker, isBlank c = false := by decide
  have hslash : '/' ∉ marker := by decide
  simp only [containsText_iff]
  unfold commentLines
  split
  · simp [infix_trimRight_iff marker_ne_nil hblank,
      infix_cons_iff_of_not_mem marker_ne_nil hslash,
      infix_cons_iff_of_not_mem marker_ne_nil (s := ' ') (by decide)]
  · simp [infix_trimRight_iff marker_ne_nil hblank,
      infix_cons_iff_of_not_mem marker_ne_nil hslash]
  · split
    · rename_i inside hinside
      rw [← infix_insideBlock?_iff marker_ne_nil hslash (by decide) hinside,
        ← exists_infix_linesOf_iff marker_ne_nil (by decide)]
      simp [infix_trimRight_iff marker_ne_nil hblank]
    · simp [infix_trimRight_iff marker_ne_nil hblank]

/-- What the first marked line of some comments says. -/
def firstMarkedLine? (cs : List Token) : Option String :=
  ((cs.flatMap fun c => commentLines c.text.toList).find? (containsText marker)).map fun line =>
    String.ofList (trim (removeFirst marker line))

theorem description?_eq_none_iff (c : Token) :
    description? c = none ↔
      ∀ line ∈ commentLines c.text.toList, containsText marker line = false := by
  have hlines := not_congr (exists_marked_commentLines_iff c.text.toList)
  rw [description?]
  split
  · rename_i hmarked
    refine iff_of_false (by simp) fun hnone => hlines.1 ?_ hmarked
    rintro ⟨line, hline, hmem⟩
    exact Bool.false_ne_true ((hnone line hline).symm.trans hmem)
  · rename_i hmarked
    refine iff_of_true rfl fun line hline => ?_
    rw [Bool.eq_false_iff]
    exact fun hmem => hlines.2 hmarked ⟨line, hline, hmem⟩

/-- **A description is what is left of the lines of a marked comment.**  The mark is taken from the
first line that has it. -/
theorem exists_lines_of_description? {c : Token} {description : String}
    (h : description? c = some description) :
    ∃ pre line post, commentLines c.text.toList = pre ++ line :: post ∧
      (∀ earlier ∈ pre, containsText marker earlier = false) ∧ containsText marker line = true ∧
      description =
        String.ofList (trim (joinWith ['\n'] (pre ++ removeFirst marker line :: post))) := by
  rw [description?] at h
  split at h
  · rename_i hmarked
    obtain ⟨line, hline, hmem⟩ := (exists_marked_commentLines_iff _).2 hmarked
    obtain ⟨found, hfound⟩ := Option.isSome_iff_exists.1 (List.find?_isSome.2 ⟨line, hline, hmem⟩)
    obtain ⟨hfirst, pre, post, hlines, hpre⟩ := List.find?_eq_some_iff_append.1 hfound
    have hpre : ∀ earlier ∈ pre, containsText marker earlier = false := by simpa using hpre
    refine ⟨pre, found, post, hlines, hpre, hfirst, ?_⟩
    rw [← removeFirst_joinWith (by decide)
      (fun x hx hmem => Bool.false_ne_true ((hpre x hx).symm.trans (containsText_iff.2 hmem)))
      (containsText_iff.1 hfirst), ← hlines]
    exact (Option.some.inj h).symm
  · cases h

/-- The first marked line among some comments is that of the first marked comment. -/
theorem firstMarkedLine?_append {before after : List Token} {c : Token}
    (hbefore : ∀ d ∈ before, description? d = none) {pre post : List (List Char)}
    {line : List Char} (hlines : commentLines c.text.toList = pre ++ line :: post)
    (hpre : ∀ earlier ∈ pre, containsText marker earlier = false)
    (hline : containsText marker line = true) :
    firstMarkedLine? (before ++ c :: after) =
      some (String.ofList (trim (removeFirst marker line))) := by
  have hfind : ((before ++ c :: after).flatMap fun c => commentLines c.text.toList).find?
      (containsText marker) = some line := by
    refine List.find?_eq_some_iff_append.2 ⟨hline,
      (before.flatMap fun c => commentLines c.text.toList) ++ pre,
      post ++ after.flatMap fun c => commentLines c.text.toList, by simp [hlines], ?_⟩
    intro earlier hearlier
    rcases List.mem_append.1 hearlier with hearlier | hearlier
    · obtain ⟨d, hd, hearlier⟩ := List.mem_flatMap.1 hearlier
      simp [(description?_eq_none_iff d).1 (hbefore d hd) earlier hearlier]
    · simp [hpre earlier hearlier]
  rw [firstMarkedLine?, hfind]
  rfl

/-! ## Descriptions of files -/

/-- **When a description is what the first marked line says.**  Every group of a file is made of a
declaration with a marked line above it.  Its description is what is left of the lines of the first
marked comment when the mark is taken from the first line that has it.  That is what the first
marked line above the declaration says if and only if all other lines of that comment are blank. -/
theorem description_eq_firstMarkedLine_iff {path : String} {bytes : List UInt8} {gs : List Group}
    (h : scan path bytes = .ok gs) :
    ∀ g ∈ gs, ∃ forest, readFile path bytes = .ok forest ∧ ∃ o : Origin forest, o.Makes g ∧
      (∃ before after, o.place.above = before ++ o.comment :: after ∧
        ∀ c ∈ before, description? c = none) ∧
      ∃ pre line post, commentLines o.comment.text.toList = pre ++ line :: post ∧
        (∀ earlier ∈ pre, containsText marker earlier = false) ∧ containsText marker line = true ∧
        firstMarkedLine? o.place.above = some (String.ofList (trim (removeFirst marker line))) ∧
        g.description =
          String.ofList (trim (joinWith ['\n'] (pre ++ removeFirst marker line :: post))) ∧
        (some g.description = firstMarkedLine? o.place.above ↔
          ∀ other ∈ pre ++ post, ∀ c ∈ other, isBlank c = true) := by
  intro g hg
  obtain ⟨forest, hread, rfl⟩ := exists_readFile_of_scan h
  obtain ⟨o, ho, before, after, habove, hbefore⟩ := exists_origin_first hg
  obtain ⟨pre, line, post, hlines, hpre, hline, hdescription⟩ :=
    exists_lines_of_description? ho.description_eq
  have hfirst : firstMarkedLine? o.place.above =
      some (String.ofList (trim (removeFirst marker line))) := by
    rw [habove, firstMarkedLine?_append hbefore hlines hpre hline]
  refine ⟨forest, hread, o, ho, ⟨before, after, habove, hbefore⟩, pre, line, post, hlines, hpre,
    hline, hfirst, hdescription, ?_⟩
  rw [hfirst, hdescription, Option.some_inj, String.ofList_inj, trim_joinWith_eq_iff]

/-- A file with a note of two lines, of which the first one is marked. -/
def halfMarked : List UInt8 := "package p\n\n/* @ai a\nb */\nconst A = 1\n".toUTF8.toList

/-- The comments above the marked declarations of that file. -/
theorem above_halfMarked {forest : List Tree} (hread : readFile "a.go" halfMarked = .ok forest)
    (o : Origin forest) : o.place.above.map Token.text = ["/* @ai a\nb */"] := by
  have hfile : (readFile "a.go" halfMarked).toOption.map (fun forest =>
      (locations forest).filterMap fun l =>
        (declaration? l.tree).map fun _ => l.above.map Token.text) =
      some [["/* @ai a\nb */"]] := by decide +kernel
  rw [hread] at hfile
  obtain ⟨kindParts, hdeclares, -⟩ := Option.map_eq_some_iff.1 o.declares
  refine List.mem_singleton.1 (Option.some.inj hfile ▸ ?_)
  exact List.mem_filterMap.2 ⟨o.place, o.mem_locations, by rw [hdeclares]; rfl⟩

theorem description_eq_firstMarkedLine_iff_halfMarked :
    ∃ gs, scan "a.go" halfMarked = .ok gs ∧ gs.map Group.description = ["a\nb"] ∧
      ∀ g ∈ gs, ∃ forest, readFile "a.go" halfMarked = .ok forest ∧
        ∃ o : Origin forest, o.Makes g ∧
          commentLines o.comment.text.toList = [" @ai a".toList, "b".toList] ∧
          firstMarkedLine? o.place.above = some "a" ∧ g.description = "a\nb" ∧
          (some g.description = firstMarkedLine? o.place.above ↔
            ∀ c ∈ "b".toList, isBlank c = true) := by
  have hgroups : (scan "a.go" halfMarked).toOption.map (List.map Group.description) =
      some ["a\nb"] := by decide +kernel
  cases hscan : scan "a.go" halfMarked with
  | error e => rw [hscan] at hgroups; cases hgroups
  | ok gs =>
    rw [hscan] at hgroups
    refine ⟨gs, rfl, Option.some.inj hgroups, fun g hg => ?_⟩
    obtain ⟨forest, hread, o, ho, ⟨before, after, habove, -⟩, pre, line, post, hlines, hpre, -,
      hfirst, hdescription, hiff⟩ := description_eq_firstMarkedLine_iff hscan g hg
    have hcomment : o.comment.text = "/* @ai a\nb */" := by
      have hmem : o.comment.text ∈ o.place.above.map Token.text := by simp [habove]
      rw [above_halfMarked hread o] at hmem
      exact List.mem_singleton.1 hmem
    have hsaid : commentLines o.comment.text.toList = [" @ai a".toList, "b".toList] := by
      rw [hcomment]
      decide +kernel
    -- the first line has the mark, so no line comes before the one that is found
    rw [hsaid] at hlines
    obtain ⟨rfl, rfl, rfl⟩ : pre = [] ∧ line = " @ai a".toList ∧ post = ["b".toList] := by
      cases pre with
      | nil => simpa [eq_comm] using hlines
      | cons x pre =>
        obtain ⟨rfl, -⟩ := List.cons.inj hlines
        exact absurd (hpre _ List.mem_cons_self) (by decide)
    refine ⟨forest, hread, o, ho, hsaid, hfirst.trans (by decide), hdescription.trans (by decide),
      hiff.trans (by simp)⟩

/-- **A description may say more than the first marked line.** -/
theorem exists_description_ne_firstMarkedLine :
    ∃ forest, readFile "a.go" halfMarked = .ok forest ∧
      ∃ g ∈ groupsOf "a.go" forest, ∀ o : Origin forest, o.Makes g →
        some g.description ≠ firstMarkedLine? o.place.above := by
  have hgroups : (readFile "a.go" halfMarked).toOption.map (fun forest =>
      (groupsOf "a.go" forest).map Group.description) = some ["a\nb"] := by decide +kernel
  cases hread : readFile "a.go" halfMarked with
  | error e => rw [hread] at hgroups; cases hgroups
  | ok forest =>
    rw [hread] at hgroups
    have hdescriptions : (groupsOf "a.go" forest).map Group.description = ["a\nb"] :=
      Option.some.inj hgroups
    obtain ⟨g, hg, hdescription⟩ : ∃ g ∈ groupsOf "a.go" forest, g.description = "a\nb" := by
      rw [← List.mem_map, hdescriptions]
      exact List.mem_singleton_self _
    refine ⟨forest, rfl, g, hg, fun o _ => ?_⟩
    obtain ⟨c, hc, htext⟩ := List.map_eq_singleton_iff.1 (above_halfMarked hread o)
    have hline : firstMarkedLine? o.place.above = some "a" := by
      rw [hc, firstMarkedLine?, List.flatMap_singleton, htext]
      decide +kernel
    rw [hdescription, hline]
    decide

end Go

end Codebook
