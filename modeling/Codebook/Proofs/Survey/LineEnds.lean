import Codebook.Proofs.Go.ShownGroups
import Codebook.Proofs.Survey.Rescan

/-!
# Line ends of Go files

A Go file may have a carriage return before each line feed.  The carriage returns that are among
tokens are blanks, and those in comments stand at the ends of lines, where they are trimmed away.
Only the values of constants may have them, which are not compared when groups are merged, and are
flattened where they are shown.  So the Markdown document is the same with them and without.

What is here: `Survey.markdown_of_shown_eq`, and `Survey.markdown_addReturns`.
-/

set_option autoImplicit false

namespace Codebook

open Text

namespace Survey

/-- Surveys whose groups show the same have the same document in Markdown. -/
theorem markdown_of_shown_eq {s t : Survey} (hregistry : t.registry.shown = s.registry.shown)
    (hcatalog : t.catalog = s.catalog) : t.markdown = s.markdown := by
  rw [markdown, markdown, ← Document.markdown_shown, hregistry, hcatalog, Document.markdown_shown]

/-- **Line ends of Go files do not show in the document.**  A Go file without carriage returns that
can be scanned, and has no rune or quoted string over several lines, can also be scanned with a
carriage return before each of its line feeds, and gives the same document in Markdown. -/
theorem markdown_addReturns {s t : Survey} {path : String} {bytes : List UInt8} {n : Nat}
    (hreturn : 0x0D ∉ bytes) (hquotes : Go.QuotesOnOneLine bytes)
    (h : s.addGo path bytes = .ok (t, n)) :
    ∃ t', s.addGo path (addReturns (fun _ => true) bytes) = .ok (t', n) ∧
      t'.markdown = t.markdown := by
  obtain ⟨gs, hscan, rfl, rfl⟩ := addGo_eq_ok_iff.1 h
  obtain ⟨gs', hscan', hshown⟩ := Go.exists_scan_addReturns hreturn hquotes hscan
  have hlength : gs.length = gs'.length := by simpa using (congrArg List.length hshown).symm
  refine ⟨_, addGo_eq_ok_iff.2 ⟨gs', hscan', rfl, hlength⟩, markdown_of_shown_eq ?_ rfl⟩
  rw [Registry.shown_insertAll, Registry.shown_insertAll, hshown]

/-- A file with a comment and a raw string that both go over two lines. -/
def verses : List UInt8 :=
  "package p\n\n/* @ai verse\nof two */\nconst (\n\tA = \x60a|\nb\x60 // a\n\tB = 1 /* b\n*/\n)\n"
    |>.toUTF8.toList

theorem markdown_addReturns_verses :
    ∃ t t', (start .postgreSql).addGo "a.go" verses = .ok (t, 1) ∧
      (start .postgreSql).addGo "a.go" (addReturns (fun _ => true) verses) = .ok (t', 1) ∧
      t'.registry.groups ≠ t.registry.groups ∧ t'.markdown = t.markdown := by
  have hcount : ((start .postgreSql).addGo "a.go" verses).toOption.map Prod.snd = some 1 := by
    decide +kernel
  have hne : ((start .postgreSql).addGo "a.go" (addReturns (fun _ => true) verses)).toOption.map
      (fun r => r.1.registry.groups) ≠ ((start .postgreSql).addGo "a.go" verses).toOption.map
      (fun r => r.1.registry.groups) := by decide +kernel
  cases hadd : (start .postgreSql).addGo "a.go" verses with
  | error e => rw [hadd] at hcount; cases hcount
  | ok r =>
    obtain ⟨t, n⟩ := r
    rw [hadd] at hcount hne
    obtain rfl : n = 1 := Option.some.inj hcount
    obtain ⟨t', hadd', hmarkdown⟩ :=
      markdown_addReturns (by decide +kernel) (by decide +kernel) hadd
    rw [hadd'] at hne
    exact ⟨t, t', rfl, hadd', fun h => hne (congrArg some h), hmarkdown⟩

end Survey

end Codebook
