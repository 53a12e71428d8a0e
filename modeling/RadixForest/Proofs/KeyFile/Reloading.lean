import RadixForest.Proofs.KeyFile.Loading
import RadixForest.Proofs.Trie.Repeating

/-!
Key files that are loaded again. The second load finds all names of the first one bound, to the
values that it leaves them with, so it changes nothing.
-/

namespace RadixForest.KeyFile

open Trie

def Report.again (replace : Bool) (first : Report) : Report :=
  if replace then { replaced := first.inserted + first.replaced, rejected := first.rejected }
  else { rejected := first.inserted + first.rejected }

section Again

variable {config : Config} {trie : Trie String} {bindings : Bindings String} {replace : Bool}
  {path secondPath : String} {entries : List (Nat × Entry)} {first second : Load}

theorem Accounted.mirrors (mirrors : Mirrors config trie bindings)
    (accounted : Accounted trie replace path entries first) :
    ∃ after, Mirrors config first.trie after := by
  rw [accounted.trie]
  exact ⟨_, (mirrors.run _).2⟩

theorem Accounted.trie_again (mirrors : Mirrors config trie bindings)
    (accounted : Accounted trie replace path entries first)
    (again : Accounted first.trie replace secondPath entries second) :
    second.trie = first.trie := by
  have uniform : ∀ insert ∈ insertions replace entries, insert.replace = replace := by
    intro insert member
    obtain ⟨_, _, rfl⟩ := List.mem_map.mp member
    rfl
  rw [again.trie, accounted.trie]
  exact mirrors.run_again uniform

theorem Accounted.report_again (mirrors : Mirrors config trie bindings)
    (accounted : Accounted trie replace path entries first)
    (again : Accounted first.trie replace secondPath entries second) :
    second.report = first.report.again replace := by
  obtain ⟨_, firstMirrors⟩ := accounted.mirrors mirrors
  have size := again.size
  rw [accounted.trie_again mirrors again] at size
  have total := accounted.total
  have totalAgain := again.total
  cases report : second.report with
  | mk inserted replaced rejected =>
      rw [report] at size totalAgain
      cases replace with
      | true =>
          have refused := accounted.rejected.trans (countP_refusals mirrors entries)
          have refusedAgain := again.rejected.trans (countP_refusals firstMirrors entries)
          rw [report] at refusedAgain
          simp only [Report.again, if_true, Report.mk.injEq]
          simp only at refusedAgain size totalAgain
          omega
      | false =>
          have kept := accounted.replaced rfl
          have keptAgain := again.replaced rfl
          rw [report] at keptAgain
          simp only [Report.again, Bool.false_eq_true, if_false, Report.mk.injEq]
          simp only at keptAgain size totalAgain
          omega

end Again

/-- A text that is loaded twice in the same way leaves the trie as it was after the first time, and
each entry that was not refused then counts as one that was there. -/
theorem reload_changes_nothing (config : Config) (operations : List (Operation String))
    (files : Files) (path : String) (replace : Bool) {text : String}
    (readable : files.readText path = .ok text) :
    ∃ first, load files path ((Trie.empty config).run operations).2 replace = .ok first ∧
      ∀ (other : Files) (otherPath : String), other.readText otherPath = .ok text →
        ∃ second, load other otherPath first.trie replace = .ok second ∧
          second.trie = first.trie ∧ second.report = first.report.again replace := by
  have mirrors := (run_mirrors config operations).2
  generalize ((Trie.empty config).run operations).2 = trie at mirrors
  have accounted := accounted_loadText (mirrors.config ▸ mirrors) path text.toList replace
  obtain ⟨_, firstMirrors⟩ := accounted.mirrors mirrors
  refine ⟨_, load_of_readText readable trie replace, fun other otherPath otherReadable => ?_⟩
  have again :=
    accounted_loadText (firstMirrors.config ▸ firstMirrors) otherPath text.toList replace
  exact ⟨_, load_of_readText otherReadable _ replace, accounted.trie_again mirrors again,
    accounted.report_again mirrors again⟩

theorem reload_changes_nothing_of_cased :
    (⟨[(["keys"], .file "Ox\t1\n\tx\nox\t2\n".toUTF8)]⟩ : Files).readText "keys" =
        .ok "Ox\t1\n\tx\nox\t2\n" ∧
      ∃ first,
        load ⟨[(["keys"], .file "Ox\t1\n\tx\nox\t2\n".toUTF8)]⟩ "keys"
            ((Trie.empty { caseSensitive := false }).run [.insert ['o', 'w', 'l'] "0" false]).2
            true = .ok first ∧
        ∃ second,
          load ⟨[(["keys"], .file "Ox\t1\n\tx\nox\t2\n".toUTF8)]⟩ "keys" first.trie true =
              .ok second ∧
            second.trie = first.trie ∧ second.report = first.report.again true := by
  have readable : (⟨[(["keys"], .file "Ox\t1\n\tx\nox\t2\n".toUTF8)]⟩ : Files).readText "keys" =
      .ok "Ox\t1\n\tx\nox\t2\n" := by
    decide +kernel
  obtain ⟨first, loaded, again⟩ := reload_changes_nothing { caseSensitive := false }
    [.insert ['o', 'w', 'l'] "0" false] _ "keys" true readable
  exact ⟨readable, first, loaded, again _ "keys" readable⟩

end RadixForest.KeyFile
