import Mathlib.Data.List.Basic
import MetricsAgent.Command.Mode
import MetricsAgent.Proofs.Console.Escaping
import MetricsAgent.Proofs.Run.Scripts

/-!
# What is said can be shown

Every text that a mode says on the console is shown: its own words stand between tags that are
closed, and what others have written is escaped or has no markup in it.  So saying something never
fails (`Console.run_say`).
-/

namespace MetricsAgent

open Script

/-! ## Saying something -/

namespace Console

variable {T : Type} [Seconds T]

/-- A text that can be shown is said, and that is all. -/
lemma run_sayThen {text : String} (h : Markup.Shows [] text.toList) (ending : String)
    (w : World T) :
    ∃ shown, (sayThen ending text).run w = (.ok (), w.print .console shown) := by
  obtain ⟨shown, hshown⟩ := Markup.exists_render h
  exact ⟨shown ++ ending, by unfold sayThen; rw [hshown]; rfl⟩

lemma run_say {text : String} (h : Markup.Shows [] text.toList) (w : World T) :
    ∃ shown, (say text).run w = (.ok (), w.print .console shown) :=
  run_sayThen h "\n" w

lemma run_begin {text : String} (h : Markup.Shows [] text.toList) (w : World T) :
    ∃ shown, (begin text).run w = (.ok (), w.print .console shown) :=
  run_sayThen h "" w

end Console

/-! ## What the modes say -/

namespace Mode

open Markup

/-- Words between the tags of a style, and what follows them. -/
lemma shows_marked {style : String} {cs tail : List Char} (h : Names style) (words : String)
    (hwords : '[' ∉ words.toList ∧ words.toList.getLast? ≠ some '\\')
    (hcs : cs = ("[" ++ style ++ "]" ++ words ++ "[/" ++ style ++ "]").toList ++ tail)
    (htail : Shows [] tail) : Shows [] cs := by
  rw [hcs]
  exact h.shows_styled words hwords.1 hwords.2 htail

lemma shows_failedMark : Shows [] failedMark.toList :=
  shows_marked names_red "FAILED" (by decide) (by decide) shows_nil

lemma shows_passedMark : Shows [] passedMark.toList :=
  shows_marked names_green "OK" (by decide) (by decide) shows_nil

lemma shows_allPassed : Shows [] "[green]All checks passed[/green]".toList :=
  shows_marked names_green "All checks passed" (by decide) (by decide) shows_nil

/-- What is escaped, at the end of a text. -/
lemma shows_escaped_end (s : String) : Shows [] (escape s).toList := by
  have hshown : Shows [] ((escape s).toList ++ []) := shows_escape s (by simp)
  rwa [List.append_nil] at hshown

lemma shows_behind (s : String) : Shows [] (' ' :: (escape s).toList) :=
  shows_cons (by decide) (by decide) (shows_escaped_end s)

lemma shows_loadingFault (s : String) :
    Shows [] ("[red]Collector error:[/red] " ++ escape s).toList :=
  shows_marked names_red "Collector error:" (by decide) (by rw [String.toList_append]; rfl)
    (shows_behind s)

lemma shows_fault (s : String) : Shows [] ("[red]Error:[/red] " ++ escape s).toList :=
  shows_marked names_red "Error:" (by decide) (by rw [String.toList_append]; rfl) (shows_behind s)

lemma shows_testing (e : Engine) :
    Shows [] ("Testing " ++ e.name ++ " connection... ").toList := by
  cases e <;> exact shows_of_not_mem (by decide)

lemma shows_provider {provider : String} (h : '[' ∉ provider.toList) (version : String) :
    Shows [] ("  Provider: " ++ provider ++ ", version: " ++ escape version).toList := by
  rw [String.toList_append]
  refine shows_append ?_ (.inr ?_) (shows_escaped_end version)
  · simpa using h
  · rw [String.toList_append, List.getLast?_append_of_ne_nil _ (by decide)]
    decide

lemma shows_endpoint (endpoint : String) :
    Shows [] ("Testing ingestion endpoint " ++ escape endpoint ++ "... ").toList := by
  have hdots : ∀ c ∈ "... ".toList, isBracket c = false := by simp [isBracket]
  rw [String.toList_append, String.toList_append, List.append_assoc]
  exact shows_append (by simp) (.inr (by simp)) (shows_escape endpoint hdots)

end Mode

end MetricsAgent
