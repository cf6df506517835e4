import LifePlan.Fault
import LifePlan.Proofs.Listing

/-!
# What a notice prints of words of the user

Two notices quote words of a line: that a command is unknown, and that there is no help on some words. In the first one
the words stand between plain texts of the program, and all that can happen to them is that a bracket takes away one of
the backslashes in front of it (`print_unknownCommand`). In the second one they stand in a style, whose closing tag also
reaches for the backslashes at their end (`print_noHelp`).
-/

namespace LifePlan

namespace Display

open Markup (IsPlain lessened shown shownEscaped shownStyled read)

variable {screen : Screen} {words : List String} {message : String}

/-- The start of a notice is shown without its style. -/
theorem shown_errorMark (rest : List Char) :
    shown (read (errorMark ++ rest)) = "error ".toList ++ shown (read rest) := by
  have herror : IsPlain "error".toList := by decide
  have hspace : IsPlain [' '] := by decide
  rw [errorMark, List.append_assoc, shown_on _ herror, shown_append hspace]
  rfl

/-- Words with spaces between them hold no control characters if the words hold none. -/
theorem isVisible_words (h : ∀ word ∈ words, IsVisible word.toList) :
    IsVisible (" ".intercalate words).toList := fun c hc => by
  rw [String.toList_intercalate] at hc
  rcases mem_intercalate hc with rfl | ⟨cs, hcs, hc⟩
  · decide
  · obtain ⟨word, hword, rfl⟩ := List.mem_map.mp hcs
    exact h word hword c hc

/-- **Without colour a notice is printed** with its message as it is shown of an escaped text. -/
theorem print_notice (hcolour : screen.colour = false) (hmessage : IsVisible message.toList) :
    (Display.notice message).print screen = "error ".toList ++ shownEscaped message.toList ++ ['\n'] := by
  have herror : IsVisible "error ".toList := by decide
  have hvisible := herror.append hmessage.shownEscaped
  change [errorMark ++ Markup.escape message.toList].flatMap screen.printLine = _
  rw [List.flatMap_singleton, Screen.printLine_eq hcolour, shown_errorMark, Markup.read_escape, Markup.shown_glyphs,
    laidOut_of_solid hvisible.isSolid]

/-- What stands in front of the words of an unknown command, and what stands behind them. -/
theorem message_unknownCommand (words : List String) :
    (Fault.unknownCommand words).message.toList =
      "Unknown command ".toList ++ (" ".intercalate words).toList ++ ". Use help for a list of commands".toList := by
  have hafter : ". " ++ Fault.helpHint = ". Use help for a list of commands" := by decide
  rw [← hafter, ← String.toList_append, ← String.toList_append, ← String.append_assoc]
  rfl

/-- **The words of an unknown command** are quoted with one backslash less in front of each bracket that starts no
group. -/
theorem print_unknownCommand (hcolour : screen.colour = false) (hwords : ∀ word ∈ words, IsVisible word.toList) :
    (Display.notice (Fault.unknownCommand words).message).print screen =
      "error Unknown command ".toList ++ lessened (" ".intercalate words).toList ++
        ". Use help for a list of commands".toList ++ ['\n'] := by
  have hmessage := message_unknownCommand words
  have hbefore : IsPlain "Unknown command ".toList ∧ IsVisible "Unknown command ".toList := by decide
  have hafter : IsPlain ". Use help for a list of commands".toList ∧
      IsVisible ". Use help for a list of commands".toList := by decide
  have hne : ". Use help for a list of commands".toList ≠ [] := by decide
  have hcloses : Markup.closes ". Use help for a list of commands".toList = false := by decide
  have hvisible : IsVisible (Fault.unknownCommand words).message.toList := by
    rw [hmessage]
    exact (hbefore.2.append (isVisible_words hwords)).append hafter.2
  have herror : "error ".toList ++ "Unknown command ".toList = "error Unknown command ".toList := rfl
  rw [print_notice hcolour hvisible, hmessage, Markup.shownEscaped_between hbefore.1 hne hafter.1 hcloses, ← herror]
  simp only [List.append_assoc]

/-- **The words on which there is no help** are quoted in a style: each bracket that starts no group takes away one of
the backslashes in front of it, and the backslashes at the end are read in pairs with the closing tag. -/
theorem print_noHelp (hcolour : screen.colour = false) (hwords : ∀ word ∈ words, IsVisible word.toList) :
    (Display.noHelp words).print screen =
      "error No help for ".toList ++ shownStyled "yellow".toList (" ".intercalate words).toList ++ ['\n'] := by
  have hquoted := isVisible_words hwords
  have hnone : IsPlain "No help for ".toList := by decide
  have hyellow : IsPlain "yellow".toList := by decide
  have hshown : shown (read (quoted (" ".intercalate words))) =
      shownStyled "yellow".toList (" ".intercalate words).toList := by
    have hstyled := Markup.shown_styled_escape (isTag_name .yellow) hyellow (" ".intercalate words).toList []
    rwa [List.append_nil, show shown (read []) = [] from rfl, List.append_nil] at hstyled
  have hvisible : IsVisible (shownStyled "yellow".toList (" ".intercalate words).toList) := by
    have hclosing : IsVisible "[/yellow]".toList := by decide
    have hnothing : IsVisible [] := by decide
    refine (hquoted.shownHead 0).append ((isVisible_slashes _).append ?_)
    split
    · exact hclosing
    · exact hnothing
  have hbefore : IsVisible "error No help for ".toList := by decide
  change [errorMark ++ "No help for ".toList ++ quoted (" ".intercalate words)].flatMap screen.printLine = _
  rw [List.flatMap_singleton, Screen.printLine_eq hcolour, List.append_assoc, shown_errorMark, shown_append hnone,
    hshown, ← laidOut_of_solid (hbefore.append hvisible).isSolid]
  rfl

end Display

end LifePlan
