import AddonBindings.CommandLine.Execution
import AddonBindings.Proofs.Console.LiteralText

/-!
Contract: the notice that nothing was written.

Owns: the text of the notice, and which lines of a generation show it.

Does not own: whether the notice is true, which is in
`AddonBindings.Proofs.Run.AllOrNothing`.
-/

namespace AddonBindings.CommandLine

open AddonBindings.Console

def failureNotice : String := "\nGeneration failed. No files were written.\n"

theorem failureLines_eq (fault : GenerationFault) :
    failureLines fault = [messageLine ⟨.error, fault.message⟩, .ok failureNotice] := by
  have shows :
      markupLine "\n[red]Generation failed. No files were written.[/]".toList =
        .ok failureNotice :=
    markupLine_of_tag "\n".toList 'r' "ed".toList
      "Generation failed. No files were written.".toList
      (by decide +kernel) (List.all_eq_true.mp (by decide))
  rw [failureLines, shows]

/-- The notice is the last line after a failure. -/
theorem failureNotice_mem (fault : GenerationFault) :
    .ok failureNotice ∈ failureLines fault := by
  rw [failureLines_eq]
  exact List.mem_cons_of_mem _ List.mem_cons_self

private theorem ne_failureNotice {front : List Char} {line : Except MarkupFault String}
    (starts : ∀ text, line = .ok text → front <+: text.toList)
    (differs : ¬ front <+: failureNotice.toList) : line ≠ .ok failureNotice :=
  fun same => differs (starts failureNotice same)

/-- The head line names the generator. -/
theorem headLine_ne_failureNotice (directory : String) :
    headLine directory ≠ .ok failureNotice := by
  have starts : ∀ text, headLine directory = .ok text → "\ngonode".toList <+: text.toList :=
    fun text same => isPrefix_markupLine_tag "\n".toList 'b' "old blue".toList "gonode".toList
      (by decide +kernel) (List.all_eq_true.mp (by decide)) same
  exact ne_failureNotice starts (by decide)

private theorem isPrefix_levelFront (level : Level) :
    "  ".toList <+: (levelFront level).toList := by
  cases level <;> decide

private theorem isPrefix_messageLine {message : Message} {line : String}
    (shows : messageLine message = .ok line) : "  ".toList <+: line.toList := by
  rw [messageLine_eq] at shows
  cases shows
  obtain ⟨sign, front⟩ := isPrefix_levelFront message.level
  rw [← front, List.append_assoc]
  exact isPrefix_printed (List.all_eq_true.mp (by decide)) _

private theorem messageLine_ne_failureNotice (message : Message) :
    messageLine message ≠ .ok failureNotice :=
  ne_failureNotice (fun _ shows => isPrefix_messageLine shows) (by decide)

/-- The line on a result speaks of success. -/
theorem resultLine_ne_failureNotice {result : RunResult} {line : Except MarkupFault String}
    (member : line ∈ resultLines result) : line ≠ .ok failureNotice := by
  unfold resultLines at member
  split at member
  · have starts : ∀ text, line = .ok text → "\nGenerated".toList <+: text.toList := by
      intro text same
      have shows := (List.mem_singleton.mp member).symm.trans same
      rw [String.toList_append, String.toList_append, List.append_assoc] at shows
      exact isPrefix_markupLine_tag "\n".toList 'g' "reen".toList "Generated".toList
        (by decide +kernel) (List.all_eq_true.mp (by decide)) shows
    exact ne_failureNotice starts (by decide)
  · cases member

/-- Only a failure that is reported is followed by the notice. -/
theorem reported_of_failureNotice_mem {directory : String} {attempt : Attempt RunResult}
    (member : .ok failureNotice ∈ generationLines directory attempt) :
    ∃ fault, attempt.outcome = .error (.generation fault) := by
  rcases List.mem_append.mp member with inFront | atEnd
  · rcases List.mem_cons.mp inFront with head | inMessages
    · exact absurd head.symm (headLine_ne_failureNotice directory)
    · obtain ⟨message, -, shows⟩ := List.mem_map.mp inMessages
      exact absurd shows (messageLine_ne_failureNotice message)
  · cases ended : attempt.outcome with
    | ok result =>
        rw [ended] at atEnd
        exact absurd rfl (resultLine_ne_failureNotice atEnd)
    | error fault =>
        rw [ended] at atEnd
        cases fault with
        | generation fault => exact ⟨fault, rfl⟩
        | _ => cases atEnd

end AddonBindings.CommandLine
