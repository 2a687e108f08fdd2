import AddonBindings.Proofs.CommandLine.FailureNotice
import AddonBindings.Proofs.Console.Escaping

/-!
Contract: how a command ends.

Owns:
- that every line around a run can be shown, whatever the messages say;
- that a generation ends as its outcome says;
- what is printed after a failure that is reported.

Does not own: which failures are reported; for settings this is in
`AddonBindings.Proofs.CommandLine.SettingsFailure`.
-/

namespace AddonBindings.CommandLine

open AddonBindings.Console

/-- A sign in a closed tag and an escaped text behind it. -/
theorem exists_markupLine_escape {markup : List Char} (front : List Char) (first : Char)
    (inside back gap : List Char) (styled : isStyleTag first inside = true)
    (plain : ∀ c ∈ front ++ back, isPlainMarkup c = true)
    (unmarked : ∀ c ∈ gap, isUnmarked c = true)
    (same : markup = front ++ '[' :: first :: (inside ++ ']' :: (back ++ ("[/]".toList ++ gap))))
    (text tail : List Char) (closed : ∀ c ∈ tail, isTagRest c = true) :
    ∃ line, markupLine (markup ++ escape text ++ tail) = .ok line := by
  have untagged (position : Nat) : IsUntagged (piecesFrom position (gap ++ (escape text ++ tail))) :=
    isUntagged_piecesFrom_append unmarked (isUntagged_piecesFrom_escape text closed) position
  obtain ⟨line, shows⟩ :=
    exists_markupLine_of_isUntagged front first inside back styled plain untagged
  refine ⟨line, ?_⟩
  rw [← shows, same]
  simp

private theorem exists_headLine (directory : String) : ∃ line, headLine directory = .ok line := by
  have same : ("\n[bold blue]" ++ Product.name ++ "[/] — Generating bindings in: ").toList =
      "\n".toList ++ '[' :: 'b' :: ("old blue".toList ++ ']' ::
        ("gonode".toList ++ ("[/]".toList ++ " — Generating bindings in: ".toList))) := by decide
  exact exists_markupLine_escape "\n".toList 'b' "old blue".toList "gonode".toList
    " — Generating bindings in: ".toList (by decide +kernel) (List.all_eq_true.mp (by decide))
    (List.all_eq_true.mp (by decide)) same directory.toList ['\n'] (List.all_eq_true.mp (by decide))

/-- Messages can be shown, whatever they say. -/
theorem exists_messageLines (messages : List Message) :
    ∃ reports, messageLines messages = .ok reports := by
  induction messages with
  | nil => exact ⟨"", rfl⟩
  | cons message rest inductionHypothesis =>
      obtain ⟨reports, shows⟩ := inductionHypothesis
      rw [messageLines, messageLine_eq, shows]
      exact ⟨_, rfl⟩

theorem isPlain_of_mem_toString (number : Nat) :
    ∀ c ∈ (toString number).toList, isPlain c = true := by
  intro c member
  have listed : c ∈ Nat.toDigits 10 number := by
    rw [← Nat.toList_repr]
    exact member
  exact @isPlain_of_test Char.isDigit (by decide) c
    (Nat.isDigit_of_mem_toDigits (by decide) (by decide) listed)

/-- Messages are printed before everything that follows. -/
theorem print_messages {messages : List Message} {reports : String}
    (shows : messageLines messages = .ok reports) (ending : Ending)
    (lines : List (Except MarkupFault String)) :
    Outcome.print ending (messages.map messageLine ++ lines) =
      ⟨reports ++ (Outcome.print ending lines).output, (Outcome.print ending lines).ending⟩ := by
  induction messages generalizing reports with
  | nil =>
      cases shows
      rw [List.map_nil, List.nil_append, String.empty_append]
  | cons message rest inductionHypothesis =>
      obtain ⟨later, restShows⟩ := exists_messageLines rest
      rw [messageLines, messageLine_eq, restShows] at shows
      cases shows
      rw [List.map_cons, List.cons_append, messageLine_eq, Outcome.print,
        inductionHypothesis restShows, String.append_assoc]

/-- What is printed for a failure that is reported: the head line, the messages before
the failure, the failure and the notice. -/
theorem conclusion_of_failure (directory : String) {attempt : Attempt RunResult}
    {fault : GenerationFault} (failed : attempt.outcome = .error (.generation fault)) :
    ∃ head reports line, headLine directory = .ok head ∧
      messageLines attempt.messages = .ok reports ∧
      messageLine ⟨.error, fault.message⟩ = .ok line ∧
      conclusion directory attempt = ⟨head ++ (reports ++ (line ++ (failureNotice ++ ""))), .exit 1⟩ := by
  obtain ⟨head, headShown⟩ := exists_headLine directory
  obtain ⟨reports, reportsShown⟩ := exists_messageLines attempt.messages
  refine ⟨head, reports, _, headShown, reportsShown, messageLine_eq _, ?_⟩
  rw [conclusion, generationLines, failed, headShown, closingLines, failureLines_eq, messageLine_eq,
    List.cons_append, Outcome.print, print_messages reportsShown]
  rfl

end AddonBindings.CommandLine
