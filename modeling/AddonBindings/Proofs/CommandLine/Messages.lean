import AddonBindings.Proofs.Boundary.Classification
import AddonBindings.Proofs.CommandLine.Ending
import AddonBindings.Proofs.Traversal
import AddonBindings.Text.Printable

/-!
Contract: messages on the console.

Owns:
- the one line of a message of printable characters;
- reports on functions, and that those on a function with the name of an emoji change;
- the theorem on what a line shows, on when this is the message itself, and on the line of
  a generation that fails.

Does not own: how texts are cut into parts, which is in
`AddonBindings.Proofs.Console.LiteralText`.  Lines longer than the console is wide are
out of scope: they are printed here as one line.
-/

namespace AddonBindings.CommandLine

open AddonBindings.Console
open AddonBindings.Traversal (eq_ok_of_toOption)

/-! ## One line -/

def signedLine (level : Level) (text : List Char) : String :=
  String.ofList ((levelFront level).toList ++ text ++ ['\n'])

private theorem isInLine_levelFront (level : Level) :
    ∀ c ∈ (levelFront level).toList, isInLine c = true := by
  cases level <;> exact List.all_eq_true.mp (by decide)

/-- Printable characters stay in their line. -/
theorem inLine_of_isPrintable {c : Char} (printable : Text.isPrintable c = true) :
    isPrinted c = true ∧ c ≠ '\n' := by
  have shown (control : Char) (unprintable : Text.isPrintable control = false) : c ≠ control := by
    rintro rfl
    rw [printable] at unprintable
    cases unprintable
  refine ⟨?_, shown '\n' (by decide)⟩
  simp [isPrinted, isCursorControl, shown '\t' (by decide), shown '\x07' (by decide),
    shown '\x08' (by decide), shown '\x0b' (by decide), shown '\x0c' (by decide),
    shown '\r' (by decide)]

private theorem inLine_of_isInLine {c : Char} (inLine : isInLine c = true) :
    isPrinted c = true ∧ c ≠ '\n' := by
  refine ⟨isPrinted_of_isPlain (isPlain_of_isInLine inLine), ?_⟩
  rintro rfl
  revert inLine
  decide

variable {message : Message}

private theorem inLine_of_mem_line
    (printable : ∀ c ∈ message.text.toList, Text.isPrintable c = true) :
    ∀ c ∈ (levelFront message.level).toList ++ shownText message.level message.text.toList,
      isPrinted c = true ∧ c ≠ '\n' := by
  intro c member
  rcases List.mem_append.mp member with inFront | inText
  · exact inLine_of_isInLine (isInLine_levelFront message.level c inFront)
  · rcases mem_shownText inText with written | inLine
    · exact inLine_of_isPrintable (printable c written)
    · exact inLine_of_isInLine inLine

private theorem messageLine_of_printable
    (printable : ∀ c ∈ message.text.toList, Text.isPrintable c = true) :
    messageLine message =
      .ok (signedLine message.level (shownText message.level message.text.toList)) := by
  rw [messageLine_eq, printed_eq_self fun c member => (inLine_of_mem_line printable c member).1,
    signedLine]

private theorem signedLine_inj {level : Level} {text other : List Char} :
    signedLine level text = signedLine level other ↔ text = other := by
  simp [signedLine, String.ofList_inj]

/-! ## Reports on functions -/

/-- A report on a function in which at most the name of the function means anything to the
console. -/
structure IsPlainReport (fault : GenerationFault) (file declaration : String) : Prop where
  inFile : fault.file = some file
  inDeclaration : fault.declaration = some declaration
  filled : file ≠ "" ∧ declaration ≠ ""
  path : ∀ c ∈ file.toList, isPlainMarkup c = true
  name : ∀ c ∈ declaration.toList, Text.isIdentifierRest c = true
  problem : ∀ c ∈ fault.problem.message.toList, isUnmarked c = true
  uncoded : codeNames fault.problem.message.toList = []

namespace IsPlainReport

variable {fault : GenerationFault} {file declaration : String}

theorem toList_message (report : IsPlainReport fault file declaration) :
    fault.message.toList = file.toList ++ ':' :: (declaration.toList ++
      ':' :: ' ' :: fault.problem.message.toList) := by
  have located : fault.location = file ++ ":" ++ declaration := by
    rw [GenerationFault.location, report.inFile, report.inDeclaration]
    simp [report.filled]
  have filled : fault.location.isEmpty = false := by
    rw [located]
    simp [report.filled]
  rw [GenerationFault.message, filled, located]
  simp

theorem codeNames_message (report : IsPlainReport fault file declaration) :
    codeNames fault.message.toList = [declaration.toList] := by
  have uncoloned : ∀ c ∈ file.toList, c ≠ ':' := by
    intro c member
    have here := report.path c member
    simp only [isPlainMarkup, Bool.and_eq_true, bne_iff_ne, ne_eq] at here
    exact here.2
  have kept : ∀ c ∈ declaration.toList, c ≠ ':' ∧ Text.isBlank c = false := by
    intro c member
    refine ⟨?_, Text.isBlank_of_isIdentifierRest (report.name c member)⟩
    rintro rfl
    have isRest := report.name ':' member
    revert isRest
    decide
  rw [report.toList_message, codeNames_append uncoloned,
    (replaceEmoji_of_some (untilColon?_append kept _)).2, codeNames_cons (by decide),
    report.uncoded]

theorem isUnmarked_of_mem (report : IsPlainReport fault file declaration) :
    ∀ c ∈ fault.message.toList, isUnmarked c = true := by
  have ofPlain {c : Char} (plain : isPlainMarkup c = true) : isUnmarked c = true := by
    simp only [isPlainMarkup, Bool.and_eq_true] at plain
    simp [isUnmarked, plain]
  have inName : ∀ c ∈ declaration.toList, isUnmarked c = true := fun c member =>
    ofPlain (isPlainMarkup_of_isPlain
      (@isPlain_of_test Text.isIdentifierRest (by decide) c (report.name c member)))
  have inPath : ∀ c ∈ file.toList, isUnmarked c = true :=
    fun c member => ofPlain (report.path c member)
  rw [report.toList_message]
  simp only [List.forall_mem_append, List.forall_mem_cons]
  exact ⟨inPath, by decide, inName, by decide, by decide, report.problem⟩

/-- The report is shown as it is iff the function does not have the name of an emoji. -/
theorem isShownAsWritten_iff (report : IsPlainReport fault file declaration) {level : Level} :
    IsShownAsWritten level fault.message.toList ↔ markedEmoji? declaration.toList = none := by
  rw [isShownAsWritten_iff_of_isUnmarked report.isUnmarked_of_mem, IsCodeless,
    report.codeNames_message, List.forall_mem_singleton]

end IsPlainReport

/-! ## What is shown -/

/-- What the console prints for messages of printable characters.

1. A message has exactly one line: two blanks, the sign of its level if there is one, and
   what is shown of its text.
2. The text is printed as it is iff nothing in it means anything on its level.
3. If the text is a report on a function, and neither the path nor the problem in it means
   anything, it is printed as it is iff the function does not have the name of an emoji.
4. The failure of a generation is printed in this way, behind the head line and the messages
   before it and in front of the notice. -/
theorem messages_shown (printable : ∀ c ∈ message.text.toList, Text.isPrintable c = true) :
    (messageLine message =
        .ok (signedLine message.level (shownText message.level message.text.toList)) ∧
      '\n' ∉ (levelFront message.level).toList ++ shownText message.level message.text.toList) ∧
    (messageLine message = .ok (signedLine message.level message.text.toList) ↔
      IsShownAsWritten message.level message.text.toList) ∧
    (∀ {fault file declaration}, IsPlainReport fault file declaration →
      message.text = fault.message →
      (messageLine message = .ok (signedLine message.level message.text.toList) ↔
        markedEmoji? declaration.toList = none)) ∧
    ∀ {choice output tree fault},
      (generation choice output tree).1.outcome = .error (.generation fault) →
      message = ⟨.error, fault.message⟩ →
      ∃ head reports, headLine choice.directory = .ok head ∧
        messageLines (generation choice output tree).1.messages = .ok reports ∧
        (generate choice output tree).1 =
          ⟨head ++ reports ++ signedLine .error (shownText .error fault.message.toList) ++
            failureNotice, .exit 1⟩ := by
  have shows := messageLine_of_printable printable
  have unchanged : messageLine message = .ok (signedLine message.level message.text.toList) ↔
      IsShownAsWritten message.level message.text.toList := by
    rw [shows, Except.ok.injEq, signedLine_inj, shownText_eq_self_iff]
  refine ⟨⟨shows, fun member => (inLine_of_mem_line printable '\n' member).2 rfl⟩, unchanged, ?_, ?_⟩
  · intro fault file declaration report same
    rw [unchanged, same, report.isShownAsWritten_iff]
  · rintro choice output tree fault failed rfl
    obtain ⟨head, reports, line, headShown, reportsShown, lineShown, concluded⟩ :=
      conclusion_of_failure choice.directory failed
    rw [shows, Except.ok.injEq] at lineShown
    refine ⟨head, reports, headShown, reportsShown, ?_⟩
    show conclusion choice.directory (generation choice output tree).1 = _
    rw [concluded, ← lineShown, String.append_empty, String.append_assoc, String.append_assoc]

def reportedMessage? : Except Fault RunResult → Option String
  | .error (.generation fault) => some fault.message
  | _ => none

private theorem exists_of_reportedMessage? {outcome : Except Fault RunResult} {text : String}
    (reported : reportedMessage? outcome = some text) :
    ∃ fault, outcome = .error (.generation fault) ∧ fault.message = text := by
  unfold reportedMessage? at reported
  split at reported
  next fault => exact ⟨fault, rfl, Option.some.inj reported⟩
  next => cases reported

def projectWithSource (name source : String) : Files.FileTree where
  entries :=
    [ ([".gonode.yaml"], .file "name: calc\nfiles: [\"*.go\"]\n".toUTF8.toList),
      ([name], .file source.toUTF8.toList) ]
  working := []

/-- A report on a function `A`, which is the name of an emoji. -/
theorem isPlainReport_emojiNamed :
    IsPlainReport ⟨.unsupportedType "error", some "a.go", some "A"⟩ "a.go" "A" where
  inFile := rfl
  inDeclaration := rfl
  filled := by decide
  path := List.all_eq_true.mp (by decide)
  name := List.all_eq_true.mp (by decide)
  problem := List.all_eq_true.mp (by decide)
  uncoded := by decide +kernel

/-- A path with brackets is printed as it is, and a report on a function `A` is not. -/
theorem bracketedPath_shown :
    (IsShownAsWritten .error "a[b].go: syntax error at line 1, column 8".toList ∧
      (generate ⟨".", none⟩ none (projectWithSource "a[b].go" "packag main\n")).1 =
        ⟨"\ngonode — Generating bindings in: .\n\n" ++ "  Parsing 1 file(s)\n" ++
          "  x a[b].go: syntax error at line 1, column 8\n" ++ failureNotice, .exit 1⟩) ∧
      messageLine ⟨.error, "a.go:A: unsupported type: error"⟩ ≠
        .ok "  x a.go:A: unsupported type: error\n" := by
  constructor
  · obtain ⟨⟨shows, -⟩, unchanged, -, reports⟩ :=
      @messages_shown ⟨.error, "a[b].go: syntax error at line 1, column 8"⟩
        (List.all_eq_true.mp (by decide))
    have shown : shownText .error "a[b].go: syntax error at line 1, column 8".toList =
        "a[b].go: syntax error at line 1, column 8".toList := by decide +kernel
    have reported : reportedMessage?
        (generation ⟨".", none⟩ none (projectWithSource "a[b].go" "packag main\n")).1.outcome =
          some "a[b].go: syntax error at line 1, column 8" := by decide +kernel
    have head : headLine "." = .ok "\ngonode — Generating bindings in: .\n\n" :=
      eq_ok_of_toOption (by decide +kernel)
    have before : messageLines
        (generation ⟨".", none⟩ none (projectWithSource "a[b].go" "packag main\n")).1.messages =
          .ok "  Parsing 1 file(s)\n" := eq_ok_of_toOption (by decide +kernel)
    obtain ⟨fault, failed, same⟩ := exists_of_reportedMessage? reported
    obtain ⟨_, _, headShown, reportsShown, concluded⟩ := reports failed (by rw [same])
    rw [head, Except.ok.injEq] at headShown
    rw [before, Except.ok.injEq] at reportsShown
    refine ⟨unchanged.mp (by rw [shows, shown]), ?_⟩
    rw [concluded, ← headShown, ← reportsShown, same, shown]
    rfl
  · have isEmoji : markedEmoji? "A".toList ≠ none := by decide +kernel
    obtain ⟨-, -, located, -⟩ :=
      @messages_shown ⟨.error, "a.go:A: unsupported type: error"⟩ (List.all_eq_true.mp (by decide))
    intro written
    refine isEmoji ((located isPlainReport_emojiNamed rfl).mp ?_)
    rw [written]
    rfl

/-- An emoji code, a backslash in front of a bracket and a backslash at the end are not
printed as they are. -/
theorem marked_messages_changed :
    ((∀ c ∈ "a.go:A: unsupported type: error".toList, Text.isPrintable c = true) ∧
      messageLine ⟨.error, "a.go:A: unsupported type: error"⟩ =
        .ok "  x a.go🅰 unsupported type: error\n" ∧
      messageLine ⟨.info, "a.go:A: unsupported type: error"⟩ =
        .ok "  a.go🅰 unsupported type: error\n" ∧
      (generate ⟨".", none⟩ none
        (projectWithSource "a.go" "package main\n\n//export A\nfunc A(a error) {}\n")).1.output =
          "\ngonode — Generating bindings in: .\n\n" ++ "  Parsing 1 file(s)\n" ++
            "  x a.go🅰 unsupported type: error\n" ++ failureNotice) ∧
    ((∀ c ∈ "\\[A]".toList, Text.isPrintable c = true) ∧
      messageLine ⟨.error, "\\[A]"⟩ = .ok "  x [A]\n") ∧
    (∀ c ∈ "a\\".toList, Text.isPrintable c = true) ∧
      messageLine ⟨.error, "a\\"⟩ = .ok "  x a\\\\\n" := by
  refine ⟨⟨List.all_eq_true.mp (by decide), ?_, ?_, by decide +kernel⟩,
    ⟨List.all_eq_true.mp (by decide), ?_⟩, List.all_eq_true.mp (by decide), ?_⟩
  all_goals exact eq_ok_of_toOption (by decide +kernel)

end AddonBindings.CommandLine
