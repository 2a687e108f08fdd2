import Mathlib.Data.List.Forall2
import AddonBindings.Proofs.Text.Word
import AddonBindings.Text.Layout
import AddonBindings.Text.Lines

/-!
Contract: generated text as tokens and phrases.

Owns:
- the tokens that the two generated languages share: words, marks and texts between
  quotation marks, with blanks and comments left out;
- how the tokens of a text come from its parts and from its lines;
- how the tokens of a list come from its items.

Does not own: phrases, which are in `AddonBindings.Proofs.Text.Phrase`.
-/

namespace AddonBindings.Text

inductive Token where
  | word (text : String)
  | mark (character : Char)
  | quoted (text : String)
deriving DecidableEq, Repr

/-- What the reader is inside of. -/
inductive Reading where
  | between
  | word (read : List Char)
  | quoted (read : List Char)
  /-- Right after a backslash between quotation marks. -/
  | escaped (read : List Char)
  /-- Right after a slash, which may open a comment. -/
  | slash
  | lineComment
  | blockComment
  /-- Right after a star in a block comment. -/
  | blockCommentStar
deriving DecidableEq, Repr

namespace Reading

def start (c : Char) : List Token × Reading :=
  if isWordCharacter c then ([], word [c])
  else if c = '"' then ([], quoted [])
  else if c = '/' then ([], slash)
  else if c = ' ' || c = '\n' then ([], between)
  else ([.mark c], between)

def endBy (pending : Token) (c : Char) : List Token × Reading :=
  (pending :: (start c).1, (start c).2)

/-- One character: the tokens that it completes, and what the reader is then inside
of. -/
def step : Reading → Char → List Token × Reading
  | between, c => start c
  | word read, c =>
      if isWordCharacter c then ([], word (read ++ [c])) else endBy (.word (String.ofList read)) c
  | quoted read, c =>
      if c = '"' then ([.quoted (String.ofList read)], between)
      else if c = '\\' then ([], escaped (read ++ [c]))
      else ([], quoted (read ++ [c]))
  | escaped read, c => ([], quoted (read ++ [c]))
  | slash, c =>
      if c = '/' then ([], lineComment)
      else if c = '*' then ([], blockComment)
      else endBy (.mark '/') c
  | lineComment, c => ([], if c = '\n' then between else lineComment)
  | blockComment, c => ([], if c = '*' then blockCommentStar else blockComment)
  | blockCommentStar, c =>
      ([], if c = '/' then between else if c = '*' then blockCommentStar else blockComment)

/-- The tokens that the characters complete, and what the reader is then inside of. -/
def scan : Reading → List Char → List Token × Reading
  | reading, [] => ([], reading)
  | reading, c :: rest =>
      let (tokens, next) := reading.step c
      let (more, final) := scan next rest
      (tokens ++ more, final)

end Reading

/-- The tokens of a text.  The end of the text ends the last token. -/
def tokens (text : String) : List Token :=
  (Reading.between.scan (text.toList ++ ['\n'])).1

/-- Reading the characters between two tokens gives `found`, and the reader is again
between two tokens. -/
abbrev Reads (characters : List Char) (found : List Token) : Prop :=
  Reading.between.scan characters = (found, .between)

namespace Reading

/-- Reading a text is reading its two parts, one after the other. -/
theorem scan_append {before middle after : Reading} {front back : List Char}
    {found more : List Token}
    (first : before.scan front = (found, middle)) (second : middle.scan back = (more, after)) :
    before.scan (front ++ back) = (found ++ more, after) := by
  induction front generalizing before found with
  | nil =>
      obtain ⟨rfl, rfl⟩ := Prod.mk.inj first
      exact second
  | cons c front inductionHypothesis =>
      simp only [scan] at first
      obtain ⟨rfl, ends⟩ := Prod.mk.inj first
      have rest := inductionHypothesis (Prod.ext rfl ends)
      simp only [List.cons_append, scan, rest, List.append_assoc]

theorem scan_word_of_forall (read : List Char) {characters : List Char}
    (isRest : ∀ c ∈ characters, isWordCharacter c = true) :
    (word read).scan characters = ([], word (read ++ characters)) := by
  induction characters generalizing read with
  | nil => simp [scan]
  | cons c rest inductionHypothesis =>
      have stays := inductionHypothesis (read ++ [c])
        (fun other member => isRest other (List.mem_cons_of_mem c member))
      simp [scan, step, isRest c, stays]

/-- No quotation mark ends the text early, and no backslash hides one. -/
def isQuotable (c : Char) : Bool :=
  c ≠ '"' && c ≠ '\\'

theorem isQuotable_of_isWordCharacter {c : Char} (word : isWordCharacter c = true) :
    isQuotable c = true := by
  have quotationMark : c ≠ '"' := by
    rintro rfl
    revert word
    decide
  have backslash : c ≠ '\\' := by
    rintro rfl
    revert word
    decide
  simp [isQuotable, quotationMark, backslash]

theorem scan_quoted_of_forall (read : List Char) {characters : List Char}
    (quotable : ∀ c ∈ characters, isQuotable c = true) :
    (quoted read).scan characters = ([], quoted (read ++ characters)) := by
  induction characters generalizing read with
  | nil => simp [scan]
  | cons c rest inductionHypothesis =>
      have stays := inductionHypothesis (read ++ [c])
        (fun other member => quotable other (List.mem_cons_of_mem c member))
      have this : c ≠ '"' ∧ c ≠ '\\' := by simpa [isQuotable] using quotable c
      simp [scan, step, this, stays]

theorem scan_lineComment_of_forall {characters : List Char} (inLine : ∀ c ∈ characters, c ≠ '\n') :
    lineComment.scan characters = ([], lineComment) := by
  induction characters with
  | nil => rfl
  | cons c rest inductionHypothesis =>
      have stays := inductionHypothesis
        (fun other member => inLine other (List.mem_cons_of_mem c member))
      simp [scan, step, inLine c, stays]

end Reading

/-! ## Parts of a line -/

/-- The characters start with one that ends a word. -/
def startsWithMark : List Char → Bool
  | [] => false
  | c :: _ => !isWordCharacter c

theorem startsWithMark_append {front : List Char} (marked : startsWithMark front = true)
    (back : List Char) : startsWithMark (front ++ back) = true := by
  cases front with
  | nil => cases marked
  | cons c rest => exact marked

namespace Reads

variable {front back : List Char} {found more : List Token}

theorem append (first : Reads front found) (second : Reads back more) :
    Reads (front ++ back) (found ++ more) :=
  Reading.scan_append first second

/-- Text that leaves the reader between two tokens is read by itself. -/
theorem literal {text : String} (closed : (Reading.between.scan text.toList).2 = .between) :
    Reads text.toList (tokens text) := by
  have lineFeed : Reads ['\n'] [] := by decide
  have alone : Reads text.toList (Reading.between.scan text.toList).1 := Prod.ext rfl closed
  have ended := alone.append lineFeed
  rw [tokens, ended, List.append_nil]
  exact alone

/-- A word is read up to the mark after it. -/
theorem word {text : String} (isWord : isWord text = true) (rest : Reads back found)
    (marked : startsWithMark back = true) :
    Reads (text.toList ++ back) (.word text :: found) := by
  obtain ⟨filled, characters⟩ := isWord_iff.mp isWord
  obtain ⟨first, others, same⟩ := List.exists_cons_of_ne_nil filled
  rw [same] at characters
  have inWord : Reading.between.scan text.toList = ([], .word text.toList) := by
    have stays := Reading.scan_word_of_forall [first]
      (fun c member => characters c (List.mem_cons_of_mem first member))
    rw [same]
    simp [Reading.scan, Reading.step, Reading.start, characters first, stays]
  have ended : (Reading.word text.toList).scan back = (.word text :: found, .between) := by
    cases back with
    | nil => cases marked
    | cons c rest' =>
        have notWord : isWordCharacter c = false := by simpa [startsWithMark] using marked
        simp only [Reads, Reading.scan, Reading.step, Prod.mk.injEq] at rest
        simp [Reading.scan, Reading.step, Reading.endBy, notWord, rest]
  exact Reading.scan_append inWord ended

theorem quoted {text : String} (quotable : ∀ c ∈ text.toList, Reading.isQuotable c = true) :
    Reads ('"' :: (text.toList ++ ['"'])) [.quoted text] := by
  have opened : Reading.between.scan ['"'] = ([], .quoted []) := by decide
  have inside := Reading.scan_quoted_of_forall [] quotable
  have closed : (Reading.quoted text.toList).scan ['"'] = ([.quoted text], .between) := by
    simp [Reading.scan, Reading.step]
  exact Reading.scan_append opened (Reading.scan_append inside closed)

end Reads

/-- The characters are read as `found` in front of every mark: their last token may
be a word that only the mark ends. -/
def ReadsToMark (characters : List Char) (found : List Token) : Prop :=
  ∀ (back : List Char) (more : List Token),
    startsWithMark back = true → Reads back more → Reads (characters ++ back) (found ++ more)

theorem ReadsToMark.word {text : String} (isWord : isWord text = true) :
    ReadsToMark text.toList [.word text] :=
  fun _ _ marked rest => Reads.word isWord rest marked

/-- Items with a comma and a blank between them are read one by one, with the comma
between them. -/
theorem ReadsToMark.intercalate {items : List String} {found : List (List Token)}
    (each : List.Forall₂ (fun item => ReadsToMark item.toList) items found) :
    ReadsToMark (String.intercalate ", " items).toList ([.mark ','].intercalate found) := by
  have comma : Reads ", ".toList [.mark ','] := by decide
  rw [String.toList_intercalate]
  induction each with
  | nil => exact fun _ _ _ rest => rest
  | @cons item tokens others foundOthers first each inductionHypothesis =>
      cases each with
      | nil =>
          rw [List.map_cons, List.map_nil, List.intercalate_singleton, List.intercalate_singleton]
          exact first
      | @cons next nextTokens others foundOthers second each =>
          intro back more marked rest
          simp only [List.map_cons, List.intercalate_cons_cons, List.append_assoc]
            at inductionHypothesis ⊢
          exact first _ _ (startsWithMark_append (by decide) _)
            (comma.append (inductionHypothesis back more marked rest))

/-! ## Lines -/

def linesText (lines : List String) : List Char :=
  lines.flatMap fun line => line.toList ++ ['\n']

theorem linesText_append (front back : List String) :
    linesText (front ++ back) = linesText front ++ linesText back :=
  List.flatMap_append

theorem linesText_cons (line : String) (rest : List String) :
    linesText (line :: rest) = line.toList ++ '\n' :: linesText rest := by
  simp [linesText]

theorem toList_fileText {lines : List String} (filled : lines ≠ []) :
    (fileText lines).toList = linesText lines := by
  have lineFeed : "\n".toList = ['\n'] := rfl
  rw [fileText, String.toList_append, String.toList_intercalate, lineFeed]
  induction lines with
  | nil => exact absurd rfl filled
  | cons line rest inductionHypothesis =>
      cases rest with
      | nil => simp [linesText, List.intercalate]
      | cons next others =>
          have restText := inductionHypothesis (List.cons_ne_nil next others)
          rw [linesText_cons, ← restText]
          simp [List.intercalate_cons_cons]

/-- Each line is read by itself, and no token and no comment goes on in the next
line. -/
inductive ReadsLines : List String → List Token → Prop where
  | nil : ReadsLines [] []
  | cons {line : String} {rest : List String} {found more : List Token}
      (first : Reads (line.toList ++ ['\n']) found) (others : ReadsLines rest more) :
      ReadsLines (line :: rest) (found ++ more)

namespace ReadsLines

theorem reads {lines : List String} {found : List Token} (each : ReadsLines lines found) :
    Reads (linesText lines) found := by
  induction each with
  | nil => rfl
  | cons first others inductionHypothesis => exact first.append inductionHypothesis

theorem append {front back : List String} {found more : List Token}
    (first : ReadsLines front found) (second : ReadsLines back more) :
    ReadsLines (front ++ back) (found ++ more) := by
  induction first with
  | nil => exact second
  | cons line others inductionHypothesis =>
      rw [List.cons_append, List.append_assoc]
      exact .cons line inductionHypothesis

theorem indented {line : String} {found : List Token} (reads : Reads (line.toList ++ ['\n']) found) :
    Reads ((indentation ++ line).toList ++ ['\n']) found := by
  have blanks : Reads indentation.toList [] := by decide
  rw [String.toList_append, List.append_assoc]
  exact blanks.append reads

theorem map_indentation {lines : List String} {found : List Token} (each : ReadsLines lines found) :
    ReadsLines (lines.map (indentation ++ ·)) found := by
  induction each with
  | nil => exact .nil
  | cons first others inductionHypothesis => exact .cons (indented first) inductionHypothesis

theorem indent {lines : List String} {found : List Token} (each : ReadsLines lines found) :
    ReadsLines (indent lines) found := by
  induction each with
  | nil => exact .nil
  | @cons line rest found more first others inductionHypothesis =>
      refine .cons ?_ inductionHypothesis
      dsimp only
      split
      · exact first
      · exact indented first

theorem line {line : String} {found : List Token} (reads : Reads (line.toList ++ ['\n']) found) :
    ReadsLines [line] found := by
  have alone := ReadsLines.cons reads .nil
  rwa [List.append_nil] at alone

theorem singleton {line : String} {found : List Token} (reads : Reads line.toList found) :
    ReadsLines [line] found := by
  have lineFeed : Reads ['\n'] [] := by decide
  have ended := reads.append lineFeed
  rw [List.append_nil] at ended
  exact .line ended

theorem remark {text : String} (inLine : ∀ c ∈ text.toList, c ≠ '\n') :
    ReadsLines ["// " ++ text] [] := by
  have opened : Reading.between.scan "// ".toList = ([], .lineComment) := by decide
  have inside := Reading.scan_lineComment_of_forall inLine
  have closed : Reading.lineComment.scan ['\n'] = ([], .between) := by decide
  apply ReadsLines.line
  rw [String.toList_append]
  exact Reading.scan_append (Reading.scan_append opened inside) closed

end ReadsLines

theorem tokens_fileText {lines : List String} {found : List Token} (filled : lines ≠ [])
    (reads : Reads (linesText lines) found) : tokens (fileText lines) = found := by
  have lineFeed : Reads ['\n'] [] := by decide
  have all := reads.append lineFeed
  rw [tokens, toList_fileText filled, all, List.append_nil]

end AddonBindings.Text
