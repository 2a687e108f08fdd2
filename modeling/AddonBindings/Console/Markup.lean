import AddonBindings.Console.Emoji
import AddonBindings.Console.Style
import AddonBindings.Console.Value
import AddonBindings.Text.Quoted

/-!
Contract: console markup.

Owns:
- the tags of markup and the backslashes that make a tag plain text;
- writing a text so that markup shows it;
- the text that markup shows, or the tag that cannot be opened or closed.

Does not own: colours and attributes, which are not shown.
-/

namespace AddonBindings.Console

inductive MarkupFault where
  /-- A closing tag, and no tag of this name is open. -/
  | unmatched (tag : String) (position : Nat)
  /-- A closing tag, and no tag is open at all. -/
  | nothingOpen (position : Nat)
  /-- The closed tag stands for an action, and what it holds cannot be read. -/
  | action (parameters : String)
  /-- A tag has a style that cannot be read. -/
  | style (fault : StyleFault)
deriving DecidableEq, Repr

def MarkupFault.message : MarkupFault → String
  | unmatched tag position =>
      "closing tag '[" ++ tag ++ "]' at position " ++ toString position ++
        " doesn't match any open tag"
  | nothingOpen position =>
      "closing tag '[/]' at position " ++ toString position ++ " has nothing to close"
  | action parameters => "error parsing " ++ Text.quoted parameters
  | style fault => fault.message

def isTagStart (c : Char) : Bool :=
  ('a' ≤ c && c ≤ 'z') || c == '#' || c == '/' || c == '@'

def isTagRest (c : Char) : Bool :=
  c != '[' && c != ']'

def tagAtFront? : List Char → Option (List Char × List Char)
  | '[' :: first :: rest =>
      if isTagStart first then
        match rest.dropWhile isTagRest with
        | ']' :: after => some (first :: rest.takeWhile isTagRest, after)
        | _ => none
      else none
  | _ => none

/-- What follows a tag is shorter. -/
theorem length_of_tagAtFront? {cs content after : List Char}
    (found : tagAtFront? cs = some (content, after)) : after.length + 2 ≤ cs.length := by
  unfold tagAtFront? at found
  split at found
  next first rest =>
    split at found
    · split at found
      next other dropped =>
        simp only [Option.some.injEq, Prod.mk.injEq] at found
        have shorter := (List.dropWhile_suffix isTagRest (l := rest)).length_le
        rw [dropped] at shorter
        rw [← found.2]
        simp only [List.length_cons] at shorter ⊢
        omega
      · simp at found
    · simp at found
  · simp at found

/-- The backslashes at the front, and what follows them. -/
def backslashes (cs : List Char) : Nat × List Char :=
  ((cs.takeWhile (· == '\\')).length, cs.dropWhile (· == '\\'))

/-- The tag at the front after any number of backslashes: their number, what stands
in the tag, and what follows. -/
def escapedTag? (cs : List Char) : Option (Nat × List Char × List Char) :=
  let (count, rest) := backslashes cs
  (tagAtFront? rest).map fun (content, after) => (count, content, after)

/-- What follows a tag with its backslashes is shorter. -/
theorem length_of_escapedTag? {cs content after : List Char} {count : Nat}
    (found : escapedTag? cs = some (count, content, after)) : after.length < cs.length := by
  simp only [escapedTag?, backslashes] at found
  obtain ⟨⟨inner, left⟩, innerFound, same⟩ := Option.map_eq_some_iff.mp found
  simp only [Prod.mk.injEq] at same
  have shorter := length_of_tagAtFront? innerFound
  have dropped := (List.dropWhile_suffix (fun c => c == '\\') (l := cs)).length_le
  rw [← same.2.2]
  omega

inductive Piece where
  /-- Text between tags. -/
  | text (characters : List Char)
  /-- Text that backslashes have kept from being a tag, or the backslashes. -/
  | kept (characters : List Char)
  /-- A tag, with the position where it starts. -/
  | tag (content : List Char) (position : Nat)
deriving DecidableEq, Repr

def addCharacter (c : Char) : List Piece → List Piece
  | .text characters :: rest => .text (c :: characters) :: rest
  | pieces => .text [c] :: pieces

/-- The pieces of a tag after `count` backslashes: each two of them are one, and one
that is left over makes the tag text. -/
def tagPieces (position count : Nat) (content : List Char) : List Piece :=
  let shown := if count / 2 = 0 then [] else [Piece.kept (List.replicate (count / 2) '\\')]
  if count % 2 = 1 then shown ++ [.kept ('[' :: (content ++ [']']))]
  else shown ++ [.tag content (position + count)]

/-- The pieces of markup that starts at `position`. -/
def piecesFrom (position : Nat) : List Char → List Piece
  | [] => []
  | c :: rest =>
      match found : escapedTag? (c :: rest) with
      | some (count, content, after) =>
          have : after.length < rest.length + 1 := length_of_escapedTag? found
          tagPieces position count content ++
            piecesFrom (position + count + content.length + 2) after
      | none => addCharacter c (piecesFrom (position + 1) rest)
termination_by cs => cs.length
decreasing_by all_goals (simp only [List.length_cons]; omega)

/-- A backslash in front of a bracket is not shown. -/
def unescapeBrackets : List Char → List Char
  | '\\' :: '[' :: rest => '[' :: unescapeBrackets rest
  | c :: rest => c :: unescapeBrackets rest
  | [] => []

def plainText (cs : List Char) : List Char :=
  replaceEmoji (unescapeBrackets cs)

/-- The name of a tag, without what follows an equals sign. -/
def tagName (content : List Char) : List Char :=
  content.takeWhile (· != '=')

/-- What follows the first equals sign in a tag. -/
def tagParameters (content : List Char) : List Char :=
  (content.dropWhile (· != '=')).tail

/-- A tag that is open: the normal spelling of its style, and what follows its equals
sign. -/
structure OpenTag where
  style : String
  parameters : List Char
deriving DecidableEq, Repr

/-- The tag that is opened.  Its style is read again, with the parameters behind it, where
the text is shown. -/
def openTag (content : List Char) : Except MarkupFault OpenTag :=
  let parameters := tagParameters content
  Except.mapError MarkupFault.style do
    let style ← normalStyle (tagName content)
    let _ ← styleOf (style.toList ++ ' ' :: parameters)
    return ⟨style, parameters⟩

/-- Closing a tag reads what an action holds. -/
def OpenTag.close (tag : OpenTag) : Except MarkupFault Unit :=
  if tag.style.toList.head? = some '@' && !tag.parameters.isEmpty && !Value.isAction tag.parameters then
    .error (.action (String.ofList tag.parameters))
  else .ok ()

/-- The open tags, the last one first, after one more tag. -/
def openAfter (content : List Char) (position : Nat) (opened : List OpenTag) :
    Except MarkupFault (List OpenTag) :=
  match tagName content with
  | '/' :: name =>
      match Text.trimChars name with
      | [] =>
          match opened with
          | [] => .error (.nothingOpen position)
          | tag :: rest => tag.close.map fun _ => rest
      | trimmed => do
          let style ← (normalStyle trimmed).mapError .style
          match opened.find? fun tag => tag.style = style with
          | some tag => tag.close.map fun _ => opened.erase tag
          | none => .error (.unmatched (String.ofList content) position)
  | _ => (openTag content).map (· :: opened)

def shownPieces (opened : List OpenTag) : List Piece → Except MarkupFault (List Char)
  | [] => .ok []
  | .text characters :: rest => (shownPieces opened rest).map (plainText characters ++ ·)
  | .kept characters :: rest => (shownPieces opened rest).map (plainText characters ++ ·)
  | .tag content position :: rest => do
      shownPieces (← openAfter content position opened) rest

def shown (markup : List Char) : Except MarkupFault (List Char) :=
  shownPieces [] (piecesFrom 0 markup)

/-- The text with its tags made plain: the backslashes in front of a tag are doubled,
and one more stands before the tag. -/
def escapeTags : List Char → List Char
  | [] => []
  | c :: rest =>
      match found : escapedTag? (c :: rest) with
      | some (count, content, after) =>
          have : after.length < rest.length + 1 := length_of_escapedTag? found
          List.replicate (2 * count + 1) '\\' ++ '[' :: (content ++ ']' :: escapeTags after)
      | none => c :: escapeTags rest
termination_by cs => cs.length
decreasing_by all_goals (simp only [List.length_cons]; omega)

def endsInLoneBackslash (cs : List Char) : Bool :=
  (cs.reverse.takeWhile (· == '\\')).length == 1

/-- Markup that shows a text.  A lone backslash at the end is doubled, so that it
cannot reach what is written after it. -/
def escape (cs : List Char) : List Char :=
  let escaped := escapeTags cs
  if endsInLoneBackslash escaped then escaped ++ ['\\'] else escaped

end AddonBindings.Console
