import AddonBindings.Decimal.Reading
import AddonBindings.Text.Utf8
import AddonBindings.Yaml.Scalar
import AddonBindings.Yaml.Token

/-!
Contract: directives, anchors, aliases and tags in a YAML text.

Owns: the spelling of these tokens.

Does not own: where they may stand, which is in `AddonBindings.Yaml.Tokens`.
-/

namespace AddonBindings.Yaml

/-- A name of word characters; there is at least one. -/
def scanWord (cursor : Cursor) : Except Fault (String × Cursor) :=
  let (word, cursor) := cursor.span isWordChar
  if word.isEmpty then malformed else .ok (String.ofList word, cursor)

/-- A name after its indicator, with nothing behind it that could belong to it. -/
def scanName (cursor : Cursor) : Except Fault (String × Cursor) := do
  let (name, cursor) ← scanWord cursor.step
  let stops (c : Char) : Bool :=
    isSpaceOrTab c || isBreak c || c ∈ ['?', ':', ',', ']', '\x7d', '%', '@', '`']
  if endOr stops cursor.peek then return (name, cursor) else malformed

/-- A handle of tags: an exclamation mark, perhaps with a word and another one. -/
def scanHandle (cursor : Cursor) : Except Fault (String × Cursor) :=
  if !cursor.sees '!' then malformed
  else if cursor.peekAt 1 = some ' ' then .ok ("!", cursor.step)
  else
    let (word, cursor) := cursor.step.span isWordChar
    if cursor.sees '!' then .ok ("!" ++ String.ofList word ++ "!", cursor.step) else malformed

/-- A character of a tag that stands for itself. -/
def isTagChar (c : Char) : Bool :=
  c.isAlphanum || c ∈ [ '-', ';', '/', '?', ':', '@', '&', '=', '+', '$', ',', '_', '.', '!', '~',
    '*', '\'', '(', ')', '[', ']' ]

def scanEscapedBytes : Nat → Cursor → Except Fault (List UInt8 × Cursor)
  | 0, _ => malformed
  | count + 1, cursor =>
      if !cursor.sees '%' then .ok ([], cursor)
      else
        let digits := cursor.step.rest.take 2
        match Decimal.natural? 16 digits with
        | none => malformed
        | some byte =>
            if digits.length < 2 then malformed
            else
              (scanEscapedBytes count (cursor.skip 3)).map fun (bytes, cursor) =>
                (UInt8.ofNat byte :: bytes, cursor)

/-- The characters of a tag, in which escapes stand for bytes. -/
def scanTagChars : Nat → Cursor → Except Fault (List Char × Cursor)
  | 0, _ => malformed
  | count + 1, cursor =>
      let (plain, cursor) := cursor.span isTagChar
      if !cursor.sees '%' then .ok (plain, cursor)
      else do
        let (bytes, cursor) ← scanEscapedBytes cursor.bound cursor
        match Text.decodeUtf8 bytes with
        | .error _ => malformed
        | .ok text =>
            let (more, cursor) ← scanTagChars count cursor
            return (plain ++ text.toList ++ more, cursor)

/-- The text of a tag; there is at least one character or escape. -/
def scanTagText (cursor : Cursor) : Except Fault (String × Cursor) :=
  if cursor.peek.any fun c => isTagChar c || c = '%' then
    (scanTagChars cursor.bound cursor).map fun (cs, cursor) => (String.ofList cs, cursor)
  else malformed

/-- The token, if a space or the end of the line follows. -/
def beforeSpace (token : Token) (cursor : Cursor) : Except Fault (Token × Cursor) :=
  if isSpaceOrEnd cursor.peek then .ok (token, cursor) else malformed

def scanTag (cursor : Cursor) : Except Fault (Token × Cursor) := do
  if cursor.peekAt 1 = some '<' then
    let (suffix, cursor) ← scanTagText (cursor.skip 2)
    if cursor.sees '>' then beforeSpace (.tag none suffix) cursor.step else malformed
  else if isGap (cursor.peekAt 1) then beforeSpace (.tag none "!") cursor.step
  else
    let upToSpace := cursor.step.rest.takeWhile fun c => c != ' ' && !isBreak c
    let (handle, cursor) ← if upToSpace.contains '!' then scanHandle cursor else .ok ("!", cursor.step)
    let (suffix, cursor) ← scanTagText cursor
    beforeSpace (.tag (some handle) suffix) cursor

def scanVersionNumber (cursor : Cursor) : Except Fault (Nat × Cursor) :=
  let (digits, cursor) := cursor.span Char.isDigit
  match Decimal.natural? 10 digits with
  | none => malformed
  | some number =>
      if Decimal.digitLimit < digits.length then .error (.scalar (.tooManyDigits digits.length))
      else .ok (number, cursor)

def scanDirectiveValue (name : String) (cursor : Cursor) : Except Fault (Token × Cursor) := do
  if name = "YAML" then
    let (major, cursor) ← scanVersionNumber cursor.skipSpaces
    if !cursor.sees '.' then malformed
    else
      let (_, cursor) ← scanVersionNumber cursor.step
      beforeSpace (.versionDirective major) cursor
  else if name = "TAG" then
    let (handle, cursor) ← scanHandle cursor.skipSpaces
    if !cursor.sees ' ' then malformed
    else
      let (start, cursor) ← scanTagText cursor.skipSpaces
      beforeSpace (.tagDirective handle start) cursor
  else return (.otherDirective, cursor.skipWhile fun c => !isBreak c)

def scanDirective (cursor : Cursor) : Except Fault (Token × Cursor) := do
  let (name, cursor) ← scanWord cursor.step
  if !isSpaceOrEnd cursor.peek then malformed
  else
    let (token, cursor) ← scanDirectiveValue name cursor
    return (token, ← scanIgnoredLine cursor)

end AddonBindings.Yaml
