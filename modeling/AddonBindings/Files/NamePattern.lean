/-!
Contract: patterns of file names.

Owns:
- stars, question marks and bracketed sets in a pattern;
- which names match a pattern.

Does not own: patterns of whole paths, which are in `AddonBindings.Files.Glob`.
-/

namespace AddonBindings.Files

/-- A set of characters: single ones and ranges, or all others. -/
structure CharacterSet where
  negated : Bool
  single : List Char
  ranges : List (Char × Char)
deriving DecidableEq, Repr

def CharacterSet.contains (set : CharacterSet) (c : Char) : Bool :=
  set.negated != (set.single.contains c || set.ranges.any fun (first, last) => first ≤ c && c ≤ last)

inductive NameItem where
  /-- Any run of characters. -/
  | star
  /-- Any character. -/
  | one
  | character (c : Char)
  | member (set : CharacterSet)
deriving DecidableEq, Repr

/-- The text asks for a pattern; without these marks it is a plain name. -/
def isNamePattern (text : String) : Bool :=
  text.toList.any fun c => c == '*' || c == '?' || c == '['

/-- What stands between the hyphens of a bracket that make ranges.  The first
character of a part makes no range, nor does a hyphen at the end; `skip` characters
are passed over before the next hyphen is looked for. -/
def rangeParts (skip : Nat) : List Char → List (List Char)
  | [] => [[]]
  | c :: rest =>
      if skip = 0 && c == '-' && !rest.isEmpty then [] :: rangeParts 2 rest
      else
        match rangeParts (skip - 1) rest with
        | [] => [[c]]
        | part :: parts => (c :: part) :: parts

/-- Ranges that end before they start are left out, with both of their ends. -/
def dropEmptyRanges : List (List Char) → List (List Char)
  | [] => []
  | part :: parts =>
      match dropEmptyRanges parts with
      | [] => [part]
      | next :: others =>
          match part.getLast?, next.head? with
          | some first, some last =>
              if last < first then (part.dropLast ++ next.tail) :: others else part :: next :: others
          | _, _ => part :: next :: others

def rangesBetween : List (List Char) → List (Char × Char)
  | part :: next :: others =>
      (match part.getLast?, next.head? with
        | some first, some last => [(first, last)]
        | _, _ => []) ++ rangesBetween (next :: others)
  | _ => []

def characterSet (inside : List Char) : CharacterSet :=
  let skip := if inside.head? = some '!' then 2 else 1
  match dropEmptyRanges (rangeParts skip inside) with
  | ('!' :: first) :: parts => ⟨true, first ++ parts.flatten, rangesBetween (first :: parts)⟩
  | parts => ⟨false, parts.flatten, rangesBetween parts⟩

/-- The inside of a bracket and what follows it, given the characters after the
opening mark.  A closing mark at the very start is a member. -/
def splitBracket? (cs : List Char) : Option (List Char × List Char) :=
  let (lead, rest) :=
    match cs with
    | '!' :: ']' :: rest => (['!', ']'], rest)
    | '!' :: rest => (['!'], rest)
    | ']' :: rest => ([']'], rest)
    | rest => ([], rest)
  match rest.dropWhile (· ≠ ']') with
  | [] => none
  | _ :: after => some (lead ++ rest.takeWhile (· ≠ ']'), after)

/-- The items of a pattern, of which at most `count` are read. -/
def nameItemsWithin : Nat → List Char → List NameItem
  | 0, _ => []
  | _, [] => []
  | count + 1, c :: rest =>
      if c = '*' then .star :: nameItemsWithin count rest
      else if c = '?' then .one :: nameItemsWithin count rest
      else if c = '[' then
        match splitBracket? rest with
        | none => .character c :: nameItemsWithin count rest
        | some (inside, after) => .member (characterSet inside) :: nameItemsWithin count after
      else .character c :: nameItemsWithin count rest

def nameItems (text : String) : List NameItem :=
  nameItemsWithin text.length text.toList

/-- What is left of the characters after some of them passes the test. -/
def anySuffix (test : List Char → Bool) : List Char → Bool
  | [] => test []
  | c :: rest => test (c :: rest) || anySuffix test rest

def matchesItems : List NameItem → List Char → Bool
  | [], cs => cs.isEmpty
  | .star :: items, cs => anySuffix (matchesItems items) cs
  | .one :: items, cs =>
      match cs with
      | [] => false
      | _ :: rest => matchesItems items rest
  | .character expected :: items, cs =>
      match cs with
      | [] => false
      | c :: rest => c = expected && matchesItems items rest
  | .member set :: items, cs =>
      match cs with
      | [] => false
      | c :: rest => set.contains c && matchesItems items rest

def matchesName (pattern name : String) : Bool :=
  matchesItems (nameItems pattern) name.toList

end AddonBindings.Files
