import AddonBindings.Yaml.Fault

/-!
Contract: the tokens of YAML.

Owns: the kinds of tokens.

Does not own: cutting a text into tokens, which is in `AddonBindings.Yaml.Tokens`.
-/

namespace AddonBindings.Yaml

inductive Token where
  /-- The version that a document asks for, by its first number. -/
  | versionDirective (major : Nat)
  /-- A short form for the start of tags. -/
  | tagDirective (handle start : String)
  | otherDirective
  | documentStart
  | documentEnd
  | blockSequenceStart
  | blockMappingStart
  | blockEnd
  | flowSequenceStart
  | flowSequenceEnd
  | flowMappingStart
  | flowMappingEnd
  | blockEntry
  | flowEntry
  | key
  | value
  | alias (name : String)
  | anchor (name : String)
  /-- A tag: the handle, if it has one, and what follows. -/
  | tag (handle : Option String) (suffix : String)
  | scalar (text : String) (plain : Bool)
  | streamEnd
  /-- The text cannot be cut any further. -/
  | broken (fault : Fault)
deriving DecidableEq, Repr

end AddonBindings.Yaml
