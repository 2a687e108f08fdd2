import AddonBindings.Proofs.Declaration.Comment
import AddonBindings.Proofs.Signature
import AddonBindings.Proofs.Text.Phrase

/-!
Contract: generated declarations, read from their text.

Owns:
- reading a signature from a member of the interface;
- the law that the text of the declarations states the signatures of its records,
  whatever their documentation says.

Does not own: the signatures that the native source shows, which are in
`AddonBindings.Proofs.Native.SignatureReading`.
-/

namespace AddonBindings.Declaration

open Text

/-! ## Reading a signature -/

def parameter? : List Token → Option ScriptParameter
  | [.word name, .mark ':', .word type] => (ScriptType.ofWord? type).map (⟨name, ·⟩)
  | _ => none

/-- The result of a member: a type, or void. -/
def result? (word : String) : Option (Option ScriptType) :=
  if word = "void" then some none else (ScriptType.ofWord? word).map some

def member? : List Token → Option ScriptSignature
  | .word name :: .mark ':' :: .mark '(' :: listed => do
      let (items, rest) ← closedItems? listed
      let parameters ← items.mapM parameter?
      match rest with
      | [.mark '=', .mark '>', .word result, .mark ';'] => (result? result).map (⟨name, parameters, ·⟩)
      | _ => none
  | _ => none

/-- The name of an interface, from the phrase that opens it. -/
def interface? : List Token → Option String
  | [.word first, .word second, .word name, .mark '\x7b'] =>
      if first = "export" ∧ second = "interface" then some name else none
  | _ => none

def members? : List (List Token) → Option (List ScriptSignature)
  | [] => none
  | phrase :: rest =>
      match interface? phrase with
      | some _ => (rest.takeWhile (· ≠ tokens "\x7d")).mapM member?
      | none => members? rest

def readSource (text : String) : Option (List ScriptSignature) :=
  members? (phrases (tokens text))

/-! ## The phrase of a member -/

def resultWord : Option ScriptType → String
  | none => "void"
  | some type => type.word

def parameterTokens (parameter : ScriptParameter) : List Token :=
  [.word parameter.name, .mark ':', .word parameter.type.word]

def memberPhrase (signature : ScriptSignature) : List Token :=
  .word signature.name :: .mark ':' :: .mark '(' ::
    ([.mark ','].intercalate (signature.parameters.map parameterTokens) ++
      .mark ')' :: [.mark '=', .mark '>', .word (resultWord signature.result), .mark ';'])

private theorem ofWord?_word (type : ScriptType) : ScriptType.ofWord? type.word = some type := by
  cases type <;> rfl

private theorem result?_resultWord (result : Option ScriptType) :
    result? (resultWord result) = some result := by
  cases result with
  | none => rfl
  | some type => cases type <;> rfl

private theorem isItem_parameterTokens (parameter : ScriptParameter) :
    isItem (parameterTokens parameter) = true := by
  simp [isItem, parameterTokens]

/-- A member states the signature that it was made from. -/
theorem member?_memberPhrase (signature : ScriptSignature) :
    member? (memberPhrase signature) = some signature := by
  have items (item : List Token) (member : item ∈ signature.parameters.map parameterTokens) :
      isItem item = true := by
    obtain ⟨parameter, -, rfl⟩ := List.mem_map.mp member
    exact isItem_parameterTokens parameter
  have parameters : (signature.parameters.map parameterTokens).mapM parameter? =
      some signature.parameters := by
    have found (parameter : ScriptParameter) (_ : parameter ∈ signature.parameters) :
        (parameter? ∘ parameterTokens) parameter = some (id parameter) := by
      simp [parameterTokens, parameter?, ofWord?_word]
    rw [List.mapM_map, Traversal.mapM_eq_some_map found, List.map_id]
  rw [memberPhrase, member?, closedItems?_intercalate items]
  simp [parameters, result?_resultWord]

private theorem isPhrase_memberPhrase (signature : ScriptSignature) :
    isPhrase (memberPhrase signature) = true := by
  have opened : ∀ token ∈ [.word signature.name, .mark ':', .mark '('], endsPhrase token = false := by
    simp [endsPhrase]
  have inside (token : Token)
      (member : token ∈ [.mark ','].intercalate (signature.parameters.map parameterTokens)) :
      endsPhrase token = false := by
    rcases mem_intercalate member with rfl | ⟨item, inItems, inItem⟩
    · decide
    · obtain ⟨parameter, -, rfl⟩ := List.mem_map.mp inItems
      simp only [parameterTokens, List.mem_cons, List.not_mem_nil, or_false] at inItem
      rcases inItem with rfl | rfl | rfl
      · rfl
      · decide
      · rfl
  exact isPhrase_append opened (isPhrase_append inside rfl)

/-! ## The lines of a member -/

private theorem typeText_boundary (type : ScriptType) :
    typeText (some type.boundary) = .ok type.word := by
  cases type <;> rfl

private theorem typeText_map_boundary (result : Option ScriptType) :
    typeText (result.map ScriptType.boundary) = .ok (resultWord result) := by
  cases result with
  | none => rfl
  | some type => exact typeText_boundary type

def memberText (signature : ScriptSignature) : String :=
  signature.name ++ ": (" ++
    String.intercalate ", " (signature.parameters.map fun parameter =>
      parameter.name ++ ": " ++ parameter.type.word) ++ ") => " ++ resultWord signature.result ++ ";"

theorem member_eq {function : ExportedFunction} {signature : ScriptSignature}
    (stated : function.signature? = some signature) :
    member function = .ok (memberText signature) := by
  obtain ⟨name, parameters, result⟩ := ExportedFunction.of_signature? stated
  have texts : function.parameters.mapM parameterText =
      .ok (signature.parameters.map fun parameter => parameter.name ++ ": " ++ parameter.type.word) := by
    rw [parameters, List.mapM_map]
    apply Traversal.mapM_eq_ok_map
    intro parameter _
    simp [parameterText, ScriptParameter.toParameter, typeText_boundary, Except.map, String.append_assoc]
  rw [member, texts, result, typeText_map_boundary, memberText, name]
  rfl

theorem isWord_word (type : ScriptType) : isWord type.word = true := by
  cases type <;> decide

theorem isWord_resultWord (result : Option ScriptType) : isWord (resultWord result) = true := by
  cases result with
  | none => decide
  | some type => exact isWord_word type

private theorem readsLines_memberText {signature : ScriptSignature}
    (named : isWord signature.name = true)
    (parametersNamed : ∀ parameter ∈ signature.parameters, isWord parameter.name = true) :
    ReadsLines [memberText signature] (memberPhrase signature) := by
  have colon : Reads ": ".toList [.mark ':'] := by decide
  have opening : Reads ": (".toList [.mark ':', .mark '('] := by decide
  have arrow : Reads ") => ".toList [.mark ')', .mark '=', .mark '>'] := by decide
  have semicolon : Reads ";".toList [.mark ';'] := by decide
  have each : List.Forall₂ (fun text => ReadsToMark text.toList)
      (signature.parameters.map fun parameter => parameter.name ++ ": " ++ parameter.type.word)
      (signature.parameters.map parameterTokens) := by
    rw [List.forall₂_map_left_iff, List.forall₂_map_right_iff, List.forall₂_same]
    intro parameter member back more marked rest
    have type := rest.word (isWord_word parameter.type) marked
    have name := (colon.append type).word (parametersNamed parameter member)
      (startsWithMark_append (by decide) _)
    simpa [String.toList_append, parameterTokens] using name
  have ending := arrow.append (semicolon.word (isWord_resultWord signature.result) (by decide))
  have listed := ReadsToMark.intercalate each _ _ (startsWithMark_append (by decide) _) ending
  have whole := (opening.append listed).word named (startsWithMark_append (by decide) _)
  apply ReadsLines.singleton
  simpa [memberText, String.toList_append, memberPhrase] using whole

/-! ## The source -/

def interfacePhrase (addon : String) : List Token :=
  tokens "export interface" ++ .word (interfaceName addon) :: tokens "\x7b"

def bindingPhrase (addon : String) : List Token :=
  tokens "const addon:" ++ .word (interfaceName addon) ::
    (tokens "= require(" ++ .quoted addon :: tokens ");")

def sourcePhrases (addon : String) (signatures : List ScriptSignature) : List (List Token) :=
  [interfacePhrase addon] ++
    (signatures.map memberPhrase ++
      [tokens "\x7d", bindingPhrase addon, tokens "export default addon;"])

/-- A member is its documentation and one line that states its signature. -/
theorem memberLines_eq {function : ExportedFunction} {signature : ScriptSignature}
    (stated : function.signature? = some signature) :
    memberLines function = .ok ((documentationBlock function.documentation).map (indentation ++ ·) ++
      [memberText signature].map (indentation ++ ·)) := by
  rw [memberLines, member_eq stated, ← List.map_append]
  rfl

private theorem reads_memberLines {function : ExportedFunction} {signature : ScriptSignature}
    (bindable : IsBindable function) (stated : function.signature? = some signature) :
    Reads (linesText ((documentationBlock function.documentation).map (indentation ++ ·) ++
      [memberText signature].map (indentation ++ ·))) (memberPhrase signature) := by
  have names := bindable.namesAreWords stated
  have named : isWord signature.name = true := by
    rw [(ExportedFunction.of_signature? stated).1]
    exact isWord_lowerFirst names.function
  have documentation := reads_documentationBlock function.documentation
  have text := (readsLines_memberText named names.parameters).map_indentation.reads
  rw [linesText_append]
  exact documentation.append text

/-- The members are read one after the other, with nothing between them. -/
theorem exists_members {functions : List ExportedFunction} {signatures : List ScriptSignature}
    (bindable : ∀ function ∈ functions, IsBindable function)
    (stated : functions.mapM ExportedFunction.signature? = some signatures) :
    ∃ members, functions.mapM memberLines = .ok members ∧
      Reads (linesText ([""].intercalate members)) (signatures.map memberPhrase).flatten := by
  have blank : Reads (linesText [""]) [] := by decide
  induction functions generalizing signatures with
  | nil =>
      cases stated
      exact ⟨[], rfl, rfl⟩
  | cons function rest inductionHypothesis =>
      rw [List.mapM_cons] at stated
      obtain ⟨signature, found, others⟩ := Option.bind_eq_some_iff.mp stated
      obtain ⟨restSignatures, foundRest, same⟩ := Option.bind_eq_some_iff.mp others
      cases same
      obtain ⟨members, made, reads⟩ :=
        inductionHypothesis (fun other member => bindable other (by simp [member])) foundRest
      have first := reads_memberLines (bindable function (by simp)) found
      refine ⟨_, Traversal.mapM_cons_eq_ok_iff.mpr ⟨_, _, memberLines_eq found, made, rfl⟩, ?_⟩
      rw [List.map_cons (f := memberPhrase), List.flatten_cons]
      cases members with
      | nil =>
          rw [List.intercalate_singleton]
          have nothing : (restSignatures.map memberPhrase).flatten = [] := by
            simpa [linesText, Reads, Reading.scan] using reads.symm
          rw [nothing, List.append_nil]
          exact first
      | cons next others =>
          rw [List.intercalate_cons_cons, linesText_append, linesText_append]
          have spaced := first.append blank
          rw [List.append_nil] at spaced
          exact spaced.append reads

private theorem reads_opening {addon : String} (named : isWord addon = true) :
    ReadsLines [Product.notice, "export interface " ++ interfaceName addon ++ " \x7b"]
      (interfacePhrase addon) := by
  have notice : ReadsLines [Product.notice] [] := .line (by decide)
  have front : Reads "export interface ".toList (tokens "export interface") := by decide
  have back : Reads " \x7b".toList (tokens "\x7b") := by decide
  have whole := front.append (back.word (isWord_upperFirst named) (by decide))
  have opening : ReadsLines ["export interface " ++ interfaceName addon ++ " \x7b"]
      (interfacePhrase addon) := by
    apply ReadsLines.singleton
    simpa [String.toList_append, interfacePhrase, interfaceName] using whole
  exact notice.append opening

private theorem reads_ending {addon : String} (named : isWord addon = true) :
    ReadsLines (["\x7d", ""] ++ addonBinding addon)
      (tokens "\x7d" ++ (bindingPhrase addon ++ tokens "export default addon;")) := by
  have blank : ReadsLines [""] [] := .singleton (by decide)
  have closing : ReadsLines ["\x7d"] (tokens "\x7d") := .singleton (by decide)
  have exported : ReadsLines ["export default addon;"] (tokens "export default addon;") :=
    .singleton (.literal (by decide))
  have bound : ReadsLines
      ["const addon: " ++ interfaceName addon ++ " = require(\"" ++ addon ++ "\");"]
      (bindingPhrase addon) := by
    have front : Reads "const addon: ".toList (tokens "const addon:") := by decide
    have middle : Reads " = require(".toList (tokens "= require(") := by decide
    have back : Reads ");".toList (tokens ");") := by decide
    have opened : " = require(\"".toList = " = require(".toList ++ ['"'] := by decide
    have closed : "\");".toList = '"' :: ");".toList := by decide
    have quotable : ∀ c ∈ addon.toList, Reading.isQuotable c = true := fun c member =>
      Reading.isQuotable_of_isWordCharacter ((isWord_iff.mp named).2 c member)
    have required := middle.append ((Reads.quoted quotable).append back)
    have whole := front.append (required.word (isWord_upperFirst named)
      (startsWithMark_append (by decide) _))
    apply ReadsLines.singleton
    simp only [String.toList_append, opened, closed]
    simpa [bindingPhrase, interfaceName] using whole
  have all := closing.append (blank.append (bound.append (blank.append exported)))
  simpa [addonBinding] using all

theorem isPhrase_sourcePhrases (addon : String) (signatures : List ScriptSignature) :
    ∀ phrase ∈ sourcePhrases addon signatures, isPhrase phrase = true := by
  intro phrase member
  rcases List.mem_append.mp member with opening | inRest
  · rw [List.mem_singleton.mp opening]
    rfl
  · rcases List.mem_append.mp inRest with inMembers | inEnding
    · obtain ⟨signature, -, rfl⟩ := List.mem_map.mp inMembers
      exact isPhrase_memberPhrase signature
    · simp only [List.mem_cons, List.not_mem_nil, or_false] at inEnding
      rcases inEnding with rfl | rfl | rfl
      · decide
      · rfl
      · decide

private theorem members?_sourcePhrases (addon : String) (signatures : List ScriptSignature) :
    members? (sourcePhrases addon signatures) = some signatures := by
  have opened : interface? (interfacePhrase addon) = some (interfaceName addon) := rfl
  have inside : ∀ phrase ∈ signatures.map memberPhrase, decide (phrase ≠ tokens "\x7d") = true := by
    intro phrase member
    obtain ⟨signature, -, rfl⟩ := List.mem_map.mp member
    apply decide_eq_true
    intro same
    have unread : member? (tokens "\x7d") = none := by decide
    have read := member?_memberPhrase signature
    rw [same, unread] at read
    cases read
  have each : (signatures.map memberPhrase).mapM member? = some signatures := by
    have found (signature : ScriptSignature) (_ : signature ∈ signatures) :
        (member? ∘ memberPhrase) signature = some (id signature) := member?_memberPhrase signature
    rw [List.mapM_map, Traversal.mapM_eq_some_map found, List.map_id]
  rw [sourcePhrases, List.singleton_append, members?, opened]
  simp only [List.takeWhile_append_of_pos inside]
  rw [List.takeWhile_cons_of_neg (by simp), List.append_nil, each]

theorem exists_source {functions : List ExportedFunction}
    (bindable : ∀ function ∈ functions, IsBindable function) (addon : String) :
    ∃ text, source functions addon = .ok text := by
  obtain ⟨signatures, stated⟩ := exists_signatures bindable
  obtain ⟨members, made, -⟩ := exists_members bindable stated
  exact ⟨_, by rw [source, made]; rfl⟩

/-- The text of the declarations states the signatures of its records, in their
order. -/
theorem readSource_source {functions : List ExportedFunction} {addon text : String}
    (bindable : ∀ function ∈ functions, IsBindable function) (named : isWord addon = true)
    (made : source functions addon = .ok text) :
    readSource text = functions.mapM ExportedFunction.signature? := by
  obtain ⟨signatures, stated⟩ := exists_signatures bindable
  obtain ⟨members, membersMade, reads⟩ := exists_members bindable stated
  have same : text = fileText ([Product.notice, "export interface " ++ interfaceName addon ++ " \x7b"] ++
      [""].intercalate members ++ ["\x7d", ""] ++ addonBinding addon) := by
    rw [source, membersMade] at made
    exact (Except.ok.inj made).symm
  have whole := (reads_opening named).reads.append (reads.append (reads_ending named).reads)
  rw [← linesText_append, ← linesText_append, ← List.append_assoc, ← List.append_assoc] at whole
  have joined : tokens text = (sourcePhrases addon signatures).flatten := by
    rw [same, tokens_fileText (by simp) whole]
    simp [sourcePhrases]
  have cut := phrases_flatten_append (isPhrase_sourcePhrases addon signatures) []
  rw [List.append_nil, phrases, List.append_nil] at cut
  rw [readSource, joined, cut, members?_sourcePhrases, stated]

end AddonBindings.Declaration
