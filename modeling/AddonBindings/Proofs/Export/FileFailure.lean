import AddonBindings.Export.File
import AddonBindings.Proofs.Export.Record
import AddonBindings.Proofs.Files.Spelling
import AddonBindings.Proofs.Go.DeclaredNames
import AddonBindings.Proofs.Text.Word

/-!
Contract: every failure on a source file says where it is.

Owns:
- how the report of a failure starts;
- what can be wrong with a file as a whole;
- the capstone: a file gives records that name it, or a failure that names it, and the
  refused function where there is one.

Does not own: why a function is refused, which is in `AddonBindings.Proofs.Export.Record`.
-/

namespace AddonBindings.Export

open AddonBindings.Files AddonBindings.Go AddonBindings.Traversal

variable {tree : FileTree} {path : Path} {file name : String} {problem : Problem}

/-! ## How a report starts -/

private theorem message_of_file (filled : file ≠ "") :
    GenerationFault.message ⟨problem, some file, none⟩ = file ++ ": " ++ problem.message := by
  simp [GenerationFault.message, GenerationFault.location, filled]

private theorem message_of_declaration (filled : file ≠ "") (named : name ≠ "") :
    GenerationFault.message ⟨problem, some file, some name⟩ =
      file ++ ":" ++ name ++ ": " ++ problem.message := by
  simp [GenerationFault.message, GenerationFault.location, filled, named,
    String.intercalate_cons_cons]

/-! ## The contents of a file -/

def HasSource (tree : FileTree) (path : Path) (children : List RootChild) : Prop :=
  ∃ bytes text, readFile tree path = .ok bytes ∧ Text.decodeUtf8 bytes = .ok text ∧
    readSource (String.ofList (Text.foldNewlines text.toList)) = .ok children

/-- What is wrong with a file as a whole: there is no file to be read, its bytes are no
UTF-8, or its text has a syntax error. -/
inductive HasDefect (tree : FileTree) (path : Path) : SourceProblem → Prop
  | unreadable {fault : AccessFault} (refused : readFile tree path = .error (.refused fault)) :
      HasDefect tree path (.unreadable fault)
  | notUtf8 {bytes : List UInt8} {fault : Text.Utf8Fault} (read : readFile tree path = .ok bytes)
      (undecodable : Text.decodeUtf8 bytes = .error fault) : HasDefect tree path (.notUtf8 fault)
  | badSyntax {bytes : List UInt8} {text : String} {position : Position}
      (read : readFile tree path = .ok bytes) (decoded : Text.decodeUtf8 bytes = .ok text)
      (stopped : readSource (String.ofList (Text.foldNewlines text.toList)) = .error position) :
      HasDefect tree path (.badSyntax (.unexpected position))

/-- A file has a defect as a whole, or its source is extracted. -/
theorem ofFile_cases (plain : '\x00' ∉ path.text.toList) :
    (∃ problem, HasDefect tree path problem ∧
        ofFile tree path = .error (.generation ⟨.source problem, some path.text, none⟩)) ∨
      ∃ children, HasSource tree path children ∧
        ofFile tree path = (ofChildren path.text children).mapError Fault.generation := by
  rw [ofFile]
  cases read : readFile tree path with
  | error failure =>
      cases failure with
      | nullCharacter => exact absurd read (readFile_ne_nullCharacter plain tree)
      | refused fault => exact .inl ⟨_, .unreadable read, rfl⟩
  | ok bytes =>
      dsimp only
      rw [ofBytes]
      cases decoded : Text.decodeUtf8 bytes with
      | error fault => exact .inl ⟨_, .notUtf8 read decoded, rfl⟩
      | ok text =>
          dsimp only
          rw [ofSource]
          cases stopped : readSource (String.ofList (Text.foldNewlines text.toList)) with
          | error position => exact .inl ⟨_, .badSyntax read decoded stopped, rfl⟩
          | ok children => exact .inr ⟨children, ⟨bytes, text, read, decoded, stopped⟩, rfl⟩

/-! ## Refused functions -/

private theorem name_ne_empty_of_mem_markedFunctions {source : String} {children : List RootChild}
    (read : readSource source = .ok children) {marked : MarkedFunction}
    (isMarked : marked ∈ markedFunctions children) : marked.declaration.name ≠ "" := by
  obtain ⟨node, member, isFunction⟩ := exists_node_of_mem_markedFunctions isMarked
  have isWord : Text.isWord marked.declaration.name = true :=
    isWord_of_readSource read member isFunction _ List.mem_cons_self
  intro empty
  rw [empty] at isWord
  exact absurd isWord (by decide)

private theorem exists_refused_of_ofChildren {children : List RootChild} {fault : GenerationFault}
    (failed : ofChildren file children = .error fault) :
    ∃ marked ∈ markedFunctions children, ∃ refusal, marked.declaration.RefusedFor refusal ∧
      fault = ⟨refusal.toProblem, some file, some marked.declaration.name⟩ := by
  rw [← fault?_eq_some_iff, fault?_ofChildren] at failed
  obtain ⟨marked, member, refused⟩ := List.exists_of_findSome?_eq_some failed
  obtain ⟨refusal, isRefusal, rfl⟩ := Option.map_eq_some_iff.mp refused
  exact ⟨marked, member, refusal, FunctionDeclaration.refusal?_eq_some_iff.mp isRefusal, rfl⟩

private theorem sourceFile_of_ofChildren {children : List RootChild}
    {functions : List ExportedFunction}
    (extracted : ofChildren file children = .ok functions) :
    ∀ function ∈ functions, function.sourceFile = file := by
  rw [ofChildren_eq_mapM] at extracted
  intro function member
  obtain ⟨marked, -, recorded⟩ := exists_of_mem_of_mapM extracted member
  exact (isRecordOf_of_record recorded).sourceFile

/-! ## Every failure is located -/

/-- **Failures on source files are located.**  Whatever the path leads to and whatever the
file holds, extraction gives records that name the file, or it fails with a report that
starts with the path.  The failure is a defect of the whole file, or the refusal of one of
its marked functions, whose name then follows the path in the report. -/
theorem ofFile_located (tree : FileTree) {spelling : String} (plain : '\x00' ∉ spelling.toList) :
    (∀ functions, ofFile tree (Path.ofText spelling) = .ok functions →
      (∃ children, HasSource tree (Path.ofText spelling) children ∧
        List.Forall₂ (IsRecordOf (Path.ofText spelling).text) (markedFunctions children) functions) ∧
      ∀ function ∈ functions, function.sourceFile = (Path.ofText spelling).text) ∧
    ∀ fault, ofFile tree (Path.ofText spelling) = .error fault →
      (∃ problem, HasDefect tree (Path.ofText spelling) problem ∧
        fault = .generation ⟨.source problem, some (Path.ofText spelling).text, none⟩ ∧
        fault.message = (Path.ofText spelling).text ++ ": " ++ problem.message) ∨
      ∃ children, HasSource tree (Path.ofText spelling) children ∧
        ∃ marked ∈ markedFunctions children, ∃ refusal, marked.declaration.RefusedFor refusal ∧
          fault = .generation ⟨refusal.toProblem, some (Path.ofText spelling).text,
            some marked.declaration.name⟩ ∧
          fault.message = (Path.ofText spelling).text ++ ":" ++ marked.declaration.name ++ ": " ++
            refusal.toProblem.message := by
  have filled := Path.text_ofText_ne_empty spelling
  have noNull : '\x00' ∉ (Path.ofText spelling).text.toList := fun isNull =>
    plain (Path.mem_of_mem_text_ofText (by decide) (by decide) isNull)
  rcases ofFile_cases noNull with ⟨problem, defect, failed⟩ | ⟨children, source, same⟩
  · rw [failed]
    refine ⟨fun functions impossible => (by cases impossible), fun fault isFault => .inl ?_⟩
    cases isFault
    exact ⟨problem, defect, rfl, message_of_file filled⟩
  · rw [same]
    constructor
    · intro functions extracted
      have ofAll := ok_of_mapError extracted
      exact ⟨⟨children, source, forall₂_isRecordOf ofAll⟩, sourceFile_of_ofChildren ofAll⟩
    · intro fault failed
      right
      obtain ⟨found, refused, rfl⟩ := mapError_eq_error_iff.mp failed
      obtain ⟨marked, isMarked, refusal, isRefusal, rfl⟩ := exists_refused_of_ofChildren refused
      have ⟨bytes, text, read, decoded, isSource⟩ := source
      have named := name_ne_empty_of_mem_markedFunctions isSource isMarked
      exact ⟨children, source, marked, isMarked, refusal, isRefusal, rfl,
        message_of_declaration filled named⟩

/-- A file with an exported function of a type that has no boundary type. -/
def refusedTree : FileTree where
  entries := [(["a.go"], .file "//export Ready\nfunc Ready() bool {}\n".toUTF8.toList)]
  working := []

theorem refusedTree_located :
    ∃ fault children, ofFile refusedTree (Path.ofText "./a.go") = .error fault ∧
      fault.message = "a.go:Ready: unsupported type: bool" ∧
      HasSource refusedTree (Path.ofText "./a.go") children ∧
      ∃ marked ∈ markedFunctions children, ∃ refusal, marked.declaration.RefusedFor refusal ∧
        fault = .generation ⟨refusal.toProblem, some "a.go", some marked.declaration.name⟩ := by
  have reported : (fault? (ofFile refusedTree (Path.ofText "./a.go"))).map Fault.message =
      some "a.go:Ready: unsupported type: bool" := by decide +kernel
  obtain ⟨fault, isFault, message⟩ := Option.map_eq_some_iff.mp reported
  have failed := fault?_eq_some_iff.mp isFault
  rcases (ofFile_located refusedTree (by decide)).2 fault failed with
    ⟨problem, -, -, located⟩ | ⟨children, source, marked, isMarked, refusal, refused, isLocated, -⟩
  · -- the report of a defect has a blank after the path
    rw [message] at located
    have characters := congrArg (fun text => text.toList[5]?) located
    have isPath : (Path.ofText "./a.go").text = "a.go" := by decide +kernel
    rw [isPath] at characters
    simp at characters
  · exact ⟨fault, children, failed, message, source, marked, isMarked, refusal, refused, isLocated⟩

end AddonBindings.Export
