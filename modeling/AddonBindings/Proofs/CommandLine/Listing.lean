import AddonBindings.Proofs.CommandLine.SettingsFailure
import AddonBindings.Proofs.Console.TableRows
import AddonBindings.Proofs.Console.Verbatim
import AddonBindings.Proofs.Run.Bindable

/-!
Contract: the listing of exported functions.

Owns:
- the row of each function, of which the signature is always shown as it is;
- the table of these rows, and what is printed of it;
- that the functions are those a generation binds;
- the theorem on how the listing ends, and when every cell shows its own text;
- documentations that are not shown.

Does not own: which texts markup changes, which is in `AddonBindings.Proofs.Console.Verbatim`.
-/

namespace AddonBindings.CommandLine

open AddonBindings.Files
open AddonBindings.Traversal
open AddonBindings.Console (MarkupFault IsInert IsLaidOut IsPlainLine IsVerbatim Table cellText
  isPlainLine_of_all rowTexts rowWiseLines)

/-! ## Rows -/

/-- The word for a type; void if there is none. -/
def typeWord (type : Option BoundaryType) : String :=
  ((type.bind BoundaryType.scriptType?).map ScriptType.word).getD "void"

/-- The cells on the signature of a function: its script name, its parameters with their
types, and its result. -/
def signatureCells (function : ExportedFunction) : List String :=
  [ function.scriptName,
    ", ".intercalate
      (function.parameters.map fun parameter => parameter.name ++ ": " ++ typeWord parameter.type),
    typeWord function.result ]

/-- The cells on the source of a function: where it is declared, and how its documentation
starts. -/
def sourceCells (function : ExportedFunction) : List String :=
  [ function.sourceFile ++ ":" ++ toString function.line,
    String.ofList ((function.documentation.toList.takeWhile (· != '\n')).take 60) ]

def row (function : ExportedFunction) : List String :=
  signatureCells function ++ sourceCells function

private theorem typeText_eq_typeWord {type : Option BoundaryType}
    (known : type.all BoundaryType.isKnown = true) :
    Declaration.typeText type = .ok (typeWord type) := by
  cases type with
  | none => rfl
  | some stated =>
      cases stated with
      | text | numeric => rfl
      | foreign label => cases known

private theorem functionCells_eq_row {function : ExportedFunction}
    (bindable : IsBindable function) :
    functionCells function = .ok (row function) := by
  have parameterText : ∀ parameter ∈ function.parameters,
      (do
        let type ← Declaration.typeText parameter.type
        return parameter.name ++ ": " ++ type) =
      Except.ok (parameter.name ++ ": " ++ typeWord parameter.type) := by
    intro parameter member
    obtain ⟨type, stated, isKnown⟩ :=
      (Option.any_eq_true _ _).mp (bindable.parametersKnown parameter member)
    have known : parameter.type.all BoundaryType.isKnown = true := by
      rw [stated]
      exact isKnown
    rw [typeText_eq_typeWord known]
    rfl
  rw [functionCells, parametersText, mapM_eq_ok_map parameterText,
    typeText_eq_typeWord bindable.resultKnown]
  rfl

/-! ## Cells that are shown as they are -/

private theorem isInert_of_isWord {text : String} (isWord : Text.isWord text = true) :
    IsInert text.toList := by
  apply Console.isInert_of_isPlain
  intro c member
  exact @Console.isPlain_of_test Text.isWordCharacter (by decide) c
    ((Text.isWord_iff.mp isWord).2 c member)

private theorem isWord_typeWord (type : Option BoundaryType) :
    Text.isWord (typeWord type) = true := by
  cases type with
  | none => decide
  | some stated =>
      cases stated with
      | text => decide
      | numeric => decide
      | foreign label => exact (by decide : Text.isWord "void" = true)

/-- What is printed of a signature are words, colons before blanks, and commas. -/
theorem isVerbatim_of_mem_signatureCells {function : ExportedFunction}
    (bindable : IsBindable function) :
    ∀ cell ∈ signatureCells function, IsVerbatim cell.toList := by
  have name := isInert_of_isWord (Text.isWord_lowerFirst bindable.named)
  have parameters : IsInert (", ".intercalate
      (function.parameters.map fun parameter =>
        parameter.name ++ ": " ++ typeWord parameter.type)).toList := by
    rw [String.toList_intercalate]
    apply Console.isInert_intercalate
      (Console.isInert_of_isPlain (List.all_eq_true.mp (by decide)))
    intro text member
    rw [List.map_map] at member
    obtain ⟨parameter, inParameters, rfl⟩ := List.mem_map.mp member
    have label := isInert_of_isWord (bindable.parametersNamed parameter inParameters)
    have word := isInert_of_isWord (isWord_typeWord parameter.type)
    rw [Function.comp_apply, String.toList_append, String.toList_append]
    exact (label.append Console.isInert_colon_blank).append word
  have result := isInert_of_isWord (isWord_typeWord function.result)
  simp only [signatureCells, List.forall_mem_cons]
  exact ⟨name.isVerbatim, parameters.isVerbatim, result.isVerbatim, by simp⟩

/-! ## The table -/

def title (functions : List ExportedFunction) : String :=
  "Exported functions (" ++ toString functions.length ++ " found)"

def table (functions : List ExportedFunction) : Table :=
  Table.ofRows (title functions) headings (functions.map row)

private theorem functionTable_eq_table {functions : List ExportedFunction}
    (bindable : ∀ function ∈ functions, IsBindable function) :
    functionTable functions = .ok (table functions) := by
  have cells : functions.mapM functionCells = .ok (functions.map row) :=
    mapM_eq_ok_map fun function member => functionCells_eq_row (bindable function member)
  rw [functionTable, cells]
  rfl

private theorem cellText_title (functions : List ExportedFunction) :
    cellText (title functions) = .ok (title functions).toList := by
  have front : ∀ c ∈ "Exported functions (".toList, Console.isPlain c = true :=
    List.all_eq_true.mp (by decide)
  have back : ∀ c ∈ " found)".toList, Console.isPlain c = true := List.all_eq_true.mp (by decide)
  apply Console.cellText_of_isPlain
  unfold title
  rw [String.toList_append, String.toList_append, List.forall_mem_append, List.forall_mem_append]
  exact ⟨⟨front, isPlain_of_mem_toString functions.length⟩, back⟩

private theorem rowTexts_headings : rowTexts headings = .ok (headings.map String.toList) := by
  apply mapM_eq_ok_map
  intro heading member
  apply Console.cellText_of_isPlain
  have plain : ∀ heading ∈ headings, heading.toList.all Console.isPlain = true := by decide
  exact List.all_eq_true.mp (plain heading member)

private theorem length_of_mem_rows (functions : List ExportedFunction) :
    ∀ cells ∈ functions.map row, cells.length = headings.length := by
  intro cells member
  obtain ⟨function, -, rfl⟩ := List.mem_map.mp member
  rfl

private theorem isPlainLine_of_mem_headings :
    ∀ heading ∈ headings.map String.toList, IsPlainLine heading := by
  have spaced : (headings.map String.toList).all
      (·.all fun c => !Text.isBlank c || c == ' ') = true := by decide
  exact fun heading member => isPlainLine_of_all (List.all_eq_true.mp spaced heading member)

def printedLines (lines : List String) : String :=
  "".intercalate (lines.map (· ++ "\n"))

/-- What is printed of functions whose cells show the given texts, row by row. -/
def listing (functions : List ExportedFunction) (texts : List (List (List Char))) : String :=
  printedLines (rowWiseLines (title functions).toList (headings.map String.toList) texts)

/-- The output shows a table with the number of the functions, the headings, and one block
of lines for each function, in order. -/
def Lists (functions : List ExportedFunction) (texts : List (List (List Char))) (output : String) :
    Prop :=
  ∃ lines, IsLaidOut (title functions).toList (headings.map String.toList) texts lines ∧
    output = printedLines lines

/-- How the listing of functions ends: with one block of lines for each of them, or at a
cell that cannot be shown. -/
inductive ListingEnd (functions : List ExportedFunction) : Outcome → Prop where
  | shown {texts : List (List (List Char))} {output : String}
      (shows : (functions.map row).mapM rowTexts = .ok texts) (lists : Lists functions texts output) :
      ListingEnd functions ⟨output, .exit 0⟩
  | unshown {function : ExportedFunction} {cell : String} {fault : MarkupFault}
      (member : function ∈ functions) (inSource : cell ∈ sourceCells function)
      (failed : cellText cell = .error fault) :
      ListingEnd functions ⟨"", .unshowable fault⟩

private theorem print_of_rows {functions : List ExportedFunction} {texts : List (List (List Char))}
    (shows : (functions.map row).mapM rowTexts = .ok texts) :
    Outcome.print (.exit 0) [(table functions).print] = ⟨listing functions texts, .exit 0⟩ := by
  have lines := Console.lines_ofRows (by decide) (length_of_mem_rows functions)
    (cellText_title functions) rowTexts_headings shows
  rw [Table.print, table, lines]
  show Outcome.mk (listing functions texts ++ "") (.exit 0) = _
  rw [String.append_empty]

private theorem lists_listing {functions : List ExportedFunction} {texts : List (List (List Char))}
    (shows : (functions.map row).mapM rowTexts = .ok texts) :
    Lists functions texts (listing functions texts) := by
  refine ⟨_, Console.isLaidOut_rowWiseLines (by decide) isPlainLine_of_mem_headings ?_, rfl⟩
  intro cells member
  obtain ⟨cellsOfRow, inRows, showsRow⟩ := exists_of_mem_of_mapM shows member
  rw [← Console.length_of_rowTexts showsRow, length_of_mem_rows functions cellsOfRow inRows,
    List.length_map]

private theorem listingEnd_print {functions : List ExportedFunction}
    (bindable : ∀ function ∈ functions, IsBindable function) :
    ListingEnd functions (Outcome.print (.exit 0) [(table functions).print]) := by
  cases shows : (functions.map row).mapM rowTexts with
  | ok texts =>
      rw [print_of_rows shows]
      exact .shown shows (lists_listing shows)
  | error fault =>
      -- columns are laid out from left to right, so the first faulty row need not decide
      obtain ⟨cells, member, cell, inRow, found, failed, lines⟩ :=
        @Console.exists_fault_of_mapM_error (title functions) _ _ _ (length_of_mem_rows functions)
          rowTexts_headings _ shows
      obtain ⟨function, inFunctions, rfl⟩ := List.mem_map.mp member
      rw [Table.print, table, lines]
      rcases List.mem_append.mp inRow with inSignature | inSource
      · rw [Console.cellText_of_isVerbatim
          (isVerbatim_of_mem_signatureCells (bindable function inFunctions) cell inSignature)] at failed
        cases failed
      · exact .unshown inFunctions inSource failed

/-! ## What a generation binds -/

variable {choice : ProjectChoice} {tree : FileTree} {functions : List ExportedFunction}

/-- A generation makes its addon of exactly the given functions, and only an access to
files can keep it from writing the addon. -/
structure Binds (choice : ProjectChoice) (output : Option String) (tree : FileTree)
    (functions : List ExportedFunction) : Prop where
  prepares : ∃ settings sources addon, choice.load tree = .ok settings ∧
    Addon.generate functions settings.name = .ok addon ∧
    (prepare tree choice.project { settings with output := output.getD settings.output }).outcome =
      .ok ⟨sources, functions, some addon⟩
  ends : (∃ result, (generation choice output tree).1.outcome = .ok result ∧
      result.functions = functions) ∨
    ∃ failure, (generation choice output tree).1.outcome = .error (.access failure)

private theorem binds_of_projectFunctions (found : projectFunctions choice tree = .ok functions)
    (nonempty : functions ≠ []) (output : Option String) : Binds choice output tree functions := by
  obtain ⟨settings, loaded, onward⟩ := bind_eq_ok_iff.mp found
  obtain ⟨sources, discovered, extracted⟩ := bind_eq_ok_iff.mp onward
  have loadedAt := loaded
  rw [ProjectChoice.load_eq] at loadedAt
  obtain ⟨document, accepted⟩ := Settings.exists_ofDatum_of_load loadedAt
  obtain ⟨addon, stated, named⟩ := Settings.exists_addonName_of_ofDatum accepted
  let chosen : Settings := { settings with output := output.getD settings.output }
  have generation_eq : generation choice output tree = run choice.project chosen tree := by
    rw [generation, loaded]
  obtain ⟨made, generated, prepared⟩ :=
    @prepare_of_functions tree choice.project chosen addon sources functions named stated discovered
      extracted nonempty
  refine ⟨⟨settings, sources, made, loaded, generated, prepared⟩, ?_⟩
  rw [generation_eq]
  rcases run_of_prepare_ok prepared with ⟨written, ended⟩ | refused
  · exact .inl ⟨_, ended, rfl⟩
  · exact .inr refused

/-! ## The listing -/

/-- The characters of the cells of all functions, row by row. -/
def ownTexts (functions : List ExportedFunction) : List (List (List Char)) :=
  functions.map fun function => (row function).map String.toList

private theorem mapM_rowTexts_of_isVerbatim
    (verbatim : ∀ function ∈ functions, ∀ cell ∈ row function, IsVerbatim cell.toList) :
    (functions.map row).mapM rowTexts = .ok (ownTexts functions) := by
  rw [mapM_eq_ok_iff_forall₂, ownTexts, List.forall₂_map_left_iff, List.forall₂_map_right_iff,
    List.forall₂_same]
  intro function member
  apply mapM_eq_ok_map
  intro cell inRow
  exact Console.cellText_of_isVerbatim (verbatim function member cell inRow)

private theorem isBindable_of_projectFunctions
    (found : projectFunctions choice tree = .ok functions) :
    ∀ function ∈ functions, IsBindable function := by
  obtain ⟨settings, -, onward⟩ := bind_eq_ok_iff.mp found
  obtain ⟨sources, -, extracted⟩ := bind_eq_ok_iff.mp onward
  exact isBindable_of_extractFiles extracted

private theorem inspect_eq_print (found : projectFunctions choice tree = .ok functions)
    (nonempty : functions ≠ []) :
    inspect choice tree = Outcome.print (.exit 0) [(table functions).print] := by
  have made := functionTable_eq_table (isBindable_of_projectFunctions found)
  rw [inspect, found]
  cases functions with
  | nil => exact absurd rfl nonempty
  | cons first rest =>
      dsimp only
      rw [made]

/-- **The listing shows the functions that a generation binds.**  For every project in which
some functions are found, on a console that is wide enough:

1. Every generation makes its addon of the same functions in the same order.
2. The listing leaves all files as they are.
3. It prints one block of lines for each function and ends with exit code 0, or it prints
   nothing and ends at a cell on the source of a function, which cannot be shown.
4. The script name, the parameters and the result of every function are shown as they are.
5. If this also holds of where the functions are declared and how their documentations
   start, every cell is printed as it is.  The block of a function all of whose cells take
   one line is one line.
6. A cell shows its own text iff nothing in it means anything to the console. -/
theorem inspect_of_functions (found : projectFunctions choice tree = .ok functions)
    (nonempty : functions ≠ []) :
    (∀ output, Binds choice output tree functions) ∧
      carryOut (.inspect choice) tree = (inspect choice tree, tree) ∧
      ListingEnd functions (inspect choice tree) ∧
      (∀ function ∈ functions, ∀ cell ∈ signatureCells function,
        cellText cell = .ok cell.toList) ∧
      ((∀ function ∈ functions, ∀ cell ∈ sourceCells function, IsVerbatim cell.toList) →
        ∃ output, inspect choice tree = ⟨output, .exit 0⟩ ∧
          Lists functions (ownTexts functions) output) ∧
      ∀ cell, cellText cell = .ok cell.toList ↔ IsVerbatim cell.toList := by
  have bindable := isBindable_of_projectFunctions found
  have shown : ∀ function ∈ functions, ∀ cell ∈ signatureCells function, IsVerbatim cell.toList :=
    fun function member => isVerbatim_of_mem_signatureCells (bindable function member)
  refine ⟨binds_of_projectFunctions found nonempty, rfl, ?_, ?_, ?_, ?_⟩
  · rw [inspect_eq_print found nonempty]
    exact listingEnd_print bindable
  · intro function member cell inCells
    exact Console.cellText_of_isVerbatim (shown function member cell inCells)
  · intro verbatim
    have own : (functions.map row).mapM rowTexts = .ok (ownTexts functions) := by
      apply mapM_rowTexts_of_isVerbatim
      intro function member
      exact List.forall_mem_append.mpr ⟨shown function member, verbatim function member⟩
    refine ⟨listing functions (ownTexts functions), ?_, lists_listing own⟩
    rw [inspect_eq_print found nonempty]
    exact print_of_rows own
  · intro cell
    exact Console.cellText_eq_self_iff

def documentedProject (documentation : String) : FileTree where
  entries :=
    [ ([".gonode.yaml"], .file "name: calc\nfiles: [a.go]\n".toUTF8.toList),
      (["a.go"], .file
        ("package main\n\n// " ++ documentation ++
          "\n//export Add\nfunc Add(a int) int { return a }\n").toUTF8.toList) ]
  working := []

def documentedFunction (documentation : String) : ExportedFunction where
  name := "Add"
  parameters := [⟨"a", some .numeric⟩]
  result := some .numeric
  documentation := documentation
  sourceFile := "a.go"
  line := 5

theorem documentedProject_listed :
    projectFunctions ⟨".", none⟩ (documentedProject "Adds one.") =
        .ok [documentedFunction "Adds one."] ∧
      (∃ output, inspect ⟨".", none⟩ (documentedProject "Adds one.") = ⟨output, .exit 0⟩ ∧
        Lists [documentedFunction "Adds one."]
          [["add", "a: number", "number", "a.go:5", "Adds one."].map String.toList] output) ∧
      ∀ cell ∈ row (documentedFunction "Adds one."), IsPlainLine cell.toList := by
  have found : projectFunctions ⟨".", none⟩ (documentedProject "Adds one.") =
      .ok [documentedFunction "Adds one."] := eq_ok_of_toOption (by decide +kernel)
  obtain ⟨-, -, -, -, verbatim, own⟩ := inspect_of_functions found (by simp)
  have spaced : (row (documentedFunction "Adds one.")).all
      (·.toList.all fun c => !Text.isBlank c || c == ' ') = true := by decide +kernel
  refine ⟨found, verbatim ?_, fun cell member =>
    isPlainLine_of_all (List.all_eq_true.mp spaced cell member)⟩
  have shown : ∀ cell ∈ sourceCells (documentedFunction "Adds one."),
      (cellText cell).toOption = some cell.toList := by decide +kernel
  intro function member cell inRow
  rw [List.mem_singleton.mp member] at inRow
  exact (own cell).mp (eq_ok_of_toOption (shown cell inRow))

/-- The printed table. -/
example :
    listing [documentedFunction "Adds one."]
      [["add", "a: number", "number", "a.go:5", "Adds one."].map String.toList] =
        "              Exported functions (1 found)              \n" ++
        "┏━━━━━━┳━━━━━━━━━━━━┳━━━━━━━━━┳━━━━━━━━┳━━━━━━━━━━━━━━━┓\n" ++
        "┃ Name ┃ Parameters ┃ Returns ┃ Source ┃ Documentation ┃\n" ++
        "┡━━━━━━╇━━━━━━━━━━━━╇━━━━━━━━━╇━━━━━━━━╇━━━━━━━━━━━━━━━┩\n" ++
        "│ add  │ a: number  │ number  │ a.go:5 │ Adds one.     │\n" ++
        "└──────┴────────────┴─────────┴────────┴───────────────┘\n" := by
  decide +kernel

/-- A documentation with a closing tag ends the listing, and text between brackets is left
out of it. -/
theorem bracketed_documentation_not_shown :
    (projectFunctions ⟨".", none⟩ (documentedProject "Ends [/x].") =
        .ok [documentedFunction "Ends [/x]."] ∧
      inspect ⟨".", none⟩ (documentedProject "Ends [/x].") =
        ⟨"", .unshowable (.unmatched "/x" 5)⟩) ∧
    projectFunctions ⟨".", none⟩ (documentedProject "Uses a[i].") =
        .ok [documentedFunction "Uses a[i]."] ∧
      inspect ⟨".", none⟩ (documentedProject "Uses a[i].") =
        ⟨listing [documentedFunction "Uses a[i]."]
          [["add", "a: number", "number", "a.go:5", "Uses a."].map String.toList], .exit 0⟩ := by
  have tagged : projectFunctions ⟨".", none⟩ (documentedProject "Ends [/x].") =
      .ok [documentedFunction "Ends [/x]."] := eq_ok_of_toOption (by decide +kernel)
  have indexed : projectFunctions ⟨".", none⟩ (documentedProject "Uses a[i].") =
      .ok [documentedFunction "Uses a[i]."] := eq_ok_of_toOption (by decide +kernel)
  refine ⟨⟨tagged, ?_⟩, indexed, ?_⟩
  · have fault : (table [documentedFunction "Ends [/x]."]).lines = .error (.unmatched "/x" 5) :=
      fault?_eq_some_iff.mp (by decide +kernel)
    rw [inspect_eq_print tagged (by simp), Table.print, fault]
    rfl
  · rw [inspect_eq_print indexed (by simp)]
    exact print_of_rows (eq_ok_of_toOption (by decide +kernel))

end AddonBindings.CommandLine
