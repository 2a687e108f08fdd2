import AddonBindings.Proofs.Export.Record
import Mathlib.Data.List.Nodup

/-!
Contract: the names of a function's parameters.

Owns:
- the list of parameters that a recorded function has in its source;
- lists that obey the rules of the language: all parameters are named, or none is;
- the names that a record keeps, and those that it makes for the other parameters;
- the capstone: when the parameters of a record have distinct names.

Does not own: the types of the parameters, which are in `AddonBindings.Proofs.Export.Record`.
-/

namespace AddonBindings

open Export Go Traversal

/-! ## Names by position -/

namespace Export

variable {given : List (Option String)}

/-- The name that is made for a parameter without one. -/
def inventedName (position : Nat) : String :=
  "arg" ++ toString position

private theorem inventedName_injective : Function.Injective inventedName := by
  intro first second same
  have digits : Nat.repr first = Nat.repr second := by
    have characters := congrArg String.toList same
    rw [inventedName, inventedName, String.toList_append, String.toList_append,
      List.append_cancel_left_eq, String.toList_inj] at characters
    exact characters
  have numbers := Text.number?_repr first
  rw [digits, Text.number?_repr second] at numbers
  exact (Option.some.inj numbers).symm

/-- The names of parameters, of which `before` precede them: the given ones, and made ones
in place of the others. -/
def namesAfter (before : Nat) (given : List (Option String)) : List String :=
  (given.zipIdx before).map fun placed => placed.1.getD (inventedName placed.2)

/-- Names are distinct iff the given ones are, and none of them is one that is made. -/
theorem nodup_namesAfter_iff :
    (namesAfter 0 given).Nodup ↔
      (given.filterMap id).Nodup ∧
        ∀ name position, some name ∈ given → given[position]? = some none →
          name ≠ inventedName position := by
  unfold List.Nodup namesAfter
  rw [List.pairwise_filterMap, List.pairwise_map, List.pairwise_iff_getElem,
    List.pairwise_iff_getElem]
  simp only [List.length_zipIdx, List.getElem_zipIdx, Nat.zero_add, id_eq]
  constructor
  · intro distinct
    constructor
    · intro i j inside jInside before name isName other isOther
      have differ := distinct i j inside jInside before
      rwa [isName, isOther] at differ
    · intro name position member nameless
      obtain ⟨i, inside, isName⟩ := List.getElem_of_mem member
      obtain ⟨positionInside, isNone⟩ := List.getElem?_eq_some_iff.mp nameless
      rcases Nat.lt_trichotomy i position with before | rfl | behind
      · have differ := distinct i position inside positionInside before
        rwa [isName, isNone] at differ
      · rw [isName] at isNone
        cases isNone
      · have differ := distinct position i positionInside inside behind
        rw [isName, isNone] at differ
        exact Ne.symm differ
  · rintro ⟨distinct, apart⟩ i j inside jInside before
    cases isFirst : given[i] with
    | some name =>
        cases isSecond : given[j] with
        | some other => exact distinct i j inside jInside before name isFirst other isSecond
        | none =>
            exact apart name j (isFirst ▸ List.getElem_mem inside)
              (List.getElem?_eq_some_iff.mpr ⟨jInside, isSecond⟩)
    | none =>
        have nameless := List.getElem?_eq_some_iff.mpr ⟨inside, isFirst⟩
        cases isSecond : given[j] with
        | some other =>
            exact Ne.symm (apart other i (isSecond ▸ List.getElem_mem jInside) nameless)
        | none => exact inventedName_injective.ne (Nat.ne_of_lt before)

private theorem nodup_namesAfter_of_nameless (nameless : ∀ name ∈ given, name = none) :
    (namesAfter 0 given).Nodup := by
  have noName {name : String} (member : some name ∈ given) : False := by
    cases nameless _ member
  rw [nodup_namesAfter_iff]
  refine ⟨?_, fun _ _ member => (noName member).elim⟩
  have nothing : given.filterMap id = [] := List.filterMap_eq_nil_iff.mpr nameless
  rw [nothing]
  exact List.nodup_nil

/-- With names that are all given, the made ones do not matter. -/
theorem namesAfter_map_some (before : Nat) (names : List String) :
    namesAfter before (names.map some) = names := by
  induction names generalizing before with
  | nil => rfl
  | cons name rest inductionHypothesis =>
      exact congrArg (name :: ·) (inductionHypothesis (before + 1))

/-- The name that does not name its parameter. -/
def blankName : String := "_"

/-- No name is declared twice; the blank one declares none. -/
def AreDeclaredOnce (names : List String) : Prop :=
  (names.filter (· ≠ blankName)).Nodup

instance (names : List String) : Decidable (AreDeclaredOnce names) :=
  inferInstanceAs (Decidable (List.Nodup _))

theorem AreDeclaredOnce.sublist {names fewer : List String} (once : AreDeclaredOnce names)
    (isSublist : fewer.Sublist names) : AreDeclaredOnce fewer :=
  List.Nodup.sublist (isSublist.filter _) once

/-- Names that are declared once are distinct iff the blank one does not stand there twice. -/
theorem AreDeclaredOnce.nodup_iff {names : List String} (once : AreDeclaredOnce names) :
    names.Nodup ↔ names.count blankName ≤ 1 := by
  rw [List.nodup_iff_count_le_one]
  constructor
  · intro few
    exact few blankName
  · intro few name
    by_cases isBlank : name = blankName
    · rw [isBlank]
      exact few
    · rw [← List.count_filter (p := (· ≠ blankName)) (by simpa using isBlank)]
      exact List.nodup_iff_count_le_one.mp once name

end Export

/-! ## Lists that obey the rules -/

namespace Go

/-- The entries of a list without the comments between them. -/
def withoutComments (entries : List ParameterEntry) : List ParameterEntry :=
  entries.filter fun entry =>
    match entry with
    | .comment _ => false
    | .lone _ | .named _ _ | .unnamed _ | .variadic _ _ => true

/-- Comments declare nothing, and names go on behind them. -/
theorem slotsOf_grouped_withoutComments (pending : List Token) (entries : List ParameterEntry) :
    slotsOf (grouped pending (withoutComments entries)) = slotsOf (grouped pending entries) := by
  induction entries generalizing pending with
  | nil => rfl
  | cons entry rest inductionHypothesis =>
      cases entry with
      | lone name => exact inductionHypothesis (pending ++ [name])
      | comment text => exact inductionHypothesis pending
      | named name type | unnamed type | variadic name type =>
          have later := inductionHypothesis []
          simp only [withoutComments, List.filter_cons_of_pos, grouped, slotsOf,
            List.flatMap_append, List.flatMap_cons] at later ⊢
          rw [later]

/-- All parameters are types without names. -/
def AreUnnamed (entries : List ParameterEntry) : Prop :=
  ∀ entry ∈ withoutComments entries,
    (∃ name, entry = .lone name) ∨ ∃ type, entry = .unnamed type

/-- Names that share a type, which stands behind the last of them. -/
structure NameGroup where
  front : List Token
  last : Token
  type : TypeSyntax
deriving DecidableEq, Repr

namespace NameGroup

/-- The names of a group, as they stand in the source. -/
def tokens (group : NameGroup) : List Token :=
  group.front ++ [group.last]

def names (group : NameGroup) : List String :=
  group.tokens.map Token.name

def entries (group : NameGroup) : List ParameterEntry :=
  group.front.map .lone ++ [.named group.last group.type]

/-- How many names are too far in front of the type to share it. -/
def far (group : NameGroup) : Nat :=
  group.tokens.length - sharingLimit

def kept (group : NameGroup) : List (Option String) :=
  (group.tokens.take group.far).map (fun _ => none) ++
    (group.tokens.drop group.far).map fun token => some token.name

end NameGroup

def AreNamed (entries : List ParameterEntry) (groups : List NameGroup) : Prop :=
  withoutComments entries = groups.flatMap NameGroup.entries

private theorem names_slotsOf_asTypes (names : List Token) :
    (slotsOf (asTypes names)).map Slot.name = names.map fun _ => none := by
  induction names with
  | nil => rfl
  | cons name rest inductionHypothesis => exact congrArg (none :: ·) inductionHypothesis

private theorem grouped_lones (pending names : List Token) (rest : List ParameterEntry) :
    grouped pending (names.map .lone ++ rest) = grouped (pending ++ names) rest := by
  induction names generalizing pending with
  | nil => rw [List.append_nil]; rfl
  | cons name others inductionHypothesis =>
      rw [List.map_cons, List.cons_append, grouped, inductionHypothesis, List.append_assoc]
      rfl

/-- The names pending in front of a type without a name are types themselves. -/
theorem nameless_of_grouped {pending : List Token} {entries : List ParameterEntry}
    (unnamed : ∀ entry ∈ entries, (∃ name, entry = .lone name) ∨ ∃ type, entry = .unnamed type) :
    ∀ name ∈ (slotsOf (grouped pending entries)).map Slot.name, name = none := by
  have nameless (names : List Token) :
      ∀ name ∈ (slotsOf (asTypes names)).map Slot.name, name = none := by
    rw [names_slotsOf_asTypes]
    intro name member
    obtain ⟨token, -, same⟩ := List.mem_map.mp member
    exact same.symm
  induction entries generalizing pending with
  | nil => exact nameless pending
  | cons entry rest inductionHypothesis =>
      obtain ⟨first, others⟩ := List.forall_mem_cons.mp unnamed
      rcases first with ⟨token, rfl⟩ | ⟨type, rfl⟩
      · exact inductionHypothesis others
      · rw [grouped, slotsOf, List.flatMap_append, List.map_append]
        refine List.forall_mem_append.mpr ⟨nameless pending, ?_⟩
        exact List.forall_mem_cons.mpr ⟨rfl, inductionHypothesis others⟩

private theorem names_slotsOf_declared {names : List String} (filled : names ≠ [])
    (type : TypeSyntax)
    (rest : List ParameterItem) :
    (slotsOf (.declared names type :: rest)).map Slot.name =
      names.map some ++ (slotsOf rest).map Slot.name := by
  cases names with
  | nil => exact absurd rfl filled
  | cons first others =>
      rw [slotsOf_cons, List.map_append, ParameterItem.slots, List.map_map]
      · rfl
      · rintro ⟨⟩

private theorem grouped_entries (group : NameGroup) (rest : List ParameterEntry) :
    grouped [] (group.entries ++ rest) =
      asTypes (group.tokens.take group.far) ++
        .declared ((group.tokens.drop group.far).map Token.name) group.type :: grouped [] rest := by
  rw [NameGroup.entries, List.append_assoc, grouped_lones, List.nil_append, List.singleton_append,
    grouped]
  rfl

/-- A list of groups is read group by group. -/
theorem names_slotsOf_grouped (groups : List NameGroup) :
    (slotsOf (grouped [] (groups.flatMap NameGroup.entries))).map Slot.name =
      groups.flatMap NameGroup.kept := by
  induction groups with
  | nil => rfl
  | cons group rest inductionHypothesis =>
      have filled : (group.tokens.drop group.far).map Token.name ≠ [] := by
        rw [← List.length_pos_iff, List.length_map, List.length_drop, NameGroup.far,
          NameGroup.tokens, List.length_append, List.length_singleton, sharingLimit]
        omega
      have front := names_slotsOf_asTypes (group.tokens.take group.far)
      have back := names_slotsOf_declared filled group.type
        (grouped [] (rest.flatMap NameGroup.entries))
      rw [List.map_map, inductionHypothesis] at back
      rw [List.flatMap_cons, grouped_entries, slotsOf, List.flatMap_append, List.map_append,
        ← slotsOf, ← slotsOf, front, back, List.flatMap_cons, NameGroup.kept, List.append_assoc]
      rfl

theorem NameGroup.kept_of_few {group : NameGroup} (few : group.names.length ≤ sharingLimit) :
    group.kept = group.names.map some := by
  rw [names, List.length_map] at few
  rw [kept, far, Nat.sub_eq_zero_of_le few, names, List.map_map]
  rfl

private theorem flatMap_kept_of_few {groups : List NameGroup}
    (few : ∀ group ∈ groups, group.names.length ≤ sharingLimit) :
    groups.flatMap NameGroup.kept = (groups.flatMap NameGroup.names).map some := by
  rw [List.map_flatMap]
  exact List.flatMap_congr fun group member => NameGroup.kept_of_few (few group member)

theorem NameGroup.sublist_of_kept (group : NameGroup) :
    (group.kept.filterMap id).Sublist group.names := by
  have nothing : ((group.tokens.take group.far).map fun _ => (none : Option String)).filterMap id =
      [] := by
    rw [List.filterMap_map]
    exact List.filterMap_eq_nil_iff.mpr fun _ _ => rfl
  have names : ((group.tokens.drop group.far).map fun token => some token.name).filterMap id =
      (group.tokens.drop group.far).map Token.name := by
    rw [List.filterMap_map]
    exact congrFun List.filterMap_eq_map _
  rw [kept, List.filterMap_append, nothing, names]
  exact (List.drop_sublist _ _).map _

/-- The kept names are some of the names, in their order. -/
theorem sublist_of_kept (groups : List NameGroup) :
    ((groups.flatMap NameGroup.kept).filterMap id).Sublist (groups.flatMap NameGroup.names) := by
  induction groups with
  | nil => exact List.Sublist.refl []
  | cons group rest inductionHypothesis =>
      rw [List.flatMap_cons, List.flatMap_cons, List.filterMap_append]
      exact group.sublist_of_kept.append inductionHypothesis

/-! ## Lists in a source -/

/-- The list between round brackets at the start of the tokens has these entries.  A comma
alone has only the comments around it. -/
inductive HasEntries : List Token → List ParameterEntry → Prop
  | entries {opening : Token} {others after : List Token} {entries : List ParameterEntry}
      (isOpening : opening.isFixed "(" = true)
      (read : readEntries others.length others = some (entries, after)) :
      HasEntries (opening :: others) entries
  | comma {opening comma closing : Token} {after : List Token}
      (isOpening : opening.isFixed "(" = true) (isComma : comma.isFixed "," = true)
      (isClosing : closing.isFixed ")" = true) :
      HasEntries (opening :: comma :: closing :: after)
        (leadingComments (comma :: closing :: after) ++ leadingComments (closing :: after))

private theorem exists_hasEntries {tokens rest : List Token} {items : List ParameterItem}
    (read : readParameters tokens = some (items, rest)) :
    ∃ entries, HasEntries tokens entries ∧ items = grouped [] entries := by
  cases tokens with
  | nil => cases read
  | cons opening others =>
      unfold readParameters at read
      dsimp only at read
      split at read
      · cases read
      · rename_i isOpening
        have isOpening : opening.isFixed "(" = true := by simpa using isOpening
        have mapped (read : (readEntries others.length others).map
            (fun found => (grouped [] found.1, found.2)) = some (items, rest)) :
            ∃ entries, HasEntries (opening :: others) entries ∧ items = grouped [] entries := by
          obtain ⟨⟨entries, left⟩, entriesRead, same⟩ := Option.map_eq_some_iff.mp read
          cases same
          exact ⟨entries, .entries isOpening entriesRead, rfl⟩
        split at read
        · rename_i comma closing after
          split at read
          · rename_i isEmptyList
            rw [Bool.and_eq_true] at isEmptyList
            cases read
            exact ⟨_, .comma isOpening isEmptyList.1 isEmptyList.2, rfl⟩
          · exact mapped read
        · exact mapped read

private theorem node_not_mem_commentChildren (token : Token) (node : Node) :
    .node node ∉ commentChildren token := by
  intro member
  obtain ⟨comment, -, same⟩ := List.mem_map.mp member
  cases same

private theorem node_not_mem_of_readTerminator {tokens rest : List Token} {marks : List RootChild}
    (read : readTerminator tokens = some (marks, rest)) (node : Node) : .node node ∉ marks := by
  intro member
  cases tokens with
  | nil => cases read
  | cons first others =>
      rw [readTerminator] at read
      split at read
      · cases read
        cases member
      · split at read
        · cases read
          rcases List.mem_append.mp member with isComment | isMark
          · exact node_not_mem_commentChildren first node isComment
          · cases List.mem_singleton.mp isMark
        · cases read

/-- Every node is read from the tokens at some place. -/
theorem AreRead.exists_readNode {tokens : List Token} {children : List RootChild}
    (areRead : AreRead tokens children) {node : Node} (member : .node node ∈ children) :
    ∃ run rest, run <:+ tokens ∧ readNode run = some (node, rest) := by
  induction areRead with
  | nothing => cases member
  | @finish last others isFinish => exact absurd member (node_not_mem_commentChildren last node)
  | @node first others after rest found marks later nodeRead terminatorRead _ inductionHypothesis =>
      have isSuffix : rest <:+ first :: others :=
        (readsOver_readTerminator terminatorRead).suffix.trans (readsOver_readNode nodeRead).suffix
      rw [List.mem_append, List.mem_append, List.mem_cons] at member
      rcases member with (isComment | same | isMark) | inLater
      · exact absurd isComment (node_not_mem_commentChildren first node)
      · cases same
        exact ⟨first :: others, after, List.suffix_rfl, nodeRead⟩
      · exact absurd isMark (node_not_mem_of_readTerminator terminatorRead node)
      · obtain ⟨run, left, isRun, read⟩ := inductionHypothesis inLater
        exact ⟨run, left, isRun.trans isSuffix, read⟩

private theorem mem_grouped_of_variadic {entries : List ParameterEntry} {name : Option Token}
    {type : TypeSyntax} (member : .variadic name type ∈ entries) (pending : List Token) :
    .variadic (name.map Token.name) type ∈ grouped pending entries := by
  induction entries generalizing pending with
  | nil => cases member
  | cons entry rest inductionHypothesis =>
      rcases List.mem_cons.mp member with rfl | inRest
      · exact List.mem_append_right _ List.mem_cons_self
      · have later := inductionHypothesis inRest
        cases entry with
        | lone token => exact later (pending ++ [token])
        | comment text => exact List.mem_cons_of_mem _ (later pending)
        | named _ _ | unnamed _ | variadic _ _ =>
            exact List.mem_append_right _ (List.mem_cons_of_mem _ (later []))

/-- The list of parameters of a recorded function, which stands behind the name of a
declaration on the line of the record. -/
def HasParameterList (source : String) (function : ExportedFunction)
    (entries : List ParameterEntry) : Prop :=
  ∃ before word name after, tokens source = before ++ word :: name :: after ∧
    word.isFixed "func" = true ∧ name.lexeme.kind = .name ∧ name.lexeme.text = function.name ∧
    function.line = word.lexeme.start.row + 1 ∧
    HasEntries ((Rule.typeParameters.recognise .enclosed after).getD after) entries

private theorem readFunction_of_readContent {tokens rest : List Token} {content : NodeContent}
    {declaration : FunctionDeclaration} (read : readContent tokens = some (content, rest))
    (isFunction : content = .function declaration) :
    readFunction tokens = some (declaration, rest) := by
  rw [readContent] at read
  split at read
  · rename_i functionRead
    cases read
    cases isFunction
    exact functionRead
  · obtain ⟨left, -, same⟩ := Option.map_eq_some_iff.mp read
    cases same
    cases isFunction

private theorem exists_of_readFunction {tokens rest : List Token}
    {declaration : FunctionDeclaration}
    (read : readFunction tokens = some (declaration, rest)) :
    ∃ word name after left, tokens = word :: name :: after ∧
      (word.isFixed "func" && decide (name.lexeme.kind = .name)) = true ∧
      readParameters ((Rule.typeParameters.recognise .enclosed after).getD after) =
        some (declaration.parameters, left) ∧
      name.lexeme.text = declaration.name := by
  match tokens with
  | [] => cases read
  | [_] => cases read
  | word :: name :: after =>
      rw [readFunction] at read
      split at read
      · rename_i isFunction
        obtain ⟨⟨parameters, left⟩, parametersRead, read⟩ := Option.bind_eq_some_iff.mp read
        cases read
        exact ⟨word, name, after, left, rfl, isFunction, parametersRead, rfl⟩
      · cases read

/-- A function that is read from tokens has its list of parameters behind its name. -/
theorem exists_hasEntries_of_readNode {run rest : List Token} {node : Node}
    {declaration : FunctionDeclaration} (read : readNode run = some (node, rest))
    (isFunction : node.content = .function declaration) :
    ∃ word name after entries, run = word :: name :: after ∧ word.isFixed "func" = true ∧
      name.lexeme.kind = .name ∧ name.lexeme.text = declaration.name ∧
      node.start = word.lexeme.start ∧
      HasEntries ((Rule.typeParameters.recognise .enclosed after).getD after) entries ∧
      declaration.parameters = grouped [] entries := by
  obtain ⟨⟨content, left⟩, contentRead, read⟩ := Option.bind_eq_some_iff.mp read
  obtain ⟨first, isFirst, read⟩ := Option.bind_eq_some_iff.mp read
  obtain ⟨last, isLast, read⟩ := Option.bind_eq_some_iff.mp read
  cases read
  obtain ⟨word, name, after, left, rfl, isFunctionHead, parametersRead, sameName⟩ :=
    exists_of_readFunction (readFunction_of_readContent contentRead isFunction)
  obtain ⟨entries, hasEntries, same⟩ := exists_hasEntries parametersRead
  rw [Bool.and_eq_true, decide_eq_true_eq] at isFunctionHead
  rw [consumed, List.head?_take] at isFirst
  split at isFirst
  · cases isFirst
  · cases isFirst
    exact ⟨_, name, after, entries, rfl, isFunctionHead.1, isFunctionHead.2, sameName, rfl,
      hasEntries, same⟩

end Go

namespace Export

private theorem exists_hasParameterList {file source : String} {functions : List ExportedFunction}
    (extracted : ofSource file source = .ok functions) {function : ExportedFunction}
    (member : function ∈ functions) :
    ∃ entries declaration, HasParameterList source function entries ∧
      declaration.parameters = grouped [] entries ∧ declaration.IsSupported ∧
      ReadsSignature declaration function := by
  rw [ofSource] at extracted
  split at extracted
  · cases extracted
  · rename_i children read
    rw [ofChildren_eq_mapM] at extracted
    obtain ⟨marked, isMarked, recorded⟩ := exists_of_mem_of_mapM extracted member
    have isRecord := isRecordOf_of_record recorded
    have unrefused : marked.fault? file = none := by
      rw [← fault?_record, recorded]
      rfl
    have supported := MarkedFunction.fault?_eq_none_iff.mp unrefused
    obtain ⟨before, node, later, split, isFunction, -, start, -⟩ :=
      mem_markedFunctions_iff.mp isMarked
    have isChild : .node node ∈ children := by simp [split]
    obtain ⟨run, rest, ⟨front, isRun⟩, nodeRead⟩ :=
      (areRead_of_readSource read).exists_readNode isChild
    obtain ⟨word, name, after, entries, rfl, isWord, isName, sameName, sameStart, hasEntries,
      same⟩ := exists_hasEntries_of_readNode nodeRead isFunction
    refine ⟨entries, marked.declaration, ⟨front, word, name, after, isRun.symm, isWord, isName,
      sameName.trans isRecord.name.symm, ?_, hasEntries⟩, same, supported,
      readsSignature_of_signature isRecord.signature⟩
    rw [isRecord.line, start, sameStart]

private theorem map_name_parameters {declaration : FunctionDeclaration}
    {function : ExportedFunction}
    (reads : ReadsSignature declaration function) :
    function.parameters.map Parameter.name =
      namesAfter 0 ((slotsOf declaration.parameters).map Slot.name) := by
  have general {before : Nat} {slots : List Slot} {parameters : List Parameter}
      (gives : List.Forall₂ (fun placed => placed.1.Gives placed.2) (slots.zipIdx before)
        parameters) :
      parameters.map Parameter.name = namesAfter before (slots.map Slot.name) := by
    induction slots generalizing before parameters with
    | nil =>
        cases gives
        rfl
    | cons slot rest inductionHypothesis =>
        cases gives with
        | cons first others =>
            rw [List.map_cons, first.name, inductionHypothesis others]
            rfl
  exact general reads.parameters

def HasDistinctNames (function : ExportedFunction) : Prop :=
  (function.parameters.map Parameter.name).Nodup

instance (function : ExportedFunction) : Decidable (HasDistinctNames function) :=
  inferInstanceAs (Decidable (List.Nodup _))

/-- The names that are kept of named parameters hold the blank one at most once, and none that
is made for a parameter whose name is not kept. -/
structure AreKeptApart (groups : List NameGroup) : Prop where
  blank : ((groups.flatMap NameGroup.kept).filterMap id).count blankName ≤ 1
  invented : ∀ name position, some name ∈ groups.flatMap NameGroup.kept →
    (groups.flatMap NameGroup.kept)[position]? = some none → name ≠ inventedName position

/-- **Names of parameters.**  A recorded function has its list of parameters in the source,
and no parameter in it is variadic.  If the list names no parameter, the names of the record
are distinct.  If it names all of them, each but the blank name once, they are distinct iff the
kept names are apart.  All names are kept if no more than nine of them share a type; so the only
thing that can be wrong then is a blank name that stands there twice. -/
theorem parameterNames_exact {file source : String} {functions : List ExportedFunction}
    (extracted : ofSource file source = .ok functions) :
    ∀ function ∈ functions, ∃ entries, HasParameterList source function entries ∧
      (∀ name type, .variadic name type ∉ entries) ∧
      (AreUnnamed entries → HasDistinctNames function) ∧
      ∀ groups, AreNamed entries groups → AreDeclaredOnce (groups.flatMap NameGroup.names) →
        (HasDistinctNames function ↔ AreKeptApart groups) ∧
        ((∀ group ∈ groups, group.names.length ≤ sharingLimit) →
          (HasDistinctNames function ↔ (groups.flatMap NameGroup.names).count blankName ≤ 1)) := by
  intro function member
  obtain ⟨entries, declaration, hasList, same, supported, reads⟩ :=
    exists_hasParameterList extracted member
  have names : function.parameters.map Parameter.name =
      namesAfter 0 ((slotsOf (grouped [] (withoutComments entries))).map Slot.name) := by
    rw [map_name_parameters reads, same, slotsOf_grouped_withoutComments]
  refine ⟨entries, hasList, ?_, ?_, ?_⟩
  · intro name type isEntry
    exact supported.parameters _ (same ▸ mem_grouped_of_variadic isEntry [])
  · intro unnamed
    rw [HasDistinctNames, names]
    exact nodup_namesAfter_of_nameless (nameless_of_grouped unnamed)
  · intro groups named once
    have keptOnce := once.sublist (sublist_of_kept groups)
    rw [HasDistinctNames, names, named, names_slotsOf_grouped]
    refine ⟨?_, fun few => ?_⟩
    · rw [nodup_namesAfter_iff, keptOnce.nodup_iff]
      exact ⟨fun ⟨blank, invented⟩ => ⟨blank, invented⟩, fun apart => ⟨apart.blank, apart.invented⟩⟩
    · rw [flatMap_kept_of_few few, namesAfter_map_some, once.nodup_iff]

/-- A function whose parameters are named, one of them by the blank name, and a function whose
parameters are not. -/
def namedSource : String :=
  "package p\n\n//export Pair\nfunc Pair(_ int, a, b float64) \x7b\x7d\n\n" ++
    "//export Raw\nfunc Raw(int, *C.char) \x7b\x7d\n"

theorem namedSource_distinct :
    ∃ functions, ofSource "a.go" namedSource = .ok functions ∧
      functions.map (fun function => function.parameters.map Parameter.name) =
        [["_", "a", "b"], ["arg0", "arg1"]] ∧
      ∀ function ∈ functions, ∃ entries, HasParameterList namedSource function entries ∧
        (AreUnnamed entries → HasDistinctNames function) := by
  have evaluated : (ofSource "a.go" namedSource).toOption.map (fun functions =>
      functions.map fun function => function.parameters.map Parameter.name) =
      some [["_", "a", "b"], ["arg0", "arg1"]] := by decide +kernel
  cases extracted : ofSource "a.go" namedSource with
  | error fault =>
      rw [extracted] at evaluated
      cases evaluated
  | ok functions =>
      rw [extracted] at evaluated
      refine ⟨functions, rfl, Option.some.inj evaluated, fun function member => ?_⟩
      obtain ⟨entries, hasList, -, unnamed, -⟩ := parameterNames_exact extracted function member
      exact ⟨entries, hasList, unnamed⟩

def blankSource : String :=
  "package main\n\n//export Add\nfunc Add(_ int, _ int) \x7b\x7d\n"

def blankEntries : List ParameterEntry :=
  ((readEntries 9 ((tokens blankSource).drop 5)).map Prod.fst).getD []

def blankGroups : List NameGroup :=
  blankEntries.filterMap fun entry =>
    match entry with
    | .named name type => some ⟨[], name, type⟩
    | .lone _ | .unnamed _ | .variadic _ _ | .comment _ => none

/-- A list that names its parameters as the rules ask for does not always give distinct names. -/
theorem blankSource_repeats :
    AreNamed blankEntries blankGroups ∧ AreDeclaredOnce (blankGroups.flatMap NameGroup.names) ∧
      ∃ functions, ofSource "a.go" blankSource = .ok functions ∧
        functions.map (fun function => function.parameters.map Parameter.name) = [["_", "_"]] ∧
        ∀ function ∈ functions, ¬ HasDistinctNames function := by
  have named : withoutComments blankEntries = blankGroups.flatMap NameGroup.entries := by
    decide +kernel
  have evaluated : (ofSource "a.go" blankSource).toOption.map (fun functions =>
      functions.map fun function => function.parameters.map Parameter.name) =
      some [["_", "_"]] := by decide +kernel
  refine ⟨named, by decide +kernel, ?_⟩
  cases extracted : ofSource "a.go" blankSource with
  | error fault =>
      rw [extracted] at evaluated
      cases evaluated
  | ok functions =>
      rw [extracted] at evaluated
      have names := Option.some.inj evaluated
      refine ⟨functions, rfl, names, fun function member distinct => ?_⟩
      have isTwice : function.parameters.map Parameter.name ∈ [["_", "_"]] :=
        names ▸ List.mem_map_of_mem member
      rw [HasDistinctNames, List.mem_singleton.mp isTwice] at distinct
      exact absurd distinct (by decide)

end Export

end AddonBindings
