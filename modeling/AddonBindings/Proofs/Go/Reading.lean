import AddonBindings.Go.SourceFile
import AddonBindings.Proofs.Go.Lexing
import AddonBindings.Proofs.Go.SourceOrder
import AddonBindings.Proofs.Go.TokenCount

/-!
Contract: what is read from a source that can be read.

Owns:
- readers of declarations: they go over readable tokens, and the names and types that they
  find stand in these;
- the rounds in which the children of a source are read;
- that all tokens of a source that can be read are readable;
- the order of the children of a source.

Does not own: the order of tokens, which is in `AddonBindings.Proofs.Go.SourceOrder`, and
recognition of constructs, which is in `AddonBindings.Proofs.Go.Recognition`.
-/

namespace AddonBindings.Go

/-! ## Readable tokens -/

theorem Token.IsReadable.of_kind {token : Token} {kind : LexemeKind}
    (isKind : token.lexeme.kind = kind) (known : kind ≠ .unknown ∧ kind ≠ .finish) :
    token.IsReadable := by
  rwa [IsReadable, isKind]

private theorem isReadable_of_isFixed {token : Token} {text : String}
    (isFixed : token.isFixed text = true) : token.IsReadable :=
  .of_kind (Pattern.kind_of_isFixed isFixed) (by decide)

/-- No construct asks for a character that starts no lexeme, or for the end of the source. -/
theorem Rule.known_of_mem_kinds (rule : Rule) :
    ∀ kind ∈ rule.pattern.kinds, kind ≠ .unknown ∧ kind ≠ .finish := by
  cases rule <;> decide

theorem Rule.goesOver_recognise {rule : Rule} {place : Place} {tokens rest : List Token}
    (read : rule.recognise place tokens = some rest) : GoesOver Token.IsReadable tokens rest :=
  takesOnly_recogniseWithin
    (fun rule _ member => .of_kind rfl (rule.known_of_mem_kinds _ member))
    _ rule place tokens rest read

/-! ## What the readers of declarations take -/

def IsNamedIn (tokens : List Token) (name : String) : Prop :=
  ∃ token ∈ tokens, token.lexeme.kind = .name ∧ token.name = name

theorem IsNamedIn.of_subset {tokens more : List Token} {name : String}
    (named : IsNamedIn tokens name) (isSubset : tokens ⊆ more) : IsNamedIn more name := by
  obtain ⟨token, member, isName, same⟩ := named
  exact ⟨token, isSubset member, isName, same⟩

/-- A reader goes over readable tokens, and the names and types that it finds stand in them. -/
def ReadsOver (names : List String) (types : List TypeSyntax) (tokens rest : List Token) : Prop :=
  ∃ taken, taken ++ rest = tokens ∧ (∀ token ∈ taken, token.IsReadable) ∧
    (∀ name ∈ names, IsNamedIn taken name) ∧
    ∀ type ∈ types, type.tokens ≠ [] ∧ type.tokens <:+: taken

namespace ReadsOver

variable {names moreNames : List String} {types moreTypes : List TypeSyntax}
  {tokens middle rest : List Token}

theorem of_goesOver (goes : GoesOver Token.IsReadable tokens rest) :
    ReadsOver [] [] tokens rest := by
  obtain ⟨taken, isTokens, readable⟩ := goes
  exact ⟨taken, isTokens, readable, List.forall_mem_nil _, List.forall_mem_nil _⟩

theorem refl (tokens : List Token) : ReadsOver [] [] tokens tokens :=
  of_goesOver (.refl tokens)

theorem cons {token : Token} (readable : token.IsReadable) (rest : List Token) :
    ReadsOver [] [] (token :: rest) rest :=
  of_goesOver (.cons readable rest)

/-- A name may be a type by itself. -/
theorem name {token : Token} (isName : token.lexeme.kind = .name) (rest : List Token) :
    ReadsOver [token.name] [⟨[token]⟩] (token :: rest) rest :=
  ⟨[token], rfl, List.forall_mem_singleton.mpr (.of_kind isName (by decide)),
    List.forall_mem_singleton.mpr ⟨token, List.mem_singleton_self _, isName, rfl⟩,
    List.forall_mem_singleton.mpr ⟨List.cons_ne_nil _ _, List.infix_rfl⟩⟩

/-- A type may turn out to be a name. -/
theorem named {token : Token} (reads : ReadsOver [] [⟨[token]⟩] tokens rest)
    (isName : token.lexeme.kind = .name) : ReadsOver [token.name] [⟨[token]⟩] tokens rest := by
  obtain ⟨taken, isTokens, readable, -, runs⟩ := reads
  have inTaken := (runs _ (List.mem_singleton_self _)).2.subset (List.mem_singleton_self token)
  exact ⟨taken, isTokens, readable,
    List.forall_mem_singleton.mpr ⟨token, inTaken, isName, rfl⟩, runs⟩

theorem trans (front : ReadsOver names types tokens middle)
    (back : ReadsOver moreNames moreTypes middle rest) :
    ReadsOver (names ++ moreNames) (types ++ moreTypes) tokens rest := by
  obtain ⟨first, rfl, firstReadable, firstNamed, firstRuns⟩ := front
  obtain ⟨second, rfl, secondReadable, secondNamed, secondRuns⟩ := back
  refine ⟨first ++ second, List.append_assoc first second rest,
    List.forall_mem_append.mpr ⟨firstReadable, secondReadable⟩,
    List.forall_mem_append.mpr ⟨fun name member => ?_, fun name member => ?_⟩,
    List.forall_mem_append.mpr ⟨fun type member => ?_, fun type member => ?_⟩⟩
  · exact (firstNamed name member).of_subset (List.subset_append_left first second)
  · exact (secondNamed name member).of_subset (List.subset_append_right first second)
  · exact (firstRuns type member).imp_right fun inFirst =>
      inFirst.trans (List.prefix_append first second).isInfix
  · exact (secondRuns type member).imp_right fun inSecond =>
      inSecond.trans (List.suffix_append first second).isInfix

theorem mono (reads : ReadsOver names types tokens rest) (fewerNames : moreNames ⊆ names)
    (fewerTypes : moreTypes ⊆ types) : ReadsOver moreNames moreTypes tokens rest := by
  obtain ⟨taken, isTokens, readable, named, runs⟩ := reads
  exact ⟨taken, isTokens, readable, fun name member => named name (fewerNames member),
    fun type member => runs type (fewerTypes member)⟩

theorem suffix (reads : ReadsOver names types tokens rest) : rest <:+ tokens := by
  obtain ⟨taken, isTokens, -⟩ := reads
  exact ⟨taken, isTokens⟩

end ReadsOver

private theorem readsOver_readType {place : Place} {tokens rest : List Token} {type : TypeSyntax}
    (read : readType place tokens = some (type, rest)) : ReadsOver [] [type] tokens rest := by
  obtain ⟨left, recognised, same⟩ := Option.map_eq_some_iff.mp read
  cases same
  obtain ⟨taken, rfl, readable⟩ := Rule.goesOver_recognise recognised
  have isConsumed : consumed (taken ++ rest) rest = taken := by simp [consumed]
  have enough : rest.length + 1 ≤ (taken ++ rest).length :=
    Rule.takesLeast_recogniseWithin _ .type place _ _ recognised
  refine ⟨taken, rfl, readable, List.forall_mem_nil _, List.forall_mem_singleton.mpr ?_⟩
  rw [isConsumed]
  refine ⟨?_, List.infix_rfl⟩
  rintro rfl
  exact absurd enough (Nat.not_succ_le_self _)

def ParameterEntry.names : ParameterEntry → List Token
  | lone name | named name _ => [name]
  | unnamed _ | variadic _ _ | comment _ => []

/-- The types that an entry of a list can stand for: those in it, and its name. -/
def ParameterEntry.types : ParameterEntry → List TypeSyntax
  | lone name => [⟨[name]⟩]
  | named name type => [⟨[name]⟩, type]
  | unnamed type | variadic _ type => [type]
  | comment _ => []

private theorem readsOver_readVariadic {tokens rest : List Token} {entry : ParameterEntry}
    (read : readVariadic tokens = some (entry, rest)) :
    ReadsOver (entry.names.map Token.name) entry.types tokens rest := by
  match tokens with
  | [] => cases read
  | [_] => cases read
  | first :: second :: others =>
      rw [readVariadic] at read
      dsimp only at read
      split at read
      · rename_i isDots
        obtain ⟨⟨type, left⟩, typed, same⟩ := Option.map_eq_some_iff.mp read
        cases same
        exact (ReadsOver.cons (isReadable_of_isFixed isDots) _).trans (readsOver_readType typed)
      · split at read
        · rename_i isNamed
          rw [Bool.and_eq_true, decide_eq_true_eq] at isNamed
          obtain ⟨⟨type, left⟩, typed, same⟩ := Option.map_eq_some_iff.mp read
          cases same
          exact (ReadsOver.cons (.of_kind isNamed.1 (by decide)) _).trans
            ((ReadsOver.cons (isReadable_of_isFixed isNamed.2) _).trans (readsOver_readType typed))
        · cases read

private theorem readsOver_readNamed {tokens rest : List Token} {entry : ParameterEntry}
    (read : readNamed tokens = some (entry, rest)) :
    ReadsOver (entry.names.map Token.name) entry.types tokens rest := by
  cases tokens with
  | nil => cases read
  | cons first others =>
      rw [readNamed] at read
      split at read
      · rename_i isName
        obtain ⟨⟨type, left⟩, typed, same⟩ := Option.map_eq_some_iff.mp read
        cases same
        exact (ReadsOver.name isName _).trans (readsOver_readType typed)
      · cases read

private theorem readsOver_readUnnamed {tokens rest : List Token} {entry : ParameterEntry}
    (read : readUnnamed tokens = some (entry, rest)) :
    ReadsOver (entry.names.map Token.name) entry.types tokens rest := by
  obtain ⟨⟨⟨taken⟩, left⟩, typed, same⟩ := Option.map_eq_some_iff.mp read
  have reads := readsOver_readType typed
  dsimp only at same
  split at same
  · cases same
    exact reads.named (kind_of_readType typed).2
  · cases same
    exact reads

private theorem readsOver_readEntry {tokens rest : List Token} {entry : ParameterEntry}
    (read : readEntry tokens = some (entry, rest)) :
    ReadsOver (entry.names.map Token.name) entry.types tokens rest := by
  rw [readEntry, Option.or_eq_some_iff, Option.or_eq_some_iff] at read
  rcases read with variadic | ⟨-, named | ⟨-, unnamed⟩⟩
  · exact readsOver_readVariadic variadic
  · exact readsOver_readNamed named
  · exact readsOver_readUnnamed unnamed

private theorem types_leadingComments (tokens : List Token) :
    (leadingComments tokens).flatMap ParameterEntry.types = [] := by
  rw [leadingComments, List.flatMap_map]
  exact List.flatMap_eq_nil_iff.mpr fun comment _ => rfl

private theorem names_leadingComments (tokens : List Token) :
    (leadingComments tokens).flatMap ParameterEntry.names = [] := by
  rw [leadingComments, List.flatMap_map]
  exact List.flatMap_eq_nil_iff.mpr fun comment _ => rfl

private theorem readsOver_readEntries {count : Nat} {tokens rest : List Token}
    {entries : List ParameterEntry} (read : readEntries count tokens = some (entries, rest)) :
    ReadsOver ((entries.flatMap ParameterEntry.names).map Token.name)
      (entries.flatMap ParameterEntry.types) tokens rest := by
  induction count generalizing tokens entries rest with
  | zero => cases read
  | succ count inductionHypothesis =>
      cases tokens with
      | nil => cases read
      | cons first others =>
          rw [readEntries] at read
          split at read
          · rename_i isClosing
            cases read
            rw [types_leadingComments, names_leadingComments]
            exact .cons (isReadable_of_isFixed isClosing) _
          · obtain ⟨⟨entry, after⟩, entryRead, read⟩ := Option.bind_eq_some_iff.mp read
            have front := readsOver_readEntry entryRead
            dsimp only at read
            cases after with
            | nil => cases read
            | cons mark left =>
                dsimp only at read
                split at read
                · rename_i isComma
                  obtain ⟨⟨later, tail⟩, laterRead, read⟩ := Option.bind_eq_some_iff.mp read
                  cases read
                  have back := (ReadsOver.cons (isReadable_of_isFixed isComma) left).trans
                    (inductionHypothesis laterRead)
                  simpa [List.flatMap_append, types_leadingComments, names_leadingComments]
                    using front.trans back
                · split at read
                  · rename_i isClosing
                    cases read
                    have back := ReadsOver.cons (isReadable_of_isFixed isClosing) rest
                    simpa [List.flatMap_append, types_leadingComments, names_leadingComments]
                    using front.trans back
                  · cases read

def ParameterItem.names : ParameterItem → List String
  | declared names _ => names
  | variadic _ _ | comment _ => []

def ParameterItem.types : ParameterItem → List TypeSyntax
  | declared _ type | variadic _ type => [type]
  | comment _ => []

private theorem types_asTypes (names : List Token) :
    (asTypes names).flatMap ParameterItem.types = names.map fun name => ⟨[name]⟩ := by
  rw [asTypes, List.flatMap_map]
  exact List.map_eq_flatMap.symm

/-- Items declare no types but those that the entries can stand for. -/
theorem types_grouped_subset (pending : List Token) (entries : List ParameterEntry) :
    (grouped pending entries).flatMap ParameterItem.types ⊆
      (pending.map fun name => ⟨[name]⟩) ++ entries.flatMap ParameterEntry.types := by
  -- the pending names are the lone entries since the last entry of another kind
  induction entries generalizing pending with
  | nil =>
      rw [grouped, types_asTypes]
      exact List.subset_append_left _ _
  | cons entry rest inductionHypothesis =>
      have later := inductionHypothesis []
      cases entry with
      | lone name =>
          have same := inductionHypothesis (pending ++ [name])
          rw [List.map_append, List.append_assoc] at same
          exact same
      | named name type =>
          have same : (pending.map fun name => (⟨[name]⟩ : TypeSyntax)) ++
              (.named name type :: rest).flatMap ParameterEntry.types =
              ((pending ++ [name]).map fun name => ⟨[name]⟩) ++
                type :: rest.flatMap ParameterEntry.types := by
            rw [List.map_append, List.append_assoc]
            rfl
          rw [grouped, List.flatMap_append, types_asTypes, same]
          exact List.append_subset.mpr
            ⟨List.Subset.trans (List.map_subset _ (List.take_subset _ _))
              (List.subset_append_left _ _),
            List.Subset.trans (List.cons_subset_cons type later) (List.subset_append_right _ _)⟩
      | unnamed type | variadic _ type =>
          rw [grouped, List.flatMap_append, types_asTypes]
          exact List.append_subset.mpr ⟨List.subset_append_left _ _,
            List.Subset.trans (List.cons_subset_cons type later) (List.subset_append_right _ _)⟩
      | comment text => exact inductionHypothesis pending

private theorem names_asTypes (names : List Token) :
    (asTypes names).flatMap ParameterItem.names = [] := by
  rw [asTypes, List.flatMap_map]
  exact List.flatMap_eq_nil_iff.mpr fun name _ => rfl

/-- Items declare no names but those of the entries. -/
theorem names_grouped_subset (pending : List Token) (entries : List ParameterEntry) :
    (grouped pending entries).flatMap ParameterItem.names ⊆
      (pending ++ entries.flatMap ParameterEntry.names).map Token.name := by
  -- the pending names are the lone entries since the last entry of another kind
  induction entries generalizing pending with
  | nil =>
      rw [grouped, names_asTypes]
      exact List.nil_subset _
  | cons entry rest inductionHypothesis =>
      have later : ∀ front : List Token, (grouped [] rest).flatMap ParameterItem.names ⊆
          (front ++ rest.flatMap ParameterEntry.names).map Token.name := by
        intro front
        rw [List.map_append]
        exact List.Subset.trans (inductionHypothesis []) (List.subset_append_right _ _)
      cases entry with
      | lone name =>
          have same : pending ++ (.lone name :: rest).flatMap ParameterEntry.names =
              pending ++ [name] ++ rest.flatMap ParameterEntry.names := by
            rw [List.append_assoc]
            rfl
          rw [grouped, same]
          exact inductionHypothesis (pending ++ [name])
      | named name type =>
          have same : pending ++ (.named name type :: rest).flatMap ParameterEntry.names =
              pending ++ [name] ++ rest.flatMap ParameterEntry.names := by
            rw [List.append_assoc]
            rfl
          rw [grouped, same, List.flatMap_append, names_asTypes, List.nil_append, List.flatMap_cons,
            List.append_subset]
          refine ⟨?_, later (pending ++ [name])⟩
          rw [List.map_append]
          exact List.Subset.trans (List.map_subset _ (List.drop_subset _ _))
            (List.subset_append_left _ _)
      | unnamed type | variadic _ type =>
          rw [grouped, List.flatMap_append, names_asTypes]
          exact later pending
      | comment text => exact inductionHypothesis pending

private theorem readsOver_readParameters {tokens rest : List Token} {items : List ParameterItem}
    (read : readParameters tokens = some (items, rest)) :
    ReadsOver (items.flatMap ParameterItem.names) (items.flatMap ParameterItem.types)
      tokens rest := by
  cases tokens with
  | nil => cases read
  | cons opening others =>
      unfold readParameters at read
      dsimp only at read
      split at read
      · cases read
      · rename_i isOpening
        have front := ReadsOver.cons (isReadable_of_isFixed (by simpa using isOpening)) others
        have entries : ∀ {count : Nat},
            (readEntries count others).map (fun found => (grouped [] found.1, found.2)) =
              some (items, rest) →
            ReadsOver (items.flatMap ParameterItem.names) (items.flatMap ParameterItem.types)
              (opening :: others) rest := by
          intro count mapped
          obtain ⟨⟨found, left⟩, entriesRead, same⟩ := Option.map_eq_some_iff.mp mapped
          cases same
          exact (front.trans (readsOver_readEntries entriesRead)).mono
            (names_grouped_subset [] found) (types_grouped_subset [] found)
        split at read
        · rename_i comma closing after
          split at read
          · rename_i isEmptyList
            rw [Bool.and_eq_true] at isEmptyList
            cases read
            have back := (ReadsOver.cons (isReadable_of_isFixed isEmptyList.1) _).trans
              (.cons (isReadable_of_isFixed isEmptyList.2) rest)
            refine (front.trans back).mono (List.Subset.trans (names_grouped_subset [] _) ?_)
              (List.Subset.trans (types_grouped_subset [] _) ?_)
            · rw [List.flatMap_append, names_leadingComments, names_leadingComments]
              exact List.nil_subset _
            · rw [List.flatMap_append, types_leadingComments, types_leadingComments]
              exact List.nil_subset _
          · exact entries read
        · exact entries read

private theorem readsOver_getD (rule : Rule) (place : Place) (tokens : List Token) :
    ReadsOver [] [] tokens ((rule.recognise place tokens).getD tokens) := by
  cases recognised : rule.recognise place tokens with
  | none => exact .refl tokens
  | some rest => exact .of_goesOver (Rule.goesOver_recognise recognised)

private theorem readsOver_afterOptional (rule : Rule) (tokens : List Token) :
    ReadsOver [] [] tokens (afterOptional rule tokens) := by
  rw [afterOptional]
  split
  · exact .refl tokens
  · exact readsOver_getD rule .tail tokens

def ResultSyntax.types : ResultSyntax → List TypeSyntax
  | absent => []
  | single type => [type]
  | listed items => items.flatMap ParameterItem.types

private theorem readsOver_readResult (tokens : List Token) :
    ReadsOver [] (readResult tokens).1.types tokens (readResult tokens).2 := by
  rw [readResult]
  split
  · exact .refl tokens
  · split
    · rename_i items rest read
      exact (readsOver_readParameters read).mono (List.nil_subset _) (List.Subset.refl _)
    · split
      · rename_i type rest read
        exact readsOver_readType read
      · exact .refl tokens

/-- The names of a function declaration: its own and those of its parameters. -/
def FunctionDeclaration.names (declaration : FunctionDeclaration) : List String :=
  declaration.name :: declaration.parameters.flatMap ParameterItem.names

def FunctionDeclaration.types (declaration : FunctionDeclaration) : List TypeSyntax :=
  declaration.parameters.flatMap ParameterItem.types ++ declaration.result.types

private theorem readsOver_readFunction {tokens rest : List Token}
    {declaration : FunctionDeclaration}
    (read : readFunction tokens = some (declaration, rest)) :
    ReadsOver declaration.names declaration.types tokens rest := by
  match tokens with
  | [] => cases read
  | [_] => cases read
  | word :: name :: others =>
      rw [readFunction] at read
      split at read
      · rename_i isFunction
        rw [Bool.and_eq_true, decide_eq_true_eq] at isFunction
        obtain ⟨⟨parameters, afterParameters⟩, parametersRead, read⟩ :=
          Option.bind_eq_some_iff.mp read
        cases read
        have named := (ReadsOver.name isFunction.2 others).mono (List.Subset.refl _)
          (List.nil_subset _)
        have front := (ReadsOver.cons (isReadable_of_isFixed isFunction.1) (name :: others)).trans
          (named.trans (readsOver_getD .typeParameters .enclosed others))
        have signature := (readsOver_readParameters parametersRead).trans
          ((readsOver_readResult afterParameters).trans (readsOver_afterOptional .block _))
        rw [List.append_nil, List.append_nil, List.append_nil] at signature
        exact front.trans signature
      · cases read

private theorem readsOver_afterOther {tokens rest : List Token}
    (read : afterOther tokens = some rest) :
    ReadsOver [] [] tokens rest := by
  cases tokens with
  | nil => cases read
  | cons first others =>
      rw [afterOther] at read
      split at read
      · rename_i isSemicolon
        cases read
        exact .cons (isReadable_of_isFixed isSemicolon) _
      · rw [Option.or_eq_some_iff, Option.or_eq_some_iff, Option.or_eq_some_iff] at read
        rcases read with (package | ⟨-, imported⟩) | ⟨-, method | ⟨-, statement⟩⟩
        · exact .of_goesOver (Rule.goesOver_recognise package)
        · exact .of_goesOver (Rule.goesOver_recognise imported)
        · exact .of_goesOver (Rule.goesOver_recognise method)
        · exact .of_goesOver (Rule.goesOver_recognise statement)

/-- The names of a function declaration; other nodes declare none. -/
def NodeContent.names : NodeContent → List String
  | function declaration => declaration.names
  | other => []

/-- The types of a function declaration; other nodes declare none. -/
def NodeContent.types : NodeContent → List TypeSyntax
  | function declaration => declaration.types
  | other => []

private theorem readsOver_readContent {tokens rest : List Token} {content : NodeContent}
    (read : readContent tokens = some (content, rest)) :
    ReadsOver content.names content.types tokens rest := by
  rw [readContent] at read
  split at read
  · rename_i declaration left functionRead
    cases read
    exact readsOver_readFunction functionRead
  · obtain ⟨left, other, same⟩ := Option.map_eq_some_iff.mp read
    cases same
    exact readsOver_afterOther other

def RootChild.names : RootChild → List String
  | node content => content.content.names
  | comment _ | mark _ _ => []

def RootChild.types : RootChild → List TypeSyntax
  | node content => content.content.types
  | comment _ | mark _ _ => []

private theorem names_commentChildren (token : Token) :
    (commentChildren token).flatMap RootChild.names = [] := by
  rw [commentChildren, List.flatMap_map]
  exact List.flatMap_eq_nil_iff.mpr fun comment _ => rfl

private theorem types_commentChildren (token : Token) :
    (commentChildren token).flatMap RootChild.types = [] := by
  rw [commentChildren, List.flatMap_map]
  exact List.flatMap_eq_nil_iff.mpr fun comment _ => rfl

theorem readsOver_readNode {tokens rest : List Token} {node : Node}
    (read : readNode tokens = some (node, rest)) :
    ReadsOver node.content.names node.content.types tokens rest := by
  obtain ⟨⟨content, left⟩, contentRead, read⟩ := Option.bind_eq_some_iff.mp read
  obtain ⟨first, -, read⟩ := Option.bind_eq_some_iff.mp read
  obtain ⟨last, -, read⟩ := Option.bind_eq_some_iff.mp read
  cases read
  exact readsOver_readContent contentRead

theorem readsOver_readTerminator {tokens rest : List Token} {marks : List RootChild}
    (read : readTerminator tokens = some (marks, rest)) :
    ReadsOver (marks.flatMap RootChild.names) (marks.flatMap RootChild.types) tokens rest := by
  cases tokens with
  | nil => cases read
  | cons first others =>
      rw [readTerminator] at read
      split at read
      · cases read
        exact .refl _
      · split at read
        · rename_i isSemicolon
          cases read
          rw [List.flatMap_append, List.flatMap_append, names_commentChildren,
            types_commentChildren]
          exact .cons (isReadable_of_isFixed isSemicolon) _
        · cases read

/-- The children of a file round by round: the comments before a node, the node, what ends it
and the children behind it.  In the last round there are only comments. -/
inductive AreRead : List Token → List RootChild → Prop
  | nothing : AreRead [] []
  | finish {last : Token} (others : List Token) (isFinish : last.isFinish = true) :
      AreRead (last :: others) (commentChildren last)
  | node {first : Token} {others after rest : List Token} {node : Node}
      {marks later : List RootChild} (nodeRead : readNode (first :: others) = some (node, after))
      (terminatorRead : readTerminator after = some (marks, rest))
      (laterRead : AreRead rest later) :
      AreRead (first :: others) (commentChildren first ++ .node node :: marks ++ later)

private theorem areRead_of_readChildren {count : Nat} {tokens : List Token}
    {children : List RootChild}
    (read : readChildren count tokens = .ok children) : AreRead tokens children := by
  induction count generalizing tokens children with
  | zero => cases read
  | succ count inductionHypothesis =>
      cases tokens with
      | nil =>
          cases read
          exact .nothing
      | cons first others =>
          rw [readChildren] at read
          split at read
          · rename_i isFinish
            cases read
            exact .finish others isFinish
          · split at read
            · cases read
            · rename_i node after nodeRead
              split at read
              · cases read
              · rename_i marks rest terminatorRead
                cases laterRead : readChildren count rest with
                | error position =>
                    rw [laterRead] at read
                    cases read
                | ok later =>
                    rw [laterRead] at read
                    cases read
                    exact .node nodeRead terminatorRead (inductionHypothesis laterRead)

theorem areRead_of_readSource {source : String} {children : List RootChild}
    (read : readSource source = .ok children) : AreRead (tokens source) children :=
  areRead_of_readChildren read

/-- The children of a file are read up to the end of the source. -/
theorem AreRead.readsOver {tokens : List Token} {children : List RootChild}
    (areRead : AreRead tokens children) :
    ∃ rest, ReadsOver (children.flatMap RootChild.names) (children.flatMap RootChild.types)
      tokens rest ∧
      ∀ last ∈ rest.head?, last.isFinish = true := by
  induction areRead with
  | nothing => exact ⟨[], .refl [], by rintro _ ⟨⟩⟩
  | @finish last others isFinish =>
      refine ⟨last :: others, ?_, ?_⟩
      · rw [names_commentChildren, types_commentChildren]
        exact .refl _
      · rintro _ ⟨⟩
        exact isFinish
  | node nodeRead terminatorRead _ inductionHypothesis =>
      obtain ⟨rest, laterReads, isEnd⟩ := inductionHypothesis
      refine ⟨rest, ?_, isEnd⟩
      have reads := (readsOver_readNode nodeRead).trans
        ((readsOver_readTerminator terminatorRead).trans laterReads)
      simpa [names_commentChildren, RootChild.names, types_commentChildren, RootChild.types]
        using reads

/-- All tokens of a source that can be read are readable, up to the end, and the types that
its children declare are runs of them. -/
theorem readable_of_readSource {source : String} {children : List RootChild}
    (read : readSource source = .ok children) :
    (∀ token ∈ tokens source, token.isFinish = false → token.IsReadable) ∧
      ∀ type ∈ children.flatMap RootChild.types, type.tokens ≠ [] ∧
        type.tokens <:+: tokens source ∧ ∀ token ∈ type.tokens, token.IsReadable := by
  obtain ⟨rest, ⟨taken, isSource, readable, -, runs⟩, isEnd⟩ :=
    (areRead_of_readSource read).readsOver
  constructor
  · intro token member noFinish
    rw [← isSource] at member
    rcases List.mem_append.mp member with inTaken | inRest
    · exact readable token inTaken
    · cases rest with
      | nil => cases inRest
      | cons last others =>
          have isLast := isEnd last rfl
          have noOthers := eq_nil_of_isFinish ⟨taken, isSource⟩ isLast
          rw [noOthers, List.mem_singleton] at inRest
          rw [inRest, isLast] at noFinish
          cases noFinish
  · intro type member
    obtain ⟨filled, inTaken⟩ := runs type member
    refine ⟨filled, ?_, fun token inType => readable token (inTaken.subset inType)⟩
    rw [← isSource]
    exact inTaken.trans (List.prefix_append taken rest).isInfix

/-- The names that the children of a source declare are those of its name tokens. -/
theorem isNamedIn_of_readSource {source : String} {children : List RootChild}
    (read : readSource source = .ok children) :
    ∀ name ∈ children.flatMap RootChild.names, IsNamedIn (tokens source) name := by
  obtain ⟨rest, ⟨taken, isSource, -, named, -⟩, -⟩ := (areRead_of_readSource read).readsOver
  intro name member
  rw [← isSource]
  exact (named name member).of_subset (List.subset_append_left taken rest)

/-! ## The order of children -/

private theorem tokenSpans_append (front back : List Token) :
    tokenSpans (front ++ back) = tokenSpans front ++ tokenSpans back :=
  List.flatMap_append

private theorem tokenSpans_cons (first : Token) (rest : List Token) :
    tokenSpans (first :: rest) =
      first.lead.map Lexeme.span ++ first.lexeme.span :: tokenSpans rest := by
  rw [tokenSpans, List.flatMap_cons, List.append_assoc, List.singleton_append]
  rfl

private theorem lexeme_span_mem_tokenSpans {tokens : List Token} {token : Token}
    (member : token ∈ tokens) : token.lexeme.span ∈ tokenSpans tokens :=
  List.mem_flatMap.mpr ⟨token, member, List.mem_append_right _ (List.mem_singleton_self _)⟩

private theorem map_span_commentChildren (token : Token) :
    (commentChildren token).map RootChild.span = token.comments.map Lexeme.span := by
  rw [commentChildren, List.map_map]
  rfl

private theorem commentChildren_sublist (token : Token) :
    ((commentChildren token).map RootChild.span).Sublist (token.lead.map Lexeme.span) := by
  rw [map_span_commentChildren]
  exact List.filter_sublist.map _

/-- The comments before a node and the node stand where its tokens stand. -/
theorem between_readNode {lower upper : Position} {tokens after : List Token} {node : Node}
    {first : Token} {others : List Token} (isTokens : tokens = first :: others)
    (read : readNode tokens = some (node, after)) (between : Between lower (tokenSpans tokens) upper) :
    ∃ middle, Between middle (tokenSpans after) upper ∧
      Between lower ((commentChildren first ++ [RootChild.node node]).map RootChild.span) middle := by
  obtain ⟨⟨content, rest⟩, contentRead, read⟩ := Option.bind_eq_some_iff.mp read
  obtain ⟨start, isStart, read⟩ := Option.bind_eq_some_iff.mp read
  obtain ⟨last, isLast, read⟩ := Option.bind_eq_some_iff.mp read
  cases read
  have parts := consumed_append (readsOver_readContent contentRead).suffix
  cases taken : consumed tokens after with
  | nil =>
      rw [taken] at isStart
      cases isStart
  | cons head more =>
      rw [taken] at isStart isLast parts
      cases isStart
      have isFirst : start = first := by
        rw [isTokens] at parts
        exact (List.cons_eq_cons.mp parts).1
      rw [← parts, tokenSpans_append, Between.append_iff] at between
      obtain ⟨middle, front, back⟩ := between
      rw [tokenSpans_cons, Between.append_iff] at front
      obtain ⟨beforeNode, lead, body⟩ := front
      -- the node ends with its last token, which may be its first
      have lastSpan : last.lexeme.span ∈ start.lexeme.span :: tokenSpans more := by
        rcases List.mem_cons.mp (List.mem_of_getLast? isLast) with rfl | inMore
        · exact List.mem_cons_self
        · exact List.mem_cons_of_mem _ (lexeme_span_mem_tokenSpans inMore)
      refine ⟨middle, back, ?_⟩
      rw [List.map_append, ← isFirst]
      exact (lead.sublist (commentChildren_sublist start)).append (body.cover lastSpan)

private theorem between_readTerminator {lower upper : Position} {tokens rest : List Token}
    {marks : List RootChild} (read : readTerminator tokens = some (marks, rest))
    (between : Between lower (tokenSpans tokens) upper) :
    ∃ middle, Between middle (tokenSpans rest) upper ∧
      Between lower (marks.map RootChild.span) middle := by
  cases tokens with
  | nil => cases read
  | cons first others =>
      rw [readTerminator] at read
      split at read
      · cases read
        exact ⟨lower, between, .refl lower⟩
      · split at read
        · cases read
          rw [tokenSpans_cons, List.append_cons, Between.append_iff] at between
          obtain ⟨middle, front, back⟩ := between
          refine ⟨middle, back, front.sublist ?_⟩
          rw [List.map_append]
          exact (commentChildren_sublist first).append_right _
        · cases read

theorem AreRead.between {lower upper : Position} {tokens : List Token}
    {children : List RootChild} (areRead : AreRead tokens children)
    (between : Between lower (tokenSpans tokens) upper) :
    Between lower (children.map RootChild.span) upper := by
  -- what is left after a node stands behind it, at a new lower bound
  induction areRead generalizing lower with
  | nothing => exact between
  | @finish last others _ =>
      rw [tokenSpans_cons] at between
      exact between.sublist
        ((commentChildren_sublist last).trans (List.sublist_append_left _ _))
  | node nodeRead terminatorRead _ inductionHypothesis =>
      obtain ⟨afterNode, behind, front⟩ := between_readNode rfl nodeRead between
      obtain ⟨afterMarks, behind, marked⟩ := between_readTerminator terminatorRead behind
      have all := front.append (marked.append (inductionHypothesis behind))
      simpa using all

/-- The children of every source that can be read stand in source order. -/
theorem inSourceOrder_of_readSource {source : String} {children : List RootChild}
    (read : readSource source = .ok children) : InSourceOrder children := by
  obtain ⟨upper, between⟩ := between_tokens source
  exact .of_between ((areRead_of_readSource read).between between)

end AddonBindings.Go
