import AddonBindings.Proofs.Go.Alike
import AddonBindings.Proofs.Go.Reading
import AddonBindings.Proofs.Traversal

/-!
Contract: what is read from tokens that are alike.

Owns:
- types, lists of parameters, functions and children of files that are alike;
- the law that tokens that are alike are read alike, or none of them is;
- the children of a source with and without returns at the ends of its lines.

Does not own: what is taken from the children, which is in
`AddonBindings.Proofs.Export.LineEndings`.
-/

namespace AddonBindings.Go

variable {token other : Token} {tokens others : List Token}

/-! ## Types -/

structure TypeSyntax.IsLike (type other : TypeSyntax) : Prop where
  tokens : AreLike type.tokens other.tokens

/-- A part that has been read, and the tokens behind it, with others that are like them. -/
structure IsReadLike {α β : Type} (R : α → β → Prop) (found : α × List Token)
    (other : β × List Token) : Prop where
  part : R found.1 other.1
  rest : AreLike found.2 other.2

private theorem areLike_consumed {rest otherRest : List Token} (areLike : AreLike tokens others)
    (restAreLike : AreLike rest otherRest) :
    AreLike (consumed tokens rest) (consumed others otherRest) := by
  rw [consumed, consumed, areLike.length_eq, restAreLike.length_eq]
  exact List.forall₂_take _ areLike

private theorem isReadLike_readType (place : Place) (areLike : AreLike tokens others) :
    Option.Rel (IsReadLike TypeSyntax.IsLike) (readType place tokens) (readType place others) :=
  rel_map (Rule.takesAlike_recognise .type place areLike) fun restAreLike =>
    ⟨⟨areLike_consumed areLike restAreLike⟩, restAreLike⟩

/-! ## Lists of parameters -/

/-- Entries of the same form with types that are alike.  Names are the same. -/
inductive ParameterEntry.IsLike : ParameterEntry → ParameterEntry → Prop
  | lone {name other : Token} (isLike : name.IsLike other) (same : other.name = name.name) :
      IsLike (.lone name) (.lone other)
  | named {name other : Token} {type otherType : TypeSyntax} (isLike : name.IsLike other)
      (same : other.name = name.name) (typeIsLike : type.IsLike otherType) :
      IsLike (.named name type) (.named other otherType)
  | unnamed {type otherType : TypeSyntax} (typeIsLike : type.IsLike otherType) :
      IsLike (.unnamed type) (.unnamed otherType)
  | variadic {name other : Option Token} {type otherType : TypeSyntax}
      (same : other.map Token.name = name.map Token.name) (typeIsLike : type.IsLike otherType) :
      IsLike (.variadic name type) (.variadic other otherType)
  | comment {text other : String} (isLike : IsCommentLike text other) :
      IsLike (.comment text) (.comment other)

private theorem isReadLike_readVariadic (areLike : AreLike tokens others) :
    Option.Rel (IsReadLike ParameterEntry.IsLike) (readVariadic tokens) (readVariadic others) := by
  rcases areLike with _ | ⟨firstIsLike, _ | ⟨secondIsLike, restAreLike⟩⟩
  · exact .none
  · exact .none
  · rw [readVariadic, readVariadic]
    dsimp only
    rw [firstIsLike.isFixed, firstIsLike.lexeme.kind, secondIsLike.isFixed]
    split
    · exact rel_map (isReadLike_readType .enclosed (.cons secondIsLike restAreLike))
        fun typed => ⟨.variadic rfl typed.part, typed.rest⟩
    · split
      · rename_i isNamed
        rw [Bool.and_eq_true, decide_eq_true_eq] at isNamed
        exact rel_map (isReadLike_readType .enclosed restAreLike) fun typed =>
          ⟨.variadic (congrArg some (firstIsLike.name isNamed.1)) typed.part, typed.rest⟩
      · exact .none

private theorem isReadLike_readNamed (areLike : AreLike tokens others) :
    Option.Rel (IsReadLike ParameterEntry.IsLike) (readNamed tokens) (readNamed others) := by
  rcases areLike with _ | ⟨firstIsLike, restAreLike⟩
  · exact .none
  · rw [readNamed, readNamed, firstIsLike.lexeme.kind]
    split
    · rename_i isName
      exact rel_map (isReadLike_readType .enclosed restAreLike) fun typed =>
        ⟨.named firstIsLike (firstIsLike.name isName) typed.part, typed.rest⟩
    · exact .none

private theorem isReadLike_readUnnamed (areLike : AreLike tokens others) :
    Option.Rel (IsReadLike ParameterEntry.IsLike) (readUnnamed tokens) (readUnnamed others) := by
  rw [readUnnamed, readUnnamed]
  rcases cases_of_rel (isReadLike_readType .enclosed areLike) with
    ⟨none, otherNone⟩ | ⟨⟨⟨taken⟩, rest⟩, ⟨⟨otherTaken⟩, otherRest⟩, found, otherFound, typed⟩
  · rw [none, otherNone]
    exact .none
  · rw [found, otherFound]
    refine .some ?_
    have takenIsLike : AreLike taken otherTaken := typed.part.tokens
    rcases takenIsLike with _ | ⟨firstIsLike, _ | ⟨secondIsLike, moreAreLike⟩⟩
    · exact ⟨.unnamed typed.part, typed.rest⟩
    · -- a type of one token is a name
      have isName := (kind_of_readType found).2
      exact ⟨.lone firstIsLike (firstIsLike.name isName), typed.rest⟩
    · exact ⟨.unnamed typed.part, typed.rest⟩

private theorem isReadLike_readEntry (areLike : AreLike tokens others) :
    Option.Rel (IsReadLike ParameterEntry.IsLike) (readEntry tokens) (readEntry others) :=
  rel_or (isReadLike_readVariadic areLike)
    (rel_or (isReadLike_readNamed areLike) (isReadLike_readUnnamed areLike))

private theorem forall₂_leadingComments (areLike : AreLike tokens others) :
    List.Forall₂ ParameterEntry.IsLike (leadingComments tokens) (leadingComments others) := by
  cases areLike with
  | nil => exact .nil
  | cons isLike _ =>
      rw [leadingComments, leadingComments, List.forall₂_map_left_iff, List.forall₂_map_right_iff]
      exact isLike.comments.imp fun _ _ same => .comment same.2

private theorem isReadLike_readEntries (count : Nat) (areLike : AreLike tokens others) :
    Option.Rel (IsReadLike (List.Forall₂ ParameterEntry.IsLike)) (readEntries count tokens)
      (readEntries count others) := by
  induction count generalizing tokens others with
  | zero => exact .none
  | succ count inductionHypothesis =>
      have leading := forall₂_leadingComments areLike
      cases areLike with
      | nil => exact .none
      | @cons first otherFirst rest otherRest firstIsLike restAreLike =>
          have isEntry := isReadLike_readEntry (.cons firstIsLike restAreLike)
          rw [readEntries, readEntries, firstIsLike.isFixed]
          split
          · exact .some ⟨leading, restAreLike⟩
          · refine rel_bind isEntry fun {entry otherEntry} entryIsLike => ?_
            obtain ⟨entry, after⟩ := entry
            obtain ⟨otherEntry, otherAfter⟩ := otherEntry
            obtain ⟨isLike, afterIsLike⟩ := entryIsLike
            have front := List.rel_append leading (.cons isLike .nil)
            have behind := List.rel_append front (forall₂_leadingComments afterIsLike)
            cases afterIsLike with
            | nil => exact .none
            | cons markIsLike laterAreLike =>
                dsimp only
                rw [markIsLike.isFixed, markIsLike.isFixed]
                split
                · exact rel_bind (inductionHypothesis laterAreLike) fun later =>
                    .some ⟨List.rel_append behind later.part, later.rest⟩
                · split
                  · exact .some ⟨behind, laterAreLike⟩
                  · exact .none

/-- Items of the same form with types that are alike. -/
inductive ParameterItem.IsLike : ParameterItem → ParameterItem → Prop
  | declared (names : List String) {type otherType : TypeSyntax}
      (typeIsLike : type.IsLike otherType) :
      IsLike (.declared names type) (.declared names otherType)
  | variadic (name : Option String) {type otherType : TypeSyntax}
      (typeIsLike : type.IsLike otherType) :
      IsLike (.variadic name type) (.variadic name otherType)
  | comment {text other : String} (isLike : IsCommentLike text other) :
      IsLike (.comment text) (.comment other)

abbrev AreItemsLike (items others : List ParameterItem) : Prop :=
  List.Forall₂ ParameterItem.IsLike items others

def AreSameNames (names others : List Token) : Prop :=
  List.Forall₂ (fun name other => Token.IsLike name other ∧ other.name = name.name) names others

private theorem areItemsLike_asTypes {names others : List Token}
    (same : AreSameNames names others) :
    AreItemsLike (asTypes names) (asTypes others) := by
  rw [asTypes, asTypes, AreItemsLike, List.forall₂_map_left_iff, List.forall₂_map_right_iff]
  exact same.imp fun _ _ same => .declared [] ⟨.cons same.1 .nil⟩

theorem AreSameNames.map_name {names others : List Token} (same : AreSameNames names others) :
    others.map Token.name = names.map Token.name := by
  induction same with
  | nil => rfl
  | cons first _ inductionHypothesis =>
      rw [List.map_cons, List.map_cons, first.2, inductionHypothesis]

theorem AreSameNames.drop {names others : List Token} (same : AreSameNames names others)
    (count : Nat) : AreSameNames (names.drop count) (others.drop count) :=
  List.forall₂_drop count same

private theorem areItemsLike_grouped {pending otherPending : List Token}
    {entries otherEntries : List ParameterEntry} (same : AreSameNames pending otherPending)
    (areLike : List.Forall₂ ParameterEntry.IsLike entries otherEntries) :
    AreItemsLike (grouped pending entries) (grouped otherPending otherEntries) := by
  induction areLike generalizing pending otherPending with
  | nil => exact areItemsLike_asTypes same
  | cons first _ inductionHypothesis =>
      have later := inductionHypothesis .nil
      cases first with
      | lone isLike sameName =>
          exact inductionHypothesis (List.rel_append same (.cons ⟨isLike, sameName⟩ .nil))
      | @named name other _ _ isLike sameName typeIsLike =>
          have names : AreSameNames (pending ++ [name]) (otherPending ++ [other]) :=
            List.rel_append same (.cons ⟨isLike, sameName⟩ .nil)
          rw [grouped, grouped, List.Forall₂.length_eq names, (names.drop _).map_name]
          exact List.rel_append (areItemsLike_asTypes (List.forall₂_take _ names))
            (.cons (.declared _ typeIsLike) later)
      | unnamed typeIsLike =>
          exact List.rel_append (areItemsLike_asTypes same) (.cons (.declared [] typeIsLike) later)
      | variadic sameName typeIsLike =>
          rw [grouped, grouped, sameName]
          exact List.rel_append (areItemsLike_asTypes same) (.cons (.variadic _ typeIsLike) later)
      | comment isLike => exact .cons (.comment isLike) (inductionHypothesis same)

private theorem isReadLike_readParameters (areLike : AreLike tokens others) :
    Option.Rel (IsReadLike AreItemsLike) (readParameters tokens) (readParameters others) := by
  have listed {tokens others : List Token} (areLike : AreLike tokens others) :
      Option.Rel (IsReadLike AreItemsLike)
        ((readEntries tokens.length tokens).map fun read => (grouped [] read.1, read.2))
        ((readEntries others.length others).map fun read => (grouped [] read.1, read.2)) := by
    rw [areLike.length_eq]
    exact rel_map (isReadLike_readEntries _ areLike) fun read =>
      ⟨areItemsLike_grouped .nil read.part, read.rest⟩
  rcases areLike with _ | ⟨openingIsLike, restAreLike⟩
  · exact .none
  · rw [readParameters.eq_def, readParameters.eq_def]
    dsimp only
    rw [openingIsLike.isFixed]
    split
    · exact .none
    · rcases restAreLike with _ | ⟨commaIsLike, _ | ⟨closingIsLike, afterAreLike⟩⟩
      · exact listed .nil
      · exact listed (.cons commaIsLike .nil)
      · have behind := List.Forall₂.cons closingIsLike afterAreLike
        dsimp only
        rw [commaIsLike.isFixed, closingIsLike.isFixed]
        split
        · refine .some ⟨areItemsLike_grouped .nil ?_, afterAreLike⟩
          exact List.rel_append (forall₂_leadingComments (.cons commaIsLike behind))
            (forall₂_leadingComments behind)
        · exact listed (.cons commaIsLike behind)

/-! ## Functions -/

/-- Results of the same form with types that are alike. -/
inductive ResultSyntax.IsLike : ResultSyntax → ResultSyntax → Prop
  | absent : IsLike .absent .absent
  | single {type otherType : TypeSyntax} (typeIsLike : type.IsLike otherType) :
      IsLike (.single type) (.single otherType)
  | listed {items others : List ParameterItem} (areLike : AreItemsLike items others) :
      IsLike (.listed items) (.listed others)

/-- Functions of the same name with parameters and results that are alike. -/
structure FunctionDeclaration.IsLike (declaration other : FunctionDeclaration) : Prop where
  name : other.name = declaration.name
  parameters : AreItemsLike declaration.parameters other.parameters
  result : declaration.result.IsLike other.result

private theorem isReadLike_readResult (areLike : AreLike tokens others) :
    IsReadLike ResultSyntax.IsLike (readResult tokens) (readResult others) := by
  rw [readResult, readResult, Pattern.endsHere_eq .tail areLike]
  split
  · exact ⟨.absent, areLike⟩
  · rcases cases_of_rel (isReadLike_readParameters areLike) with
      ⟨none, otherNone⟩ | ⟨⟨items, rest⟩, ⟨otherItems, otherRest⟩, found, otherFound, read⟩
    · rw [none, otherNone]
      dsimp only
      rcases cases_of_rel (isReadLike_readType .tail areLike) with
        ⟨none, otherNone⟩ | ⟨⟨type, rest⟩, ⟨otherType, otherRest⟩, found, otherFound, read⟩
      · rw [none, otherNone]
        exact ⟨.absent, areLike⟩
      · rw [found, otherFound]
        exact ⟨.single read.part, read.rest⟩
    · rw [found, otherFound]
      exact ⟨.listed read.part, read.rest⟩

private theorem areLike_getD {rest otherRest : Option (List Token)}
    (areLike : AreLike tokens others)
    (rel : Option.Rel AreLike rest otherRest) :
    AreLike (rest.getD tokens) (otherRest.getD others) := by
  cases rel with
  | none => exact areLike
  | some restAreLike => exact restAreLike

private theorem areLike_afterOptional (rule : Rule) (areLike : AreLike tokens others) :
    AreLike (afterOptional rule tokens) (afterOptional rule others) := by
  rw [afterOptional, afterOptional, Pattern.endsHere_eq .tail areLike]
  split
  · exact areLike
  · exact areLike_getD areLike (rule.takesAlike_recognise .tail areLike)

private theorem isReadLike_readFunction (areLike : AreLike tokens others) :
    Option.Rel (IsReadLike FunctionDeclaration.IsLike) (readFunction tokens)
      (readFunction others) := by
  rcases areLike with _ | ⟨wordIsLike, _ | ⟨nameIsLike, restAreLike⟩⟩
  · exact .none
  · exact .none
  · rw [readFunction, readFunction, wordIsLike.isFixed, nameIsLike.lexeme.kind]
    split
    · rename_i isNamed
      rw [Bool.and_eq_true, decide_eq_true_eq] at isNamed
      have afterName := areLike_getD restAreLike
        (Rule.typeParameters.takesAlike_recognise .enclosed restAreLike)
      refine rel_bind (isReadLike_readParameters afterName) fun {found otherFound} read => ?_
      obtain ⟨parameters, afterParameters⟩ := found
      obtain ⟨otherParameters, otherAfter⟩ := otherFound
      have result := isReadLike_readResult read.rest
      exact .some ⟨⟨nameIsLike.text (.inl isNamed.2), read.part, result.part⟩,
        areLike_afterOptional .block result.rest⟩
    · exact .none

private theorem takesAlike_afterOther : TakesAlike afterOther := by
  intro tokens others areLike
  cases areLike with
  | nil => exact .none
  | cons firstIsLike restAreLike =>
      have all := List.Forall₂.cons firstIsLike restAreLike
      rw [afterOther, afterOther, firstIsLike.isFixed]
      split
      · exact .some restAreLike
      · exact rel_or
          (rel_or (Rule.packageClause.takesAlike_recognise .tail all)
            (Rule.importDeclaration.takesAlike_recognise .tail all))
          (rel_or (Rule.methodDeclaration.takesAlike_recognise .tail all)
            (Rule.statement.takesAlike_recognise .tail all))

/-! ## Children of files -/

/-- Contents of the same form, functions that are alike. -/
inductive NodeContent.IsLike : NodeContent → NodeContent → Prop
  | function {declaration other : FunctionDeclaration} (isLike : declaration.IsLike other) :
      IsLike (.function declaration) (.function other)
  | other : IsLike .other .other

/-- Nodes on the same rows with contents that are alike. -/
structure Node.IsLike (node other : Node) : Prop where
  content : node.content.IsLike other.content
  start : other.start.row = node.start.row
  stop : other.stop.row = node.stop.row

/-- Comments on the same rows that differ in their returns only. -/
structure Comment.IsLike (comment other : Comment) : Prop where
  text : IsCommentLike comment.text other.text
  start : other.start.row = comment.start.row
  stop : other.stop.row = comment.stop.row

/-- Children of the same form, comments and nodes that are alike. -/
inductive RootChild.IsLike : RootChild → RootChild → Prop
  | comment {comment other : Comment} (isLike : comment.IsLike other) :
      IsLike (.comment comment) (.comment other)
  | mark (start stop otherStart otherStop : Position) :
      IsLike (.mark start stop) (.mark otherStart otherStop)
  | node {node other : Node} (isLike : node.IsLike other) : IsLike (.node node) (.node other)

abbrev AreChildrenLike (children others : List RootChild) : Prop :=
  List.Forall₂ RootChild.IsLike children others

private theorem isReadLike_readContent (areLike : AreLike tokens others) :
    Option.Rel (IsReadLike NodeContent.IsLike) (readContent tokens) (readContent others) := by
  rw [readContent, readContent]
  rcases cases_of_rel (isReadLike_readFunction areLike) with
    ⟨none, otherNone⟩ | ⟨⟨declaration, rest⟩, ⟨other, otherRest⟩, found, otherFound, read⟩
  · rw [none, otherNone]
    exact rel_map (takesAlike_afterOther areLike) fun restAreLike => ⟨.other, restAreLike⟩
  · rw [found, otherFound]
    exact .some ⟨.function read.part, read.rest⟩

private theorem rel_head? (areLike : AreLike tokens others) :
    Option.Rel Token.IsLike tokens.head? others.head? := by
  cases areLike with
  | nil => exact .none
  | cons isLike _ => exact .some isLike

private theorem rel_getLast? (areLike : AreLike tokens others) :
    Option.Rel Token.IsLike tokens.getLast? others.getLast? := by
  rw [← List.head?_reverse, ← List.head?_reverse]
  exact rel_head? (List.forall₂_reverse_iff.mpr areLike)

private theorem isReadLike_readNode (areLike : AreLike tokens others) :
    Option.Rel (IsReadLike Node.IsLike) (readNode tokens) (readNode others) := by
  rw [readNode, readNode]
  refine rel_bind (isReadLike_readContent areLike) fun {found otherFound} read => ?_
  obtain ⟨content, rest⟩ := found
  obtain ⟨otherContent, otherRest⟩ := otherFound
  have taken := areLike_consumed areLike read.rest
  refine rel_bind (rel_head? taken) fun first => ?_
  refine rel_bind (rel_getLast? taken) fun last => ?_
  exact .some ⟨⟨read.part, first.lexeme.start, last.lexeme.stop⟩, read.rest⟩

private theorem areChildrenLike_commentChildren (isLike : token.IsLike other) :
    AreChildrenLike (commentChildren token) (commentChildren other) := by
  rw [commentChildren, commentChildren, AreChildrenLike, List.forall₂_map_left_iff,
    List.forall₂_map_right_iff]
  exact isLike.comments.imp fun _ _ same => .comment ⟨same.2, same.1.start, same.1.stop⟩

private theorem isReadLike_readTerminator (areLike : AreLike tokens others) :
    Option.Rel (IsReadLike AreChildrenLike) (readTerminator tokens) (readTerminator others) := by
  cases areLike with
  | nil => exact .none
  | cons firstIsLike restAreLike =>
      rw [readTerminator, readTerminator, firstIsLike.startsLine, firstIsLike.isFinish,
        firstIsLike.isFixed]
      split
      · exact .some ⟨.nil, .cons firstIsLike restAreLike⟩
      · split
        · exact .some ⟨List.rel_append (areChildrenLike_commentChildren firstIsLike)
            (.cons (.mark _ _ _ _) .nil), restAreLike⟩
        · exact .none

/-- Tokens that are alike give children that are alike, or neither of them can be read. -/
theorem areChildrenLike_readChildren (count : Nat) (areLike : AreLike tokens others) :
    Option.Rel AreChildrenLike (readChildren count tokens).toOption
      (readChildren count others).toOption := by
  induction count generalizing tokens others with
  | zero => exact .none
  | succ count inductionHypothesis =>
      cases areLike with
      | nil => exact .some .nil
      | @cons first otherFirst rest otherRest firstIsLike restAreLike =>
          have front := areChildrenLike_commentChildren firstIsLike
          rw [readChildren, readChildren, firstIsLike.isFinish]
          split
          · exact .some front
          · rcases cases_of_rel (isReadLike_readNode (.cons firstIsLike restAreLike)) with
              ⟨none, otherNone⟩ | ⟨⟨node, after⟩, ⟨other, otherAfter⟩, found, otherFound, read⟩
            · rw [none, otherNone]
              exact .none
            · rw [found, otherFound]
              dsimp only
              rcases cases_of_rel (isReadLike_readTerminator read.rest) with
                ⟨none, otherNone⟩ |
                  ⟨⟨marks, rest⟩, ⟨otherMarks, otherRest⟩, ended, otherEnded, isEnd⟩
              · rw [none, otherNone]
                exact .none
              · rw [ended, otherEnded]
                dsimp only
                rw [Traversal.toOption_map, Traversal.toOption_map]
                exact rel_map (inductionHypothesis isEnd.rest) fun later =>
                  List.rel_append (List.rel_append front (.cons (.node read.part) isEnd.part)) later

/-! ## Sources -/

/-- A source and the source with returns have children that are alike, or neither can be read. -/
theorem areChildrenLike_readSource {source : String} (unbroken : HasUnbrokenTexts source) :
    Option.Rel AreChildrenLike (readSource source).toOption
      (readSource (sourceWithReturns source)).toOption := by
  have areLike := areLike_tokens unbroken
  rw [readSource, readSource, ← areLike.length_eq]
  exact areChildrenLike_readChildren _ areLike

private theorem exists_token_of_mem (lead : List Lexeme) (position : Position)
    {lexemes : List Lexeme}
    {lexeme : Lexeme} (member : lexeme ∈ lexemes)
    (isWord : ¬ (lexeme.kind = .blank ∨ lexeme.kind = .comment)) :
    ∃ token ∈ tokensAfter lead position lexemes, token.lexeme = lexeme := by
  induction lexemes generalizing lead position with
  | nil => cases member
  | cons first rest inductionHypothesis =>
      rw [tokensAfter]
      rcases List.mem_cons.mp member with rfl | inRest
      · rw [if_neg isWord]
        exact ⟨_, List.mem_cons_self, rfl⟩
      · split
        · exact inductionHypothesis _ _ inRest
        · obtain ⟨token, isToken, same⟩ := inductionHypothesis _ _ inRest
          exact ⟨token, List.mem_cons_of_mem _ isToken, same⟩

/-- A source with returns cannot be read if a line ends inside an interpreted text. -/
theorem hasUnbrokenTexts_of_readSource {source : String} {children : List RootChild}
    (read : readSource (sourceWithReturns source) = .ok children) : HasUnbrokenTexts source := by
  rcases areLexedAlike_lexemes source with ⟨-, unbroken⟩ | ⟨-, lexeme, member, unknown⟩
  · exact unbroken
  · obtain ⟨token, isToken, same⟩ :=
      exists_token_of_mem [] .origin member (by rw [unknown]; decide)
    have isKind : token.lexeme.kind = .unknown := by rw [same, unknown]
    have readable := (readable_of_readSource read).1 token isToken (by
      rw [Token.isFinish, isKind]
      rfl)
    exact absurd isKind readable.1

end AddonBindings.Go
