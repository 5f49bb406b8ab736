import StackScript.Proofs.Compilation
import StackScript.Proofs.Compilation.Grammar
import StackScript.Proofs.Token.Partition
import StackScript.Proofs.Tree.Coverage
import StackScript.Proofs.Tree.Denotation

/-!
# Interning

The table of a script without faults has one symbol for each variable, string and integer that the
script mentions, in the order of their first mentions, and every node refers to the symbol of what
its token mentions.
-/

namespace StackScript

/-! ## What nodes refer to -/

/-- Whether nodes of a kind refer to symbols that stand for something. -/
def Kind.mentions : Kind → Content → Bool
  | .identifier, .identifier | .assign, .identifier | .input, .identifier => true
  | .stringConstant, .string _ => true
  | .integerConstant, .integer _ => true
  | _, _ => false

/-- Symbols of one token stand for the same. -/
theorem Kind.mentions_congr {left right : Symbol} (kind : Kind)
    (same : left.token = right.token) :
    kind.mentions left.content = kind.mentions right.content := by
  unfold Symbol.token at same
  split at same <;> split at same <;> simp_all

/-- The token of the symbol of a number, if nodes of a kind refer to such symbols. -/
def SymbolTable.mention? (table : SymbolTable) (kind : Kind) (id : SymbolId) : Option Token :=
  ((table.get? id).filter (kind.mentions ·.content)).map Symbol.token

/-- What the nodes of a term refer to, in the order of their tokens. -/
def Term.mentions (table : SymbolTable) : Term → List (Option Token)
  | identifier symbol => [table.mention? .identifier symbol]
  | stringConstant symbol => [table.mention? .stringConstant symbol]
  | integerConstant symbol => [table.mention? .integerConstant symbol]
  | input target => [table.mention? .input target]
  | assign target value => table.mention? .assign target :: value.mentions table
  | sequence first second => first.mentions table ++ second.mentions table
  | evaluate value | print value => value.mentions table
  | ifThen condition body => condition.mentions table ++ body.mentions table
  | ifElse condition body otherwise =>
      condition.mentions table ++ (body.mentions table ++ otherwise.mentions table)
  | equals left right | add left right => left.mentions table ++ right.mentions table
  | coerceToString operand | coerceToInteger operand => operand.mentions table
  | empty | error => []

namespace Term

variable (table : SymbolTable)

@[simp] theorem mentions_addend (left : Ty) (right : Term) :
    (addend left right).mentions table = right.mentions table := by
  unfold addend
  split
  next coercion _ => cases coercion <;> rfl
  · rfl
  · rfl

theorem mentions_inTurn (terms : List Term) :
    (inTurn terms).mentions table = terms.flatMap (mentions table) := by
  cases terms with
  | nil => rfl
  | cons first rest =>
      rw [inTurn]
      induction rest generalizing first with
      | nil => simp
      | cons next rest induction =>
          rw [List.foldl_cons, induction, List.flatMap_cons, mentions, List.append_assoc,
            ← List.flatMap_cons, ← List.flatMap_cons]

end Term

namespace Form

variable {table : SymbolTable} {form : Form} {child : NodeId → Term}

theorem mention?_mem {symbol : SymbolId} (refers : form.symbol? = some symbol) :
    table.mention? form.kind symbol ∈ (form.toTerm child).mentions table := by
  cases form <;> cases refers <;> exact List.mem_cons_self

theorem mentions_subset {id : NodeId} (member : id ∈ form.children) :
    (child id).mentions table ⊆ (form.toTerm child).mentions table := by
  intro token inside
  cases form <;> simp_all [children, toTerm, Term.mentions] <;> grind

end Form

/-- What a node under another one refers to is among what the term of that one refers to. -/
theorem Tree.Built.mentions_subset {tree : Tree} (built : tree.Built) {root id : NodeId}
    (under : tree.Under root id) (table : SymbolTable) :
    (tree.term id).mentions table ⊆ (tree.term root).mentions table := by
  induction under with
  | root => exact fun _ member => member
  | child _ found member induction =>
      rw [built.term_eq found] at induction
      exact List.Subset.trans (Form.mentions_subset member) induction

namespace SymbolTable

variable {table : SymbolTable} {symbols : List Symbol} {symbol : Symbol}

/-- The number of a symbol's name is that of a symbol of the same token. -/
def Finds (table : SymbolTable) (symbol : Symbol) : Prop :=
  ∃ entry, table.get? (table.idOf symbol.name) = some entry ∧ entry.token = symbol.token

theorem Finds.mention?_eq (finds : table.Finds symbol) {kind : Kind}
    (refers : kind.mentions symbol.content = true) :
    table.mention? kind (table.idOf symbol.name) = some symbol.token := by
  obtain ⟨entry, found, same⟩ := finds
  rw [mention?, found, Option.filter_some, if_pos ((kind.mentions_congr same).trans refers),
    Option.map_some, same]

/-- A table finds the symbols that were added to it, if they are lawful. -/
theorem finds_addAll (lawful : ∀ symbol ∈ symbols, symbol.Lawful) (member : symbol ∈ symbols) :
    (empty.addAll symbols).Finds symbol := by
  obtain ⟨entry, inside, found, same⟩ := exists_get?_idOf (name_mem_addAll empty member)
  have added : entry ∈ symbols := (mem_addAll inside).resolve_left List.not_mem_nil
  exact ⟨entry, found, ((lawful entry added).token_eq_iff (lawful symbol member)).2 same⟩

end SymbolTable

/-- The nodes of an expression refer to what it mentions. -/
theorem Expression.mentions_term {table : SymbolTable} (expression : Expression)
    (lawful : expression.Lawful) (found : ∀ symbol ∈ expression.mentions, table.Finds symbol) :
    (expression.term table.idOf).mentions table =
      expression.mentions.map fun symbol => some symbol.token := by
  induction expression with
  | atom symbol line =>
      have finds := found symbol (List.mem_singleton_self _)
      simp only [term, mentions, List.map_cons, List.map_nil]
      split <;> rename_i content <;>
        exact congrArg (· :: []) (finds.mention?_eq (by rw [content]; rfl))
  | assign target value line induction =>
      obtain ⟨⟨-, variable'⟩, lawful⟩ := lawful
      obtain ⟨first, others⟩ := List.forall_mem_cons.1 found
      rw [term, mentions, Term.mentions, List.map_cons, induction lawful others,
        first.mention?_eq (by rw [variable']; rfl)]
  | equals left right line inductionLeft inductionRight
  | add left right line inductionLeft inductionRight =>
      obtain ⟨first, second⟩ := List.forall_mem_append.1 found
      simp only [term, mentions, Term.mentions, Term.mentions_addend, List.map_append,
        inductionLeft lawful.1 first, inductionRight lawful.2 second]

namespace Statement

mutual

/-- The nodes of a statement refer to what it mentions, if nothing of it was given up. -/
theorem mentions_term {table : SymbolTable} (statement : Statement) (lawful : statement.Lawful)
    (whole : statement.isWhole = true)
    (found : ∀ symbol ∈ statement.mentions, table.Finds symbol) :
    (statement.term table.idOf).mentions table =
      statement.mentions.map fun symbol => some symbol.token := by
  cases lawful with
  | empty line => rfl
  | evaluate line evaluated => exact Expression.mentions_term _ evaluated found
  | print line printed => exact Expression.mentions_term _ printed found
  | @input target line named variable' =>
      have finds := found target (List.mem_singleton_self _)
      exact congrArg (· :: []) (finds.mention?_eq (by rw [variable']; rfl))
  | @ifThen condition body line decided runs =>
      obtain ⟨first, second⟩ := List.forall_mem_append.1 found
      rw [term, mentions, Term.mentions, List.map_append, condition.mentions_term decided first,
        mentions_term body runs whole second]
  | @ifElse condition body otherwise line decided runs elses =>
      rw [isWhole, Bool.and_eq_true] at whole
      obtain ⟨first, rest⟩ := List.forall_mem_append.1 found
      obtain ⟨second, third⟩ := List.forall_mem_append.1 rest
      rw [term, mentions, Term.mentions, List.map_append, List.map_append,
        condition.mentions_term decided first, mentions_term body runs whole.1 second,
        mentions_term otherwise elses whole.2 third]
  | @block statements line all =>
      rw [term, Term.mentions_inTurn, mentions_terms statements all whole found]
      rfl
  | broken | unclosed => cases whole

theorem mentions_terms {table : SymbolTable} (statements : List Statement)
    (lawful : ∀ statement ∈ statements, statement.Lawful) (whole : areWhole statements = true)
    (found : ∀ symbol ∈ allMentions statements, table.Finds symbol) :
    (terms table.idOf statements).flatMap (Term.mentions table) =
      (allMentions statements).map fun symbol => some symbol.token := by
  cases statements with
  | nil => rfl
  | cons first rest =>
      rw [areWhole, Bool.and_eq_true] at whole
      obtain ⟨head, tail⟩ := List.forall_mem_cons.1 lawful
      obtain ⟨front, back⟩ := List.forall_mem_append.1 found
      rw [terms, allMentions, List.flatMap_cons, List.map_append,
        mentions_term first head whole.1 front, mentions_terms rest tail whole.2 back]

end

end Statement

/-! ## Scripts -/

/-- The end of a script is the last of its significant tokens, and only that. -/
theorem Token.significant_eq_append {text : String} {tokens : List PlacedToken}
    (scanned : Token.ofScript text = .ok tokens) :
    ∃ front last, significant tokens = front ++ [⟨.endOfFile, last⟩] ∧
      ∀ placed ∈ front, placed.token ≠ .endOfFile := by
  obtain ⟨pieces, cut, -⟩ := Cut.of_tokensFrom scanned
  obtain ⟨front, last, rfl, inside⟩ := cut.eq_append
  refine ⟨significant front, last, ?_, fun placed member =>
    inside placed (List.mem_of_mem_filter member)⟩
  rw [significant, List.filter_append]
  rfl

/-- What separates tokens mentions nothing. -/
theorem Token.filter_isMention_significant (tokens : List PlacedToken) :
    ((significant tokens).map PlacedToken.token).filter isMention =
      (tokens.map PlacedToken.token).filter isMention := by
  rw [significant, List.filter_map, List.filter_map, List.filter_filter]
  congr 1
  refine List.filter_congr fun placed _ => ?_
  cases h : placed.token <;> simp [isMention, isSeparator, h]

namespace Compilation

variable {text : String} {tokens : List PlacedToken} {compilation : Compilation}

theorem ofText?_eq (scanned : Token.ofScript text = .ok tokens) :
    ofText? text = .ok (ofTokens (Token.significant tokens)) := by
  rw [ofText?, scanned]
  rfl

section

variable (scanned : Token.ofScript text = .ok tokens)
variable (grammatical : (ofTokens (Token.significant tokens)).draft.Grammatical)

include scanned grammatical

/-- The statements of a script without faults of the grammar mention what its tokens do. -/
theorem allMentions_eq :
    Statement.allMentions (Script.ofTokens (Token.significant tokens)).statements =
      Token.mentions (Token.significant tokens) := by
  have whole := (grammatical_iff_areWhole _).1 grammatical
  obtain ⟨front, last, shape, inside⟩ := Token.significant_eq_append scanned
  rw [shape] at whole ⊢
  exact (Script.mentions_ofTokens inside whole).symm

theorem symbols_eq :
    (ofTokens (Token.significant tokens)).draft.symbols =
      SymbolTable.empty.addAll (Token.mentions (Token.significant tokens)) := by
  rw [symbols_ofTokens, allMentions_eq scanned grammatical]

/-- Its table has the tokens that mention something, each where it stands first. -/
theorem map_token_symbols :
    (ofTokens (Token.significant tokens)).draft.symbols.symbols.map Symbol.token =
      ((tokens.map PlacedToken.token).filter Token.isMention).eraseDups := by
  have named := Token.lawful_of_mem_mentions (Token.lawful_significant scanned)
  rw [symbols_eq scanned grammatical, SymbolTable.map_addAll_empty Symbol.token
    fun left first right second => (named left first).token_eq_iff (named right second),
    Token.map_token_mentions, Token.filter_isMention_significant]

theorem nodup_names :
    ((ofTokens (Token.significant tokens)).draft.symbols.symbols.map Symbol.name).Nodup := by
  have none : (SymbolTable.empty.symbols.map Symbol.name).Nodup := List.nodup_nil
  rw [symbols_eq scanned grammatical]
  exact SymbolTable.nodup_addAll none _

/-- Its nodes refer to what its tokens mention, in order. -/
theorem mentions_term :
    (ofTokens (Token.significant tokens)).term.mentions
        (ofTokens (Token.significant tokens)).draft.symbols =
      ((tokens.map PlacedToken.token).filter Token.isMention).map some := by
  have lawful := Token.lawful_significant scanned
  have same := allMentions_eq scanned grammatical
  have found : ∀ symbol ∈ Statement.allMentions
      (Script.ofTokens (Token.significant tokens)).statements,
        (ofTokens (Token.significant tokens)).draft.symbols.Finds symbol := by
    intro symbol member
    rw [symbols_ofTokens]
    exact SymbolTable.finds_addAll (same ▸ Token.lawful_of_mem_mentions lawful) member
  rw [term_ofTokens, Term.mentions_inTurn, Statement.mentions_terms _
    (Script.lawful_ofTokens lawful) ((grammatical_iff_areWhole _).1 grammatical) found, same,
    ← Token.filter_isMention_significant, ← Token.map_token_mentions, List.map_map]
  rfl

/-- Each of its nodes refers to what one of its tokens mentions. -/
theorem exists_mention?_eq {id : NodeId} {node : Node} {symbol : SymbolId}
    (found : (ofTokens (Token.significant tokens)).draft.tree.get? id = some node)
    (refers : node.form.symbol? = some symbol) :
    ∃ token ∈ (tokens.map PlacedToken.token).filter Token.isMention,
      (ofTokens (Token.significant tokens)).draft.symbols.mention? node.form.kind symbol =
        some token := by
  have built := Script.built_draft (Script.ofTokens (Token.significant tokens))
  have under := Script.under_draft _ ((grammatical_iff_areWhole _).1 grammatical)
    (Array.getElem?_eq_some_iff.1 found).1
  have inside := built.mentions_subset under (ofTokens (Token.significant tokens)).draft.symbols
    (built.term_eq found ▸ Form.mention?_mem refers)
  have all := mentions_term scanned grammatical
  rw [term] at all
  obtain ⟨token, member, same⟩ := List.mem_map.1 (all ▸ inside)
  exact ⟨token, member, same.symm⟩

end

/-- A script without faults of the grammar has one symbol for each variable, string and integer
that its tokens mention, in the order of their first mentions, and no name twice. Read in order, its
nodes refer to the symbols of the tokens that mention something, which stand for what nodes of their
kind refer to, and no node refers to anything else. In the program, each symbol has its number as
its slot, and a cell that holds what it stands for. -/
theorem interns_mentions (scanned : Token.ofScript text = .ok tokens)
    (read : ofText? text = .ok compilation) (grammatical : compilation.draft.Grammatical) :
    let mentioned := (tokens.map PlacedToken.token).filter Token.isMention
    let table := compilation.draft.symbols
    table.symbols.map Symbol.token = mentioned.eraseDups ∧
      (table.symbols.map Symbol.name).Nodup ∧
      compilation.term.mentions table = mentioned.map some ∧
      (∀ id node symbol, compilation.draft.tree.get? id = some node →
        node.form.symbol? = some symbol →
          ∃ token ∈ mentioned, table.mention? node.form.kind symbol = some token) ∧
      ∀ program, compilation.program? = .ok program → program.cells.length = table.size ∧
        ∀ id symbol, table.get? id = some symbol →
          compilation.symbols.get? id = some { symbol with slot := some id } ∧
            program.cells[id]? = some symbol.content.cell := by
  intro mentioned table
  obtain rfl := Except.ok.inj ((ofText?_eq scanned).symm.trans read)
  refine ⟨map_token_symbols scanned grammatical, nodup_names scanned grammatical,
    mentions_term scanned grammatical, fun id node symbol found refers =>
      exists_mention?_eq scanned grammatical found refers, fun program made => ?_⟩
  obtain ⟨-, -, rfl⟩ := eq_of_program? read made
  refine ⟨SymbolTable.length_cells _, fun id symbol found => ⟨?_, ?_⟩⟩
  · rw [Compilation.symbols, SymbolTable.assignSlots, SymbolTable.get?, List.getElem?_mapIdx]
    exact congrArg (Option.map _) found
  · exact List.getElem?_map.trans (congrArg (Option.map _) found)

/-- A script in which a variable, strings and integers are spelled alike. -/
def lookalikes : String :=
  "x = \"x\" + 01 + \"1\" + 1; if (x == \"\") input y;"

theorem interns_mentions_lookalikes :
    ∃ tokens compilation program, Token.ofScript lookalikes = .ok tokens ∧
      ofText? lookalikes = .ok compilation ∧ compilation.draft.Grammatical ∧
      compilation.program? = .ok program ∧
      compilation.draft.symbols.symbols.map Symbol.token =
        [.identifier "x", .string "x", .integer 1, .string "1", .string "", .identifier "y"] ∧
      ∀ symbol, compilation.draft.symbols.get? 3 = some symbol →
        program.cells[3]? = some symbol.content.cell := by
  have facts : ((Token.ofScript lookalikes).toOption.bind fun tokens =>
      (ofText? lookalikes).toOption.bind fun compilation =>
        compilation.program?.toOption.map fun program =>
          (compilation.draft.diagnostics.toList,
            compilation.draft.symbols.symbols.map Symbol.token)) =
        some ([], [.identifier "x", .string "x", .integer 1, .string "1", .string "",
          .identifier "y"]) := by decide +kernel
  obtain ⟨tokens, scanned, facts⟩ := Option.bind_eq_some_iff.1 facts
  obtain ⟨compilation, read, facts⟩ := Option.bind_eq_some_iff.1 facts
  obtain ⟨program, made, facts⟩ := Option.map_eq_some_iff.1 facts
  rw [Result.toOption_eq_some_iff] at scanned read made
  obtain ⟨clean, symbols⟩ := Prod.mk.inj facts
  have grammatical := Draft.grammatical_of_clean clean
  obtain ⟨-, -, -, -, cells⟩ := interns_mentions scanned read grammatical
  exact ⟨tokens, compilation, program, scanned, read, grammatical, made, symbols,
    fun symbol found => ((cells program made).2 3 symbol found).2⟩

/-! ## Lines -/

/-- In a script without faults of the grammar, each symbol has been entered for the line of the
token behind the first one that mentions it, or behind the sign if that one is assigned to. -/
theorem line_of_first_mention (scanned : Token.ofScript text = .ok tokens)
    (read : ofText? text = .ok compilation) (grammatical : compilation.draft.Grammatical) :
    ∀ symbol ∈ compilation.draft.symbols.symbols, ∃ front placed rest,
      Token.significant tokens = front ++ placed :: rest ∧ placed.token = symbol.token ∧
        symbol.token ∉ front.map PlacedToken.token ∧ symbol.line = placed.entryLine rest := by
  intro symbol member
  obtain rfl := Except.ok.inj ((ofText?_eq scanned).symm.trans read)
  have named := Token.lawful_of_mem_mentions (Token.lawful_significant scanned)
  rw [symbols_eq scanned grammatical] at member
  obtain ⟨before, after, shape, new⟩ := SymbolTable.exists_first_of_mem_addAll member
  obtain ⟨front, placed, rest, whole, found, -, earlier⟩ :=
    Token.exists_of_mentions_eq_append shape
  have mentions := Symbol.token_of_mention? found
  refine ⟨front, placed, rest, whole, mentions.symm, fun again => ?_, ?_⟩
  · have mentioned : symbol.token ∈ (front.map PlacedToken.token).filter Token.isMention :=
      List.mem_filter.2 ⟨again, mentions ▸ Token.isMention_iff.2 ⟨symbol, found⟩⟩
    rw [earlier] at mentioned
    obtain ⟨other, first, same⟩ := List.mem_map.1 mentioned
    have here : symbol ∈ before ++ symbol :: after :=
      List.mem_append_right _ List.mem_cons_self
    have alike := ((named other (shape ▸ List.mem_append_left _ first)).token_eq_iff
      (named symbol (shape ▸ here))).1 same
    exact new (alike ▸ List.mem_map_of_mem first)
  · exact Token.line_of_mention? found

/-- A script that begins to assign on its first line, and goes on behind the sign on its third. -/
def spreadAssignment : String := "x =\n\n1;"

theorem line_of_first_mention_spreadAssignment :
    ∃ tokens compilation, Token.ofScript spreadAssignment = .ok tokens ∧
      ofText? spreadAssignment = .ok compilation ∧ compilation.draft.Grammatical ∧
      Symbol.identifier "x" 3 ∈ compilation.draft.symbols.symbols ∧
      ∃ front placed rest, Token.significant tokens = front ++ placed :: rest ∧
        placed.token = .identifier "x" ∧ placed.entryLine rest = 3 := by
  have facts : ((Token.ofScript spreadAssignment).toOption.bind fun tokens =>
      (ofText? spreadAssignment).toOption.map fun compilation =>
        (compilation.draft.diagnostics.toList, compilation.draft.symbols.symbols)) =
        some ([], [.identifier "x" 3, .integer 1 3]) := by decide +kernel
  obtain ⟨tokens, scanned, facts⟩ := Option.bind_eq_some_iff.1 facts
  obtain ⟨compilation, read, facts⟩ := Option.map_eq_some_iff.1 facts
  rw [Result.toOption_eq_some_iff] at scanned read
  obtain ⟨clean, symbols⟩ := Prod.mk.inj facts
  have grammatical := Draft.grammatical_of_clean clean
  have member : Symbol.identifier "x" 3 ∈ compilation.draft.symbols.symbols :=
    symbols ▸ List.mem_cons_self
  obtain ⟨front, placed, rest, whole, token, -, line⟩ :=
    line_of_first_mention scanned read grammatical _ member
  exact ⟨tokens, compilation, scanned, read, grammatical, member, front, placed, rest, whole, token,
    line.symm⟩

/-- A script whose last sign stands on a line of its own. -/
def signAlone : String := "print x\n;"

/-- The line of a symbol need not be that of the first token that mentions it. -/
theorem not_line_of_mention :
    ∃ tokens compilation, Token.ofScript signAlone = .ok tokens ∧
      ofText? signAlone = .ok compilation ∧ compilation.draft.Grammatical ∧
      ∃ symbol ∈ compilation.draft.symbols.symbols, ∃ front placed rest,
        Token.significant tokens = front ++ placed :: rest ∧ placed.token = symbol.token ∧
          symbol.token ∉ front.map PlacedToken.token ∧ symbol.line ≠ placed.position.line := by
  have facts : ((Token.ofScript signAlone).toOption.bind fun tokens =>
      (ofText? signAlone).toOption.map fun compilation =>
        (Token.significant tokens, compilation.draft.diagnostics.toList,
          compilation.draft.symbols.symbols)) =
        some ([⟨.printKeyword, ⟨1, 1⟩⟩, ⟨.identifier "x", ⟨1, 7⟩⟩, ⟨.semicolon, ⟨2, 1⟩⟩,
          ⟨.endOfFile, ⟨2, 2⟩⟩], [], [.identifier "x" 2]) := by decide +kernel
  obtain ⟨tokens, scanned, facts⟩ := Option.bind_eq_some_iff.1 facts
  obtain ⟨compilation, read, facts⟩ := Option.map_eq_some_iff.1 facts
  rw [Result.toOption_eq_some_iff] at scanned read
  simp only [Prod.mk.injEq] at facts
  obtain ⟨whole, clean, symbols⟩ := facts
  have grammatical := Draft.grammatical_of_clean clean
  exact ⟨tokens, compilation, scanned, read, grammatical, .identifier "x" 2,
    symbols ▸ List.mem_cons_self, [⟨.printKeyword, ⟨1, 1⟩⟩], ⟨.identifier "x", ⟨1, 7⟩⟩, _, whole,
    rfl, by decide, by decide⟩

end Compilation

end StackScript
