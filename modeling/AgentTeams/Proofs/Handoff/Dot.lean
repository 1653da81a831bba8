import AgentTeams.HandoffGraph

/-! Handoff graphs in DOT, read back as Graphviz reads them. A text between quotes ends at the next
quote that no backslash stands in front of, so a graph comes back exactly if no name of an agent has
a quote or ends in a backslash. -/
namespace AgentTeams

namespace Dot

inductive Token where
  | word (letters : List Char)
  | quoted (text : String)
  | mark (c : Char)
deriving DecidableEq

def isLetter (c : Char) : Bool := c.isAlphanum || c = '_'

/-- Put a letter in front of the tokens of the text behind it, which begins with `next`. -/
def putLetter (c : Char) (next : Option Char) : List Token → List Token
  | .word letters :: rest =>
      if next.any isLetter then .word (c :: letters) :: rest else .word [c] :: .word letters :: rest
  | rest => .word [c] :: rest

mutual

/-- The tokens of a text, blanks left out. -/
def tokens : List Char → Option (List Token)
  | [] => some []
  | c :: rest =>
      if c = '"' then (quoted rest).map fun (text, after) => .quoted (String.ofList text) :: after
      else if isLetter c then (tokens rest).map (putLetter c rest.head?)
      else if c.isWhitespace then tokens rest
      else (tokens rest).map (.mark c :: ·)

/-- The text up to the quote that ends it, and the tokens behind that quote. A backslash in front of
a quote stands for the quote, and everything else for itself. -/
def quoted : List Char → Option (List Char × List Token)
  | [] => none
  | '"' :: rest => (tokens rest).map ([], ·)
  | '\\' :: '"' :: rest => (quoted rest).map fun (text, after) => ('"' :: text, after)
  | c :: rest => (quoted rest).map fun (text, after) => (c :: text, after)

end

inductive Statement where
  | node (id label : String)
  | edge (source target : String)
deriving DecidableEq

/-- The statements up to the end of a graph, behind which nothing follows. -/
def statements : List Token → Option (List Statement)
  | [.mark '\x7d'] => some []
  | .quoted id :: .mark '[' :: .word ['l', 'a', 'b', 'e', 'l'] :: .mark '=' :: .quoted label ::
      .mark ']' :: .mark ';' :: rest => (statements rest).map (.node id label :: ·)
  | .quoted source :: .mark '-' :: .mark '>' :: .quoted target :: .mark ';' :: rest =>
      (statements rest).map (.edge source target :: ·)
  | _ => none

/-- The statements of a named digraph. -/
def read (text : String) : Option (List Statement) :=
  match tokens text.toList with
  | some (.word ['d', 'i', 'g', 'r', 'a', 'p', 'h'] :: .word _ :: .mark '\x7b' :: body) =>
      statements body
  | _ => none

/-- A text can stand between quotes as it is. -/
def Quotable (text : List Char) : Prop :=
  '"' ∉ text ∧ text.getLast? ≠ some '\\'

instance (text : List Char) : Decidable (Quotable text) :=
  inferInstanceAs (Decidable (_ ∧ _))

theorem quotable_cons {c : Char} {text : List Char} :
    Quotable (c :: text) ↔ c ≠ '"' ∧ (text = [] → c ≠ '\\') ∧ Quotable text := by
  cases text with
  | nil => simp [Quotable, eq_comm]
  | cons next rest => simp [Quotable, eq_comm, and_assoc]

/-- A character is read as itself, unless it is a quote or a backslash in front of one. -/
theorem quoted_cons {c : Char} {rest : List Char} (noQuote : c ≠ '"')
    (unescaped : rest.head? = some '"' → c ≠ '\\') :
    quoted (c :: rest) = (quoted rest).map fun (text, after) => (c :: text, after) := by
  cases rest with
  | nil => simp [quoted]
  | cons next rest =>
    by_cases escape : next = '"'
    · have plain : c ≠ '\\' := unescaped (congrArg some escape)
      simp [quoted, plain]
    · simp [quoted, escape]

theorem quoted_append_of_quotable {text : List Char} (quotable : Quotable text)
    (rest : List Char) : quoted (text ++ '"' :: rest) = (tokens rest).map (text, ·) := by
  induction text with
  | nil => simp [quoted]
  | cons c text ih =>
    obtain ⟨noQuote, last, quotable⟩ := quotable_cons.mp quotable
    have unescaped : (text ++ '"' :: rest).head? = some '"' → c ≠ '\\' := by
      cases text with
      | nil => exact fun _ => last rfl
      | cons next text =>
        intro same
        exact absurd (Option.some.inj same) (quotable_cons.mp quotable).1
    rw [List.cons_append, quoted_cons noQuote unescaped, ih quotable, Option.map_map]
    rfl

theorem quotable_of_quoted_append {text rest : List Char} {after : List Token}
    (same : quoted (text ++ '"' :: rest) = some (text, after)) : Quotable text := by
  induction text generalizing after with
  | nil => simp [Quotable]
  | cons c text ih =>
    have noQuote : c ≠ '"' := by
      rintro rfl
      simp [quoted] at same
    have unescaped : (text ++ '"' :: rest).head? = some '"' → c ≠ '\\' := by
      rintro begins rfl
      obtain ⟨more, split⟩ := List.head?_eq_some_iff.mp begins
      simp [split, quoted] at same
    rw [List.cons_append, quoted_cons noQuote unescaped] at same
    obtain ⟨⟨read, behind⟩, found, equal⟩ := Option.map_eq_some_iff.mp same
    obtain ⟨⟨_, rfl⟩, rfl⟩ : (c = c ∧ read = text) ∧ behind = after := by simpa using equal
    refine quotable_cons.mpr ⟨noQuote, ?_, ih found⟩
    rintro rfl
    exact unescaped rfl

/-- A text stands for these tokens, whatever follows it. -/
def Stands (text : List Char) (written : List Token) : Prop :=
  ∀ rest, tokens (text ++ rest) = (tokens rest).map (written ++ ·)

theorem Stands.append {text more : List Char} {written others : List Token}
    (first : Stands text written) (second : Stands more others) :
    Stands (text ++ more) (written ++ others) := by
  intro rest
  rw [List.append_assoc, first, second, Option.map_map]
  simp [Function.comp_def]

theorem putLetter_ne_nil (c : Char) (next : Option Char) (written : List Token) :
    putLetter c next written ≠ [] := by
  unfold putLetter
  split
  · split <;> exact List.cons_ne_nil _ _
  · exact List.cons_ne_nil _ _

theorem putLetter_append {next : Option Char} {written : List Token}
    (joined : next.any isLetter = true → written ≠ []) (c : Char) (others : List Token) :
    putLetter c next (written ++ others) = putLetter c next written ++ others := by
  cases written with
  | cons token written =>
    cases token with
    | word letters => simp only [putLetter, List.cons_append]; split <;> rfl
    | quoted text => rfl
    | mark mark => rfl
  | nil =>
    have apart : next.any isLetter = false := by simpa using joined
    cases others with
    | nil => rfl
    | cons token others => cases token <;> simp [putLetter, apart]

theorem ne_nil_of_letter {next : Char} {text : List Char} {written : List Token}
    (found : tokens (next :: text) = some written) (noQuote : next ≠ '"')
    (letter : isLetter next = true) : written ≠ [] := by
  rw [tokens, if_neg noQuote, if_pos letter] at found
  obtain ⟨inner, _, rfl⟩ := Option.map_eq_some_iff.mp found
  exact putLetter_ne_nil next _ inner

/-- Tokens begin anew behind a character that is no letter, so a text that ends in one stands for
its own tokens. -/
theorem stands_of_tokens {text : List Char} {written : List Token}
    (found : tokens text = some written) (noQuote : '"' ∉ text)
    (closed : text.getLast?.any isLetter = false) : Stands text written := by
  induction text generalizing written with
  | nil =>
    obtain rfl : [] = written := by simpa [tokens] using found
    intro rest
    simp
  | cons c text ih =>
    obtain ⟨other, noQuote⟩ : '"' ≠ c ∧ '"' ∉ text := by simpa using noQuote
    have closed' : text.getLast?.any isLetter = false := by
      cases text with
      | nil => rfl
      | cons next text => simpa using closed
    intro rest
    simp only [tokens, List.cons_append, if_neg other.symm] at found ⊢
    by_cases letter : isLetter c = true
    · rw [if_pos letter] at found ⊢
      obtain ⟨inner, behind, rfl⟩ := Option.map_eq_some_iff.mp found
      obtain ⟨next, text, rfl⟩ : ∃ next more, text = next :: more := by
        refine List.exists_cons_of_ne_nil ?_
        rintro rfl
        simp [letter] at closed
      have joined : (some next).any isLetter = true → inner ≠ [] :=
        ne_nil_of_letter behind (fun same => noQuote (by simp [same]))
      rw [ih behind noQuote closed' rest, Option.map_map]
      simp [Function.comp_def, putLetter_append joined]
    · rw [if_neg letter] at found ⊢
      by_cases blank : c.isWhitespace = true
      · rw [if_pos blank] at found ⊢
        exact ih found noQuote closed' rest
      · rw [if_neg blank] at found ⊢
        obtain ⟨inner, behind, rfl⟩ := Option.map_eq_some_iff.mp found
        rw [ih behind noQuote closed' rest, Option.map_map]
        rfl

theorem stands_name {name : String} (quotable : Quotable name.toList) :
    Stands (HandoffGraph.dotName name).toList [.quoted name] := by
  intro rest
  have between : (HandoffGraph.dotName name).toList ++ rest =
      '"' :: (name.toList ++ '"' :: rest) := by
    simp [HandoffGraph.dotName]
  rw [between, tokens, if_pos rfl, quoted_append_of_quotable quotable, Option.map_map]
  simp [Function.comp_def]

/-- The line of an agent. -/
def nodeLine (name : String) : String :=
  "    " ++ HandoffGraph.dotName name ++ " [label=" ++ HandoffGraph.dotName name ++ "];\n"

/-- The line of a transfer. -/
def edgeLine : String × String → String
  | (source, target) =>
      "    " ++ HandoffGraph.dotName source ++ " -> " ++ HandoffGraph.dotName target ++ ";\n"

/-- The statements that stand in a text up to the end of the graph. -/
def body (text : List Char) : Option (List Statement) :=
  (tokens text).bind statements

theorem stands_indent : Stands "    ".toList [] :=
  stands_of_tokens (by decide) (by decide) (by decide)

theorem body_nodeLine {name : String} (quotable : Quotable name.toList) (rest : List Char) :
    body ((nodeLine name).toList ++ rest) = (body rest).map (.node name name :: ·) := by
  have label : Stands " [label=".toList [.mark '[', .word ['l', 'a', 'b', 'e', 'l'], .mark '='] :=
    stands_of_tokens (by decide) (by decide) (by decide)
  have closing : Stands "];\n".toList [.mark ']', .mark ';'] :=
    stands_of_tokens (by decide) (by decide) (by decide)
  have line := (((stands_indent.append (stands_name quotable)).append label).append
    (stands_name quotable)).append closing
  simp only [body, nodeLine, String.toList_append]
  rw [line, Option.bind_map, Option.map_bind]
  rfl

theorem body_edgeLine {source target : String} (quotable : Quotable source.toList)
    (quotable' : Quotable target.toList) (rest : List Char) :
    body ((edgeLine (source, target)).toList ++ rest) =
      (body rest).map (.edge source target :: ·) := by
  have arrow : Stands " -> ".toList [.mark '-', .mark '>'] :=
    stands_of_tokens (by decide) (by decide) (by decide)
  have closing : Stands ";\n".toList [.mark ';'] :=
    stands_of_tokens (by decide) (by decide) (by decide)
  have line := (((stands_indent.append (stands_name quotable)).append arrow).append
    (stands_name quotable')).append closing
  simp only [body, edgeLine, String.toList_append]
  rw [line, Option.bind_map, Option.map_bind]
  rfl

/-- The name that stands first in a statement. -/
def Statement.subject : Statement → String
  | node id _ => id
  | edge source _ => source

theorem subject_of_statements {text : String} {rest : List Token} {first : Statement}
    {more : List Statement} (found : statements (.quoted text :: rest) = some (first :: more)) :
    first.subject = text := by
  unfold statements at found
  split at found
  · rename_i same
    cases same
  · rename_i same
    obtain ⟨_, _, equal⟩ := Option.map_eq_some_iff.mp found
    cases same; cases equal; rfl
  · rename_i same
    obtain ⟨_, _, equal⟩ := Option.map_eq_some_iff.mp found
    cases same; cases equal; rfl
  · cases found

theorem quotable_of_body_nodeLine {name : String} {rest : List Char} {more : List Statement}
    (found : body ((nodeLine name).toList ++ rest) = some (.node name name :: more)) :
    Quotable name.toList := by
  have begins : ∃ behind, (nodeLine name).toList ++ rest =
      "    ".toList ++ '"' :: (name.toList ++ '"' :: behind) :=
    ⟨_, by simp [nodeLine, HandoffGraph.dotName]; rfl⟩
  obtain ⟨behind, split⟩ := begins
  rw [split, body, stands_indent, tokens, if_pos rfl] at found
  obtain ⟨written, standing, stated⟩ := Option.bind_eq_some_iff.mp found
  simp only [Option.map_eq_some_iff] at standing
  obtain ⟨_, ⟨⟨text, after⟩, read, rfl⟩, rfl⟩ := standing
  have same : name = String.ofList text := subject_of_statements stated
  rw [same, String.toList_ofList] at read ⊢
  exact quotable_of_quoted_append read

/-- The lines of some agents are read as such exactly if all their names are quotable. -/
theorem body_nodeLines_iff {names : List String} {rest : List Char} {more : List Statement} :
    body (names.flatMap (fun name => (nodeLine name).toList) ++ rest) =
        some (names.map (fun name => .node name name) ++ more) ↔
      (∀ name ∈ names, Quotable name.toList) ∧ body rest = some more := by
  induction names with
  | nil => simp
  | cons name names ih =>
    rw [List.flatMap_cons, List.map_cons, List.append_assoc, List.cons_append, List.forall_mem_cons,
      and_assoc, ← ih]
    constructor
    · intro found
      have quotable := quotable_of_body_nodeLine found
      rw [body_nodeLine quotable] at found
      exact ⟨quotable, by simpa using found⟩
    · rintro ⟨quotable, found⟩
      rw [body_nodeLine quotable, found, Option.map_some]

theorem body_edgeLines {transfers : List (String × String)}
    (quotable : ∀ transfer ∈ transfers,
      Quotable transfer.1.toList ∧ Quotable transfer.2.toList) :
    body (transfers.flatMap (fun transfer => (edgeLine transfer).toList) ++ "\x7d\n".toList) =
      some (transfers.map fun transfer => .edge transfer.1 transfer.2) := by
  induction transfers with
  | nil => decide
  | cons transfer transfers ih =>
    obtain ⟨⟨source, target⟩, later⟩ := List.forall_mem_cons.mp quotable
    rw [List.flatMap_cons, List.append_assoc, body_edgeLine source target, ih later]
    rfl

theorem read_eq_body {text : String} {rest : List Char}
    (begins : text.toList = "digraph handoffs \x7b\n".toList ++ rest) : read text = body rest := by
  have head : Stands "digraph handoffs \x7b\n".toList [.word ['d', 'i', 'g', 'r', 'a', 'p', 'h'],
      .word ['h', 'a', 'n', 'd', 'o', 'f', 'f', 's'], .mark '\x7b'] :=
    stands_of_tokens (by decide) (by decide) (by decide)
  rw [read, body, begins, head]
  cases tokens rest <;> rfl

end Dot

namespace HandoffGraph

variable (graph : HandoffGraph)

/-- What a graph says in DOT: its agents, each under its own name, and then its transfers. -/
def statements : List Dot.Statement :=
  graph.agents.map (fun name => .node name name) ++
    graph.namedTransfers.map fun transfer => .edge transfer.1 transfer.2

theorem toList_toDot : graph.toDot.toList = "digraph handoffs \x7b\n".toList ++
    (graph.agents.flatMap (fun name => (Dot.nodeLine name).toList) ++
      (graph.namedTransfers.flatMap (fun transfer => (Dot.edgeLine transfer).toList) ++
        "\x7d\n".toList)) := by
  have lines : graph.toDot = "digraph handoffs \x7b\n" ++
      String.join (graph.agents.map Dot.nodeLine) ++
        String.join (graph.namedTransfers.map Dot.edgeLine) ++ "\x7d\n" := rfl
  simp only [lines, String.toList_append, String.toList_join, List.flatMap_map, List.append_assoc]

theorem mem_agents_of_mem_namedTransfers {transfer : String × String}
    (member : transfer ∈ graph.namedTransfers) :
    transfer.1 ∈ graph.agents ∧ transfer.2 ∈ graph.agents := by
  obtain ⟨numbers, _, rfl⟩ := List.mem_map.mp member
  exact ⟨List.getElem_mem _, List.getElem_mem _⟩

/-- A graph comes back from its text exactly if no name of an agent has a quote or ends in a
backslash: each agent once with its name for label, then the transfers in their order, and nothing
else. -/
theorem read_toDot_iff : Dot.read graph.toDot = some graph.statements ↔
    ∀ name ∈ graph.agents, '"' ∉ name.toList ∧ name.toList.getLast? ≠ some '\\' := by
  rw [Dot.read_eq_body graph.toList_toDot, statements, Dot.body_nodeLines_iff]
  refine and_iff_left_of_imp ?_
  intro quotable
  refine Dot.body_edgeLines ?_
  intro transfer member
  obtain ⟨source, target⟩ := graph.mem_agents_of_mem_namedTransfers member
  exact ⟨quotable _ source, quotable _ target⟩

/-- Names with a quote do not come back. -/
theorem read_toDot_broken :
    Dot.read (complete ["a\"b"]).toDot ≠ some (complete ["a\"b"]).statements := by
  decide

end HandoffGraph

end AgentTeams
