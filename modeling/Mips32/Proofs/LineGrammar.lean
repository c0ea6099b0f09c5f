/-
# The grammar of a line

A line of assembly text defines any number of labels, then holds at most one statement,
and may end with a comment. The relation `Grammar.Line` says so directly, by how the text
of a line is put together with any spacing; it does not search, split or trim. Reading a
line accepts the lines of the grammar and no others, and gives the statements that the
grammar gives. The cause for which another line is refused is not considered here.
-/
import Mips32.Proofs.Identifier
import Mips32.Proofs.Outcome

namespace Mips32.Grammar

open Text

/-! ## Lines -/

/-- Names of labels in order, each with a colon after it and blanks around the colon. -/
inductive Definitions : List Char → List (List Char) → Prop
  | none : Definitions [] []
  | cons {name gap after rest : List Char} {names : List (List Char)}
      (identifier : isIdentifier name = true) (spaced : Blanks gap) (spacedAfter : Blanks after)
      (others : Definitions rest names) :
    Definitions (name ++ gap ++ ':' :: (after ++ rest)) (name :: names)

/-- The first word of a statement. -/
structure IsToken (token : List Char) : Prop where
  nonempty : token ≠ []
  solid : ∀ c ∈ token, isBlank c = false
  noColon : ':' ∉ token

/-- An operand, which may have blanks inside. -/
structure IsOperand (operand : List Char) : Prop where
  nonempty : operand ≠ []
  tight : Tight operand
  noComma : ',' ∉ operand
  noColon : ':' ∉ operand

/-- The statement of a token with its operands. Case does not matter in a token, and data
needs a value. -/
inductive Denotes (token : List Char) (operands : List (List Char)) : Statement → Prop
  | word (isWord : lowercase token = ".word".toList) (valued : operands ≠ []) :
    Denotes token operands (.word (operands.map String.ofList))
  | instr (other : lowercase token ≠ ".word".toList) :
    Denotes token operands
      (.instr (String.ofList (lowercase token)) (operands.map String.ofList))

/-- What follows the definitions of a line: nothing, a token, or a token and operands. -/
inductive Body : List Char → List Statement → Prop
  | empty : Body [] []
  | bare {token : List Char} {statement : Statement} (isToken : IsToken token)
      (denotes : Denotes token [] statement) : Body token [statement]
  | operands {token gap list : List Char} {operands : List (List Char)}
      {statement : Statement} (isToken : IsToken token) (spaced : Blanks gap)
      (apart : gap ≠ []) (separated : Separated ',' list operands)
      (proper : ∀ operand ∈ operands, IsOperand operand)
      (denotes : Denotes token operands statement) : Body (token ++ gap ++ list) [statement]

/-- A comment goes to the end of the line. -/
def Comment (text : List Char) : Prop :=
  text = [] ∨ ∃ mark rest, text = mark :: rest ∧ Statement.startsComment mark = true

/-- A line with the statements it stands for. -/
inductive Line : List Char → List Statement → Prop
  | mk {lead labels body trail comment : List Char} {names : List (List Char)}
      {statements : List Statement} (before : Blanks lead) (defines : Definitions labels names)
      (states : Body body statements) (behind : Blanks trail) (comments : Comment comment)
      (uncommented : ∀ c ∈ lead ++ labels ++ body ++ trail,
        Statement.startsComment c = false) :
    Line (lead ++ labels ++ body ++ trail ++ comment)
      (names.map (fun name => .label (String.ofList name)) ++ statements)

/-! ## Definitions -/

theorem separated_singleton_iff {separator : Char} {list item : List Char} :
    Separated separator list [item] ↔ list = item := by
  constructor
  · intro separated
    cases separated with
    | last => rfl
    | cons spaced spacedAfter others => cases others
  · rintro rfl
    exact .last list

/-- Definitions and what follows them are separated by colons. -/
theorem separated_colon_iff {list core : List Char} {names : List (List Char)} :
    (∀ name ∈ names, isIdentifier name = true) ∧ Separated ':' list (names ++ [core]) ↔
      ∃ labels, list = labels ++ core ∧ Definitions labels names := by
  induction names generalizing list with
  | nil =>
      rw [List.nil_append, separated_singleton_iff]
      constructor
      · rintro ⟨-, rfl⟩
        exact ⟨[], rfl, .none⟩
      · rintro ⟨labels, rfl, defines⟩
        cases defines
        exact ⟨List.forall_mem_nil _, rfl⟩
  | cons name names ih =>
      rw [List.forall_mem_cons, List.cons_append]
      constructor
      · rintro ⟨⟨identifier, identifiers⟩, separated⟩
        generalize listed : name :: (names ++ [core]) = items at separated
        cases separated with
        | last item => simp at listed
        | cons spaced spacedAfter others =>
            obtain ⟨rfl, rfl⟩ := List.cons.inj listed
            obtain ⟨labels, rfl, defines⟩ := ih.mp ⟨identifiers, others⟩
            exact ⟨_, by simp, .cons identifier spaced spacedAfter defines⟩
      · rintro ⟨labels, rfl, defines⟩
        cases defines with
        | @cons _ gap after rest _ identifier spaced spacedAfter others =>
            obtain ⟨identifiers, separated⟩ := ih.mpr ⟨rest, rfl, others⟩
            refine ⟨⟨identifier, identifiers⟩, ?_⟩
            rw [List.append_assoc, List.cons_append, List.append_assoc after]
            exact .cons spaced spacedAfter separated

theorem mapM_definition_eq_ok_iff {names : List (List Char)} {definitions : List Statement} :
    names.mapM Statement.definition = .ok definitions ↔
      (∀ name ∈ names, isIdentifier name = true) ∧
        definitions = names.map fun name => .label (String.ofList name) := by
  induction names generalizing definitions with
  | nil =>
      rw [List.mapM_nil]
      constructor
      · rintro ⟨rfl⟩
        exact ⟨List.forall_mem_nil _, rfl⟩
      · rintro ⟨-, rfl⟩
        rfl
  | cons name names ih =>
      rw [List.mapM_cons, bind_eq_ok_iff, List.forall_mem_cons, Statement.definition]
      by_cases identifier : isIdentifier name = true
      · simp only [identifier, true_and]
        constructor
        · rintro ⟨_, ⟨rfl⟩, success⟩
          obtain ⟨others, read, ⟨rfl⟩⟩ := bind_eq_ok_iff.mp success
          obtain ⟨identifiers, rfl⟩ := ih.mp read
          exact ⟨identifiers, rfl⟩
        · rintro ⟨identifiers, rfl⟩
          exact ⟨_, rfl, bind_eq_ok_iff.mpr ⟨_, ih.mpr ⟨identifiers, rfl⟩, rfl⟩⟩
      · simp [identifier]

/-! ## Statements -/

/-- Items without blanks at their ends, none of them empty, leave no blanks at the ends of
their list. -/
theorem tight_of_separated {separator : Char} {list : List Char} {items : List (List Char)}
    (separated : Separated separator list items)
    (proper : ∀ item ∈ items, item ≠ [] ∧ Tight item) : list ≠ [] ∧ Tight list := by
  induction separated with
  | last item => exact proper item (List.mem_singleton_self item)
  | @cons item gap after rest items spaced spacedAfter others ih =>
      rw [List.forall_mem_cons] at proper
      obtain ⟨⟨nonempty, tight⟩, properRest⟩ := proper
      obtain ⟨nonemptyRest, tightRest⟩ := ih properRest
      have regrouped : item ++ gap ++ separator :: (after ++ rest) =
          item ++ (gap ++ separator :: after) ++ rest := by
        simp
      rw [regrouped]
      exact ⟨by simp [nonempty], tight.join nonempty _ tightRest nonemptyRest⟩

/-- A tight list of operands, none of them empty, is cut at its commas. -/
theorem splitOperands_eq_iff {list : List Char} (nonempty : list ≠ []) (tight : Tight list)
    {operands : List (List Char)} :
    (Statement.splitOperands list = operands ∧ [] ∉ operands) ↔
      Separated ',' list operands ∧
        ∀ operand ∈ operands, operand ≠ [] ∧ Tight operand ∧ ',' ∉ operand := by
  have visible : isBlank ',' = false := by decide
  rw [Statement.splitOperands, if_neg (by simpa using nonempty)]
  constructor
  · rintro ⟨pieced, filled⟩
    obtain ⟨proper, lead, core, trail, before, behind, written, separated⟩ :=
      exists_separated pieced
    have nonemptyOf : ∀ operand ∈ operands, operand ≠ [] :=
      fun operand listed => ne_of_mem_of_not_mem listed filled
    have coreTight := (tight_of_separated separated fun operand listed =>
      ⟨nonemptyOf operand listed, (proper operand listed).1⟩).2
    -- There are no blanks around the items, since there are none around the list.
    have same : list = core := by
      rw [← trim_eq_self tight, written, trim_append before coreTight behind]
    exact ⟨same ▸ separated,
      fun operand listed => ⟨nonemptyOf operand listed, proper operand listed⟩⟩
  · rintro ⟨separated, proper⟩
    have pieced := separated.map_trim_cut visible
      (fun operand listed => (proper operand listed).2) blanks_nil blanks_nil
    rw [List.nil_append, List.append_nil] at pieced
    exact ⟨pieced, fun listed => (proper [] listed).1 rfl⟩

/-- A token and what follows it are read as the statement they denote. -/
theorem parseBody_append_eq_ok_iff {token rest : List Char} (nonempty : token ≠ [])
    (solid : ∀ c ∈ token, isBlank c = false) (stops : ∀ c ∈ rest.head?, isBlank c = true)
    {operands : List (List Char)} (split : Statement.splitOperands (trim rest) = operands)
    {body : List Statement} :
    Statement.parseBody (token ++ rest) = .ok body ↔
      [] ∉ operands ∧ ∃ statement, Denotes token operands statement ∧ body = [statement] := by
  have outside : ∀ c ∈ rest.head?, (!isBlank c) = false := by simpa using stops
  obtain ⟨taken, dropped⟩ := span_append (by simpa using solid) outside
  rw [Statement.parseBody, if_neg (by simp [nonempty]), taken, dropped, split]
  dsimp only
  by_cases filled : [] ∈ operands
  · rw [if_pos (by simpa using filled)]
    simp [filled]
  · rw [if_neg (by simpa using filled)]
    simp only [filled, not_false_eq_true, true_and]
    constructor
    · intro read
      split at read
      · rename_i isWord
        split at read
        · cases read
        · rename_i valued
          cases read
          exact ⟨_, .word isWord (by simpa using valued), rfl⟩
      · rename_i other
        cases read
        exact ⟨_, .instr other, rfl⟩
    · rintro ⟨statement, denotes, rfl⟩
      cases denotes with
      | word isWord valued => rw [if_pos isWord, if_neg (by simpa using valued)]
      | instr other => rw [if_neg other]

/-- A text without blanks at its ends starts with a token. -/
theorem exists_token {text : List Char} (tight : Tight text) (nonempty : text ≠ []) :
    ∃ token rest, text = token ++ rest ∧ token ≠ [] ∧ (∀ c ∈ token, isBlank c = false) ∧
      ∀ c ∈ rest.head?, isBlank c = true := by
  obtain ⟨first, more, rfl⟩ := List.exists_cons_of_ne_nil nonempty
  have visible : (!isBlank first) = true := by rw [tight.front first rfl]; rfl
  refine ⟨(first :: more).takeWhile (!isBlank ·), (first :: more).dropWhile (!isBlank ·),
    List.takeWhile_append_dropWhile.symm, ?_, ?_, ?_⟩
  · rw [List.takeWhile_cons, if_pos visible]
    exact List.cons_ne_nil _ _
  · exact fun c listed => by simpa using List.mem_takeWhile_imp listed
  · exact fun c opening => by simpa using outside_of_head_dropWhile opening

/-- After the token of a tight text there is nothing, or blanks and then a tight text. -/
theorem exists_list_of_token {token rest : List Char} (tight : Tight (token ++ rest))
    (nonempty : token ≠ []) (solid : ∀ c ∈ token, isBlank c = false)
    (stops : ∀ c ∈ rest.head?, isBlank c = true) :
    rest = [] ∨ ∃ gap list, rest = gap ++ list ∧ Blanks gap ∧ gap ≠ [] ∧ list ≠ [] ∧
      Tight list := by
  have tokenTight : Tight token := tight_of_solid solid
  obtain ⟨lead, trail, before, behind, written⟩ := exists_trim rest
  by_cases nothing : trim rest = []
  · left
    rw [nothing, List.append_nil] at written
    have trimmed := trim_append blanks_nil tokenTight (written ▸ before.append behind)
    rw [List.nil_append, trim_eq_self tight] at trimmed
    simpa using trimmed
  · right
    have coreTight : Tight (token ++ lead ++ trim rest) :=
      tokenTight.join nonempty lead (tight_trim rest) nothing
    -- The blanks behind the operands would be at the end of the whole text.
    have noTrail : token ++ rest = token ++ lead ++ trim rest := by
      have trimmed := trim_append blanks_nil coreTight behind
      rw [← trimmed, ← trim_eq_self tight]
      conv => lhs; rw [written]
      simp
    refine ⟨lead, trim rest, ?_, before, ?_, nothing, tight_trim rest⟩
    · rwa [List.append_assoc, List.append_cancel_left_eq] at noTrail
    · rintro rfl
      obtain ⟨first, more, core⟩ := List.exists_cons_of_ne_nil nothing
      have visible := (tight_trim rest).front first (by rw [core]; rfl)
      rw [written, core, List.nil_append] at stops
      rw [stops first rfl] at visible
      cases visible

theorem mem_of_separated {separator : Char} {list : List Char} {items : List (List Char)}
    (separated : Separated separator list items) {item : List Char} (listed : item ∈ items)
    {c : Char} (inside : c ∈ item) : c ∈ list := by
  induction separated with
  | last only =>
      rw [← List.mem_singleton.mp listed]
      exact inside
  | cons spaced spacedAfter others ih =>
      rcases List.mem_cons.mp listed with rfl | later
      · simp [inside]
      · simp [ih later]

/-- What is read after the definitions of a line follows the grammar. -/
theorem body_of_parseBody {text : List Char} (tight : Tight text) (noColon : ':' ∉ text)
    {body : List Statement} (read : Statement.parseBody text = .ok body) : Body text body := by
  by_cases nonempty : text = []
  · subst nonempty
    cases read
    exact .empty
  · obtain ⟨token, rest, rfl, someToken, solid, stops⟩ := exists_token tight nonempty
    rw [List.mem_append, not_or] at noColon
    have isToken : IsToken token := ⟨someToken, solid, noColon.1⟩
    rcases exists_list_of_token tight someToken solid stops with
      rfl | ⟨gap, list, rfl, spaced, apart, someList, listTight⟩
    · obtain ⟨-, statement, denotes, rfl⟩ :=
        (parseBody_append_eq_ok_iff someToken solid stops rfl).mp read
      rw [List.append_nil]
      exact .bare isToken denotes
    · have trimmed : trim (gap ++ list) = list := by
        have alone := trim_append spaced listTight blanks_nil
        rwa [List.append_nil] at alone
      obtain ⟨filled, statement, denotes, rfl⟩ :=
        (parseBody_append_eq_ok_iff someToken solid stops rfl).mp read
      rw [trimmed] at filled denotes
      obtain ⟨separated, proper⟩ :=
        (splitOperands_eq_iff someList listTight).mp ⟨rfl, filled⟩
      rw [← List.append_assoc]
      refine .operands isToken spaced apart separated ?_ denotes
      intro operand listed
      obtain ⟨someOperand, operandTight, noComma⟩ := proper operand listed
      refine ⟨someOperand, operandTight, noComma, fun colon => noColon.2 ?_⟩
      exact List.mem_append_right _ (mem_of_separated separated listed colon)

/-- A character that is neither a blank nor the separator stands in an item. -/
theorem not_mem_of_separated {separator : Char} {list : List Char} {items : List (List Char)}
    (separated : Separated separator list items) {c : Char} (visible : isBlank c = false)
    (different : c ≠ separator) (absent : ∀ item ∈ items, c ∉ item) : c ∉ list := by
  induction separated with
  | last item => exact absent item (List.mem_singleton_self item)
  | cons spaced spacedAfter others ih =>
      rw [List.forall_mem_cons] at absent
      simp [absent.1, spaced.not_mem visible, different, spacedAfter.not_mem visible,
        ih absent.2]

theorem Body.tight {text : List Char} {statements : List Statement}
    (states : Body text statements) : Tight text := by
  cases states with
  | empty => exact tight_of_solid (List.forall_mem_nil _)
  | bare isToken denotes => exact tight_of_solid isToken.solid
  | operands isToken spaced apart separated proper denotes =>
      obtain ⟨nonempty, tight⟩ := tight_of_separated separated fun operand listed =>
        ⟨(proper operand listed).nonempty, (proper operand listed).tight⟩
      exact (tight_of_solid isToken.solid).join isToken.nonempty _ tight nonempty

theorem Body.noColon {text : List Char} {statements : List Statement}
    (states : Body text statements) : ':' ∉ text := by
  have visible : isBlank ':' = false := by decide
  cases states with
  | empty => exact List.not_mem_nil
  | bare isToken denotes => exact isToken.noColon
  | operands isToken spaced apart separated proper denotes =>
      have absent := not_mem_of_separated separated visible (by decide)
        fun operand listed => (proper operand listed).noColon
      simp [isToken.noColon, spaced.not_mem visible, absent]

/-- What follows the definitions in the grammar is read as the grammar says. -/
theorem Body.parseBody_eq {text : List Char} {statements : List Statement}
    (states : Body text statements) : Statement.parseBody text = .ok statements := by
  cases states with
  | empty => rfl
  | @bare token statement isToken denotes =>
      have none : Statement.splitOperands (trim []) = [] := rfl
      have read := (parseBody_append_eq_ok_iff isToken.nonempty isToken.solid
        (by simp) none).mpr ⟨List.not_mem_nil, statement, denotes, rfl⟩
      rwa [List.append_nil] at read
  | @operands token gap list operands statement isToken spaced apart separated proper denotes =>
      obtain ⟨nonempty, tight⟩ := tight_of_separated separated fun operand listed =>
        ⟨(proper operand listed).nonempty, (proper operand listed).tight⟩
      have trimmed : trim (gap ++ list) = list := by
        have alone := trim_append spaced tight blanks_nil
        rwa [List.append_nil] at alone
      obtain ⟨split, filled⟩ := (splitOperands_eq_iff nonempty tight).mpr ⟨separated,
        fun operand listed => ⟨(proper operand listed).nonempty, (proper operand listed).tight,
          (proper operand listed).noComma⟩⟩
      have stops : ∀ c ∈ (gap ++ list).head?, isBlank c = true := by
        obtain ⟨first, more, rfl⟩ := List.exists_cons_of_ne_nil apart
        rintro c ⟨rfl⟩
        exact spaced first List.mem_cons_self
      rw [List.append_assoc, parseBody_append_eq_ok_iff isToken.nonempty isToken.solid stops
        (by rw [trimmed, split])]
      exact ⟨filled, statement, denotes, rfl⟩

/-! ## Whole lines -/

/-- Reading a line cuts it at its colons. The pieces before the last one are names. -/
theorem parseLine_eq_ok_iff {text : String} {statements : List Statement} :
    Statement.parseLine text = .ok statements ↔
      ∃ names core body,
        (cut ':' (text.toList.takeWhile fun c => !Statement.startsComment c)).map trim =
            names ++ [core] ∧
          (∀ name ∈ names, isIdentifier name = true) ∧
          Statement.parseBody core = .ok body ∧
          statements = names.map (fun name => .label (String.ofList name)) ++ body := by
  have some : (cut ':' (text.toList.takeWhile fun c => !Statement.startsComment c)).map trim ≠
      [] := by
    rw [cut_eq_splitOn, ne_eq, List.map_eq_nil_iff]
    exact List.splitOn_ne_nil _ _
  rw [Statement.parseLine]
  generalize (cut ':' (text.toList.takeWhile fun c => !Statement.startsComment c)).map trim =
    pieces at some
  obtain ⟨names, core, rfl⟩ := (List.eq_nil_or_concat pieces).resolve_left some
  rw [List.concat_eq_append, List.dropLast_concat, List.getLast?_concat, Option.getD_some,
    bind_eq_ok_iff]
  constructor
  · rintro ⟨definitions, readNames, read⟩
    obtain ⟨body, readBody, ⟨rfl⟩⟩ := bind_eq_ok_iff.mp read
    obtain ⟨identifiers, rfl⟩ := mapM_definition_eq_ok_iff.mp readNames
    exact ⟨names, core, body, rfl, identifiers, readBody, rfl⟩
  · rintro ⟨others, last, body, same, identifiers, readBody, rfl⟩
    obtain ⟨rfl, ⟨rfl⟩⟩ := List.append_inj' same rfl
    exact ⟨_, mapM_definition_eq_ok_iff.mpr ⟨identifiers, rfl⟩,
      bind_eq_ok_iff.mpr ⟨body, readBody, rfl⟩⟩

theorem line_of_parseLine {text : String} {statements : List Statement}
    (parsed : Statement.parseLine text = .ok statements) : Line text.toList statements := by
  obtain ⟨names, core, body, pieced, identifiers, readBody, rfl⟩ :=
    parseLine_eq_ok_iff.mp parsed
  obtain ⟨proper, lead, list, trail, before, behind, written, separated⟩ :=
    exists_separated pieced
  obtain ⟨labels, rfl, defines⟩ := separated_colon_iff.mp ⟨identifiers, separated⟩
  obtain ⟨tight, noColon⟩ := proper core (by simp)
  have states := body_of_parseBody tight noColon readBody
  rw [← List.append_assoc] at written
  rw [← List.takeWhile_append_dropWhile (p := fun c => !Statement.startsComment c)
    (l := text.toList), written]
  refine .mk before defines states behind ?_ ?_
  · cases rest : text.toList.dropWhile fun c => !Statement.startsComment c with
    | nil => exact .inl rfl
    | cons mark more =>
        have stops := outside_of_head_dropWhile (by rw [rest]; rfl)
        exact .inr ⟨mark, more, rfl, by simpa using stops⟩
  · intro c listed
    rw [← written] at listed
    simpa using List.mem_takeWhile_imp listed

theorem Line.parseLine_eq {text : String} {statements : List Statement}
    (line : Line text.toList statements) : Statement.parseLine text = .ok statements := by
  generalize characters : text.toList = written at line
  cases line with
  | @mk lead labels body trail comment names statements before defines states behind comments
      uncommented =>
      have within : ∀ c ∈ lead ++ labels ++ body ++ trail,
          (!Statement.startsComment c) = true := by simpa using uncommented
      have outside : ∀ c ∈ comment.head?, (!Statement.startsComment c) = false := by
        rcases comments with rfl | ⟨mark, rest, rfl, marks⟩
        · simp
        · simp [marks]
      obtain ⟨identifiers, separated⟩ := separated_colon_iff.mpr ⟨labels, rfl, defines⟩
      have proper : ∀ item ∈ names ++ [body], Tight item ∧ ':' ∉ item := by
        intro item listed
        rcases List.mem_append.mp listed with named | last
        · have identifier := identifiers item named
          exact ⟨tight_of_solid (solid_of_identifier identifier),
            not_mem_of_identifier identifier (by decide)⟩
        · rw [List.mem_singleton.mp last]
          exact ⟨states.tight, states.noColon⟩
      have pieced := separated.map_trim_cut (by decide) proper before behind
      rw [← List.append_assoc] at pieced
      rw [parseLine_eq_ok_iff, characters, (span_append within outside).1]
      exact ⟨names, body, statements, pieced, identifiers, states.parseBody_eq, rfl⟩

/-- A line is read exactly if it follows the grammar, and then it gives the statements that
the grammar gives. Every other line is refused. -/
theorem parseLine_iff_line (text : String) :
    (∀ statements, Statement.parseLine text = .ok statements ↔ Line text.toList statements) ∧
      ((∃ cause, Statement.parseLine text = .error cause) ↔
        ∀ statements, ¬ Line text.toList statements) := by
  refine ⟨fun statements => ⟨line_of_parseLine, Line.parseLine_eq⟩, ?_⟩
  constructor
  · rintro ⟨cause, refused⟩ statements line
    rw [line.parseLine_eq] at refused
    cases refused
  · intro outside
    cases outcome : Statement.parseLine text with
    | error cause => exact ⟨cause, rfl⟩
    | ok statements => exact absurd (line_of_parseLine outcome) (outside statements)

end Mips32.Grammar
