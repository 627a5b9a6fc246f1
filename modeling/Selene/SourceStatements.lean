import Selene.SourceWorkspace

/-!
# Statements and the import scanner

Top-level statements of generated sources, and what `importedSpecifiers` finds
in a text made of them.  An `export const` without a semicolon sends the
scanner into the following lines in search of a `from` clause; an
`import 'S'` on the way is skipped as a quoted text.
-/

namespace Selene.Generation

open Js

/-! ## Statements -/

/-- `'`. -/
def singleQuote : CodeUnit := 0x27

/-- `;`. -/
def semicolon : CodeUnit := 0x3B

/-- A line feed. -/
def lineFeed : CodeUnit := 0x0A

/-- Line terminators. -/
def lineTerminators : List CodeUnit := [0x0A, 0x0D, 0x2028, 0x2029]

/-- Units of names: identifier parts, escapes and letters beyond ASCII. -/
def isNameUnit (unit : CodeUnit) : Bool :=
  isIdentifierPart unit || decide (128 ≤ unit.val) ||
    (js "\\\x7b\x7d").contains unit

/-- Units of number literals. -/
def isNumberUnit (unit : CodeUnit) : Bool :=
  isDigit unit || (js "abcdefABCDEFxXoOnN_.+-").contains unit

/-- Whether every backslash has a unit to escape. -/
def escapesComplete : JsString → Bool
  | [] => true
  | unit :: rest =>
      if unit = backslash then
        match rest with
        | [] => false
        | _ :: later => escapesComplete later
      else
        escapesComplete rest

/-- A name that is bound or listed. -/
structure BoundName where
  text : JsString
  nonempty : text ≠ []
  units : text.all isNameUnit = true
  deriving DecidableEq

/-- A number literal. -/
structure NumberLiteral where
  text : JsString
  nonempty : text ≠ []
  units : text.all isNumberUnit = true
  deriving DecidableEq

/-- A specifier without quotes; its closing quote is not escaped. -/
structure Specifier where
  text : JsString
  quoteFree : ∀ unit ∈ text, unit ∉ quotes
  complete : escapesComplete text = true

/-- The text of a line comment. -/
structure CommentText where
  text : JsString
  oneLine : ∀ unit ∈ text, unit ∉ lineTerminators

/-- The forms of statements. -/
inductive StatementForm where
  | importOnly (specifier : Specifier)
  | importDefault (name : BoundName) (specifier : Specifier)
  | importNamed (name : BoundName) (specifier : Specifier)
  | exportNamed (name : BoundName) (specifier : Specifier)
  | exportConst (name : BoundName) (value : NumberLiteral)
  | comment (text : CommentText)

/-- A statement, ended by a semicolon or not. -/
structure Statement where
  form : StatementForm
  ended : Bool

/-- A specifier between its quotes. -/
def Specifier.quoted (specifier : Specifier) : JsString :=
  singleQuote :: (specifier.text ++ [singleQuote])

/-- The text of a form. -/
def StatementForm.units : StatementForm → JsString
  | .importOnly specifier => js "import " ++ specifier.quoted
  | .importDefault name specifier =>
      js "import " ++ name.text ++ js " from " ++ specifier.quoted
  | .importNamed name specifier =>
      js "import \x7b " ++ name.text ++ js " \x7d from " ++ specifier.quoted
  | .exportNamed name specifier =>
      js "export \x7b " ++ name.text ++ js " \x7d from " ++ specifier.quoted
  | .exportConst name value =>
      js "export const " ++ name.text ++ js " = " ++ value.text
  | .comment text => js "//" ++ text.text

namespace Statement

/-- The semicolon of a statement, if it has one. -/
def ending (statement : Statement) : JsString :=
  if statement.ended then [semicolon] else []

/-- The text of a statement. -/
def units (statement : Statement) : JsString :=
  statement.form.units ++ statement.ending

/-- The specifiers that a statement imports or exports from. -/
def specifiers (statement : Statement) : List JsString :=
  match statement.form with
  | .importOnly specifier => [specifier.text]
  | .importDefault _ specifier => [specifier.text]
  | .importNamed _ specifier => [specifier.text]
  | .exportNamed _ specifier => [specifier.text]
  | .exportConst _ _ => []
  | .comment _ => []

/-- `import 'S'`. -/
def IsBareImport (statement : Statement) : Prop :=
  ∃ specifier, statement.form = .importOnly specifier

/-- A line comment. -/
def IsComment (statement : Statement) : Prop :=
  ∃ text, statement.form = .comment text

/-- An `export const` without a semicolon. -/
def IsOpenConst (statement : Statement) : Prop :=
  (∃ name value, statement.form = .exportConst name value) ∧
    statement.ended = false

end Statement

/-- Statements on lines of their own. -/
def sourceText (statements : List Statement) : JsString :=
  [lineFeed].intercalate (statements.map Statement.units)

/-- The specifiers of the import and export-from statements, in order. -/
def statementSpecifiers (statements : List Statement) : List JsString :=
  statements.flatMap Statement.specifiers

/--
Some `import 'S'` follows an `export const` without a semicolon, with nothing
but line comments between them.
-/
def ImportFollowsOpenConst (statements : List Statement) : Prop :=
  ∃ before opening comments bare after,
    statements = before ++ opening :: (comments ++ bare :: after) ∧
      Statement.IsOpenConst opening ∧
      (∀ statement ∈ comments, Statement.IsComment statement) ∧
      Statement.IsBareImport bare

/-! ## The search for a `from` clause -/

/-- The loop of `scanModuleSpecifier`. -/
def search (source : JsString) : Scanned :=
  moduleSpecifierLoop.run source

variable {source : JsString}

theorem search_of_turn
    {next : JsString}
    (continues : moduleSpecifierTurn source = .inl next) :
    search source = search next := by
  have equation := moduleSpecifierLoop.run_eq source
  rw [show moduleSpecifierLoop.turn source = .inl next from continues]
    at equation
  exact equation

theorem search_of_stop
    {scanned : Scanned}
    (stops : moduleSpecifierTurn source = .inr scanned) :
    search source = scanned := by
  have equation := moduleSpecifierLoop.run_eq source
  rw [show moduleSpecifierLoop.turn source = .inr scanned from stops]
    at equation
  exact equation

/-- Units that begin no comment and no quoted text and end no search. -/
def IsInert (unit : CodeUnit) : Prop :=
  unit ≠ slash ∧ unit ∉ quotes ∧ unit ≠ semicolon

instance (unit : CodeUnit) : Decidable (IsInert unit) := by
  unfold IsInert
  infer_instance

variable {unit : CodeUnit}

theorem startsComment_of_ne
    (other : unit ≠ slash)
    (rest : JsString) :
    startsComment (unit :: rest) = false := by
  cases rest <;> simp [startsComment, other]

theorem contains_quotes_of_not_mem
    (plain : unit ∉ quotes) :
    quotes.contains unit = false := by
  simpa using plain

/-- A text that does not go on with the given units. -/
def StopsAt (keep : CodeUnit → Bool) (rest : JsString) : Prop :=
  ∀ unit ∈ rest.head?, keep unit = false

variable {keep : CodeUnit → Bool} {text rest : JsString}

theorem takeWhile_append_stop
    (all : text.all keep = true)
    (stops : StopsAt keep rest) :
    (text ++ rest).takeWhile keep = text ∧
      (text ++ rest).dropWhile keep = rest := by
  have each : ∀ unit ∈ text, keep unit = true := List.all_eq_true.mp all
  rw [List.takeWhile_append_of_pos each, List.dropWhile_append_of_pos each]
  cases rest with
  | nil => simp
  | cons unit later =>
      have stop := stops unit rfl
      simp [stop]

theorem search_nil : search [] = ⟨[], none⟩ :=
  search_of_stop rfl

theorem search_semicolon (rest : JsString) :
    search (semicolon :: rest) = ⟨semicolon :: rest, none⟩ :=
  search_of_stop rfl

theorem search_skip
    (inert : IsInert unit)
    (plain : isIdentifierStart unit = false)
    (rest : JsString) :
    search (unit :: rest) = search rest := by
  have notEnd : ¬unit = 0x3B := inert.2.2
  refine search_of_turn ?_
  rw [moduleSpecifierTurn, if_neg notEnd,
    if_neg (by rw [startsComment_of_ne inert.1]; exact Bool.false_ne_true),
    if_neg (by
      rw [contains_quotes_of_not_mem inert.2.1]
      exact Bool.false_ne_true),
    if_pos plain]

theorem isInert_of_kind
    (kind : CodeUnit → Bool)
    (others : (slash :: semicolon :: quotes).any kind = false)
    (isKind : kind unit = true) :
    IsInert unit := by
  have apart : unit ∉ slash :: semicolon :: quotes := by
    intro member
    exact List.any_eq_false.mp others unit member isKind
  simp only [List.mem_cons, not_or] at apart
  exact ⟨apart.1, by simpa [quotes] using apart.2.2, apart.2.1⟩

theorem isInert_of_start
    (start : isIdentifierStart unit = true) :
    IsInert unit :=
  isInert_of_kind isIdentifierStart rfl start

theorem isInert_of_space
    (space : decide (unit.val ≤ 32) = true) :
    IsInert unit ∧ isIdentifierStart unit = false := by
  refine ⟨isInert_of_kind (fun unit => decide (unit.val ≤ 32)) rfl
    space, ?_⟩
  have small := of_decide_eq_true space
  have apart (other : CodeUnit) (large : 32 < other.val) : unit ≠ other := by
    rintro rfl
    omega
  simp only [isIdentifierStart, isUpper, isLower, Bool.or_eq_false_iff,
    decide_eq_false_iff_not]
  exact ⟨⟨⟨by omega, by omega⟩, apart _ (by decide)⟩, apart _ (by decide)⟩

theorem search_skipWhitespace (source : JsString) :
    search (skipWhitespace source) = search source := by
  induction source with
  | nil => rfl
  | cons unit rest inductionHypothesis =>
      rw [skipWhitespace, List.dropWhile_cons]
      split
      · rename_i space
        obtain ⟨inert, plain⟩ :=
          isInert_of_space space
        rw [search_skip inert plain]
        exact inductionHypothesis
      · rfl

theorem skipComment_line
    (oneLine : ∀ unit ∈ text, unit ∉ lineTerminators)
    (stops : StopsAt (fun unit => unit ≠ 0x0A && unit ≠ 0x0D) rest) :
    skipComment (slash :: slash :: (text ++ rest)) = rest := by
  rw [skipComment, if_pos rfl]
  refine (takeWhile_append_stop ?_ stops).2
  rw [List.all_eq_true]
  intro unit member
  have apart := oneLine unit member
  simp only [lineTerminators, List.mem_cons, not_or] at apart
  simp [apart.1, apart.2.1]

theorem quotedBody_specifier
    (quoteFree : ∀ unit ∈ text, unit ∉ quotes)
    (complete : escapesComplete text = true)
    (rest : JsString) :
    skipQuotedBody singleQuote (text ++ singleQuote :: rest) = rest ∧
      readQuotedBody singleQuote (text ++ singleQuote :: rest) =
        ⟨rest, some text⟩ := by
  fun_induction escapesComplete text with
  | case1 =>
      unfold skipQuotedBody readQuotedBody
      exact ⟨rfl, rfl⟩
  | case2 => cases complete
  | case3 escaped later inductionHypothesis =>
      obtain ⟨skipped, read⟩ := inductionHypothesis
        (fun unit member => quoteFree unit
          (List.mem_cons_of_mem _ (List.mem_cons_of_mem _ member)))
        complete
      rw [List.cons_append, List.cons_append]
      unfold skipQuotedBody readQuotedBody
      rw [if_pos rfl, if_pos rfl]
      simp only [skipped, read]
      exact ⟨trivial, rfl⟩
  | case4 unit later notEscape inductionHypothesis =>
      obtain ⟨skipped, read⟩ := inductionHypothesis
        (fun unit member => quoteFree unit (List.mem_cons_of_mem _ member))
        complete
      have notQuote : unit ≠ singleQuote := by
        rintro rfl
        exact quoteFree _ List.mem_cons_self (by decide)
      rw [List.cons_append]
      unfold skipQuotedBody readQuotedBody
      rw [if_neg notEscape, if_neg notEscape, if_neg notQuote,
        if_neg notQuote]
      simp only [skipped, read]
      exact ⟨trivial, rfl⟩

section

variable (specifier : Specifier) (rest : JsString)

theorem Specifier.readQuotedSpecifier :
    readQuotedSpecifier (specifier.quoted ++ rest) =
      ⟨rest, some specifier.text⟩ := by
  have read := (quotedBody_specifier specifier.quoteFree specifier.complete
    rest).2
  simpa [quoted, Generation.readQuotedSpecifier] using read

theorem Specifier.skipQuotedText :
    skipQuotedText (specifier.quoted ++ rest) = rest := by
  have skipped := (quotedBody_specifier specifier.quoteFree specifier.complete
    rest).1
  simpa [quoted, Generation.skipQuotedText] using skipped

theorem search_quoted :
    search (specifier.quoted ++ rest) = search rest := by
  have skipped := specifier.skipQuotedText rest
  rw [Specifier.quoted, List.cons_append] at skipped ⊢
  refine search_of_turn ?_
  rw [moduleSpecifierTurn, if_neg (by decide),
    if_neg (by rw [startsComment_of_ne (by decide)]; exact Bool.false_ne_true),
    if_pos (by decide), skipped]

end

theorem search_lineComment
    (oneLine : ∀ unit ∈ text, unit ∉ lineTerminators)
    (stops : StopsAt (fun unit => unit ≠ 0x0A && unit ≠ 0x0D) rest) :
    search (slash :: slash :: (text ++ rest)) = search rest := by
  refine search_of_turn ?_
  rw [moduleSpecifierTurn, if_neg (by decide),
    if_pos (show startsComment (slash :: slash :: (text ++ rest)) = true
      from rfl),
    skipComment_line oneLine stops]

variable {first : CodeUnit} {more : JsString}

section

variable (start : isIdentifierStart first = true)
  (parts : more.all isIdentifierPart = true)
  (stops : StopsAt isIdentifierPart rest)

include start parts stops

theorem search_word :
    search (first :: (more ++ rest)) =
      match fromClause (first :: more) rest with
      | .inl next => search next
      | .inr scanned => scanned := by
  have inert := isInert_of_start start
  have notEnd : ¬first = 0x3B := inert.2.2
  obtain ⟨taken, left⟩ := takeWhile_append_stop parts stops
  have turn : moduleSpecifierTurn (first :: (more ++ rest)) =
      fromClause (first :: more) rest := by
    rw [moduleSpecifierTurn, if_neg notEnd,
      if_neg (by rw [startsComment_of_ne inert.1]; exact Bool.false_ne_true),
      if_neg (by
        rw [contains_quotes_of_not_mem inert.2.1]
        exact Bool.false_ne_true),
      if_neg (by rw [start]; exact Bool.noConfusion), identifierRest, taken,
      left]
  cases found : fromClause (first :: more) rest with
  | inl next => exact search_of_turn (turn.trans found)
  | inr scanned => exact search_of_stop (turn.trans found)

theorem search_plainWord
    (other : first :: more ≠ js "from") :
    search (first :: (more ++ rest)) = search rest := by
  rw [search_word start parts stops, fromClause, if_neg other]

theorem search_unquotedWord
    (unquoted : startsSpecifier (skipWhitespace rest) = false) :
    search (first :: (more ++ rest)) = search rest := by
  by_cases isFrom : first :: more = js "from"
  · rw [search_word start parts stops, fromClause, if_pos isFrom]
    simp only [unquoted, Bool.false_eq_true, if_false]
    exact search_skipWhitespace rest
  · exact search_plainWord start parts stops isFrom

end

theorem search_from
    (specifier : Specifier)
    (rest : JsString) :
    search (js " from " ++ (specifier.quoted ++ rest)) =
      ⟨rest, some specifier.text⟩ := by
  have spaced : search (js " from " ++ (specifier.quoted ++ rest)) =
      search (0x66 :: (js "rom" ++ (0x20 :: (specifier.quoted ++ rest)))) :=
    search_skip (by decide) (by decide) _
  have quoted : skipWhitespace (0x20 :: (specifier.quoted ++ rest)) =
      specifier.quoted ++ rest := by
    rw [Specifier.quoted]
    rfl
  have starts : startsSpecifier (specifier.quoted ++ rest) = true := by
    rw [Specifier.quoted]
    rfl
  rw [spaced, search_word (by decide) (by decide)
    (by rintro unit ⟨⟩; decide), fromClause, if_pos (by decide)]
  simp only [quoted, starts, if_true, specifier.readQuotedSpecifier]

theorem stopsAt_dropWhile
    (stops : StopsAt keep rest)
    (text : JsString) :
    StopsAt keep (text.dropWhile keep ++ rest) := by
  intro unit isHead
  have first := List.head?_dropWhile_not keep text
  cases left : text.dropWhile keep with
  | nil =>
      rw [left] at isHead
      exact stops unit isHead
  | cons other more =>
      rw [left] at first isHead
      cases isHead
      exact first

variable {chunk : JsString}

theorem stopsAt_skipWhitespace
    (others : ∀ unit ∈ chunk, keep unit = false)
    (stops : StopsAt keep (skipWhitespace rest)) :
    StopsAt keep (skipWhitespace (chunk ++ rest)) := by
  induction chunk with
  | nil => exact stops
  | cons first more inductionHypothesis =>
      rw [List.forall_mem_cons] at others
      rw [List.cons_append, skipWhitespace, List.dropWhile_cons]
      split
      · exact inductionHypothesis others.2
      · rintro unit ⟨⟩
        exact others.1

theorem startsSpecifier_eq_false :
    startsSpecifier source = false ↔
      StopsAt (fun unit => specifierQuotes.contains unit) source := by
  cases source with
  | nil => simp [startsSpecifier, StopsAt]
  | cons unit rest => simp [startsSpecifier, StopsAt]

theorem IsInert.unquoted
    (inert : IsInert unit) :
    specifierQuotes.contains unit = false := by
  have plain := inert.2.1
  simp only [quotes, List.mem_cons, not_or] at plain
  simp [specifierQuotes, plain.1, plain.2.1]

theorem startsSpecifier_append
    (inert : ∀ unit ∈ chunk, IsInert unit)
    (unquoted : startsSpecifier (skipWhitespace rest) = false) :
    startsSpecifier (skipWhitespace (chunk ++ rest)) = false :=
  startsSpecifier_eq_false.mpr
    (stopsAt_skipWhitespace (fun unit member => (inert unit member).unquoted)
      (startsSpecifier_eq_false.mp unquoted))

theorem search_inert
    (inert : ∀ unit ∈ chunk, IsInert unit)
    (stops : StopsAt isIdentifierPart rest)
    (unquoted : startsSpecifier (skipWhitespace rest) = false) :
    search (chunk ++ rest) = search rest := by
  induction size : chunk.length using Nat.strongRecOn generalizing chunk with
  | _ size inductionHypothesis =>
  cases chunk with
  | nil => rfl
  | cons first more =>
      rw [List.forall_mem_cons] at inert
      by_cases start : isIdentifierStart first = true
      · -- The word ends inside the chunk or with it.
        have split : more.takeWhile isIdentifierPart ++
            more.dropWhile isIdentifierPart = more :=
          List.takeWhile_append_dropWhile
        have inertLeft : ∀ unit ∈ more.dropWhile isIdentifierPart,
            IsInert unit := fun unit member =>
          inert.2 unit ((List.dropWhile_suffix _).subset member)
        have later : search (more.dropWhile isIdentifierPart ++ rest) =
            search rest :=
          inductionHypothesis _
            (by rw [← size]; exact Nat.lt_succ_of_le (length_dropWhile_le _ _))
            inertLeft rfl
        rw [← later, ← search_unquotedWord start List.all_takeWhile
          (stopsAt_dropWhile stops more)
          (startsSpecifier_append inertLeft unquoted), ← List.append_assoc,
          split]
        rfl
      · rw [List.cons_append, search_skip inert.1 (by simpa using start)]
        exact inductionHypothesis more.length
          (by rw [← size]; exact Nat.lt_succ_self _) inert.2 rfl

/-! ## The scan for imports -/

/-- The loop of `importedSpecifiers`. -/
def scan (values : List JsString) (source : JsString) : List JsString :=
  importedSpecifiersLoop.run (values, source)

/-- The scan goes on with what a search for a specifier returns. -/
def resume (values : List JsString) (scanned : Scanned) : List JsString :=
  scan (values ++ scanned.specifier.toList) scanned.next

theorem scan_of_turn
    {values others : List JsString}
    {next : JsString}
    (continues : importedSpecifiersTurn (values, source) =
      .inl (others, next)) :
    scan values source = scan others next := by
  have equation := importedSpecifiersLoop.run_eq (values, source)
  rw [show importedSpecifiersLoop.turn (values, source) = .inl (others, next)
    from continues] at equation
  exact equation

theorem scan_nil (values : List JsString) : scan values [] = values := by
  have equation := importedSpecifiersLoop.run_eq (values, [])
  exact equation

theorem scan_skip
    (notSlash : unit ≠ slash)
    (notQuote : unit ∉ quotes)
    (plain : isIdentifierStart unit = false)
    (values : List JsString)
    (rest : JsString) :
    scan values (unit :: rest) = scan values rest := by
  refine scan_of_turn ?_
  rw [importedSpecifiersTurn,
    if_neg (by rw [startsComment_of_ne notSlash]; exact Bool.false_ne_true),
    if_neg (by
      rw [contains_quotes_of_not_mem notQuote]
      exact Bool.false_ne_true),
    if_pos plain]

theorem scan_lineComment
    (oneLine : ∀ unit ∈ text, unit ∉ lineTerminators)
    (stops : StopsAt (fun unit => unit ≠ 0x0A && unit ≠ 0x0D) rest)
    (values : List JsString) :
    scan values (slash :: slash :: (text ++ rest)) = scan values rest := by
  refine scan_of_turn ?_
  rw [importedSpecifiersTurn,
    if_pos (show startsComment (slash :: slash :: (text ++ rest)) = true
      from rfl),
    skipComment_line oneLine stops]

/-- A keyword of imports and exports. -/
def IsKeyword (word : JsString) : Prop :=
  word = js "import" ∨ word = js "export"

instance (word : JsString) : Decidable (IsKeyword word) := by
  unfold IsKeyword
  infer_instance

theorem scan_keyword
    (keyword : IsKeyword (first :: more))
    (parts : more.all isIdentifierPart = true)
    (start : isIdentifierStart first = true)
    (stops : StopsAt isIdentifierPart rest)
    (values : List JsString) :
    scan values (first :: (more ++ rest)) =
      resume values
        (scanModuleSpecifier rest (first :: more = js "import")) := by
  have inert := isInert_of_start start
  obtain ⟨taken, left⟩ := takeWhile_append_stop parts stops
  refine scan_of_turn ?_
  rw [importedSpecifiersTurn,
    if_neg (by rw [startsComment_of_ne inert.1]; exact Bool.false_ne_true),
    if_neg (by
      rw [contains_quotes_of_not_mem inert.2.1]
      exact Bool.false_ne_true),
    if_neg (by rw [start]; exact Bool.noConfusion)]
  simp only [identifierRest, taken, left]
  exact if_pos keyword

theorem scanModuleSpecifier_export (source : JsString) :
    scanModuleSpecifier source false = search source := by
  simp only [scanModuleSpecifier, Bool.false_and, Bool.false_eq_true, if_false]
  exact search_skipWhitespace source

theorem scanModuleSpecifier_names
    (unquoted : startsSpecifier (skipWhitespace source) = false)
    (notCall : StopsAt (fun unit => unit = 0x28) (skipWhitespace source)) :
    scanModuleSpecifier source true = search source := by
  have notParen : ((skipWhitespace source).head? = some 0x28) = False := by
    rw [eq_iff_iff, iff_false]
    intro isParen
    simpa using notCall 0x28 isParen
  simp only [scanModuleSpecifier, unquoted, Bool.and_false,
    Bool.false_eq_true, if_false, notParen, decide_false]
  exact search_skipWhitespace source

theorem scanModuleSpecifier_quoted
    (specifier : Specifier)
    (rest : JsString) :
    scanModuleSpecifier (0x20 :: (specifier.quoted ++ rest)) true =
      ⟨rest, some specifier.text⟩ := by
  have spaces : skipWhitespace (0x20 :: (specifier.quoted ++ rest)) =
      specifier.quoted ++ rest := by
    rw [Specifier.quoted]
    rfl
  have starts : startsSpecifier (specifier.quoted ++ rest) = true := by
    rw [Specifier.quoted]
    rfl
  simp only [scanModuleSpecifier, spaces, starts, Bool.true_and, if_true]
  exact specifier.readQuotedSpecifier rest

/-! ## Statements under the scanner -/

theorem forall_of_literal
    {property : CodeUnit → Prop}
    [DecidablePred property]
    {literal : JsString}
    (plain : (literal.all fun unit => decide (property unit)) = true) :
    ∀ unit ∈ literal, property unit :=
  fun unit member => of_decide_eq_true (List.all_eq_true.mp plain unit member)

namespace BoundName

/-- A name between braces. -/
def listed (name : BoundName) : JsString :=
  js "\x7b " ++ name.text ++ js " \x7d"

theorem inert (name : BoundName) : ∀ unit ∈ name.text, IsInert unit :=
  fun unit member => isInert_of_kind isNameUnit rfl
    (List.all_eq_true.mp name.units unit member)

theorem notCall (name : BoundName) : ∀ unit ∈ name.text, unit ≠ 0x28 := by
  rintro unit member rfl
  have kept := List.all_eq_true.mp name.units _ member
  cases kept

theorem inert_listed (name : BoundName) :
    ∀ unit ∈ name.listed, IsInert unit := by
  simp only [listed, List.forall_mem_append]
  exact ⟨⟨forall_of_literal rfl, name.inert⟩, forall_of_literal rfl⟩

theorem notCall_listed (name : BoundName) :
    ∀ unit ∈ name.listed, unit ≠ 0x28 := by
  simp only [listed, List.forall_mem_append]
  exact ⟨⟨forall_of_literal rfl, name.notCall⟩, forall_of_literal rfl⟩

end BoundName

namespace NumberLiteral

theorem inert (value : NumberLiteral) : ∀ unit ∈ value.text, IsInert unit :=
  fun unit member => isInert_of_kind isNumberUnit rfl
    (List.all_eq_true.mp value.units unit member)

end NumberLiteral

/-- The lines after a statement. -/
def lineTail : List Statement → JsString
  | [] => []
  | statement :: more => lineFeed :: (statement.units ++ lineTail more)

section

variable (statement : Statement)

theorem sourceText_cons
    (more : List Statement) :
    sourceText (statement :: more) = statement.units ++ lineTail more := by
  induction more generalizing statement with
  | nil => simp [sourceText, lineTail]
  | cons next more inductionHypothesis =>
      rw [lineTail, ← inductionHypothesis next]
      simp [sourceText, List.intercalate]

/-- How the scanner is left by a statement: still searching or not. -/
def Statement.pendingAfter (statement : Statement) (pending : Bool) : Bool :=
  match statement.form with
  | .comment _ => pending
  | .exportConst _ _ => !statement.ended
  | .importOnly _ => pending && !statement.ended
  | _ => false

/-- The specifiers that the scanner finds in a statement. -/
def Statement.found (statement : Statement) (pending : Bool) :
    List JsString :=
  match statement.form with
  | .importOnly specifier => if pending then [] else [specifier.text]
  | _ => statement.specifiers

/-- The scanner between statements. -/
def goOn (pending : Bool) (values : List JsString) (source : JsString) :
    List JsString :=
  if pending then resume values (search source) else scan values source

theorem Statement.units_head :
    ∃ first rest, statement.units = first :: rest ∧
      first ∈ [0x69, 0x65, slash] := by
  obtain ⟨form, ended⟩ := statement
  cases form <;> exact ⟨_, _, rfl, by decide +kernel⟩

theorem lineTail_stops
    (more : List Statement) :
    StopsAt isIdentifierPart (statement.ending ++ lineTail more) ∧
      startsSpecifier
        (skipWhitespace (statement.ending ++ lineTail more)) = false := by
  unfold Statement.ending
  cases statement.ended with
  | true => exact ⟨by rintro unit ⟨⟩; decide, rfl⟩
  | false =>
      cases more with
      | nil => exact ⟨nofun, rfl⟩
      | cons next more =>
          refine ⟨by rintro unit ⟨⟩; decide, ?_⟩
          obtain ⟨first, rest, shape, heads⟩ := next.units_head
          simp only [List.mem_cons, List.not_mem_nil, or_false] at heads
          rw [lineTail, shape]
          rcases heads with rfl | rfl | rfl <;> rfl

theorem scan_ending
    (values : List JsString)
    (rest : JsString) :
    scan values (statement.ending ++ rest) = scan values rest := by
  unfold Statement.ending
  split
  · exact scan_skip (by decide) (by decide) (by decide) values rest
  · rfl

theorem resume_ending
    (values : List JsString)
    (rest : JsString) :
    resume values (search (statement.ending ++ rest)) =
      goOn (!statement.ended) values rest := by
  unfold Statement.ending
  cases statement.ended with
  | false => rfl
  | true =>
      simp only [if_true, List.cons_append, List.nil_append,
        search_semicolon, resume, Option.toList_none, List.append_nil]
      exact scan_skip (by decide) (by decide) (by decide) values rest

end

theorem search_clause
    {chunk : JsString}
    (inert : ∀ unit ∈ chunk, IsInert unit)
    (specifier : Specifier)
    (rest : JsString) :
    search (chunk ++ (js " from " ++ (specifier.quoted ++ rest))) =
      ⟨rest, some specifier.text⟩ := by
  rw [search_inert inert (by rintro unit ⟨⟩; decide) rfl, search_from]

theorem comment_ending_oneLine
    (text : CommentText)
    (statement : Statement) :
    ∀ unit ∈ text.text ++ statement.ending, unit ∉ lineTerminators := by
  rw [List.forall_mem_append]
  refine ⟨text.oneLine, ?_⟩
  unfold Statement.ending
  cases statement.ended <;> simp [lineTerminators, semicolon]

theorem lineTail_stops_comment (more : List Statement) :
    StopsAt (fun unit => unit ≠ 0x0A && unit ≠ 0x0D) (lineTail more) := by
  cases more with
  | nil => nofun
  | cons next more =>
      rintro unit ⟨⟩
      decide

theorem goOn_comment
    (text : CommentText)
    (ended pending : Bool)
    (values : List JsString)
    (more : List Statement) :
    goOn pending values
        ((⟨.comment text, ended⟩ : Statement).units ++ lineTail more) =
      goOn pending values (lineTail more) := by
  have oneLine := comment_ending_oneLine text ⟨.comment text, ended⟩
  have stops := lineTail_stops_comment more
  have shape : (⟨.comment text, ended⟩ : Statement).units ++ lineTail more =
      slash :: slash :: ((text.text ++
        (⟨.comment text, ended⟩ : Statement).ending) ++ lineTail more) :=
    rfl
  rw [shape]
  cases pending with
  | false => exact scan_lineComment oneLine stops values
  | true =>
      rw [goOn, if_pos rfl, search_lineComment oneLine stops]
      rfl

theorem resume_found
    (statement : Statement)
    (values : List JsString)
    (specifier : Specifier)
    (rest : JsString) :
    resume values ⟨statement.ending ++ rest, some specifier.text⟩ =
      goOn false (values ++ [specifier.text]) rest :=
  scan_ending statement _ rest

theorem inert_of_parts
    {word : JsString}
    (parts : word.all isIdentifierPart = true) :
    ∀ unit ∈ word, IsInert unit :=
  fun unit member => isInert_of_kind isIdentifierPart rfl
    (List.all_eq_true.mp parts unit member)

theorem goOn_clause
    (first : CodeUnit)
    (keyword names : JsString)
    (isKeyword : IsKeyword (first :: keyword))
    (start : isIdentifierStart first = true)
    (parts : keyword.all isIdentifierPart = true)
    (inert : ∀ unit ∈ names, IsInert unit)
    (notCall : ∀ unit ∈ names, unit ≠ 0x28)
    (pending : Bool)
    (values : List JsString)
    (specifier : Specifier)
    (statement : Statement)
    (clause : statement.form.units = first :: (keyword ++ (0x20 :: names ++
      (js " from " ++ specifier.quoted))))
    (rest : JsString) :
    goOn pending values (statement.units ++ rest) =
      goOn false (values ++ [specifier.text]) rest := by
  have spaced : ∀ unit ∈ 0x20 :: names, IsInert unit :=
    List.forall_mem_cons.mpr ⟨by decide, inert⟩
  rw [Statement.units, clause, List.append_assoc, List.cons_append]
  simp only [List.append_assoc]
  rw [← resume_found statement values specifier rest]
  cases pending with
  | true =>
      have chunk : ∀ unit ∈ first :: (keyword ++ 0x20 :: names),
          IsInert unit := by
        rw [List.forall_mem_cons, List.forall_mem_append]
        exact ⟨isInert_of_start start, inert_of_parts parts, spaced⟩
      have found := search_clause chunk specifier (statement.ending ++ rest)
      rw [goOn, if_pos rfl, ← found]
      simp only [List.cons_append, List.append_assoc]
  | false =>
      have found := search_clause spaced specifier (statement.ending ++ rest)
      have unquoted : startsSpecifier (skipWhitespace (0x20 :: names ++
          (js " from " ++ (specifier.quoted ++ (statement.ending ++ rest))))) =
            false :=
        startsSpecifier_append spaced rfl
      have noCall : StopsAt (fun unit => unit = 0x28)
          (skipWhitespace (0x20 :: names ++ (js " from " ++
            (specifier.quoted ++ (statement.ending ++ rest))))) := by
        refine stopsAt_skipWhitespace ?_ (by rintro unit ⟨⟩; decide)
        rw [List.forall_mem_cons]
        exact ⟨by decide, fun unit member =>
          decide_eq_false (notCall unit member)⟩
      rw [goOn, if_neg Bool.false_ne_true,
        scan_keyword isKeyword parts start (by rintro unit ⟨⟩; decide)]
      by_cases isImport : first :: keyword = js "import"
      · rw [decide_eq_true isImport,
          scanModuleSpecifier_names unquoted noCall, found]
      · rw [decide_eq_false isImport, scanModuleSpecifier_export, found]

section

variable (pending ended : Bool) (values : List JsString)

theorem goOn_importOnly
    (specifier : Specifier)
    (rest : JsString) :
    goOn pending values
        ((⟨.importOnly specifier, ended⟩ : Statement).units ++ rest) =
      goOn (pending && !ended)
        (values ++ if pending then [] else [specifier.text]) rest := by
  have shape : (⟨.importOnly specifier, ended⟩ : Statement).units ++ rest =
      0x69 :: (js "mport" ++ (0x20 :: (specifier.quoted ++
        ((⟨.importOnly specifier, ended⟩ : Statement).ending ++ rest)))) := by
    simp only [Statement.units, StatementForm.units, List.append_assoc]
    rfl
  have isKeyword : IsKeyword (0x69 :: js "mport") := .inl rfl
  rw [shape]
  cases pending with
  | true =>
      rw [goOn, if_pos rfl,
        search_plainWord (by decide) (by decide) (by rintro unit ⟨⟩; decide)
          (by decide),
        search_skip (by decide) (by decide), search_quoted, resume_ending]
      simp
  | false =>
      rw [goOn, if_neg Bool.false_ne_true,
        scan_keyword isKeyword (by decide) (by decide)
          (by rintro unit ⟨⟩; decide)]
      rw [show decide ((0x69 : CodeUnit) :: js "mport" = js "import") = true
        from rfl, scanModuleSpecifier_quoted, resume_found]
      rfl

theorem goOn_exportConst
    (name : BoundName)
    (value : NumberLiteral)
    (more : List Statement) :
    goOn pending values
        ((⟨.exportConst name value, ended⟩ : Statement).units ++
          lineTail more) =
      goOn (!ended) values (lineTail more) := by
  obtain ⟨stops, unquoted⟩ :=
    lineTail_stops ⟨.exportConst name value, ended⟩ more
  have inert : ∀ unit ∈ js " const " ++ name.text ++ js " = " ++ value.text,
      IsInert unit := by
    simp only [List.forall_mem_append]
    exact ⟨⟨⟨forall_of_literal rfl, name.inert⟩, forall_of_literal rfl⟩,
      value.inert⟩
  have shape :
      (⟨.exportConst name value, ended⟩ : Statement).units ++ lineTail more =
        0x65 :: (js "xport" ++ ((js " const " ++ name.text ++ js " = " ++
          value.text) ++ ((⟨.exportConst name value, ended⟩ :
            Statement).ending ++ lineTail more))) := by
    simp only [Statement.units, StatementForm.units, List.append_assoc]
    rfl
  have ends := resume_ending ⟨.exportConst name value, ended⟩ values
    (lineTail more)
  have isKeyword : IsKeyword (0x65 :: js "xport") := .inr rfl
  rw [shape, ← ends]
  cases pending with
  | true =>
      have chunk : ∀ unit ∈ 0x65 :: (js "xport" ++ (js " const " ++
          name.text ++ js " = " ++ value.text)), IsInert unit := by
        rw [List.forall_mem_cons, List.forall_mem_append]
        exact ⟨by decide, forall_of_literal rfl, inert⟩
      rw [goOn, if_pos rfl, ← search_inert chunk stops unquoted]
      simp only [List.cons_append, List.append_assoc]
  | false =>
      rw [goOn, if_neg Bool.false_ne_true,
        scan_keyword isKeyword (by decide) (by decide)
          (by rintro unit ⟨⟩; decide),
        decide_eq_false (by decide), scanModuleSpecifier_export,
        search_inert inert stops unquoted]

end

section

variable (pending : Bool) (values : List JsString)

theorem goOn_statement
    (statement : Statement)
    (more : List Statement) :
    goOn pending values (statement.units ++ lineTail more) =
      goOn (statement.pendingAfter pending)
        (values ++ statement.found pending) (lineTail more) := by
  obtain ⟨form, ended⟩ := statement
  cases form with
  | comment text =>
      rw [goOn_comment]
      simp [Statement.pendingAfter, Statement.found, Statement.specifiers]
  | exportConst name value =>
      rw [goOn_exportConst]
      simp [Statement.pendingAfter, Statement.found, Statement.specifiers]
  | importOnly specifier => exact goOn_importOnly pending ended values _ _
  | importDefault name specifier =>
      refine goOn_clause 0x69 (js "mport") name.text (.inl rfl) (by decide)
        (by decide) name.inert name.notCall pending values specifier _ ?_ _
      simp only [StatementForm.units, List.append_assoc]
      rfl
  | importNamed name specifier =>
      refine goOn_clause 0x69 (js "mport") name.listed (.inl rfl) (by decide)
        (by decide) name.inert_listed name.notCall_listed pending values
        specifier _ ?_ _
      simp only [StatementForm.units, List.append_assoc, List.cons_append,
        BoundName.listed]
      rfl
  | exportNamed name specifier =>
      refine goOn_clause 0x65 (js "xport") name.listed (.inr rfl) (by decide)
        (by decide) name.inert_listed name.notCall_listed pending values
        specifier _ ?_ _
      simp only [StatementForm.units, List.append_assoc, List.cons_append,
        BoundName.listed]
      rfl

/-- What the scanner finds in lines of statements. -/
def foundIn : Bool → List Statement → List JsString
  | _, [] => []
  | pending, statement :: more =>
      statement.found pending ++ foundIn (statement.pendingAfter pending) more

theorem goOn_lineTail
    (statements : List Statement) :
    goOn pending values (lineTail statements) =
      values ++ foundIn pending statements := by
  induction statements generalizing pending values with
  | nil =>
      rw [lineTail, foundIn, List.append_nil, goOn, search_nil, resume]
      simp [scan_nil]
  | cons statement more inductionHypothesis =>
      have line : goOn pending values
          (lineFeed :: (statement.units ++ lineTail more)) =
            goOn pending values (statement.units ++ lineTail more) := by
        unfold goOn
        rw [search_skip (by decide) (by decide),
          scan_skip (by decide) (by decide) (by decide)]
      rw [lineTail, line, goOn_statement, inductionHypothesis, foundIn,
        List.append_assoc]

end

theorem importedSpecifiers_sourceText
    (path : JsString)
    (language : SourceLanguage)
    (statements : List Statement) :
    importedSpecifiers ⟨path, sourceText statements, language⟩ =
      foundIn false statements := by
  have line : scan [] (sourceText statements) =
      goOn false [] (lineTail statements) := by
    cases statements with
    | nil => rfl
    | cons statement more =>
        rw [sourceText_cons, lineTail, goOn, if_neg Bool.false_ne_true,
          scan_skip (by decide) (by decide) (by decide)]
  exact line.trans (goOn_lineTail false [] statements)

/-! ## Missed imports -/

/-- Some `import 'S'` comes while the scanner is searching. -/
def MissedImport : Bool → List Statement → Prop
  | _, [] => False
  | pending, statement :: more =>
      (pending = true ∧ statement.IsBareImport) ∨
        MissedImport (statement.pendingAfter pending) more

theorem Statement.found_cases
    (statement : Statement)
    (pending : Bool) :
    (statement.found pending = statement.specifiers ∧
        ¬(pending = true ∧ statement.IsBareImport)) ∨
      (statement.found pending = [] ∧ statement.specifiers.length = 1 ∧
        pending = true ∧ statement.IsBareImport) := by
  obtain ⟨form, ended⟩ := statement
  cases form with
  | importOnly specifier =>
      cases pending with
      | false => exact .inl ⟨rfl, by simp⟩
      | true => exact .inr ⟨rfl, rfl, rfl, specifier, rfl⟩
  | importDefault name specifier =>
      exact .inl ⟨rfl, by rintro ⟨_, _, ⟨⟩⟩⟩
  | _ => exact .inl ⟨rfl, by rintro ⟨_, _, ⟨⟩⟩⟩

section

variable (pending : Bool) (statements : List Statement)

theorem length_foundIn_le :
    (foundIn pending statements).length ≤
      (statementSpecifiers statements).length := by
  induction statements generalizing pending with
  | nil => exact Nat.le_refl 0
  | cons statement more inductionHypothesis =>
      have later := inductionHypothesis (statement.pendingAfter pending)
      rw [foundIn, statementSpecifiers, List.flatMap_cons,
        ← statementSpecifiers, List.length_append, List.length_append]
      rcases statement.found_cases pending with ⟨all, _⟩ | ⟨none, one, _⟩
      · rw [all]
        omega
      · rw [none, one, List.length_nil]
        omega

/-- Every specifier is found exactly when no import is missed. -/
theorem foundIn_eq_iff :
    foundIn pending statements = statementSpecifiers statements ↔
      ¬MissedImport pending statements := by
  induction statements generalizing pending with
  | nil => simp [foundIn, statementSpecifiers, MissedImport]
  | cons statement more inductionHypothesis =>
      have later := inductionHypothesis (statement.pendingAfter pending)
      have bound := length_foundIn_le (statement.pendingAfter pending) more
      rw [foundIn, statementSpecifiers, List.flatMap_cons,
        ← statementSpecifiers, MissedImport, not_or]
      rcases statement.found_cases pending with
        ⟨all, notMissed⟩ | ⟨none, one, missed⟩
      · rw [all, List.append_cancel_left_eq, later]
        exact (and_iff_right notMissed).symm
      · refine iff_of_false ?_ fun found => found.1 missed
        intro same
        have lengths := congrArg List.length same
        rw [none, List.length_append, List.length_append, one,
          List.length_nil] at lengths
        omega

end

/-- An `import 'S'` comes first, apart from comments. -/
def ImportComesFirst (statements : List Statement) : Prop :=
  ∃ comments bare after,
    statements = comments ++ bare :: after ∧
      (∀ statement ∈ comments, Statement.IsComment statement) ∧
      Statement.IsBareImport bare

section

variable (statement : Statement) (more : List Statement)

theorem importComesFirst_cons :
    ImportComesFirst (statement :: more) ↔
      statement.IsBareImport ∨
        (statement.IsComment ∧ ImportComesFirst more) := by
  constructor
  · rintro ⟨comments, bare, after, shape, all, isBare⟩
    cases comments with
    | nil =>
        cases shape
        exact .inl isBare
    | cons comment comments =>
        cases shape
        rw [List.forall_mem_cons] at all
        exact .inr ⟨all.1, comments, bare, after, rfl, all.2, isBare⟩
  · rintro (isBare | ⟨isComment, comments, bare, after, rfl, all, isBare⟩)
    · exact ⟨[], statement, more, rfl, by simp, isBare⟩
    · exact ⟨statement :: comments, bare, after, rfl,
        List.forall_mem_cons.mpr ⟨isComment, all⟩, isBare⟩

theorem importFollowsOpenConst_cons :
    ImportFollowsOpenConst (statement :: more) ↔
      (statement.IsOpenConst ∧ ImportComesFirst more) ∨
        ImportFollowsOpenConst more := by
  constructor
  · rintro ⟨before, opening, comments, bare, after, shape, isOpen, all,
      isBare⟩
    cases before with
    | nil =>
        cases shape
        exact .inl ⟨isOpen, comments, bare, after, rfl, all, isBare⟩
    | cons first before =>
        cases shape
        exact .inr ⟨before, opening, comments, bare, after, rfl, isOpen, all,
          isBare⟩
  · rintro (⟨isOpen, comments, bare, after, rfl, all, isBare⟩ |
      ⟨before, opening, comments, bare, after, rfl, isOpen, all, isBare⟩)
    · exact ⟨[], statement, comments, bare, after, rfl, isOpen, all, isBare⟩
    · exact ⟨statement :: before, opening, comments, bare, after, rfl, isOpen,
        all, isBare⟩

end

theorem Statement.pendingAfter_iff
    (statement : Statement)
    (pending : Bool) :
    statement.pendingAfter pending = true ↔
      (statement.IsComment ∧ pending = true) ∨ statement.IsOpenConst ∨
        (statement.IsBareImport ∧ pending = true ∧
          statement.ended = false) := by
  obtain ⟨form, ended⟩ := statement
  cases form <;>
    simp [pendingAfter, IsComment, IsOpenConst, IsBareImport]

/-- An import is missed after an open `export const` and comments. -/
theorem missedImport_iff
    (pending : Bool)
    (statements : List Statement) :
    MissedImport pending statements ↔
      (pending = true ∧ ImportComesFirst statements) ∨
        ImportFollowsOpenConst statements := by
  induction statements generalizing pending with
  | nil => simp [MissedImport, ImportComesFirst, ImportFollowsOpenConst]
  | cons statement more inductionHypothesis =>
      rw [MissedImport, inductionHypothesis, importComesFirst_cons,
        importFollowsOpenConst_cons, statement.pendingAfter_iff]
      constructor
      · rintro (⟨isPending, isBare⟩ |
          ⟨⟨isComment, isPending⟩ | isOpen | ⟨isBare, isPending, _⟩, first⟩ |
            follows)
        · exact .inl ⟨isPending, .inl isBare⟩
        · exact .inl ⟨isPending, .inr ⟨isComment, first⟩⟩
        · exact .inr (.inl ⟨isOpen, first⟩)
        · exact .inl ⟨isPending, .inl isBare⟩
        · exact .inr (.inr follows)
      · rintro (⟨isPending, isBare | ⟨isComment, first⟩⟩ |
          ⟨isOpen, first⟩ | follows)
        · exact .inl ⟨isPending, isBare⟩
        · exact .inr (.inl ⟨.inl ⟨isComment, isPending⟩, first⟩)
        · exact .inr (.inl ⟨.inr (.inl isOpen), first⟩)
        · exact .inr (.inr follows)

theorem validate_undeclared
    {workspace : ReactSourceWorkspace}
    {file : SourceFile}
    (member : file ∈ workspace.files)
    {specifier : JsString}
    (imported : specifier ∈ importedSpecifiers file)
    (bare : specifier.head? ≠ some dot)
    (undeclared : specifier ∉ workspace.dependencies)
    (policyDependencies : List JsString) :
    ∃ diagnostics,
      validateReactSourceWorkspace workspace policyDependencies =
        .error diagnostics := by
  have found : (⟨.invalidImport,
      js "Import is not a declared dependency: " ++ specifier,
      some file.path⟩ : SourceDiagnostic) ∈
        workspaceDiagnostics workspace policyDependencies := by
    simp only [workspaceDiagnostics, List.mem_append, List.mem_flatMap]
    refine .inl (.inr ⟨file, member, specifier, imported, ?_⟩)
    rw [importDiagnostics, if_neg bare, if_neg undeclared]
    exact List.mem_singleton_self _
  exact ⟨_, check_of_not (List.ne_nil_of_mem found)⟩

/--
The scanner finds exactly the specifiers of a text of statements, and every
workspace with an undeclared bare specifier in such a file is rejected, exactly
when no `import 'S'` follows an `export const` without a semicolon, apart from
comments.
-/
theorem importedSpecifiers_statements_iff
    (path : JsString)
    (language : SourceLanguage)
    (statements : List Statement) :
    (importedSpecifiers ⟨path, sourceText statements, language⟩ =
        statementSpecifiers statements ∧
      ∀ workspace policyDependencies,
        ⟨path, sourceText statements, language⟩ ∈
            ReactSourceWorkspace.files workspace →
        (∃ specifier ∈ statementSpecifiers statements,
          specifier.head? ≠ some dot ∧
            specifier ∉ workspace.dependencies) →
        ∃ diagnostics,
          validateReactSourceWorkspace workspace policyDependencies =
            .error diagnostics) ↔
      ¬ImportFollowsOpenConst statements := by
  have found := importedSpecifiers_sourceText path language statements
  have missed : MissedImport false statements ↔
      ImportFollowsOpenConst statements := by
    simpa using missedImport_iff false statements
  rw [← missed, ← foundIn_eq_iff, ← found]
  refine and_iff_left_of_imp fun all => ?_
  rintro workspace policyDependencies member
    ⟨specifier, stated, bare, undeclared⟩
  rw [← all] at stated
  exact validate_undeclared member stated bare undeclared policyDependencies

/-- `export const n = 1` and, on the next line, `import 'lodash'`. -/
def hiddenImport : List Statement := [
  ⟨.exportConst ⟨js "n", by decide +kernel, by decide +kernel⟩
    ⟨js "1", by decide +kernel, by decide +kernel⟩, false⟩,
  ⟨.importOnly ⟨js "lodash", forall_of_literal (by decide +kernel),
    by decide +kernel⟩, true⟩]

/-- A workspace of one file that hides an undeclared import. -/
def hidingWorkspace : ReactSourceWorkspace where
  entrypoint := js "App.ts"
  files := [⟨js "App.ts", sourceText hiddenImport, .ts⟩]
  dependencies := []
  nodes := []

/-- The scanner finds nothing in it, and the workspace is accepted. -/
theorem hiddenImport_accepted :
    statementSpecifiers hiddenImport = [js "lodash"] ∧
      importedSpecifiers ⟨js "App.ts", sourceText hiddenImport, .ts⟩ = [] ∧
      validateReactSourceWorkspace hidingWorkspace [] = .ok () := by
  decide +kernel

end Selene.Generation
