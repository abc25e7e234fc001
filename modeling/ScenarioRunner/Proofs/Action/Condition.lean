import Mathlib.Data.List.Basic
import ScenarioRunner.Action.SoftDelete

/-!
# Conditions of statements

The conditions that are built from predicates with `AND`, `OR` and parentheses. `AND` binds tighter than
`OR`, so a condition is a disjunction of conjunctions of operands, and an operand is a predicate or a
condition in parentheses. `Disjunction.tokens` writes a condition down. A machine with a stack of open
parentheses reads it back (`Reader.read_tokens`), so no two conditions are written with the same tokens
(`Disjunction.tokens_injective`).

What a predicate is, and where it ends in a text, is up to the database: `Lexes` takes a reader of predicates
and finds the keywords and the parentheses between them.
-/

set_option autoImplicit false

namespace ScenarioRunner.Condition

/-! ## Grammar -/

/-- The pieces of a condition. -/
inductive Token (α : Type) where
  | predicate (a : α)
  | and
  | or
  | opening
  | closing

mutual

/-- A predicate, or a condition in parentheses. -/
inductive Operand (α : Type) where
  | predicate (a : α)
  | group (inner : Disjunction α)

/-- Operands joined by `AND`. -/
inductive Conjunction (α : Type) where
  | single (operand : Operand α)
  | and (left : Conjunction α) (right : Operand α)

/-- Conjunctions joined by `OR`: any condition. -/
inductive Disjunction (α : Type) where
  | single (conjunction : Conjunction α)
  | or (left : Disjunction α) (right : Conjunction α)

end

variable {α : Type}

mutual

/-- How an operand is written. -/
def Operand.tokens : Operand α → List (Token α)
  | .predicate a => [.predicate a]
  | .group inner => .opening :: (inner.tokens ++ [.closing])

/-- How a conjunction is written. -/
def Conjunction.tokens : Conjunction α → List (Token α)
  | .single operand => operand.tokens
  | .and left right => left.tokens ++ .and :: right.tokens

/-- How a condition is written. -/
def Disjunction.tokens : Disjunction α → List (Token α)
  | .single conjunction => conjunction.tokens
  | .or left right => left.tokens ++ .or :: right.tokens

end

section Truth

variable (row : α → Bool)

mutual

/-- Whether an operand is true for a row, given the predicates that are. What is unknown is not true. -/
def Operand.truth : Operand α → Bool
  | .predicate a => row a
  | .group inner => inner.truth

/-- Whether a conjunction is true for a row. -/
def Conjunction.truth : Conjunction α → Bool
  | .single operand => operand.truth
  | .and left right => left.truth && right.truth

/-- Whether a condition is true for a row. -/
def Disjunction.truth : Disjunction α → Bool
  | .single conjunction => conjunction.truth
  | .or left right => left.truth || right.truth

end

end Truth

/-- The conjunctions that a condition joins. -/
def Disjunction.disjuncts : Disjunction α → List (Conjunction α)
  | .single conjunction => [conjunction]
  | .or left right => left.disjuncts ++ [right]

/-- A condition is true when one of its conjunctions is. -/
theorem Disjunction.truth_iff {row : α → Bool} :
    ∀ c : Disjunction α, c.truth row = true ↔ ∃ d ∈ c.disjuncts, d.truth row = true
  | .single conjunction => by simp [truth, disjuncts]
  | .or left right => by
      simp only [truth, disjuncts, Bool.or_eq_true, left.truth_iff, List.mem_append,
        List.mem_singleton, or_and_right, exists_or, exists_eq_left]

theorem Disjunction.exists_disjuncts : ∀ c : Disjunction α, ∃ first later, c.disjuncts = first :: later
  | .single conjunction => ⟨conjunction, [], rfl⟩
  | .or left right => by
      obtain ⟨first, later, h⟩ := left.exists_disjuncts
      exact ⟨first, later ++ [right], by rw [disjuncts, h, List.cons_append]⟩

/-! ## Reading -/

namespace Reader

/-- What has been read inside of a parenthesis, up to an operand that is still to come. -/
structure Frame (α : Type) where
  disjunction : Option (Disjunction α)
  conjunction : Option (Conjunction α)

/-- Joins the operand that was awaited to the ones before it. -/
def Frame.join (frame : Frame α) (operand : Operand α) : Conjunction α :=
  match frame.conjunction with
  | none => .single operand
  | some left => .and left operand

/-- Joins a conjunction to those before it. -/
def close (disjunction : Option (Disjunction α)) (conjunction : Conjunction α) : Disjunction α :=
  match disjunction with
  | none => .single conjunction
  | some left => .or left conjunction

/-- A state of the machine: what it awaits, with the frames of the parentheses that are open. -/
inductive State (α : Type) where
  | operand (outer : List (Frame α)) (frame : Frame α)
  | operator (outer : List (Frame α)) (disjunction : Option (Disjunction α))
      (conjunction : Conjunction α)

/-- Reads one token. -/
def step : State α → Token α → Option (State α)
  | .operand outer frame, .predicate a =>
    some (.operator outer frame.disjunction (frame.join (.predicate a)))
  | .operand outer frame, .opening => some (.operand (frame :: outer) ⟨none, none⟩)
  | .operator outer disjunction conjunction, .and => some (.operand outer ⟨disjunction, some conjunction⟩)
  | .operator outer disjunction conjunction, .or =>
    some (.operand outer ⟨some (close disjunction conjunction), none⟩)
  | .operator (frame :: outer) disjunction conjunction, .closing =>
    some (.operator outer frame.disjunction (frame.join (.group (close disjunction conjunction))))
  | _, _ => none

/-- The condition that has been read, if it is complete. -/
def finish : State α → Option (Disjunction α)
  | .operator [] disjunction conjunction => some (close disjunction conjunction)
  | _ => none

/-- Reads tokens as a condition. -/
def read (tokens : List (Token α)) : Option (Disjunction α) :=
  (tokens.foldlM step (.operand [] ⟨none, none⟩)).bind finish

-- the frames outside are arbitrary, since what stands in parentheses is read on top of those before it
mutual

/-- An operand that was awaited is joined to what is before it. -/
theorem foldlM_operand (outer : List (Frame α)) (frame : Frame α) : ∀ operand : Operand α,
    operand.tokens.foldlM step (.operand outer frame) =
      some (.operator outer frame.disjunction (frame.join operand))
  | .predicate a => rfl
  | .group inner => by
      -- the frame waits below the parenthesis until it is closed
      obtain ⟨disjunction, conjunction, hinner, hclose⟩ := foldlM_disjunction (frame :: outer) inner
      rw [Operand.tokens, List.foldlM_cons]
      change (inner.tokens ++ [Token.closing]).foldlM step (.operand (frame :: outer) ⟨none, none⟩) = _
      rw [List.foldlM_append, hinner, ← hclose]
      rfl

/-- A conjunction is read behind any disjunction. -/
theorem foldlM_conjunction (outer : List (Frame α)) (disjunction : Option (Disjunction α)) :
    ∀ conjunction : Conjunction α,
      conjunction.tokens.foldlM step (.operand outer ⟨disjunction, none⟩) =
        some (.operator outer disjunction conjunction)
  | .single operand => foldlM_operand outer ⟨disjunction, none⟩ operand
  | .and left right => by
      rw [Conjunction.tokens, List.foldlM_append, foldlM_conjunction outer disjunction left]
      exact foldlM_operand outer ⟨disjunction, some left⟩ right

/-- A condition is read behind an opening parenthesis or at the front. -/
theorem foldlM_disjunction (outer : List (Frame α)) : ∀ c : Disjunction α,
    ∃ disjunction conjunction, c.tokens.foldlM step (.operand outer ⟨none, none⟩) =
      some (.operator outer disjunction conjunction) ∧ close disjunction conjunction = c
  | .single conjunction => ⟨none, conjunction, foldlM_conjunction outer none conjunction, rfl⟩
  | .or left right => by
      obtain ⟨disjunction, conjunction, hleft, hclose⟩ := foldlM_disjunction outer left
      refine ⟨some left, right, ?_, rfl⟩
      rw [Disjunction.tokens, List.foldlM_append, hleft]
      -- the `OR` closes what is to its left before the next conjunction begins
      change right.tokens.foldlM step
        (.operand outer ⟨some (close disjunction conjunction), none⟩) = _
      rw [hclose]
      exact foldlM_conjunction outer (some left) right

end

/-- What is written down is read back. -/
theorem read_tokens (c : Disjunction α) : read c.tokens = some c := by
  obtain ⟨disjunction, conjunction, hread, hclose⟩ := foldlM_disjunction [] c
  rw [read, hread, Option.bind_some, finish, hclose]

end Reader

/-- **No two conditions are written with the same tokens.** -/
theorem Disjunction.tokens_injective {c d : Disjunction α} (h : c.tokens = d.tokens) : c = d := by
  have hread := Reader.read_tokens c
  rw [h, Reader.read_tokens] at hread
  exact (Option.some.inj hread).symm

/-! ## Tokens of a text -/

/-- The keyword at the front of a text, in capital letters or not, and what follows it. -/
def keyword? (text : List Char) : Option (Token α × List Char) :=
  let word := (text.takeWhile SoftDelete.isInner).map Char.toUpper
  if word = ['A', 'N', 'D'] then some (.and, text.dropWhile SoftDelete.isInner)
  else if word = ['O', 'R'] then some (.or, text.dropWhile SoftDelete.isInner)
  else none

section Lexes

variable (predicate? : List Char → Option (α × List Char))

/-- The token at the front of a text, behind blanks, and what follows it. What is no keyword and no
parenthesis is left to the reader of predicates. -/
def token? (text : List Char) : Option (Token α × List Char) :=
  match text.dropWhile isBlank with
  | [] => none
  | '(' :: rest => some (.opening, rest)
  | ')' :: rest => some (.closing, rest)
  | word =>
    match keyword? word with
    | some found => some found
    | none => (predicate? word).map fun found => (.predicate found.1, found.2)

/-- The tokens of a text. -/
inductive Lexes : List Char → List (Token α) → Prop where
  | done {text : List Char} (blank : text.dropWhile isBlank = []) : Lexes text []
  | next {text rest : List Char} {token : Token α} {tokens : List (Token α)}
      (first : token? predicate? text = some (token, rest)) (others : Lexes rest tokens) :
      Lexes text (token :: tokens)

/-- A text that is written as a condition. -/
def Writes (text : List Char) (c : Disjunction α) : Prop := Lexes predicate? text c.tokens

variable {predicate?} {text : List Char} {tokens tokens' : List (Token α)} {c d : Disjunction α}

/-- Nothing is left of a text without tokens. -/
theorem token?_of_blank (h : text.dropWhile isBlank = []) : token? predicate? text = none := by
  rw [token?, h]

/-- A text has its tokens only. -/
theorem Lexes.unique (h : Lexes predicate? text tokens) (h' : Lexes predicate? text tokens') :
    tokens = tokens' := by
  induction h generalizing tokens' with
  | done blank =>
      cases h' with
      | done => rfl
      | next first others =>
          rw [token?_of_blank blank] at first
          cases first
  | next first others ih =>
      cases h' with
      | done blank =>
          rw [token?_of_blank blank] at first
          cases first
      | next first' others' =>
          rw [first] at first'
          cases first'
          rw [ih others']

/-- **A text is written as one condition only.** -/
theorem Writes.unique (h : Writes predicate? text c) (h' : Writes predicate? text d) : c = d :=
  Disjunction.tokens_injective (Lexes.unique h h')

/-- A blank in front of a text does not matter. -/
theorem Lexes.of_blank {blank : Char} (hblank : isBlank blank = true) (h : Lexes predicate? text tokens) :
    Lexes predicate? (blank :: text) tokens := by
  have hdrop : (blank :: text).dropWhile isBlank = text.dropWhile isBlank :=
    List.dropWhile_cons_of_pos hblank
  cases h with
  | done hnone => exact .done (hdrop.trans hnone)
  | next first others =>
      refine .next ?_ others
      rw [token?, hdrop]
      exact first

/-- A condition is not written with nothing. -/
theorem Writes.ne_nil {c : Disjunction α} (h : Writes predicate? text c) : text ≠ [] := by
  rintro rfl
  have hread := Reader.read_tokens c
  rw [Lexes.unique h (.done rfl)] at hread
  cases hread

end Lexes

/-! ## A predicate in front -/

/-- A conjunction with another predicate in front. -/
def Conjunction.guarded (a : α) : Conjunction α → Conjunction α
  | .single operand => .and (.single (.predicate a)) operand
  | .and left right => .and (left.guarded a) right

/-- A condition with another predicate and `AND` in front. -/
def Disjunction.guarded (a : α) : Disjunction α → Disjunction α
  | .single conjunction => .single (conjunction.guarded a)
  | .or left right => .or (left.guarded a) right

section Guarded

variable (a : α) (row : α → Bool)

theorem Conjunction.tokens_guarded : ∀ conjunction : Conjunction α,
    (conjunction.guarded a).tokens = .predicate a :: .and :: conjunction.tokens
  | .single operand => rfl
  | .and left right => by
      rw [guarded, tokens, left.tokens_guarded, tokens]
      rfl

/-- What is written in front is taken for a part of the first conjunction. -/
theorem Disjunction.tokens_guarded : ∀ c : Disjunction α,
    (c.guarded a).tokens = .predicate a :: .and :: c.tokens
  | .single conjunction => conjunction.tokens_guarded a
  | .or left right => by
      rw [guarded, tokens, left.tokens_guarded, tokens]
      rfl

theorem Conjunction.truth_guarded : ∀ conjunction : Conjunction α,
    (conjunction.guarded a).truth row = (row a && conjunction.truth row)
  | .single operand => rfl
  | .and left right => by
      rw [guarded, truth, left.truth_guarded, truth, Bool.and_assoc]

/-- The other conjunctions stay as they are. -/
theorem Disjunction.disjuncts_guarded {first : Conjunction α} {later : List (Conjunction α)} :
    ∀ c : Disjunction α, c.disjuncts = first :: later →
      (c.guarded a).disjuncts = first.guarded a :: later
  | .single conjunction, h => by
      cases h
      rfl
  | .or left right, h => by
      obtain ⟨first', later', hleft⟩ := left.exists_disjuncts
      rw [disjuncts, hleft, List.cons_append] at h
      cases h
      rw [guarded, disjuncts, left.disjuncts_guarded hleft, List.cons_append]

/-- **A predicate in front of a condition guards its first conjunction only.** -/
theorem Disjunction.truth_guarded_iff {c : Disjunction α} {first : Conjunction α}
    {later : List (Conjunction α)} (h : c.disjuncts = first :: later) :
    (c.guarded a).truth row = true ↔
      (row a = true ∧ first.truth row = true) ∨ ∃ d ∈ later, d.truth row = true := by
  rw [Disjunction.truth_iff, c.disjuncts_guarded a h]
  simp only [List.mem_cons, or_and_right, exists_or, exists_eq_left, first.truth_guarded,
    Bool.and_eq_true]

end Guarded

end ScenarioRunner.Condition
