import CallReach.Proofs.Words
import CallReach.Source.Calls
import CallReach.Source.Parser.Expr
import Mathlib.Data.Option.Basic

/-!
# Expressions that have been read

The trees that the parser makes are proper: what stands for a name is one, what stands for a number
is one, a comparison has something to compare with and a junction at least two operands.  That is so
because all these come from sound tokens and no parser makes up any.

* `Expr.Proper` : an expression fits, and so do all its parts that are run where they stand.
* `Expr.Proper.callee` : so do the callees of all its calls.
* `Parser.Reads` : what a parser makes of sound tokens; `Parser.Keeps` : it leaves sound tokens.
* `Parser.Level.ofDepth_sound` : all parsers for expressions read proper ones.
-/

namespace CallReach.Source

/-! ### Proper expressions -/

/-- The value of a keyword argument. -/
def Keyword.value : Keyword → Expr
  | .mk _ value => value

/-- The expressions of an item of a dictionary display. -/
def DictItem.parts : DictItem → List Expr
  | .pair key value => [key, value]
  | .unpack value => [value]

/-- What a comparison compares with. -/
def Comparison.operand : Comparison → Expr
  | .mk _ operand => operand

/-- The expressions of a clause of a comprehension. -/
def Clause.parts : Clause → List Expr
  | .mk _ target iter conditions => target :: iter :: conditions

mutual

/-- The expressions of a piece of a formatted string: that of the field and those in its format. -/
def Piece.exprs : Piece → List Expr
  | .text _ => []
  | .field value _ format => value :: exprsOfFormat format

/-- The expressions of the pieces of a formatted string. -/
def exprsOfPieces : List Piece → List Expr
  | [] => []
  | piece :: rest => piece.exprs ++ exprsOfPieces rest

/-- The expressions in the format of a field. -/
def exprsOfFormat : Option (List Piece) → List Expr
  | none => []
  | some pieces => exprsOfPieces pieces

end

/-- The expressions that an expression is made of and that are run with it. -/
def Expr.parts : Expr → List Expr
  | .name _ => []
  | .constant _ => []
  | .attribute value _ => [value]
  | .subscript value index => [value, index]
  | .call _ callee args keywords => callee :: (args ++ keywords.map Keyword.value)
  | .starred value => [value]
  | .tuple items => items
  | .list items => items
  | .set items => items
  | .dict items => items.flatMap DictItem.parts
  | .unary _ operand => [operand]
  | .binary _ left right => [left, right]
  | .boolean _ operands => operands
  | .compare first rest => first :: rest.map Comparison.operand
  | .conditional test body orelse => [test, body, orelse]
  | .lambda _ _ => []
  | .named target value => [target, value]
  | .yield value => value.toList
  | .yieldFrom value => [value]
  | .await value => [value]
  | .slice lower upper step => lower.toList ++ upper.toList ++ step.toList
  | .comprehension _ element clauses => element :: clauses.flatMap Clause.parts
  | .dictComprehension key value clauses => key :: value :: clauses.flatMap Clause.parts
  | .joined pieces => exprsOfPieces pieces

/-- The outermost node of an expression is one that can be read. -/
def Expr.Fits : Expr → Prop
  | .name w => IsWord w
  | .constant c => c.Sound
  | .attribute _ w => IsWord w
  | .boolean _ operands => 2 ≤ operands.length
  | .compare _ rest => rest ≠ []
  | _ => True

/-- An expression fits, and so do all its parts. -/
inductive Expr.Proper : Expr → Prop
  | intro {e : Expr} : e.Fits → (∀ part ∈ e.parts, Proper part) → Proper e

section Calls

variable {c : CallSite}

theorem mem_callsOfAll {es : List Expr} : c ∈ callsOfAll es ↔ ∃ e ∈ es, c ∈ e.calls := by
  induction es with
  | nil => simp [callsOfAll]
  | cons e rest ih => simp [callsOfAll, ih]

theorem mem_callsOfOption {o : Option Expr} : c ∈ callsOfOption o ↔ ∃ e ∈ o, c ∈ e.calls := by
  cases o <;> simp [callsOfOption]

theorem mem_callsOfKeywords {ks : List Keyword} :
    c ∈ callsOfKeywords ks ↔ ∃ k ∈ ks, c ∈ k.value.calls := by
  induction ks with
  | nil => simp [callsOfKeywords]
  | cons k rest ih =>
    cases k
    simp [callsOfKeywords, ih, Keyword.value]

theorem mem_callsOfItems {items : List DictItem} :
    c ∈ callsOfKeys items ++ callsOfValues items ↔
      ∃ e ∈ items.flatMap DictItem.parts, c ∈ e.calls := by
  induction items with
  | nil => simp [callsOfKeys, callsOfValues]
  | cons i rest ih =>
    rw [List.mem_append] at ih
    cases i <;> simp [callsOfKeys, callsOfValues, DictItem.parts, or_and_right, exists_or,
      -List.mem_flatMap, ← ih, or_left_comm]

theorem mem_callsOfComparisons {rest : List Comparison} :
    c ∈ callsOfComparisons rest ↔ ∃ r ∈ rest, c ∈ r.operand.calls := by
  induction rest with
  | nil => simp [callsOfComparisons]
  | cons r rest ih =>
    cases r
    simp [callsOfComparisons, ih, Comparison.operand]

theorem mem_callsOfClauses {clauses : List Clause} :
    c ∈ callsOfClauses clauses ↔ ∃ e ∈ clauses.flatMap Clause.parts, c ∈ e.calls := by
  induction clauses with
  | nil => simp [callsOfClauses]
  | cons k rest ih =>
    cases k
    simp [callsOfClauses, ih, Clause.parts, mem_callsOfAll, or_and_right, exists_or,
      -List.mem_flatMap]

mutual

/-- The calls in a formatted string are those in its fields, one after the other. -/
theorem callsOfPieces_eq : (pieces : List Piece) →
    callsOfPieces pieces = (exprsOfPieces pieces).flatMap Expr.calls
  | [] => rfl
  | .text _ :: rest => callsOfPieces_eq rest
  | .field value _ format :: rest => by
    simp [callsOfPieces, exprsOfPieces, Piece.exprs, callsOfFormat_eq format,
      callsOfPieces_eq rest]

theorem callsOfFormat_eq : (format : Option (List Piece)) →
    callsOfFormat format = (exprsOfFormat format).flatMap Expr.calls
  | none => rfl
  | some pieces => callsOfPieces_eq pieces

end

/-- A call of an expression is the expression itself, or a call of one of its parts. -/
theorem mem_calls_cases {e : Expr} (h : c ∈ e.calls) :
    (∃ args keywords, e = .call c.line c.callee args keywords) ∨
      ∃ part ∈ e.parts, c ∈ part.calls := by
  cases e with
  | dict items =>
    rw [Expr.calls, mem_callsOfItems] at h
    exact Or.inr h
  | call line callee args keywords =>
    simp only [Expr.calls, List.mem_append, mem_callsOfAll, mem_callsOfKeywords,
      List.mem_singleton] at h
    rcases h with ((h | ⟨e, he, h⟩) | ⟨k, hk, h⟩) | rfl
    · exact Or.inr ⟨callee, List.mem_cons_self, h⟩
    · exact Or.inr ⟨e, by simp [Expr.parts, he], h⟩
    · exact Or.inr ⟨k.value, by simpa [Expr.parts] using Or.inr (Or.inr ⟨k, hk, rfl⟩), h⟩
    · exact Or.inl ⟨args, keywords, rfl⟩
  | _ =>
    simp_all [Expr.calls, Expr.parts, mem_callsOfAll, mem_callsOfOption, mem_callsOfComparisons,
      mem_callsOfClauses, callsOfPieces_eq, List.mem_flatMap, or_and_right, exists_or]

/-- **The callees of the calls of a proper expression are proper.** -/
theorem Expr.Proper.callee {e : Expr} (he : e.Proper) (h : c ∈ e.calls) : c.callee.Proper := by
  induction he with
  | @intro e _ hparts ih =>
    rcases mem_calls_cases h with ⟨args, keywords, rfl⟩ | ⟨part, hpart, h⟩
    · exact hparts _ List.mem_cons_self
    · exact ih part hpart h

end Calls

theorem Expr.Proper.fits {e : Expr} (h : e.Proper) : e.Fits := by
  cases h
  assumption

theorem Expr.Proper.parts {e : Expr} (h : e.Proper) : ∀ part ∈ e.parts, part.Proper := by
  cases h
  assumption

/-! ### Formatted strings -/

theorem exprsOfPieces_append (ps qs : List Piece) :
    exprsOfPieces (ps ++ qs) = exprsOfPieces ps ++ exprsOfPieces qs := by
  induction ps with
  | nil => rfl
  | cons p rest ih => simp [exprsOfPieces, ih]

/-- Texts that are put together hold no expressions. -/
theorem exprsOfPieces_merge (ps : List Piece) :
    exprsOfPieces (Formatted.merge ps) = exprsOfPieces ps := by
  induction ps with
  | nil => rfl
  | cons p rest ih =>
    cases p with
    | field value conversion format => simp [Formatted.merge, exprsOfPieces, ih]
    | text xs =>
      rw [exprsOfPieces, ← ih, Formatted.merge]
      split
      · rename_i heq
        simp [heq, exprsOfPieces, Piece.exprs]
      · split_ifs <;> simp [exprsOfPieces, Piece.exprs]

namespace Formatted

variable {host : Host} {raw : Bool} {last : ℕ} {expression : ℕ → List Char → Option Expr}

theorem field_proper (hread : ∀ n cs e, expression n cs = some e → e.Proper)
    {pieces : List Char → Option (List Piece × List Char)}
    (hpieces : ∀ cs ps rest, pieces cs = some (ps, rest) → ∀ e ∈ exprsOfPieces ps, e.Proper)
    {cs rest : List Char} {shown : List ℕ} {piece : Piece}
    (h : field last expression pieces cs = some (shown, piece, rest)) :
    ∀ e ∈ piece.exprs, e.Proper := by
  simp only [field, Option.bind_eq_bind, Option.bind_eq_some_iff] at h
  obtain ⟨⟨code, rest₁⟩, -, _, -, value, hvalue, ⟨converted, rest₂⟩, -, ⟨fmt, rest₃⟩, hformat, _, -,
    heq⟩ := h
  cases heq
  refine List.forall_mem_cons.2 ⟨hread _ _ _ hvalue, ?_⟩
  unfold format at hformat
  split at hformat
  · obtain ⟨⟨ps, rest₄⟩, hps, heq⟩ := Option.map_eq_some_iff.1 hformat
    cases heq
    rw [exprsOfFormat, exprsOfPieces_merge]
    exact hpieces _ _ _ hps
  · cases hformat
    simp [exprsOfFormat]

/-- The expressions of formatted strings are those that are read in their fields. -/
theorem pieces_proper (hread : ∀ n cs e, expression n cs = some e → e.Proper) {fuel nesting : ℕ}
    {cs rest : List Char} {ps : List Piece}
    (h : pieces host raw last expression fuel nesting cs = some (ps, rest)) :
    ∀ e ∈ exprsOfPieces ps, e.Proper := by
  induction fuel generalizing nesting cs rest ps with
  | zero => cases h
  | succ fuel ih =>
    simp only [pieces, Option.bind_eq_bind, Option.bind_eq_some_iff] at h
    obtain ⟨⟨written, doubled, rest₁⟩, -, codes, -, h⟩ := h
    split_ifs at h
    · obtain ⟨⟨more, rest₂⟩, hmore, heq⟩ := Option.bind_eq_some_iff.1 h
      cases heq
      have hproper : ∀ e ∈ exprsOfPieces more, e.Proper := ih hmore
      simpa [exprsOfPieces, Piece.exprs] using hproper
    · simp only [Option.bind_eq_some_iff] at h
      obtain ⟨_, -, ⟨shown, piece, rest₂⟩, hfield, ⟨more, rest₃⟩, hmore, heq⟩ := h
      cases heq
      have hproper : ∀ e ∈ exprsOfPieces more, e.Proper := ih hmore
      have hpiece : ∀ e ∈ piece.exprs, e.Proper :=
        field_proper hread (fun _ _ _ => ih) hfield
      simpa [exprsOfPieces, Piece.exprs] using List.forall_mem_append.2 ⟨hpiece, hproper⟩
    · cases h
      simp [exprsOfPieces, Piece.exprs]

theorem read_proper (hread : ∀ n cs e, expression n cs = some e → e.Proper) {line : ℕ}
    {body : List Char} {ps : List Piece} (h : read host expression line raw body = some ps) :
    ∀ e ∈ exprsOfPieces ps, e.Proper := by
  obtain ⟨⟨ps, rest⟩, hpieces, rfl⟩ := Option.map_eq_some_iff.1 h
  rw [exprsOfPieces_merge]
  exact pieces_proper hread hpieces

end Formatted

namespace Parser

/-! ### What parsers make of sound tokens -/

section Combinators

variable {α β : Type} {p q : Parser α} {f : α → Parser β} {Q R : α → Prop} {S : β → Prop}

/-- Of sound tokens a parser makes only what satisfies `Q`, and it leaves sound tokens. -/
def Reads (p : Parser α) (Q : α → Prop) : Prop :=
  ∀ ts a rest, (∀ t ∈ ts, t.Sound) → p ts = some (a, rest) → Q a ∧ ∀ t ∈ rest, t.Sound

/-- Of sound tokens a parser leaves sound ones. -/
def Keeps (p : Parser α) : Prop := Reads p fun _ => True

theorem Reads.mono (h : Reads p R) (hQ : ∀ a, R a → Q a) : Reads p Q := by
  intro ts a rest hts hp
  obtain ⟨ha, hrest⟩ := h ts a rest hts hp
  exact ⟨hQ a ha, hrest⟩

theorem Reads.keeps (h : Reads p R) : Keeps p := h.mono fun _ _ => trivial

theorem reads_pure {a : α} (h : Q a) : Reads (pure a) Q := by
  rintro ts _ _ hts ⟨⟩
  exact ⟨h, hts⟩

theorem keeps_pure (a : α) : Keeps (pure a) := reads_pure trivial

theorem reads_failure : Reads (failure : Parser α) Q := by
  rintro ts a rest hts ⟨⟩

theorem Reads.bind (hp : Reads p R) (hf : ∀ a, R a → Reads (f a) S) : Reads (p >>= f) S := by
  intro ts b rest hts h
  obtain ⟨⟨a, ts'⟩, ha, hb⟩ := Option.bind_eq_some_iff.1 h
  obtain ⟨hR, hts'⟩ := hp ts a ts' hts ha
  exact hf a hR ts' b rest hts' hb

theorem Keeps.bind (hp : Keeps p) (hf : ∀ a, Reads (f a) S) : Reads (p >>= f) S :=
  Reads.bind hp fun a _ => hf a

theorem Reads.map {g : α → β} (hp : Reads p R) (h : ∀ a, R a → S (g a)) : Reads (g <$> p) S := by
  intro ts b rest hts hm
  obtain ⟨⟨a, ts'⟩, ha, hb⟩ := Option.bind_eq_some_iff.1 hm
  cases hb
  obtain ⟨hR, hts'⟩ := hp ts a _ hts ha
  exact ⟨h a hR, hts'⟩

theorem Reads.orElse (hp : Reads p Q) (hq : Reads q Q) : Reads (p <|> q) Q := by
  intro ts a rest hts h
  have h' : (p ts <|> q ts) = some (a, rest) := h
  cases hp' : p ts with
  | some x =>
    rw [hp'] at h'
    cases h'
    exact hp ts a rest hts hp'
  | none =>
    rw [hp'] at h'
    exact hq ts a rest hts h'

theorem reads_ite {c : Prop} [Decidable c] (hp : Reads p Q) (hq : Reads q Q) :
    Reads (if c then p else q) Q := by
  split_ifs
  · exact hp
  · exact hq

/-- A question, and what is read after either answer. -/
theorem Keeps.cond {c : Parser Bool} (hc : Keeps c) (hp : Reads p Q) (hq : Reads q Q) :
    Reads (c >>= fun b => if b = true then p else q) Q :=
  hc.bind fun _ => reads_ite hp hq

theorem guard_keeps (c : Prop) [Decidable c] : Keeps (guard c) :=
  reads_ite (reads_pure trivial) reads_failure

/-- A condition before what is read. -/
theorem Reads.guarded {c : Prop} [Decidable c] (hp : Reads p Q) :
    Reads (guard c >>= fun _ => p) Q :=
  (guard_keeps c).bind fun _ => hp

/-! ### Tokens -/

theorem next_reads : Reads next Token.Sound := by
  intro ts t rest hts h
  cases ts with
  | nil => cases h
  | cons u us =>
    cases h
    exact ⟨hts _ List.mem_cons_self, fun t ht => hts t (List.mem_cons_of_mem _ ht)⟩

theorem peek_reads : Reads peek Token.Sound := by
  intro ts t rest hts h
  cases ts with
  | nil => cases h
  | cons u us =>
    cases h
    exact ⟨hts _ List.mem_cons_self, hts⟩

theorem next_keeps : Keeps next := next_reads.keeps

theorem peek_keeps : Keeps peek := peek_reads.keeps

theorem peekSecond_keeps : Keeps peekSecond := by
  intro ts t rest hts h
  unfold peekSecond at h
  split at h <;> cases h <;> exact ⟨trivial, hts⟩

theorem line_keeps : Keeps line := peek_keeps.bind fun _ => keeps_pure _

theorem lastLine_keeps : Keeps lastLine := peek_keeps.bind fun _ => keeps_pure _

theorem isNext_keeps (kind : TokenKind) : Keeps (isNext kind) :=
  peek_keeps.bind fun _ => keeps_pure _

theorem isOp_keeps (s : String) : Keeps (isOp s) := isNext_keeps _

theorem isWord_keeps (s : String) : Keeps (isWord s) := isNext_keeps _

theorem expect_keeps (kind : TokenKind) : Keeps (expect kind) :=
  next_keeps.bind fun _ => guard_keeps _

theorem op_keeps (s : String) : Keeps (op s) := expect_keeps _

theorem word_keeps (s : String) : Keeps (word s) := expect_keeps _

theorem accept_keeps (kind : TokenKind) : Keeps (accept kind) :=
  (isNext_keeps kind).cond (next_keeps.bind fun _ => keeps_pure _) (keeps_pure _)

theorem acceptOp_keeps (s : String) : Keeps (acceptOp s) := accept_keeps _

theorem acceptWord_keeps (s : String) : Keeps (acceptWord s) := accept_keeps _

/-! ### Names -/

theorem isWord_of_nameOf? {t : Token} (ht : t.Sound) {w : String} (h : nameOf? t = some w) :
    IsWord w := by
  unfold nameOf? at h
  split at h
  · rename_i hkind
    split_ifs at h with hkeyword
    cases h
    rwa [Token.Sound, hkind] at ht
  · rename_i hkind
    cases h
    rwa [Token.Sound, hkind] at ht
  · cases h

theorem name_reads : Reads name IsWord := by
  refine next_reads.bind fun t ht => ?_
  split
  · rename_i hname
    exact reads_pure (isWord_of_nameOf? ht hname)
  · exact reads_failure

theorem nameBefore?_reads (op : String) : Reads (nameBefore? op) fun o => ∀ w ∈ o, IsWord w := by
  refine peek_reads.bind fun t ht => ?_
  split
  · exact reads_pure (by simp)
  · rename_i hname
    refine peekSecond_keeps.bind fun _ => reads_ite (reads_pure ?_) (reads_pure (by simp))
    rintro _ ⟨⟩
    exact isWord_of_nameOf? ht hname

/-! ### Options and repetitions -/

theorem Reads.optional (hp : Reads p Q) : Reads (optional p) fun o => ∀ a ∈ o, Q a :=
  (hp.map fun a ha => by simpa using ha).orElse (reads_pure (by simp))

theorem Reads.afterOp? (s : String) (hp : Reads p Q) :
    Reads (afterOp? s p) fun o => ∀ a ∈ o, Q a :=
  (acceptOp_keeps s).cond (hp.map fun a ha => by simpa using ha) (reads_pure (by simp))

theorem Reads.afterWord? (s : String) (hp : Reads p Q) :
    Reads (afterWord? s p) fun o => ∀ a ∈ o, Q a :=
  (acceptWord_keeps s).cond (hp.map fun a ha => by simpa using ha) (reads_pure (by simp))

/-- What a step keeps, its repetition keeps. -/
theorem reads_repeatFor {step : α → Parser (Option α)} {a : α}
    (hstep : ∀ a, Q a → Reads (step a) fun o => ∀ b ∈ o, Q b) (fuel : ℕ) (ha : Q a) :
    Reads (repeatFor step fuel a) Q := by
  induction fuel generalizing a with
  | zero => exact reads_pure ha
  | succ fuel ih =>
    refine (hstep a ha).bind fun o ho => ?_
    cases o with
    | some b => exact ih (ho b rfl)
    | none => exact reads_pure ha

theorem reads_repeatWhile {step : α → Parser (Option α)} {a : α}
    (hstep : ∀ a, Q a → Reads (step a) fun o => ∀ b ∈ o, Q b) (ha : Q a) :
    Reads (repeatWhile step a) Q := by
  have hget : Keeps (get : Parser (List Token)) := by
    rintro ts _ _ hts ⟨⟩
    exact ⟨trivial, hts⟩
  exact hget.bind fun ts => reads_repeatFor hstep ts.length ha

theorem Reads.manyWhile {more : Parser Bool} (hmore : Keeps more) (hp : Reads p Q) :
    Reads (manyWhile more p) fun items => ∀ a ∈ items, Q a := by
  refine (reads_repeatWhile (Q := fun done => ∀ a ∈ done, Q a) (fun done hdone => ?_)
    (by simp)).bind fun items hitems => reads_pure (by simpa using hitems)
  refine hmore.cond (hp.bind fun a ha => reads_pure ?_) (reads_pure (by simp))
  simpa using ⟨ha, hdone⟩

theorem Reads.commaList (hp : Reads p Q) : Reads (commaList p) fun r => ∀ a ∈ r.1, Q a := by
  refine hp.bind fun first hfirst => ?_
  refine (reads_repeatWhile (Q := fun r => ∀ a ∈ r.1, Q a) (fun ⟨done, ended⟩ hdone => ?_)
    (by simpa using hfirst)).bind fun r hr => reads_pure (by simpa using hr)
  refine reads_ite (reads_pure (by simp)) ((acceptOp_keeps ",").cond ?_ (reads_pure (by simp)))
  refine hp.optional.bind fun o ho => ?_
  cases o with
  | some a => exact reads_pure (by simpa using ⟨ho a rfl, hdone⟩)
  | none => exact reads_pure (by simpa using hdone)

end Combinators

/-! ### Expressions -/

/-- All parsers for what is nested read proper expressions. -/
structure Level.Sound (L : Level) : Prop where
  expression : Reads L.expression Expr.Proper
  disjunction : Reads L.disjunction Expr.Proper
  inversion : Reads L.inversion Expr.Proper
  bitOr : Reads L.bitOr Expr.Proper
  factor : Reads L.factor Expr.Proper
  primary : Reads L.primary Expr.Proper
  formatted : ∀ {line raw body ps}, L.formatted line raw body = some ps →
    ∀ e ∈ exprsOfPieces ps, e.Proper

section Nested

variable {L : Level}

theorem proper_starred {e : Expr} (h : e.Proper) : (Expr.starred e).Proper :=
  .intro trivial (by simpa [Expr.parts] using h)

theorem proper_tuple {items : List Expr} (h : ∀ e ∈ items, e.Proper) : (Expr.tuple items).Proper :=
  .intro trivial h

theorem proper_tupleOf {r : List Expr × Bool} (h : ∀ e ∈ r.1, e.Proper) : (tupleOf r).Proper := by
  unfold tupleOf
  split
  · exact h _ List.mem_cons_self
  · exact proper_tuple h

theorem starTarget_reads (hL : L.Sound) : Reads (starTarget L) Expr.Proper := by
  have target : ∀ e : Expr, e.Proper → Reads (do guard (isTarget e); return e) Expr.Proper :=
    fun e he => (reads_pure he).guarded
  exact (acceptOp_keeps "*").cond ((hL.primary.map fun _ => proper_starred).bind target)
    (hL.primary.bind target)

theorem targets_reads (hL : L.Sound) : Reads (targets L) Expr.Proper :=
  (starTarget_reads hL).commaList.map fun _ => proper_tupleOf

theorem namedExpression_reads (hL : L.Sound) : Reads (namedExpression L) Expr.Proper := by
  refine (nameBefore?_reads ":=").bind fun o ho => ?_
  cases o with
  | some w =>
    refine next_keeps.bind fun _ => next_keeps.bind fun _ => hL.expression.bind fun e he => ?_
    have hname : (Expr.name w).Proper := .intro (ho w rfl) (by simp [Expr.parts])
    exact reads_pure (.intro trivial (by simp [Expr.parts, hname, he]))
  | none =>
    exact hL.expression.bind fun e he => (isOp_keeps _).bind fun _ => (reads_pure he).guarded

theorem starExpression_reads (hL : L.Sound) : Reads (starExpression L) Expr.Proper :=
  (acceptOp_keeps "*").cond (hL.bitOr.bind fun _ he => reads_pure (proper_starred he)) hL.expression

theorem starExpressions_reads (hL : L.Sound) : Reads (starExpressions L) Expr.Proper :=
  (starExpression_reads hL).commaList.map fun _ => proper_tupleOf

theorem starNamed_reads (hL : L.Sound) : Reads (starNamed L) Expr.Proper :=
  (acceptOp_keeps "*").cond (hL.bitOr.bind fun _ he => reads_pure (proper_starred he))
    (namedExpression_reads hL)

theorem moreItems_reads (hL : L.Sound) {first : Expr} (hfirst : first.Proper) :
    Reads (moreItems L first) fun items => ∀ e ∈ items, e.Proper := by
  have hone : ∀ e ∈ [first], e.Proper := by simpa using hfirst
  refine (acceptOp_keeps ",").cond ((starNamed_reads hL).commaList.optional.bind fun o ho => ?_)
    (reads_pure hone)
  cases o with
  | some r => exact reads_pure (List.forall_mem_cons.2 ⟨hfirst, ho r rfl⟩)
  | none => exact reads_pure hone

theorem yieldExpression_reads (hL : L.Sound) : Reads (yieldExpression L) Expr.Proper := by
  refine (word_keeps _).bind fun _ => (acceptWord_keeps "from").cond
    (hL.expression.bind fun e he => reads_pure (.intro trivial (by simpa [Expr.parts] using he)))
    ((starExpressions_reads hL).optional.bind fun o ho => reads_pure (.intro trivial ?_))
  simpa [Expr.parts] using ho

theorem yieldOrStarExpressions_reads (hL : L.Sound) :
    Reads (yieldOrStarExpressions L) Expr.Proper :=
  (isWord_keeps _).cond (yieldExpression_reads hL) (starExpressions_reads hL)

/-! ### Comprehensions -/

theorem isClause_keeps : Keeps isClause :=
  (isWord_keeps _).cond (keeps_pure _) ((isWord_keeps _).cond
    (peekSecond_keeps.bind fun _ => keeps_pure _) (keeps_pure _))

theorem clause_reads (hL : L.Sound) : Reads (clause L) fun c => ∀ e ∈ c.parts, e.Proper := by
  refine (acceptWord_keeps _).bind fun _ => (word_keeps _).bind fun _ =>
    (targets_reads hL).bind fun target htarget => (word_keeps _).bind fun _ =>
    hL.disjunction.bind fun iter hiter => ?_
  refine (Reads.manyWhile (isWord_keeps _)
    ((word_keeps _).bind fun _ => hL.disjunction)).bind fun conditions hconditions => reads_pure ?_
  simpa [Clause.parts] using ⟨htarget, hiter, hconditions⟩

theorem clauses_reads (hL : L.Sound) :
    Reads (clauses L) fun cs => ∀ e ∈ cs.flatMap Clause.parts, e.Proper := by
  refine ((clause_reads hL).manyWhile isClause_keeps).mono fun cs hcs e he => ?_
  obtain ⟨c, hc, he⟩ := List.mem_flatMap.1 he
  exact hcs c hc e he

theorem proper_comprehension {kind : Collection} {element : Expr} {cs : List Clause}
    (helement : element.Proper) (hcs : ∀ e ∈ cs.flatMap Clause.parts, e.Proper) :
    (Expr.comprehension kind element cs).Proper :=
  .intro trivial (List.forall_mem_cons.2 ⟨helement, hcs⟩)

/-! ### Arguments -/

/-- The value of an argument. -/
def Argument.value : Argument → Expr
  | .positional value => value
  | .starred value => value
  | .keyword _ value => value
  | .mapping value => value

theorem argument_reads (hL : L.Sound) : Reads (argument L) fun a => a.value.Proper := by
  refine (acceptOp_keeps _).cond (hL.expression.bind fun e he => reads_pure he)
    ((acceptOp_keeps _).cond (hL.expression.bind fun e he => reads_pure he)
      ((nameBefore?_reads _).bind fun o _ => ?_))
  cases o with
  | some w =>
    exact next_keeps.bind fun _ => next_keeps.bind fun _ =>
      hL.expression.bind fun e he => reads_pure he
  | none => exact (namedExpression_reads hL).bind fun e he => reads_pure he

/-- Arguments and keywords whose values are proper. -/
def ProperArguments (r : List Expr × List Keyword) : Prop :=
  (∀ e ∈ r.1, e.Proper) ∧ ∀ k ∈ r.2, k.value.Proper

theorem arrangeArguments_proper {phase : ArgumentPhase} {arguments : List Argument}
    {r : List Expr × List Keyword} (harguments : ∀ a ∈ arguments, a.value.Proper)
    (h : arrangeArguments phase arguments = some r) : ProperArguments r := by
  induction arguments generalizing phase r with
  | nil =>
    cases h
    simp [ProperArguments]
  | cons a rest ih =>
    rw [List.forall_mem_cons] at harguments
    cases a with
    | positional e =>
      simp only [arrangeArguments, Option.ite_none_right_eq_some] at h
      obtain ⟨r', hr, rfl⟩ := Option.map_eq_some_iff.1 h.2
      have := ih harguments.2 hr
      exact ⟨List.forall_mem_cons.2 ⟨harguments.1, this.1⟩, this.2⟩
    | starred e =>
      simp only [arrangeArguments, Option.ite_none_left_eq_some] at h
      obtain ⟨r', hr, rfl⟩ := Option.map_eq_some_iff.1 h.2
      have := ih harguments.2 hr
      exact ⟨List.forall_mem_cons.2 ⟨proper_starred harguments.1, this.1⟩, this.2⟩
    | keyword w e =>
      obtain ⟨r', hr, rfl⟩ := Option.map_eq_some_iff.1 h
      have := ih harguments.2 hr
      exact ⟨this.1, List.forall_mem_cons.2 ⟨harguments.1, this.2⟩⟩
    | mapping e =>
      obtain ⟨r', hr, rfl⟩ := Option.map_eq_some_iff.1 h
      have := ih harguments.2 hr
      exact ⟨this.1, List.forall_mem_cons.2 ⟨harguments.1, this.2⟩⟩

theorem argumentsAfter_reads (hL : L.Sound) {first : Argument} (hfirst : first.value.Proper) :
    Reads (argumentsAfter L first) ProperArguments := by
  have hnone : Reads (pure none) fun o : Option (List Argument × Bool) =>
      ∀ r ∈ o, ∀ a ∈ r.1, a.value.Proper := reads_pure (by simp)
  refine (acceptOp_keeps _).cond ((argument_reads hL).commaList.optional.bind ?_) (hnone.bind ?_)
  all_goals
    intro o ho
    refine (op_keeps _).bind fun _ => ?_
    split
    · rename_i hresult
      refine reads_pure (arrangeArguments_proper (List.forall_mem_cons.2 ⟨hfirst, ?_⟩) hresult)
      cases o with
      | some r => exact ho r rfl
      | none => simp
    · exact reads_failure

theorem arguments_reads (hL : L.Sound) : Reads (arguments L) ProperArguments :=
  (acceptOp_keeps _).cond (reads_pure (by simp [ProperArguments]))
    ((argument_reads hL).bind fun _ => argumentsAfter_reads hL)

theorem callArguments_reads (hL : L.Sound) : Reads (callArguments L) ProperArguments := by
  refine (acceptOp_keeps _).cond (reads_pure (by simp [ProperArguments]))
    ((argument_reads hL).bind fun first hfirst => ?_)
  split
  · refine isClause_keeps.cond ((clauses_reads hL).bind fun cs hcs => (op_keeps _).bind fun _ =>
      reads_pure ?_) (argumentsAfter_reads hL hfirst)
    exact ⟨List.forall_mem_singleton.2 (proper_comprehension hfirst hcs), by simp⟩
  · exact argumentsAfter_reads hL hfirst

/-! ### Subscripts -/

theorem slicePart_reads (hL : L.Sound) : Reads (slicePart L) fun o => ∀ e ∈ o, e.Proper := by
  refine (isOp_keeps _).bind fun _ => (isOp_keeps _).bind fun _ => (isOp_keeps _).bind fun _ =>
    reads_ite (reads_pure (by simp)) (hL.expression.bind fun e he => reads_pure ?_)
  simpa using he

theorem sliceFrom_reads (hL : L.Sound) {lower : Option Expr} (hlower : ∀ e ∈ lower, e.Proper) :
    Reads (sliceFrom L lower) Expr.Proper := by
  refine (op_keeps _).bind fun _ => (slicePart_reads hL).bind fun upper hupper => ?_
  have slice : ∀ step : Option Expr, (∀ e ∈ step, e.Proper) →
      Reads (pure (Expr.slice lower upper step)) Expr.Proper := by
    intro step hstep
    refine reads_pure (.intro trivial fun e he => ?_)
    simp only [Expr.parts, List.mem_append, Option.mem_toList] at he
    rcases he with (he | he) | he
    · exact hlower e he
    · exact hupper e he
    · exact hstep e he
  exact (acceptOp_keeps _).cond ((slicePart_reads hL).bind slice)
    ((reads_pure (by simp)).bind slice)

theorem sliceItem_reads (hL : L.Sound) : Reads (sliceItem L) Expr.Proper := by
  refine (acceptOp_keeps _).cond (hL.expression.bind fun e he => reads_pure (proper_starred he))
    ((isOp_keeps _).cond (sliceFrom_reads hL (by simp)) ((nameBefore?_reads _).bind fun _ _ =>
      reads_ite (namedExpression_reads hL) (hL.expression.bind fun e he => ?_)))
  exact (isOp_keeps _).cond (sliceFrom_reads hL (by simpa using he))
    ((isOp_keeps _).bind fun _ => (reads_pure he).guarded)

theorem slices_reads (hL : L.Sound) : Reads (slices L) Expr.Proper := by
  refine (sliceItem_reads hL).commaList.bind fun r hr => ?_
  split
  · refine reads_pure ?_
    split_ifs
    · exact proper_tuple hr
    · exact hr _ List.mem_cons_self
  · exact reads_pure (proper_tuple hr)

/-! ### Parameters, whose calls are not those of the expression -/

theorem typeHint_keeps {annotated : Bool} {p : Parser Expr} (hp : Keeps p) :
    Keeps (typeHint annotated p) :=
  reads_ite (hp.afterOp? _).keeps (keeps_pure _)

theorem paramItem_keeps (hL : L.Sound) (annotated : Bool) : Keeps (paramItem L annotated) := by
  have hhint : Keeps (typeHint annotated L.expression) := typeHint_keeps hL.expression.keeps
  refine (acceptOp_keeps _).cond (keeps_pure _) ((acceptOp_keeps _).cond ?_
    ((acceptOp_keeps _).cond ?_ ?_))
  · exact name_reads.keeps.bind fun w => hhint.bind fun _ => keeps_pure _
  · exact (isOp_keeps _).cond (keeps_pure _) (name_reads.keeps.bind fun w =>
      (typeHint_keeps (starExpression_reads hL).keeps).bind fun _ => keeps_pure _)
  · exact name_reads.keeps.bind fun w => hhint.bind fun _ =>
      (hL.expression.afterOp? _).keeps.bind fun _ => keeps_pure _

theorem params_keeps (hL : L.Sound) (annotated : Bool) (stop : String) :
    Keeps (params L annotated stop) := by
  refine (isOp_keeps _).cond (keeps_pure _) ((paramItem_keeps hL annotated).commaList.keeps.bind
    fun r => (isOp_keeps _).bind fun _ => Reads.guarded ?_)
  split
  · exact keeps_pure _
  · exact reads_failure

/-! ### Atoms -/

theorem proper_constant {c : Constant} (h : c.Sound) : (Expr.constant c).Proper :=
  .intro h (by simp [Expr.parts])

theorem proper_joined {pieces : List Piece} (h : ∀ e ∈ exprsOfPieces pieces, e.Proper) :
    (Expr.joined (Formatted.merge pieces)).Proper :=
  .intro trivial (by rwa [Expr.parts, exprsOfPieces_merge])

theorem formatted_reads (hL : L.Sound) (line : ℕ) (raw : Bool) (body : List Char) :
    Reads (found (L.formatted line raw body)) fun ps => ∀ e ∈ exprsOfPieces ps, e.Proper := by
  cases hbody : L.formatted line raw body with
  | none => exact reads_failure
  | some ps => exact reads_pure (hL.formatted hbody)

theorem joinStrings_reads (hL : L.Sound) {first : Expr} (hfirst : first.Proper) :
    Reads (joinStrings L first) Expr.Proper := by
  refine reads_repeatWhile (fun e he => peek_keeps.bind fun t => ?_) hfirst
  split
  · refine next_keeps.bind fun _ => reads_pure ?_
    rintro _ ⟨⟩
    exact proper_constant trivial
  · refine next_keeps.bind fun _ => (formatted_reads hL _ _ _).bind fun ps hps => reads_pure ?_
    rintro _ ⟨⟩
    exact proper_joined hps
  · refine next_keeps.bind fun _ => reads_pure ?_
    rintro _ ⟨⟩
    refine proper_joined ?_
    simpa [exprsOfPieces_append, exprsOfPieces, Piece.exprs, Expr.parts] using he.parts
  · refine next_keeps.bind fun _ => (formatted_reads hL _ _ _).bind fun qs hqs => reads_pure ?_
    rintro _ ⟨⟩
    refine proper_joined ?_
    rw [exprsOfPieces_append]
    exact List.forall_mem_append.2 ⟨he.parts, hqs⟩
  · refine next_keeps.bind fun _ => reads_pure ?_
    rintro _ ⟨⟩
    exact proper_constant trivial
  · exact reads_pure (by simp)

theorem literal_reads (hL : L.Sound) : Reads (literal L) Expr.Proper := by
  refine next_reads.bind fun t ht => ?_
  split
  · rename_i hkind
    rw [Token.Sound, hkind] at ht
    exact joinStrings_reads hL (proper_constant ht)
  · exact (formatted_reads hL _ _ _).bind fun ps hps => joinStrings_reads hL (.intro trivial hps)
  · exact reads_failure

theorem parenthesized_reads (hL : L.Sound) : Reads (parenthesized L) Expr.Proper := by
  refine (acceptOp_keeps _).cond (reads_pure (proper_tuple (by simp))) ((isWord_keeps _).cond
    ((yieldExpression_reads hL).bind fun e he => (op_keeps _).bind fun _ => reads_pure he)
    ((starNamed_reads hL).bind fun first hfirst => ?_))
  refine isClause_keeps.cond (Reads.guarded ((clauses_reads hL).bind fun cs hcs =>
    (op_keeps _).bind fun _ => reads_pure (proper_comprehension hfirst hcs)))
    ((isOp_keeps _).cond ?_ ?_)
  · exact (moreItems_reads hL hfirst).bind fun items hitems =>
      (op_keeps _).bind fun _ => reads_pure (proper_tuple hitems)
  · exact ((op_keeps _).bind fun _ => reads_pure hfirst).guarded

theorem listDisplay_reads (hL : L.Sound) : Reads (listDisplay L) Expr.Proper := by
  refine (acceptOp_keeps _).cond (reads_pure (.intro trivial (by simp [Expr.parts])))
    ((starNamed_reads hL).bind fun first hfirst => ?_)
  exact isClause_keeps.cond (Reads.guarded ((clauses_reads hL).bind fun cs hcs =>
    (op_keeps _).bind fun _ => reads_pure (proper_comprehension hfirst hcs)))
    ((moreItems_reads hL hfirst).bind fun items hitems =>
      (op_keeps _).bind fun _ => reads_pure (.intro trivial hitems))

theorem dictItem_reads (hL : L.Sound) : Reads (dictItem L) fun i => ∀ e ∈ i.parts, e.Proper := by
  refine (acceptOp_keeps _).cond (hL.bitOr.bind fun e he => reads_pure ?_)
    (hL.expression.bind fun key hkey => (op_keeps _).bind fun _ =>
      hL.expression.bind fun value hvalue => reads_pure ?_)
  · simpa [DictItem.parts] using he
  · simpa [DictItem.parts] using ⟨hkey, hvalue⟩

theorem dictFrom_reads (hL : L.Sound) {first : DictItem} (hfirst : ∀ e ∈ first.parts, e.Proper) :
    Reads (dictFrom L first) Expr.Proper := by
  have dict : ∀ o : Option (List DictItem × Bool),
      (∀ r ∈ o, ∀ i ∈ r.1, ∀ e ∈ i.parts, e.Proper) →
      Reads (do
        op "\x7d"
        return Expr.dict (first :: (o.map (·.1)).getD [])) Expr.Proper := by
    intro o ho
    refine (op_keeps _).bind fun _ => reads_pure (.intro trivial fun e hmem => ?_)
    obtain ⟨i, hi, he⟩ := List.mem_flatMap.1 hmem
    rcases List.mem_cons.1 hi with rfl | hi
    · exact hfirst e he
    · cases o with
      | some r => exact ho r rfl i hi e he
      | none => simp at hi
  exact (acceptOp_keeps _).cond ((dictItem_reads hL).commaList.optional.bind dict)
    ((reads_pure (by simp)).bind dict)

theorem setFrom_reads (hL : L.Sound) {first : Expr} (hfirst : first.Proper) :
    Reads (setFrom L first) Expr.Proper :=
  isClause_keeps.cond (Reads.guarded ((clauses_reads hL).bind fun _ hcs =>
    (op_keeps _).bind fun _ => reads_pure (proper_comprehension hfirst hcs)))
    ((moreItems_reads hL hfirst).bind fun _ hitems =>
      (op_keeps _).bind fun _ => reads_pure (.intro trivial hitems))

theorem braces_reads (hL : L.Sound) : Reads (braces L) Expr.Proper := by
  refine (acceptOp_keeps _).cond (reads_pure (.intro trivial (by simp [Expr.parts])))
    ((isOp_keeps _).cond ((dictItem_reads hL).bind fun _ => dictFrom_reads hL) ?_)
  refine (isOp_keeps _).bind fun _ => (nameBefore?_reads _).bind fun _ _ => reads_ite
    ((starNamed_reads hL).bind fun _ => setFrom_reads hL) (hL.expression.bind fun key hkey => ?_)
  refine (acceptOp_keeps _).cond (hL.expression.bind fun value hvalue => isClause_keeps.cond ?_ ?_)
    ((isOp_keeps _).bind fun _ => (setFrom_reads hL hkey).guarded)
  · refine (clauses_reads hL).bind fun cs hcs => (op_keeps _).bind fun _ => reads_pure ?_
    exact .intro trivial (List.forall_mem_cons.2 ⟨hkey, List.forall_mem_cons.2 ⟨hvalue, hcs⟩⟩)
  · exact dictFrom_reads hL (by simpa [DictItem.parts] using ⟨hkey, hvalue⟩)

theorem atom_reads (hL : L.Sound) : Reads (atom L) Expr.Proper := by
  refine peek_reads.bind fun t ht => ?_
  split
  · exact literal_reads hL
  · exact literal_reads hL
  · rename_i w hkind
    rw [Token.Sound, hkind] at ht
    exact next_keeps.bind fun _ => reads_pure (.intro ht (by simp [Expr.parts]))
  · rename_i w hkind
    rw [Token.Sound, hkind] at ht
    refine next_keeps.bind fun _ => reads_ite (reads_pure (proper_constant trivial))
      (reads_ite (reads_pure (proper_constant trivial))
        (reads_ite (reads_pure (proper_constant trivial)) ?_))
    exact reads_ite reads_failure (reads_pure (.intro ht (by simp [Expr.parts])))
  · exact next_keeps.bind fun _ => reads_ite (parenthesized_reads hL) (reads_ite
      (listDisplay_reads hL) (reads_ite (braces_reads hL) (reads_ite
        (reads_pure (proper_constant trivial)) reads_failure)))
  · exact reads_failure

/-! ### Operators -/

theorem postfixStep_reads (hL : L.Sound) (line : ℕ) {e : Expr} (he : e.Proper) :
    Reads (postfixStep L line e) fun o => ∀ a ∈ o, a.Proper := by
  refine (acceptOp_keeps _).cond (name_reads.bind fun w hw => reads_pure ?_)
    ((acceptOp_keeps _).cond ((callArguments_reads hL).bind fun r hr => reads_pure ?_)
      ((acceptOp_keeps _).cond ((slices_reads hL).bind fun index hindex =>
        (op_keeps _).bind fun _ => reads_pure ?_) (reads_pure (by simp))))
  · rintro _ ⟨⟩
    exact .intro hw (by simpa [Expr.parts] using he)
  · rintro _ ⟨⟩
    refine .intro trivial (List.forall_mem_cons.2 ⟨he, List.forall_mem_append.2 ⟨hr.1, ?_⟩⟩)
    simpa using hr.2
  · rintro _ ⟨⟩
    exact .intro trivial (by simpa [Expr.parts] using ⟨he, hindex⟩)

theorem primary_reads (hL : L.Sound) : Reads (primary L) Expr.Proper :=
  line_keeps.bind fun start => (atom_reads hL).bind fun _ he =>
    reads_repeatWhile (fun _ => postfixStep_reads hL start) he

theorem awaited_reads (hL : L.Sound) : Reads (awaited L) Expr.Proper :=
  (acceptWord_keeps _).cond ((primary_reads hL).bind fun _ he =>
    reads_pure (.intro trivial (by simpa [Expr.parts] using he))) (primary_reads hL)

theorem proper_binary {o : BinaryOp} {left right : Expr} (hl : left.Proper) (hr : right.Proper) :
    (Expr.binary o left right).Proper :=
  .intro trivial (by simpa [Expr.parts] using ⟨hl, hr⟩)

theorem proper_unary {o : UnaryOp} {e : Expr} (he : e.Proper) : (Expr.unary o e).Proper :=
  .intro trivial (by simpa [Expr.parts] using he)

theorem power_reads (hL : L.Sound) : Reads (power L) Expr.Proper :=
  (awaited_reads hL).bind fun _ hbase => (acceptOp_keeps _).cond
    (hL.factor.bind fun _ he => reads_pure (proper_binary hbase he)) (reads_pure hbase)

theorem factor_reads (hL : L.Sound) : Reads (factor L) Expr.Proper := by
  have signed : ∀ o, Reads (do return Expr.unary o (← L.factor)) Expr.Proper :=
    fun o => hL.factor.bind fun e he => reads_pure (proper_unary he)
  exact (acceptOp_keeps _).cond (signed _) ((acceptOp_keeps _).cond (signed _)
    ((acceptOp_keeps _).cond (signed _) (power_reads hL)))

theorem chain_reads {ops : List (String × BinaryOp)} {operand : Parser Expr}
    (h : Reads operand Expr.Proper) : Reads (chain ops operand) Expr.Proper := by
  refine h.bind fun first hfirst => reads_repeatWhile (fun e he => ?_) hfirst
  refine peek_keeps.bind fun t => ?_
  dsimp only
  split
  · refine next_keeps.bind fun _ => h.bind fun right hright => reads_pure ?_
    rintro _ ⟨⟩
    exact proper_binary he hright
  · exact reads_pure (by simp)

theorem bitOr_reads (hL : L.Sound) : Reads (bitOr L) Expr.Proper :=
  -- products, sums, shifts and the three junctions of bits
  chain_reads (chain_reads (chain_reads (chain_reads (chain_reads (chain_reads
    (factor_reads hL))))))

theorem compareOp?_keeps : Keeps compareOp? := by
  refine peek_keeps.bind fun t => ?_
  dsimp only
  split
  · exact next_keeps.bind fun _ => keeps_pure _
  · refine (acceptWord_keeps _).cond (keeps_pure _) ((acceptWord_keeps _).cond
      ((acceptWord_keeps _).cond (keeps_pure _) (keeps_pure _)) ?_)
    exact (isWord_keeps _).bind fun _ => peekSecond_keeps.bind fun _ => reads_ite
      (next_keeps.bind fun _ => next_keeps.bind fun _ => keeps_pure _) (keeps_pure _)

theorem comparison_reads (hL : L.Sound) : Reads (comparison L) Expr.Proper := by
  refine (bitOr_reads hL).bind fun first hfirst => ?_
  refine (reads_repeatWhile (Q := fun done => ∀ c ∈ done, c.operand.Proper) (fun done hdone => ?_)
    (by simp)).bind fun rest hrest => reads_pure ?_
  · refine compareOp?_keeps.bind fun o => ?_
    cases o with
    | some o =>
      refine (bitOr_reads hL).bind fun e he => reads_pure ?_
      rintro _ ⟨⟩
      exact List.forall_mem_cons.2 ⟨he, hdone⟩
    | none => exact reads_pure (by simp)
  · split_ifs with hempty
    · exact hfirst
    · refine .intro (by simpa [Expr.Fits] using hempty) (List.forall_mem_cons.2 ⟨hfirst, ?_⟩)
      simpa using hrest

theorem inversion_reads (hL : L.Sound) : Reads (inversion L) Expr.Proper :=
  (acceptWord_keeps _).cond (hL.inversion.bind fun _ he => reads_pure (proper_unary he))
    (comparison_reads hL)

theorem joined_reads {word : String} {o : BoolOp} {operand : Parser Expr}
    (h : Reads operand Expr.Proper) : Reads (joined word o operand) Expr.Proper := by
  refine h.bind fun first hfirst => (h.manyWhile (acceptWord_keeps _)).bind fun rest hrest =>
    reads_pure ?_
  split_ifs with hempty
  · exact hfirst
  · refine .intro ?_ (List.forall_mem_cons.2 ⟨hfirst, hrest⟩)
    have : 0 < rest.length := List.length_pos_iff.2 (by simpa using hempty)
    simp only [Expr.Fits, List.length_cons]
    omega

theorem disjunction_reads (hL : L.Sound) : Reads (disjunction L) Expr.Proper :=
  joined_reads (joined_reads (inversion_reads hL))

theorem expression_reads (hL : L.Sound) : Reads (expression L) Expr.Proper := by
  refine (isWord_keeps _).cond ?_ ((disjunction_reads hL).bind fun e he =>
    (isWord_keeps _).cond ?_ (reads_pure he))
  · exact (word_keeps _).bind fun _ => (params_keeps hL _ _).bind fun ps => (op_keeps _).bind
      fun _ => hL.expression.keeps.bind fun _ => reads_pure (.intro trivial (by simp [Expr.parts]))
  · have hrest : Reads (conditionAndElse L) fun r => r.1.Proper ∧ r.2.Proper :=
      (word_keeps _).bind fun _ => hL.disjunction.bind fun test htest => (word_keeps _).bind
        fun _ => hL.expression.bind fun orelse horelse => reads_pure ⟨htest, horelse⟩
    refine hrest.optional.bind fun o ho => ?_
    cases o with
    | some r =>
      obtain ⟨htest, horelse⟩ := ho r rfl
      exact reads_pure (.intro trivial (by simp [Expr.parts, htest, he, horelse]))
    | none => exact reads_pure he

end Nested

/-- The expression of a field is proper: its tokens are sound. -/
theorem fieldExpression_proper {host : Host} {L : Level} (hL : L.Sound) {line : ℕ}
    {code : List Char} {e : Expr} (h : fieldExpression host L line code = some e) : e.Proper := by
  obtain ⟨tokens, hscan, h⟩ := Option.bind_eq_some_iff.1 h
  obtain ⟨⟨e', rest⟩, hread, h⟩ := Option.bind_eq_some_iff.1 h
  cases h
  exact (starExpressions_reads hL tokens _ rest (Token.scanAt_sound hscan) hread).1

/-- **All parsers for expressions read proper ones**, to any depth and on any host. -/
theorem Level.ofDepth_sound (host : Host) (depth : ℕ) : (Level.ofDepth host depth).Sound := by
  induction depth with
  | zero => exact ⟨reads_failure, reads_failure, reads_failure, reads_failure, reads_failure,
      reads_failure, by rintro _ _ _ _ ⟨⟩⟩
  | succ depth ih => exact ⟨expression_reads ih, disjunction_reads ih, inversion_reads ih,
      bitOr_reads ih, factor_reads ih, primary_reads ih,
      Formatted.read_proper fun _ _ _ => fieldExpression_proper ih⟩

end Parser

end CallReach.Source
