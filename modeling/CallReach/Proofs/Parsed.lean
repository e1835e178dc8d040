import CallReach.Proofs.Reading
import CallReach.Source.Lowering
import CallReach.Source.Parser.Stmt

/-!
# Statements that have been read

What holds of the expressions that are read holds of the statements made of them, and what stands
for the name of a definition is one.

* `Stmt.Makes` : the calls that a statement makes.
* `Stmt.Proper` : all names in a statement and its expressions are names.
* `Stmt.Proper.callee` : the callees of all calls that it makes are proper.
* `parse_proper` : the statements of a source text are proper.
-/

namespace CallReach.Source

/-! ### Proper statements -/

/-- The expressions of a simple statement. -/
def Simple.exprs : Simple → List Expr
  | .expression value => [value]
  | .assign targets value => targets ++ [value]
  | .augmented target _ value => [target, value]
  | .annotated target typeHint value _ => [target, typeHint] ++ value.toList
  | .delete targets => targets
  | .assertion test message => test :: message.toList
  | _ => []

/-- The expression that a handler has before its statements. -/
def Handler.exprs : Handler → List Expr
  | .mk _ exception _ => exception.toList

/-- The expression that a case has before its statements. -/
def Case.exprs : Case → List Expr
  | .mk _ guard' _ => guard'.toList

/-- The expressions of a statement itself whose calls are made. -/
def Stmt.exprs : Stmt → List Expr
  | .simple _ s => s.exprs
  | .ret _ value => value.toList
  | .raise _ exception cause => exception.toList ++ cause.toList
  | .exit _ => []
  | .again _ => []
  | .branch _ test _ _ => [test]
  | .whileLoop _ test _ _ => [test]
  | .forLoop _ _ iter _ _ => [iter]
  | .within _ items _ => items.map (·.context)
  | .attempt _ _ handlers _ _ => handlers.flatMap Handler.exprs
  | .select _ subject cases => subject :: cases.flatMap Case.exprs
  | .functionDef _ _ decorators _ _ _ _ => decorators
  | .classDef _ decorators _ _ _ _ => decorators

/-- The statements that a statement holds. -/
def Stmt.parts : Stmt → List Stmt
  | .branch _ _ body orelse => body ++ orelse
  | .whileLoop _ _ body orelse => body ++ orelse
  | .forLoop _ _ _ body orelse => body ++ orelse
  | .within _ _ body => body
  | .attempt _ body handlers orelse final =>
    body ++ handlers.flatMap Parser.handlerBody ++ orelse ++ final
  | .select _ _ cases => cases.flatMap Parser.caseBody
  | .functionDef _ _ _ _ _ _ body => body
  | .classDef _ _ _ _ _ body => body
  | _ => []

/-- What stands for the name of a definition is one. -/
def Stmt.Named : Stmt → Prop
  | .functionDef _ _ _ w _ _ _ => IsWord w
  | .classDef _ _ w _ _ _ => IsWord w
  | _ => True

/-- All names in a statement and its expressions are names. -/
inductive Stmt.Proper : Stmt → Prop
  | intro {s : Stmt} : s.Named → (∀ e ∈ s.exprs, e.Proper) → (∀ part ∈ s.parts, Proper part) →
      Proper s

/-- A statement makes a call when it is carried out; a definition does not carry out its body. -/
inductive Stmt.Makes : Stmt → CallSite → Prop
  | own {s : Stmt} {e : Expr} {c : CallSite} : e ∈ s.exprs → c ∈ e.calls → Makes s c
  | part {s part : Stmt} {c : CallSite} : s.isDefinition = false → part ∈ s.parts →
      Makes part c → Makes s c

theorem Stmt.Proper.exprs {s : Stmt} (h : s.Proper) : ∀ e ∈ s.exprs, e.Proper := by
  cases h
  assumption

theorem Stmt.Proper.parts {s : Stmt} (h : s.Proper) : ∀ part ∈ s.parts, part.Proper := by
  cases h
  assumption

theorem Stmt.Proper.named {s : Stmt} (h : s.Proper) : s.Named := by
  cases h
  assumption

/-- **The callees of the calls that a proper statement makes are proper.** -/
theorem Stmt.Proper.callee {s : Stmt} {c : CallSite} (hs : s.Proper) (h : s.Makes c) :
    c.callee.Proper := by
  induction h with
  | own he hc => exact (hs.exprs _ he).callee hc
  | part _ hpart _ ih => exact ih (hs.parts _ hpart)

/-- The calls of a simple statement are those of its expressions. -/
theorem mem_simple_calls {s : Simple} {c : CallSite} :
    c ∈ s.calls ↔ ∃ e ∈ s.exprs, c ∈ e.calls := by
  cases s <;> simp [Simple.calls, Simple.exprs, mem_callsOfAll, mem_callsOfOption, or_and_right,
    exists_or]

namespace Parser

/-- Statements all of which are proper. -/
def ProperBody (body : List Stmt) : Prop := ∀ s ∈ body, s.Proper

theorem properBody_singleton {s : Stmt} (h : s.Proper) : ProperBody [s] :=
  List.forall_mem_singleton.2 h

/-! ### Patterns, whose literals make no calls -/

section Patterns

variable {L : Level}

theorem isAnyOp_keeps (ops : List String) : Keeps (isAnyOp ops) := by
  refine peek_keeps.bind fun t => ?_
  split <;> exact keeps_pure _

theorem captureName_keeps : Keeps captureName :=
  (isWord_keeps _).bind fun _ => Reads.guarded (name_reads.keeps.bind fun _ =>
    (isAnyOp_keeps _).bind fun _ => (keeps_pure _).guarded)

theorem numberLiteral_keeps : Keeps numberLiteral := by
  refine next_keeps.bind fun t => ?_
  split
  · exact keeps_pure _
  · exact keeps_pure _
  · exact keeps_pure _
  · exact reads_failure

theorem signedNumber_keeps : Keeps signedNumber :=
  (acceptOp_keeps _).bind fun _ => numberLiteral_keeps.bind fun _ =>
    (acceptOp_keeps _).bind fun _ => (acceptOp_keeps _).bind fun _ => reads_ite
      (Reads.guarded (numberLiteral_keeps.bind fun _ => (keeps_pure _).guarded)) (keeps_pure _)

theorem literalPattern_keeps (hL : L.Sound) : Keeps (literalPattern L) := by
  have hliteral : Keeps (do return [← literal L]) :=
    (literal_reads hL).keeps.bind fun _ => keeps_pure _
  refine peek_keeps.bind fun t => ?_
  split
  · exact hliteral
  · exact hliteral
  · exact hliteral
  · exact next_keeps.bind fun _ => (keeps_pure _).guarded
  · exact signedNumber_keeps

theorem dottedPattern_keeps : Keeps dottedPattern :=
  name_reads.keeps.bind fun _ =>
    (name_reads.manyWhile (acceptOp_keeps _)).keeps.bind fun _ => keeps_pure _

variable {pattern : Parser Pattern}

theorem sequenceItem_keeps (h : Keeps pattern) : Keeps (sequenceItem pattern) :=
  (acceptOp_keeps _).cond ((acceptWord_keeps _).cond (keeps_pure _)
    (captureName_keeps.bind fun _ => keeps_pure _)) (h.bind fun _ => keeps_pure _)

theorem sequenceFrom_keeps (h : Keeps pattern) (closing : String) (group : Bool) :
    Keeps (sequenceFrom pattern closing group) := by
  refine (acceptOp_keeps _).cond (keeps_pure _)
    ((sequenceItem_keeps h).commaList.keeps.bind fun r => ?_)
  split
  · exact (op_keeps _).bind fun _ => reads_ite (keeps_pure _).guarded (keeps_pure _)
  · exact (op_keeps _).bind fun _ => keeps_pure _

theorem patternKey_keeps (hL : L.Sound) : Keeps (patternKey L) := by
  refine peek_keeps.bind fun t => ?_
  split
  · exact dottedPattern_keeps.bind fun _ => (keeps_pure _).guarded
  · exact literalPattern_keeps hL

theorem mappingItem_keeps (hL : L.Sound) (h : Keeps pattern) : Keeps (mappingItem L pattern) :=
  (acceptOp_keeps _).cond (captureName_keeps.bind fun _ => keeps_pure _)
    ((patternKey_keeps hL).bind fun _ => (op_keeps _).bind fun _ => h.bind fun _ => keeps_pure _)

theorem mappingFrom_keeps (hL : L.Sound) (h : Keeps pattern) : Keeps (mappingFrom L pattern) :=
  (acceptOp_keeps _).cond (keeps_pure _) ((mappingItem_keeps hL h).commaList.keeps.bind fun _ =>
    Reads.guarded ((op_keeps _).bind fun _ => keeps_pure _))

theorem classItem_keeps (h : Keeps pattern) : Keeps (classItem pattern) := by
  refine (nameBefore?_reads _).keeps.bind fun o => ?_
  split
  · exact next_keeps.bind fun _ => next_keeps.bind fun _ => h.bind fun _ => keeps_pure _
  · exact h.bind fun _ => keeps_pure _

theorem classFrom_keeps (h : Keeps pattern) : Keeps (classFrom pattern) :=
  (acceptOp_keeps _).cond (keeps_pure _) ((classItem_keeps h).commaList.keeps.bind fun _ =>
    Reads.guarded ((op_keeps _).bind fun _ => keeps_pure _))

theorem namePattern_keeps (h : Keeps pattern) (w : String) : Keeps (namePattern pattern w) :=
  (acceptWord_keeps _).cond (keeps_pure _) (dottedPattern_keeps.bind fun _ =>
    (acceptOp_keeps _).cond (classFrom_keeps h) ((isOp_keeps _).bind fun _ =>
      (keeps_pure _).guarded))

theorem closedPattern_keeps (hL : L.Sound) (h : Keeps pattern) :
    Keeps (closedPattern L pattern) := by
  refine peek_keeps.bind fun t => ?_
  split
  · exact namePattern_keeps h _
  · split
    · exact next_keeps.bind fun _ => sequenceFrom_keeps h _ _
    · exact next_keeps.bind fun _ => sequenceFrom_keeps h _ _
    · exact next_keeps.bind fun _ => mappingFrom_keeps hL h
    · exact (literalPattern_keeps hL).bind fun _ => keeps_pure _

theorem wholePattern_keeps (hL : L.Sound) (h : Keeps pattern) : Keeps (wholePattern L pattern) :=
  (closedPattern_keeps hL h).bind fun _ =>
    ((closedPattern_keeps hL h).manyWhile (acceptOp_keeps _)).keeps.bind fun _ =>
      (acceptWord_keeps _).cond (captureName_keeps.bind fun _ => keeps_pure _) (keeps_pure _)

theorem casePatterns_keeps (h : Keeps pattern) : Keeps (casePatterns pattern) := by
  refine (sequenceItem_keeps h).commaList.keeps.bind fun r => ?_
  split
  · exact (keeps_pure _).guarded
  · exact keeps_pure _

theorem patternOfDepth_keeps (hL : L.Sound) (depth : ℕ) : Keeps (patternOfDepth L depth) := by
  induction depth with
  | zero => exact reads_failure
  | succ depth ih => exact wholePattern_keeps hL ih

end Patterns

/-! ### Simple statements -/

section Simple

variable {L : Level}

theorem assignedFrom_reads (hL : L.Sound) {first : Expr} (hfirst : first.Proper) :
    Reads (assignedFrom L first) fun s => ∀ e ∈ s.exprs, e.Proper := by
  refine (reads_repeatWhile (Q := fun done => ∀ e ∈ done, e.Proper) (fun done hdone => ?_)
    (List.forall_mem_singleton.2 hfirst)).bind fun values hvalues => ?_
  · split
    · refine (acceptOp_keeps _).cond (Reads.guarded ((yieldOrStarExpressions_reads hL).bind
        fun e he => reads_pure ?_)) (reads_pure (by simp))
      rintro _ ⟨⟩
      exact List.forall_mem_cons.2 ⟨he, hdone⟩
    · exact reads_pure (by simp)
  · split
    · refine reads_pure fun e he => hvalues e ?_
      simpa [Simple.exprs, or_comm] using he
    · exact reads_failure

theorem assignmentOrExpression_reads (hL : L.Sound) :
    Reads (assignmentOrExpression L) fun s => ∀ e ∈ s.exprs, e.Proper := by
  refine (isOp_keeps _).bind fun opened => (isWord_keeps _).cond
    ((yieldExpression_reads hL).bind fun e he => reads_pure (List.forall_mem_singleton.2 he))
    ((starExpressions_reads hL).bind fun first hfirst => peek_keeps.bind fun t => ?_)
  refine reads_ite (assignedFrom_reads hL hfirst) (reads_ite ?_ ?_)
  · refine Reads.guarded ((op_keeps _).bind fun _ => hL.expression.bind fun hint hhint =>
      ((yieldOrStarExpressions_reads hL).afterOp? _).bind fun value hvalue => reads_pure ?_)
    simpa [Simple.exprs] using ⟨hfirst, hhint, hvalue⟩
  · split
    · refine Reads.guarded (next_keeps.bind fun _ => (yieldOrStarExpressions_reads hL).bind
        fun value hvalue => reads_pure ?_)
      simpa [Simple.exprs] using ⟨hfirst, hvalue⟩
    · exact reads_pure (List.forall_mem_singleton.2 hfirst)

theorem dottedName_keeps : Keeps dottedName :=
  name_reads.keeps.bind fun _ =>
    (name_reads.manyWhile (acceptOp_keeps _)).keeps.bind fun _ => keeps_pure _

theorem importedName_keeps : Keeps importedName :=
  name_reads.keeps.bind fun _ => (name_reads.afterWord? _).keeps.bind fun _ => keeps_pure _

theorem importedNames_keeps : Keeps importedNames :=
  (acceptOp_keeps _).cond (keeps_pure _) ((acceptOp_keeps _).cond
    (importedName_keeps.commaList.keeps.bind fun _ => (op_keeps _).bind fun _ => keeps_pure _)
    (importedName_keeps.commaList.keeps.bind fun _ => (keeps_pure _).guarded))

theorem importNames_reads : Reads importNames fun s => s.exprs = [] := by
  have hname : Keeps (do
      let n ← dottedName
      return { name := n, as? := ← afterWord? "as" name : Alias }) :=
    dottedName_keeps.bind fun _ => (name_reads.afterWord? _).keeps.bind fun _ => keeps_pure _
  exact (word_keeps _).bind fun _ => hname.commaList.keeps.bind fun ⟨_, _⟩ =>
    (reads_pure (by rfl)).guarded

theorem leadingDots_keeps : Keeps leadingDots :=
  reads_repeatWhile (fun _ _ => (acceptOp_keeps _).cond (reads_pure (by simp))
    ((acceptOp_keeps _).cond (reads_pure (by simp)) (reads_pure (by simp)))) trivial

theorem importFrom_reads : Reads importFrom fun s => s.exprs = [] := by
  have names : ∀ level : ℕ, ∀ module : Option String, Reads (do
      word "import"
      return Simple.importFrom level module (← importedNames)) fun s => s.exprs = [] :=
    fun level module => (word_keeps _).bind fun _ => importedNames_keeps.bind fun _ =>
      reads_pure rfl
  have hdotted : Keeps (some <$> dottedName) := dottedName_keeps.map fun _ _ => trivial
  exact (word_keeps _).bind fun _ => leadingDots_keeps.bind fun level => (isWord_keeps _).bind
    fun _ => reads_ite ((keeps_pure _).bind (names level)) (hdotted.bind (names level))

theorem nameList_keeps : Keeps nameList :=
  name_reads.commaList.keeps.bind fun _ => (keeps_pure _).guarded

theorem isEnd_keeps : Keeps isEnd :=
  (isOp_keeps _).bind fun _ => (isNext_keeps _).bind fun _ => keeps_pure _

theorem deletion_reads (hL : L.Sound) :
    Reads (deletion L) fun s => ∀ e ∈ s.exprs, e.Proper := by
  have hitem : Reads (do
      let e ← L.primary
      guard (isDeletable e)
      return e) Expr.Proper := hL.primary.bind fun e he => (reads_pure he).guarded
  exact (word_keeps _).bind fun _ => hitem.commaList.bind fun r hr => isEnd_keeps.bind fun _ =>
    (reads_pure hr).guarded

theorem proper_simple {span : Span} {s : Simple} (h : ∀ e ∈ s.exprs, e.Proper) :
    (Stmt.simple span s).Proper :=
  .intro trivial h (by simp [Stmt.parts])

theorem simpleBody_reads (hL : L.Sound) :
    Reads (simpleBody L) fun make => ∀ span, (make span).Proper := by
  have plain : ∀ {s : Simple}, s.exprs = [] → ∀ span, (Stmt.simple span s).Proper :=
    fun hs span => proper_simple (by simp [hs])
  refine peek_keeps.bind fun t => ?_
  split
  · -- return
    have ret : ∀ value : Option Expr, (∀ e ∈ value, e.Proper) →
        Reads (pure (Stmt.ret · value)) fun make => ∀ span, (make span).Proper :=
      fun value hvalue => reads_pure fun span =>
        .intro trivial (by simpa [Stmt.exprs] using hvalue) (by simp [Stmt.parts])
    exact next_keeps.bind fun _ => isEnd_keeps.cond ((reads_pure (by simp)).bind ret)
      (((starExpressions_reads hL).map fun e he => by simpa using he).bind ret)
  · -- raise
    refine next_keeps.bind fun _ => isEnd_keeps.cond
      (reads_pure fun _ => .intro trivial (by simp [Stmt.exprs]) (by simp [Stmt.parts])) ?_
    refine hL.expression.bind fun e he => (hL.expression.afterWord? _).bind fun cause hcause =>
      reads_pure fun _ => .intro trivial ?_ (by simp [Stmt.parts])
    simpa [Stmt.exprs] using ⟨he, hcause⟩
  · exact next_keeps.bind fun _ =>
      reads_pure fun _ => .intro trivial (by simp [Stmt.exprs]) (by simp [Stmt.parts])
  · exact next_keeps.bind fun _ =>
      reads_pure fun _ => .intro trivial (by simp [Stmt.exprs]) (by simp [Stmt.parts])
  · exact next_keeps.bind fun _ => reads_pure (plain rfl)
  · -- assert
    refine next_keeps.bind fun _ => hL.expression.bind fun test htest =>
      (hL.expression.afterOp? _).bind fun message hmessage => reads_pure fun _ => proper_simple ?_
    simpa [Simple.exprs] using ⟨htest, hmessage⟩
  · exact importNames_reads.bind fun s hs => reads_pure (plain hs)
  · exact importFrom_reads.bind fun s hs => reads_pure (plain hs)
  · exact next_keeps.bind fun _ => nameList_keeps.bind fun _ => reads_pure (plain rfl)
  · exact next_keeps.bind fun _ => nameList_keeps.bind fun _ => reads_pure (plain rfl)
  · exact (deletion_reads hL).bind fun s hs => reads_pure fun _ => proper_simple hs
  · exact (assignmentOrExpression_reads hL).bind fun s hs => reads_pure fun _ => proper_simple hs

theorem simpleStatement_reads (hL : L.Sound) : Reads (simpleStatement L) Stmt.Proper :=
  line_keeps.bind fun _ => (simpleBody_reads hL).bind fun _ hmake => lastLine_keeps.bind fun _ =>
    reads_pure (hmake _)

theorem simpleLine_reads (hL : L.Sound) : Reads (simpleLine L) ProperBody := by
  refine (simpleStatement_reads hL).bind fun first hfirst => ?_
  refine (reads_repeatWhile (Q := ProperBody) (fun done hdone => ?_)
    (properBody_singleton hfirst)).bind fun rest hrest => (expect_keeps _).bind fun _ =>
      reads_pure fun s hs => hrest s (List.mem_reverse.1 hs)
  refine (acceptOp_keeps _).cond ((isNext_keeps _).cond (reads_pure (by simp))
    ((simpleStatement_reads hL).bind fun s hs => reads_pure ?_)) (reads_pure (by simp))
  rintro _ ⟨⟩
  exact List.forall_mem_cons.2 ⟨hs, hdone⟩

end Simple

/-! ### Compound statements -/

section Compound

variable {L : Level} {pattern : Parser Pattern} {block : Parser (List Stmt)}

theorem suite_reads (hblock : Reads block ProperBody) : Reads (suite block) ProperBody :=
  (op_keeps _).bind fun _ => hblock

theorem suiteAfter?_reads (hblock : Reads block ProperBody) (s : String) :
    Reads (suiteAfter? block s) ProperBody :=
  (acceptWord_keeps _).cond (suite_reads hblock) (reads_pure (by simp [ProperBody]))

/-- A statement with one expression and two lists of statements. -/
theorem proper_of_parts {s : Stmt} {test : Expr} {body orelse : List Stmt} (htest : test.Proper)
    (hbody : ProperBody body) (horelse : ProperBody orelse) (hnamed : s.Named)
    (hexprs : s.exprs = [test]) (hparts : s.parts = body ++ orelse) : s.Proper := by
  refine .intro hnamed (by simpa [hexprs] using htest) ?_
  rw [hparts]
  exact List.forall_mem_append.2 ⟨hbody, horelse⟩

theorem arms_proper {list : List (ℕ × Expr × List Stmt)} {orelse : List Stmt}
    (h : ∀ a ∈ list, a.2.1.Proper ∧ ProperBody a.2.2) (horelse : ProperBody orelse) :
    ProperBody (arms list orelse) := by
  induction list with
  | nil => exact horelse
  | cons a rest ih =>
    rw [List.forall_mem_cons] at h
    exact properBody_singleton (proper_of_parts h.1.1 h.1.2 (ih h.2) trivial rfl rfl)

theorem ifStatement_reads (hL : L.Sound) (hblock : Reads block ProperBody) :
    Reads (ifStatement L block) ProperBody := by
  have harm : Reads (arm L block) fun a => a.2.1.Proper ∧ ProperBody a.2.2 :=
    line_keeps.bind fun _ => next_keeps.bind fun _ => (namedExpression_reads hL).bind
      fun _ htest => (suite_reads hblock).bind fun _ hbody => reads_pure ⟨htest, hbody⟩
  exact harm.bind fun _ hfirst => (harm.manyWhile (isWord_keeps _)).bind fun _ hrest =>
    (suiteAfter?_reads hblock _).bind fun _ horelse =>
      reads_pure (arms_proper (List.forall_mem_cons.2 ⟨hfirst, hrest⟩) horelse)

theorem whileStatement_reads (hL : L.Sound) (hblock : Reads block ProperBody) (first : ℕ) :
    Reads (whileStatement L block first) Stmt.Proper :=
  (word_keeps _).bind fun _ => (namedExpression_reads hL).bind fun _ htest =>
    (suite_reads hblock).bind fun _ hbody => (suiteAfter?_reads hblock _).bind fun _ horelse =>
      reads_pure (proper_of_parts htest hbody horelse trivial rfl rfl)

theorem forStatement_reads (hL : L.Sound) (hblock : Reads block ProperBody) (first : ℕ) :
    Reads (forStatement L block first) Stmt.Proper :=
  (word_keeps _).bind fun _ => (targets_reads hL).bind fun _ _ => (word_keeps _).bind fun _ =>
    (starExpressions_reads hL).bind fun _ hiter => (suite_reads hblock).bind fun _ hbody =>
      (suiteAfter?_reads hblock _).bind fun _ horelse =>
        reads_pure (proper_of_parts hiter hbody horelse trivial rfl rfl)

theorem withItems_reads (hL : L.Sound) :
    Reads (withItems L) fun items => ∀ i ∈ items, i.context.Proper := by
  have hitem : Reads (withItem L) fun i => i.context.Proper :=
    hL.expression.bind fun _ hcontext => ((starTarget_reads hL).afterWord? _).bind fun _ _ =>
      reads_pure hcontext
  refine Reads.orElse ?_ ?_
  · exact (op_keeps _).bind fun _ => hitem.commaList.bind fun _ hitems => (op_keeps _).bind fun _ =>
      (isOp_keeps _).bind fun _ => (reads_pure hitems).guarded
  · exact hitem.commaList.bind fun _ hitems => (reads_pure hitems).guarded

theorem withStatement_reads (hL : L.Sound) (hblock : Reads block ProperBody) (first : ℕ) :
    Reads (withStatement L block first) Stmt.Proper :=
  (word_keeps _).bind fun _ => (withItems_reads hL).bind fun _ hitems =>
    (suite_reads hblock).bind fun _ hbody =>
      reads_pure (.intro trivial (by simpa [Stmt.exprs] using hitems) hbody)

theorem handler_reads (hL : L.Sound) (hblock : Reads block ProperBody) (group : Bool) :
    Reads (handler L block group) fun h =>
      (∀ e ∈ h.exprs, e.Proper) ∧ ProperBody (handlerBody h) := by
  refine line_keeps.bind fun first => (word_keeps _).bind fun _ => ?_
  have rest : Reads (do
      if !group && (← isOp ":") then return Handler.mk first none (← suite block)
      let e ← L.expression
      let _ ← afterWord? "as" name
      return Handler.mk first (some e) (← suite block)) fun h =>
        (∀ e ∈ h.exprs, e.Proper) ∧ ProperBody (handlerBody h) := by
    refine (isOp_keeps _).bind fun _ => reads_ite ?_ ?_
    · exact (suite_reads hblock).bind fun _ hbody => reads_pure ⟨by simp [Handler.exprs], hbody⟩
    · exact hL.expression.bind fun _ he => (name_reads.afterWord? _).bind fun _ _ =>
        (suite_reads hblock).bind fun _ hbody =>
          reads_pure ⟨by simpa [Handler.exprs] using he, hbody⟩
  exact reads_ite ((op_keeps _).bind fun _ => rest) rest

theorem tryStatement_reads (hL : L.Sound) (hblock : Reads block ProperBody) (first : ℕ) :
    Reads (tryStatement L block first) Stmt.Proper := by
  refine (word_keeps _).bind fun _ => (suite_reads hblock).bind fun body hbody =>
    peekSecond_keeps.bind fun kind => ?_
  refine ((handler_reads hL hblock (kind == .op "*")).manyWhile (isWord_keeps _)).bind
    fun handlers hhandlers => ?_
  have rest : ∀ orelse : List Stmt, ProperBody orelse → Reads (do
      let final ← suiteAfter? block "finally"
      guard (!handlers.isEmpty || !final.isEmpty)
      let last := endOfLast first ([body] ++ handlers.map handlerBody ++ [orelse, final])
      return Stmt.attempt ⟨first, last⟩ body handlers orelse final) Stmt.Proper := by
    intro orelse horelse
    refine (suiteAfter?_reads hblock _).bind fun final hfinal =>
      Reads.guarded (reads_pure (.intro trivial (fun e hmem => ?_) fun s hmem => ?_))
    · obtain ⟨h, hh, he⟩ := List.mem_flatMap.1 hmem
      exact (hhandlers h hh).1 e he
    · simp only [Stmt.parts, List.mem_append, List.mem_flatMap] at hmem
      rcases hmem with ((hs | ⟨h, hh, hs⟩) | hs) | hs
      · exact hbody s hs
      · exact (hhandlers h hh).2 s hs
      · exact horelse s hs
      · exact hfinal s hs
  exact reads_ite ((reads_pure (by simp [ProperBody])).bind rest)
    ((suiteAfter?_reads hblock _).bind rest)

theorem subject_reads (hL : L.Sound) : Reads (subject L) Expr.Proper :=
  (starNamed_reads hL).bind fun _ he => (isOp_keeps _).cond
    ((moreItems_reads hL he).bind fun _ hitems => reads_pure (proper_tuple hitems))
    (reads_pure he).guarded

theorem caseBlock_reads (hL : L.Sound) (hpattern : Keeps pattern)
    (hblock : Reads block ProperBody) :
    Reads (caseBlock L pattern block) fun c =>
      (∀ e ∈ c.exprs, e.Proper) ∧ ProperBody (caseBody c) :=
  (word_keeps _).bind fun _ => (casePatterns_keeps hpattern).bind fun _ =>
    ((namedExpression_reads hL).afterWord? _).bind fun _ hguard => (suite_reads hblock).bind
      fun _ hbody => reads_pure ⟨by simpa [Case.exprs] using hguard, hbody⟩

theorem matchStatement_reads (hL : L.Sound) (hpattern : Keeps pattern)
    (hblock : Reads block ProperBody) (first : ℕ) :
    Reads (matchStatement L pattern block first) Stmt.Proper := by
  refine (word_keeps _).bind fun _ => (subject_reads hL).bind fun e he => (op_keeps _).bind fun _ =>
    (expect_keeps _).bind fun _ => (expect_keeps _).bind fun _ =>
    ((caseBlock_reads hL hpattern hblock).manyWhile (isWord_keeps _)).bind fun cases hcases =>
    Reads.guarded ((expect_keeps _).bind fun _ => reads_pure (.intro trivial ?_ ?_))
  · refine List.forall_mem_cons.2 ⟨he, fun e he => ?_⟩
    obtain ⟨c, hc, he⟩ := List.mem_flatMap.1 he
    exact (hcases c hc).1 e he
  · intro s hs
    obtain ⟨c, hc, hs⟩ := List.mem_flatMap.1 hs
    exact (hcases c hc).2 s hs

/-! ### Definitions -/

theorem functionDef_reads (hL : L.Sound) (hblock : Reads block ProperBody) (first : ℕ)
    (isAsync : Bool) {decorators : List Expr} (hdecorators : ∀ e ∈ decorators, e.Proper) :
    Reads (functionDef L block first isAsync decorators) Stmt.Proper :=
  (word_keeps _).bind fun _ => name_reads.bind fun _ hname => (op_keeps _).bind fun _ =>
    (params_keeps hL _ _).bind fun _ => (op_keeps _).bind fun _ =>
    (hL.expression.afterOp? _).bind fun _ _ => (suite_reads hblock).bind fun _ hbody =>
      reads_pure (.intro hname hdecorators hbody)

theorem classDef_reads (hL : L.Sound) (hblock : Reads block ProperBody) (first : ℕ)
    {decorators : List Expr} (hdecorators : ∀ e ∈ decorators, e.Proper) :
    Reads (classDef L block first decorators) Stmt.Proper := by
  refine (word_keeps _).bind fun _ => name_reads.bind fun n hname => ?_
  have body : ∀ r : List Expr × List Keyword, Reads (do
      let body ← suite block
      return Stmt.classDef ⟨first, endOf body first⟩ decorators n r.1 r.2 body) Stmt.Proper :=
    fun _ => (suite_reads hblock).bind fun _ hbody => reads_pure (.intro hname hdecorators hbody)
  exact (acceptOp_keeps _).cond ((arguments_reads hL).keeps.bind body)
    ((keeps_pure _).bind body)

theorem decorators_reads (hL : L.Sound) :
    Reads (decorators L) fun es => ∀ e ∈ es, e.Proper :=
  Reads.manyWhile (isOp_keeps _) ((op_keeps _).bind fun _ => (namedExpression_reads hL).bind
    fun _ he => (expect_keeps _).bind fun _ => reads_pure he)

theorem definition_reads (hL : L.Sound) (hblock : Reads block ProperBody)
    {decorators : List Expr} (hdecorators : ∀ e ∈ decorators, e.Proper) :
    Reads (definition L block decorators) Stmt.Proper :=
  line_keeps.bind fun _ => (isWord_keeps _).cond (classDef_reads hL hblock _ hdecorators)
    ((acceptWord_keeps _).bind fun _ => functionDef_reads hL hblock _ _ hdecorators)

theorem asyncStatement_reads (hL : L.Sound) (hblock : Reads block ProperBody) (first : ℕ) :
    Reads (asyncStatement L block first) Stmt.Proper := by
  refine peekSecond_keeps.bind fun kind => ?_
  split
  · exact definition_reads hL hblock (by simp)
  · exact (word_keeps _).bind fun _ => forStatement_reads hL hblock first
  · exact (word_keeps _).bind fun _ => withStatement_reads hL hblock first
  · exact reads_failure

theorem statement_reads (hL : L.Sound) (hpattern : Keeps pattern)
    (hblock : Reads block ProperBody) : Reads (statement L pattern block) ProperBody := by
  have one : ∀ {p : Parser Stmt}, Reads p Stmt.Proper → Reads (do return [← p]) ProperBody :=
    fun hp => hp.bind fun _ hs => reads_pure (properBody_singleton hs)
  refine peek_keeps.bind fun t => ?_
  dsimp only
  split
  · exact one ((decorators_reads hL).bind fun _ => definition_reads hL hblock)
  · exact one (definition_reads hL hblock (by simp))
  · exact one (definition_reads hL hblock (by simp))
  · exact one (asyncStatement_reads hL hblock _)
  · exact ifStatement_reads hL hblock
  · exact one (whileStatement_reads hL hblock _)
  · exact one (forStatement_reads hL hblock _)
  · exact one (withStatement_reads hL hblock _)
  · exact one (tryStatement_reads hL hblock _)
  · exact (one (matchStatement_reads hL hpattern hblock _)).orElse (simpleLine_reads hL)
  · exact simpleLine_reads hL

theorem statements_reads (hL : L.Sound) (hpattern : Keeps pattern)
    (hblock : Reads block ProperBody) : Reads (statements L pattern block) ProperBody := by
  have hmore : Keeps (do return !((← isNext .dedent) || (← isNext .stop))) :=
    (isNext_keeps _).bind fun _ => (isNext_keeps _).bind fun _ => keeps_pure _
  refine ((statement_reads hL hpattern hblock).manyWhile hmore).bind fun parts hparts =>
    reads_pure fun s hs => ?_
  obtain ⟨part, hpart, hs⟩ := List.mem_flatten.1 hs
  exact hparts part hpart s hs

theorem blockOfDepth_reads (hL : L.Sound) (hpattern : Keeps pattern) (depth : ℕ) :
    Reads (blockOfDepth L pattern depth) ProperBody := by
  induction depth with
  | zero => exact reads_failure
  | succ depth ih =>
    refine (accept_keeps _).cond ((expect_keeps _).bind fun _ => ?_) (simpleLine_reads hL)
    exact (statements_reads hL hpattern ih).bind fun _ hbody =>
      Reads.guarded ((expect_keeps _).bind fun _ => reads_pure hbody)

theorem program_reads (host : Host) (depth : ℕ) : Reads (program host depth) ProperBody := by
  have hL := Level.ofDepth_sound host depth
  have hpattern := patternOfDepth_keeps hL depth
  exact (statements_reads hL hpattern (blockOfDepth_reads hL hpattern depth)).bind fun _ hbody =>
    (expect_keeps _).bind fun _ => reads_pure hbody

end Compound

end Parser

/-- **The statements of a source text are proper.** -/
theorem parse_proper {host : Host} {text : String} {body : List Stmt}
    (h : parse host text = some body) : ∀ s ∈ body, s.Proper := by
  obtain ⟨tokens, hscan, h⟩ := Option.bind_eq_some_iff.1 h
  obtain ⟨⟨body', rest⟩, hprogram, h⟩ := Option.bind_eq_some_iff.1 h
  cases h
  exact (Parser.program_reads host _ tokens _ rest (Token.scanAt_sound hscan) hprogram).1

end CallReach.Source
