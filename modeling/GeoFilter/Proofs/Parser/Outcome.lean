import GeoFilter.Cql.Parser

set_option autoImplicit false

/-! # What a parser step reads, without its length proofs

`Parse.outcome` forgets the bound that a step carries. Each parsing function has one equation here
that gives its outcome by the outcomes of the functions it calls; later proofs use these and never
open a parsing function again. -/

namespace GeoFilter.Cql

variable {α β : Type} {m n : Nat}

/-- The value that a step read and the tokens after it. -/
def Parse.outcome (step : Parse α n) : Except SyntaxError (α × List Token) :=
  step.map fun p => (p.value, p.rest)

@[simp] theorem outcome_error (e : SyntaxError) :
    Parse.outcome (.error e : Parse α n) = .error e := rfl

@[simp] theorem outcome_ok (p : Parsed α n) :
    Parse.outcome (.ok p : Parse α n) = .ok (p.value, p.rest) := rfl

/-! ## Sequencing -/

theorem outcome_bind (step : Parse α m) (next : Parsed α m → Parse β n)
    (next' : α × List Token → Except SyntaxError (β × List Token))
    (h : ∀ p, (next p).outcome = next' (p.value, p.rest)) :
    Parse.outcome (step >>= next) = step.outcome >>= next' := by
  -- The bound of a step is a proof, so both sides run the same computation.
  cases step with
  | error e => rfl
  | ok p => exact h p

theorem outcome_weaken (step : Parse α m) (h : m ≤ n) :
    Parse.outcome (step >>= fun p => .ok (p.weaken h)) = step.outcome := by
  cases step <;> rfl

theorem outcome_value (step : Parse α m) (f : α → β) (h : Parsed α m → m ≤ n) :
    Parse.outcome (step >>= fun p => .ok ((p.withValue (f p.value)).weaken (h p)))
      = (do let (a, rest) ← step.outcome; .ok (f a, rest)) := by
  cases step <;> rfl

/-- A predicate read as an operand. -/
theorem outcome_map_filter (step : Parse Filter m) (h : m ≤ n) :
    Parse.outcome (step.map fun p => (p.withValue (Operand.filter p.value)).weaken h)
      = (do let (f, rest) ← step.outcome; .ok (.filter f, rest)) := by
  cases step <;> rfl

/-- A sequence succeeds exactly when both of its parts do. -/
theorem bind_eq_ok {ε : Type} {step : Except ε α} {next : α → Except ε β} {b : β} :
    step >>= next = .ok b ↔ ∃ a, step = .ok a ∧ next a = .ok b := by
  cases step <;> simp [bind, Except.bind]

/-- A step that has succeeded hands its value on. -/
theorem ok_bind {ε : Type} (a : α) (next : α → Except ε β) : Except.ok a >>= next = next a := rfl

theorem bind_of_eq_ok {ε : Type} {step : Except ε α} {a : α} (h : step = .ok a)
    (next : α → Except ε β) : step >>= next = next a := by
  rw [h]
  rfl

/-! ## Expressions -/

theorem outcome_parseSum (scope : Scope) (budget : Nat) (ts : List Token) :
    (parseSum scope budget ts).outcome = (do
      let (operand, rest) ← (parseOperand scope budget ts).outcome
      let (product, rest) ← (parseFactors scope budget operand rest).outcome
      (parseTerms scope budget product rest).outcome) := by
  rw [parseSum]
  refine outcome_bind _ _ _ ?_
  intro operand
  refine outcome_bind _ _ _ ?_
  intro product
  exact outcome_weaken _ _

theorem outcome_parseTerms (scope : Scope) (budget : Nat) (left : Expression) (ts : List Token) :
    (parseTerms scope budget left ts).outcome =
      match ts with
      | [] => .ok (left, [])
      | t :: rest =>
        match t.kind with
        | .arithmetic op =>
          if bindsTightly op then .ok (left, t :: rest)
          else do
            let (operand, rest) ← (parseOperand scope budget rest).outcome
            let (right, rest) ← (parseFactors scope budget operand rest).outcome
            (parseTerms scope budget (.arithmetic op left right) rest).outcome
        | _ => .ok (left, t :: rest) := by
  cases ts with
  | nil => rw [parseTerms]; rfl
  | cons t rest =>
    rw [parseTerms]
    dsimp only
    -- The equation splits on the kind alone, so the token itself can go.
    generalize t.kind = kind
    cases kind with
    | arithmetic op =>
      cases hop : bindsTightly op with
      | true => simp only [hop, if_true, outcome_ok]
      | false =>
        simp only [hop, Bool.false_eq_true, if_false]
        refine outcome_bind _ _ _ ?_
        intro operand
        refine outcome_bind _ _ _ ?_
        intro right
        exact outcome_weaken _ _
    | _ => rfl

theorem outcome_parseFactors (scope : Scope) (budget : Nat) (left : Expression)
    (ts : List Token) :
    (parseFactors scope budget left ts).outcome =
      match ts with
      | [] => .ok (left, [])
      | t :: rest =>
        match t.kind with
        | .arithmetic op =>
          if bindsTightly op then do
            let (right, rest) ← (parseOperand scope budget rest).outcome
            (parseFactors scope budget (.arithmetic op left right) rest).outcome
          else .ok (left, t :: rest)
        | _ => .ok (left, t :: rest) := by
  cases ts with
  | nil => rw [parseFactors]; rfl
  | cons t rest =>
    rw [parseFactors]
    dsimp only
    generalize t.kind = kind
    cases kind with
    | arithmetic op =>
      cases hop : bindsTightly op with
      | true =>
        simp only [hop, if_true]
        refine outcome_bind _ _ _ ?_
        intro right
        exact outcome_weaken _ _
      | false => simp only [hop, Bool.false_eq_true, if_false, outcome_ok]
    | _ => rfl

theorem outcome_parseOperand (scope : Scope) (budget : Nat) (ts : List Token) :
    (parseOperand scope budget ts).outcome =
      match ts with
      | [] => .error (unexpected scope .expression [])
      | t :: rest =>
        match t.kind with
        | .arithmetic .sub =>
          match budget with
          | 0 => .error (tooDeep scope rest)
          | budget + 1 => do
            let (operand, rest) ← (parseOperand scope budget rest).outcome
            .ok (negated operand, rest)
        | _ => (parsePrimary scope budget t rest).outcome := by
  cases ts with
  | nil => rw [parseOperand]; rfl
  | cons t rest =>
    rw [parseOperand.eq_def]
    dsimp only
    generalize t.kind = kind
    cases kind with
    | arithmetic op =>
      cases op with
      | sub =>
        cases budget with
        | zero => rfl
        | succ budget => exact outcome_value _ negated _
      | _ => rfl
    | _ => rfl

theorem outcome_parsePrimary (scope : Scope) (budget : Nat) (t : Token) (ts : List Token) :
    (parsePrimary scope budget t ts).outcome =
      match t.kind with
      | .number x => .ok (.literal (.number x), ts)
      | .text content => .ok (.literal (.text content), ts)
      | .keyword .TRUE => .ok (.literal (.bool true), ts)
      | .keyword .FALSE => .ok (.literal (.bool false), ts)
      | .keyword .NULL => .ok (.literal .null, ts)
      | .geometry source => do
        let literal ← geometryLiteral t source
        .ok (literal, ts)
      | .quotedName name => .ok (.attr name, ts)
      | .name name =>
        match ts with
        | [] => .ok (.attr name, [])
        | opened :: after =>
          if opened.isOpening then
            if Text.sameLetters name "geometry" then do
              let (arguments, rest) ← (parseArguments scope budget opened after).outcome
              if arguments.isEmpty then .ok (.defaultGeometry, rest)
              else .error (errorAt t (.invalidArity name .none arguments.length))
            else .error (notAValue t name)
          else .ok (.attr name, opened :: after)
      | .opening =>
        match budget with
        | 0 => .error (tooDeep scope ts)
        | budget + 1 => do
          let (inner, rest) ← (parseSum scope budget ts).outcome
          let (_, rest) ← (expectClosing scope t rest).outcome
          .ok (inner, rest)
      | _ => .error (unexpected scope .expression (t :: ts)) := by
  rw [parsePrimary.eq_def]
  dsimp only
  generalize t.kind = kind
  cases kind with
  | keyword word => cases word <;> rfl
  | geometry source =>
    dsimp only
    generalize geometryLiteral t source = literal
    cases literal <;> rfl
  | name name =>
    cases ts with
    | nil => rfl
    | cons opened after =>
      dsimp only
      split
      · split
        · refine outcome_bind _ _ _ ?_
          intro arguments
          dsimp only
          split <;> rfl
        · rfl
      · rfl
  | opening =>
    cases budget with
    | zero => rfl
    | succ budget =>
      refine outcome_bind _ _ _ ?_
      intro inner
      refine outcome_bind _ _ _ ?_
      intro closed
      rfl
  | _ => rfl

theorem outcome_parseItems (scope : Scope) (budget : Nat) (ts : List Token) :
    (parseItems scope budget ts).outcome =
      (match ts with
      | [] => .error (unexpected scope .expression [])
      | t :: rest => do
        let (value, after) ← (parseSum scope budget (t :: rest)).outcome
        match after with
        | [] => .ok ([(t, value)], [])
        | separator :: more =>
          if separator.isComma then do
            let (others, rest) ← (parseItems scope budget more).outcome
            .ok ((t, value) :: others, rest)
          else .ok ([(t, value)], separator :: more)) := by
  cases ts with
  | nil => rw [parseItems]; rfl
  | cons t rest =>
    rw [parseItems]
    refine outcome_bind _ _ _ ?_
    intro item
    obtain ⟨value, after, h⟩ := item
    cases after with
    | nil => rfl
    | cons separator more =>
      dsimp only
      split
      · exact outcome_value _ ((t, value) :: ·) _
      · rfl

theorem outcome_parseArguments (scope : Scope) (budget : Nat) (opened : Token)
    (ts : List Token) :
    (parseArguments scope budget opened ts).outcome =
      (match ts with
      | [] => .error (unexpected scope .expression [])
      | t :: rest =>
        if t.isClosing then .ok ([], rest)
        else do
          let (items, rest) ← (parseItems scope budget (t :: rest)).outcome
          let (_, rest) ← (expectClosing scope opened rest).outcome
          .ok (items, rest)) := by
  cases ts with
  | nil => rw [parseArguments]; rfl
  | cons t rest =>
    rw [parseArguments]
    dsimp only
    split
    · rfl
    · refine outcome_bind _ _ _ ?_
      intro items
      refine outcome_bind _ _ _ ?_
      intro closed
      rfl

/-! ## Predicates -/

theorem outcome_parseMembership (scope : Scope) (budget : Nat) (e : Expression) (negated : Bool)
    (ts : List Token) :
    (parseMembership scope budget e negated ts).outcome = (do
      let (opened, rest) ← (expect scope Token.isOpening .opening ts).outcome
      let (items, rest) ← (parseItems scope budget rest).outcome
      let (_, rest) ← (expectClosing scope opened rest).outcome
      .ok (.oneOf e (items.map Prod.snd) negated, rest)) := by
  rw [parseMembership]
  refine outcome_bind _ _ _ ?_
  intro opened
  refine outcome_bind _ _ _ ?_
  intro items
  refine outcome_bind _ _ _ ?_
  intro closed
  rfl

theorem outcome_parseRange (scope : Scope) (budget : Nat) (e : Expression) (negated : Bool)
    (ts : List Token) :
    (parseRange scope budget e negated ts).outcome = (do
      let (low, rest) ← (parseSum scope budget ts).outcome
      let (_, rest) ← (expect scope (·.isKeyword .AND) .andWord rest).outcome
      let (high, rest) ← (parseSum scope budget rest).outcome
      .ok (if negated then Filter.notBetween e low high else Filter.between e low high, rest)) := by
  rw [parseRange]
  refine outcome_bind _ _ _ ?_
  intro low
  refine outcome_bind _ _ _ ?_
  intro word
  exact outcome_value _ (fun high => if negated then Filter.notBetween e low.value high
    else Filter.between e low.value high) _

theorem outcome_parseNullTest (scope : Scope) (e : Expression) (start : Nat) (ts : List Token) :
    (parseNullTest scope e start ts).outcome = (do
      let turned := ts.head?.any (·.isKeyword .NOT)
      let (_, rest) ← (expect scope (·.isKeyword .NULL) .nullWord
        (if turned then ts.tail else ts)).outcome
      match e with
      | .attr name => .ok (.isNull name turned, rest)
      | _ => .error ⟨.nullTestOnExpression, start, none⟩) := by
  unfold parseNullTest
  split
  next turned after hAfter heq =>
  have hTurned : turned = ts.head?.any (·.isKeyword .NOT)
      ∧ after = if ts.head?.any (·.isKeyword .NOT) then ts.tail else ts := by
    cases ts with
    | nil =>
      simp only [Parsed.mk.injEq] at heq
      exact ⟨heq.1.symm, heq.2.symm⟩
    | cons t rest =>
      cases hNot : t.isKeyword .NOT <;>
      · simp only [hNot, if_true, Bool.false_eq_true, if_false, Parsed.mk.injEq] at heq
        simp [hNot, ← heq.1, ← heq.2]
  obtain ⟨rfl, rfl⟩ := hTurned
  refine outcome_bind _ _ _ ?_
  intro word
  cases e <;> rfl

theorem outcome_parseComparison (scope : Scope) (budget : Nat) (t : Token) (ts : List Token) :
    (parseComparison scope budget (t :: ts)).outcome = (do
      let (left, rest) ← (parseSum scope budget (t :: ts)).outcome
      (parseCondition scope budget left t.offset rest).outcome) := by
  rw [parseComparison]
  refine outcome_bind _ _ _ ?_
  intro left
  exact outcome_weaken _ _

theorem outcome_parseIdList (scope : Scope) (budget : Nat) (ts : List Token) :
    (parseIdList scope budget ts).outcome =
      (match ts with
      | [] => .error (unexpected scope .expression [])
      | t :: rest => do
        let (item, after) ← (parseOperand scope budget (t :: rest)).outcome
        match item, after with
        | .literal value, [] => .ok ([value], [])
        | .literal value, separator :: more =>
          if separator.isComma then do
            let (others, rest) ← (parseIdList scope budget more).outcome
            .ok (value :: others, rest)
          else .ok ([value], separator :: more)
        | _, _ => .error (unexpected scope .featureId (t :: rest))) := by
  cases ts with
  | nil => rw [parseIdList]; rfl
  | cons t rest =>
    rw [parseIdList]
    refine outcome_bind _ _ _ ?_
    intro item
    obtain ⟨value, after, h⟩ := item
    cases value with
    | literal value =>
      cases after with
      | nil => rfl
      | cons separator more =>
        dsimp only
        split
        · exact outcome_value _ (value :: ·) _
        · rfl
    | _ => rfl

theorem outcome_parseIds (scope : Scope) (budget : Nat) (ts : List Token) :
    (parseIds scope budget ts).outcome = (do
      let (opened, rest) ← (expect scope Token.isOpening .opening ts).outcome
      let (values, rest) ← (parseIdList scope budget rest).outcome
      let (_, rest) ← (expectClosing scope opened rest).outcome
      .ok (.ids values, rest)) := by
  rw [parseIds]
  refine outcome_bind _ _ _ ?_
  intro opened
  refine outcome_bind _ _ _ ?_
  intro values
  refine outcome_bind _ _ _ ?_
  intro closed
  rfl

theorem outcome_parseSpatial (scope : Scope) (budget : Nat) (op : SpatialOp) (name : Token)
    (ts : List Token) :
    (parseSpatial scope budget op name ts).outcome = (do
      let (opened, rest) ← (expect scope Token.isOpening .opening ts).outcome
      let (arguments, rest) ← (parseArguments scope budget opened rest).outcome
      let f ← spatialFilter op name arguments
      .ok (f, rest)) := by
  rw [parseSpatial]
  refine outcome_bind _ _ _ ?_
  intro opened
  refine outcome_bind _ _ _ ?_
  intro arguments
  dsimp only
  generalize spatialFilter op name arguments.value = f
  cases f <;> rfl

theorem outcome_parseCondition (scope : Scope) (budget : Nat) (e : Expression) (start : Nat)
    (ts : List Token) :
    (parseCondition scope budget e start ts).outcome =
      (match ts with
      | [] => .ok (.expression e, [])
      | t :: rest =>
        match t.kind with
        | .compare op => do
          let (right, rest) ← (parseSum scope budget rest).outcome
          .ok (.filter (.comparison op e right), rest)
        | .keyword .IN => do
          let (f, rest) ← (parseMembership scope budget e false rest).outcome
          .ok (.filter f, rest)
        | .keyword .LIKE => do
          let (f, rest) ← (parsePattern scope e false rest).outcome
          .ok (.filter f, rest)
        | .keyword .BETWEEN => do
          let (f, rest) ← (parseRange scope budget e false rest).outcome
          .ok (.filter f, rest)
        | .keyword .IS => do
          let (f, rest) ← (parseNullTest scope e start rest).outcome
          .ok (.filter f, rest)
        | .keyword .NOT =>
          match rest with
          | [] => .error (unexpected scope .negatable [])
          | t' :: rest' =>
            match t'.kind with
            | .keyword .IN => do
              let (f, rest) ← (parseMembership scope budget e true rest').outcome
              .ok (.filter f, rest)
            | .keyword .LIKE => do
              let (f, rest) ← (parsePattern scope e true rest').outcome
              .ok (.filter f, rest)
            | .keyword .BETWEEN => do
              let (f, rest) ← (parseRange scope budget e true rest').outcome
              .ok (.filter f, rest)
            | _ => .error (unexpected scope .negatable (t' :: rest'))
        | _ => .ok (.expression e, t :: rest)) := by
  cases ts with
  | nil => rfl
  | cons t rest =>
    rw [parseCondition.eq_def]
    dsimp only
    generalize t.kind = kind
    cases kind with
    | compare op => exact outcome_value _ (fun right => Operand.filter (.comparison op e right)) _
    | keyword word =>
      cases word with
      | IN | LIKE | BETWEEN | IS => exact outcome_map_filter _ _
      | NOT =>
        cases rest with
        | nil => rfl
        | cons t' rest' =>
          dsimp only
          generalize t'.kind = kind'
          cases kind' with
          | keyword word' =>
            cases word' with
            | IN | LIKE | BETWEEN => exact outcome_map_filter _ _
            | _ => rfl
          | _ => rfl
      | _ => rfl
    | _ => rfl

/-! ## Filters -/

theorem outcome_parseOr (scope : Scope) (budget : Nat) (ts : List Token) :
    (parseOr scope budget ts).outcome = (do
      let (operand, rest) ← (parseAnd scope budget ts).outcome
      if rest.head?.any (·.isKeyword .OR) then do
        let f ← requireFilter scope operand rest
        let (others, rest) ← (parseOrs scope budget rest).outcome
        .ok (.filter (.anyOf (f :: others)), rest)
      else .ok (operand, rest)) := by
  rw [parseOr]
  refine outcome_bind _ _ _ ?_
  intro left
  obtain ⟨operand, rest, h⟩ := left
  cases rest with
  | nil => rfl
  | cons t rest =>
    cases hOr : t.isKeyword .OR with
    | true =>
      simp only [hOr, List.head?_cons, Option.any_some, if_true]
      generalize requireFilter scope operand (t :: rest) = f
      cases f with
      | error e => rfl
      | ok f => exact outcome_value _ (fun others => Operand.filter (.anyOf (f :: others))) _
    | false =>
      simp only [hOr, List.head?_cons, Option.any_some, Bool.false_eq_true, if_false, outcome_ok]

theorem outcome_parseOrs (scope : Scope) (budget : Nat) (ts : List Token) :
    (parseOrs scope budget ts).outcome =
      (match ts with
      | [] => .ok ([], [])
      | t :: rest =>
        if t.isKeyword .OR then do
          let (right, rest) ← (parseAnd scope budget rest).outcome
          let f ← requireFilter scope right rest
          let (others, rest) ← (parseOrs scope budget rest).outcome
          .ok (f :: others, rest)
        else .ok ([], t :: rest)) := by
  cases ts with
  | nil => rw [parseOrs]; rfl
  | cons t rest =>
    rw [parseOrs]
    dsimp only
    split
    · refine outcome_bind _ _ _ ?_
      intro right
      dsimp only
      generalize requireFilter scope right.value right.rest = f
      cases f with
      | error e => rfl
      | ok f => exact outcome_value _ (f :: ·) _
    · rfl

theorem outcome_parseAnd (scope : Scope) (budget : Nat) (ts : List Token) :
    (parseAnd scope budget ts).outcome = (do
      let (operand, rest) ← (parseNot scope budget ts).outcome
      if rest.head?.any (·.isKeyword .AND) then do
        let f ← requireFilter scope operand rest
        let (others, rest) ← (parseAnds scope budget rest).outcome
        .ok (.filter (.allOf (f :: others)), rest)
      else .ok (operand, rest)) := by
  rw [parseAnd]
  refine outcome_bind _ _ _ ?_
  intro left
  obtain ⟨operand, rest, h⟩ := left
  cases rest with
  | nil => rfl
  | cons t rest =>
    cases hAnd : t.isKeyword .AND with
    | true =>
      simp only [hAnd, List.head?_cons, Option.any_some, if_true]
      generalize requireFilter scope operand (t :: rest) = f
      cases f with
      | error e => rfl
      | ok f => exact outcome_value _ (fun others => Operand.filter (.allOf (f :: others))) _
    | false =>
      simp only [hAnd, List.head?_cons, Option.any_some, Bool.false_eq_true, if_false, outcome_ok]

theorem outcome_parseAnds (scope : Scope) (budget : Nat) (ts : List Token) :
    (parseAnds scope budget ts).outcome =
      (match ts with
      | [] => .ok ([], [])
      | t :: rest =>
        if t.isKeyword .AND then do
          let (right, rest) ← (parseNot scope budget rest).outcome
          let f ← requireFilter scope right rest
          let (others, rest) ← (parseAnds scope budget rest).outcome
          .ok (f :: others, rest)
        else .ok ([], t :: rest)) := by
  cases ts with
  | nil => rw [parseAnds]; rfl
  | cons t rest =>
    rw [parseAnds]
    dsimp only
    split
    · refine outcome_bind _ _ _ ?_
      intro right
      dsimp only
      generalize requireFilter scope right.value right.rest = f
      cases f with
      | error e => rfl
      | ok f => exact outcome_value _ (f :: ·) _
    · rfl

theorem outcome_parseNot (scope : Scope) (budget : Nat) (ts : List Token) :
    (parseNot scope budget ts).outcome =
      (match ts with
      | [] => .error (unexpected scope .expression [])
      | t :: rest =>
        if t.isKeyword .NOT then
          match budget with
          | 0 => .error (tooDeep scope rest)
          | budget + 1 => do
            let (operand, rest) ← (parseNot scope budget rest).outcome
            let f ← requireFilter scope operand rest
            .ok (.filter (.negate f), rest)
        else (parsePredicate scope budget t rest).outcome) := by
  cases ts with
  | nil => rw [parseNot]; rfl
  | cons t rest =>
    rw [parseNot.eq_def]
    dsimp only
    split
    · cases budget with
      | zero => rfl
      | succ budget =>
        refine outcome_bind _ _ _ ?_
        intro operand
        dsimp only
        generalize requireFilter scope operand.value operand.rest = f
        cases f <;> rfl
    · rfl

theorem outcome_parsePredicate (scope : Scope) (budget : Nat) (t : Token) (ts : List Token) :
    (parsePredicate scope budget t ts).outcome =
      (match t.kind with
      | .keyword .INCLUDE => .ok (.filter .everything, ts)
      | .keyword .EXCLUDE => .ok (.filter .nothing, ts)
      | .keyword .IN => do
        let (f, rest) ← (parseIds scope budget ts).outcome
        .ok (.filter f, rest)
      | .opening =>
        match budget with
        | 0 => .error (tooDeep scope ts)
        | inner + 1 => do
          let (group, rest) ← (parseOr scope inner ts).outcome
          let (_, rest) ← (expectClosing scope t rest).outcome
          match group with
          | .filter f =>
            if rest.head?.any Token.continuesExpression then
              .error (unexpected scope .connective rest)
            else .ok (.filter f, rest)
          | .expression e => do
            let (product, rest) ← (parseFactors scope budget e rest).outcome
            let (sum, rest) ← (parseTerms scope budget product rest).outcome
            (parseCondition scope budget sum t.offset rest).outcome
      | _ =>
        match spatialCall? t ts with
        | some op => do
          let (f, rest) ← (parseSpatial scope budget op t ts).outcome
          .ok (.filter f, rest)
        | none => (parseComparison scope budget (t :: ts)).outcome) := by
  rw [parsePredicate.eq_def]
  dsimp only
  have hCall : Parse.outcome
      (match spatialCall? t ts with
      | some op => do
        let f ← parseSpatial scope budget op t ts
        .ok ((f.withValue (Operand.filter f.value)).weaken (Nat.le_succ _))
      | none => parseComparison scope budget (t :: ts))
      = (match spatialCall? t ts with
      | some op => do
        let (f, rest) ← (parseSpatial scope budget op t ts).outcome
        .ok (.filter f, rest)
      | none => (parseComparison scope budget (t :: ts)).outcome) := by
    cases spatialCall? t ts with
    | some op => exact outcome_value _ Operand.filter _
    | none => rfl
  generalize t.kind = kind
  cases kind with
  | keyword word =>
    cases word with
    | INCLUDE | EXCLUDE => rfl
    | IN => exact outcome_value _ Operand.filter _
    | _ => exact hCall
  | opening =>
    cases budget with
    | zero => rfl
    | succ inner =>
      refine outcome_bind _ _ _ ?_
      intro group
      refine outcome_bind _ _ _ ?_
      intro closed
      obtain ⟨operand, rest, h⟩ := group
      cases operand with
      | filter f =>
        dsimp only
        split <;> rfl
      | expression e =>
        refine outcome_bind _ _ _ ?_
        intro product
        refine outcome_bind _ _ _ ?_
        intro sum
        exact outcome_weaken _ _
  | _ => exact hCall

/-! ## Whole texts -/

theorem parse_of_tokens_error {source : String} {e : SyntaxError} (h : tokens source = .error e)
    (m : Nat) : parse source m = .error e := by
  unfold parse
  rw [h]
  rfl

theorem parse_of_tokens_nil {source : String} (h : tokens source = .ok []) (m : Nat) :
    parse source m = .error ⟨.emptyInput, 0, none⟩ := by
  unfold parse
  rw [h]
  rfl

/-- The end of a text that was read as an operand with tokens after it. -/
def endText (scope : Scope) (operand : Operand) (rest : List Token) :
    Except SyntaxError Filter := do
  let f ← requireFilter scope operand rest
  match rest with
  | [] => .ok f
  | t :: rest =>
    if t.isClosing then .error (errorAt t .unbalancedParenthesis)
    else .error (unexpected scope .ending (t :: rest))

theorem parse_eq_outcome {source : String} {t : Token} {ts : List Token}
    (h : tokens source = .ok (t :: ts)) (m : Nat) :
    parse source m = (do
      let (operand, rest) ← (parseOr ⟨source.utf8ByteSize, m⟩ m (t :: ts)).outcome
      endText ⟨source.utf8ByteSize, m⟩ operand rest) := by
  unfold parse
  rw [h, ok_bind]
  dsimp only
  cases parseOr ⟨source.utf8ByteSize, m⟩ m (t :: ts) with
  | error e => rfl
  | ok p => rfl

end GeoFilter.Cql
