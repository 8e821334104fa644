import GeoFilter.Cql.Lexer
import GeoFilter.Cql.SyntaxError
import GeoFilter.Cql.Token
import GeoFilter.Filter.Basic
import GeoFilter.SpatialOp

set_option autoImplicit false

/-! # Parsing CQL

Expressions are read first, then the predicates that compare them, then the connectives. -/

namespace GeoFilter.Cql

/-! ## Parser steps

A step reads tokens from the front of a list and leaves the rest, which it shows to be shorter
than a bound; that is what makes the recursion of the parser end. A failed step names the token
that it failed at, or the end of the text. -/

/-- What stays the same during one parse: the length of the text in bytes, and the deepest
    nesting that is accepted. -/
structure Scope where
  stop : Nat
  limit : Nat

/-- What a step read, with fewer than `n` tokens left. -/
structure Parsed (α : Type) (n : Nat) where
  value : α
  rest : List Token
  shorter : rest.length < n

/-- The outcome of a step. -/
abbrev Parse (α : Type) (n : Nat) := Except SyntaxError (Parsed α n)

namespace Parsed

variable {α β : Type} {m n : Nat}

/-- The same step under a greater bound. -/
def weaken (p : Parsed α m) (h : m ≤ n) : Parsed α n :=
  ⟨p.value, p.rest, Nat.lt_of_lt_of_le p.shorter h⟩

/-- Another value read from the same tokens. -/
def withValue (p : Parsed α n) (b : β) : Parsed β n := ⟨b, p.rest, p.shorter⟩

theorem length_le_cons (t : Token) (rest : List Token) : rest.length ≤ (t :: rest).length :=
  Nat.le_succ rest.length

end Parsed

/-! ### Failing -/

/-- An error at a token. -/
def errorAt (t : Token) (cause : Cause) : SyntaxError := ⟨cause, t.offset, some t.lexeme⟩

/-- An error at the first of the tokens left, or at the end of the text. -/
def errorHere (scope : Scope) (cause : Cause) : List Token → SyntaxError
  | [] => ⟨cause, scope.stop, none⟩
  | t :: _ => errorAt t cause

/-- The first of the tokens left, or the end of the text, is not what was expected. -/
def unexpected (scope : Scope) (expected : Expectation) : List Token → SyntaxError
  | [] => ⟨.unexpectedEnd expected, scope.stop, none⟩
  | t :: _ => errorAt t (.unexpectedToken expected t.lexeme)

/-- Nesting would go past the limit. -/
def tooDeep (scope : Scope) (ts : List Token) : SyntaxError :=
  errorHere scope (.depthExceeded scope.limit) ts

/-! ### Single tokens -/

/-- Whether a token is an opening parenthesis. -/
def Token.isOpening (t : Token) : Bool :=
  match t.kind with
  | .opening => true
  | _ => false

/-- Whether a token is a closing parenthesis. -/
def Token.isClosing (t : Token) : Bool :=
  match t.kind with
  | .closing => true
  | _ => false

/-- Whether a token is a comma. -/
def Token.isComma (t : Token) : Bool :=
  match t.kind with
  | .comma => true
  | _ => false

/-- Whether a token is a certain keyword. -/
def Token.isKeyword (t : Token) (word : Keyword) : Bool :=
  match t.kind with
  | .keyword k => k == word
  | _ => false

/-- Reads a token that passes a test. -/
def expect (scope : Scope) (test : Token → Bool) (expected : Expectation) :
    (ts : List Token) → Parse Token ts.length
  | [] => .error (unexpected scope expected [])
  | t :: rest =>
    if test t then .ok ⟨t, rest, Nat.lt_succ_self _⟩
    else .error (unexpected scope expected (t :: rest))

/-- Reads the parenthesis that closes `opened`. At the end of the text the opening parenthesis
    is to blame. -/
def expectClosing (scope : Scope) (opened : Token) : (ts : List Token) → Parse Token ts.length
  | [] => .error (errorAt opened .unbalancedParenthesis)
  | ts => expect scope Token.isClosing .closing ts

/-! ## Reading expressions

From the loosest to the tightest binding: sums and differences, products and quotients, a minus
sign, and single operands; operators of one level group to the left. A minus sign before a
number is part of the number; before anything else it multiplies by minus one. Each pair of
parentheses and each minus sign takes one level of nesting from the budget. -/

/-- The expression after a minus sign. -/
def negated : Expression → Expression
  | .literal (.number x) => .literal (.number (-x))
  | e => .arithmetic .mul (.literal (.number (-1))) e

/-- The value that a geometry literal stands for. Its text is read in upper case. -/
def geometryLiteral (t : Token) (source : String) : Except SyntaxError Expression :=
  match Geometry.ofWkt (Text.upper source) with
  | .ok g => .ok (.literal (.geometry g))
  | .error e => .error (errorAt t (.invalidGeometry e))

/-- Why a name other than `geometry` cannot be called for a value: it is a predicate, or nothing
    that is known. -/
def notAValue (t : Token) (name : String) : SyntaxError :=
  match SpatialOp.ofName? name with
  | some _ => errorAt t (.unexpectedToken .expression name)
  | none => errorAt t (.unknownFunction name)

/-- Whether an operator binds like a product. -/
def bindsTightly : ArithmeticOp → Bool
  | .mul | .div => true
  | .add | .sub => false

mutual

/-- Reads a sum. -/
def parseSum (scope : Scope) (budget : Nat) (ts : List Token) : Parse Expression ts.length := do
  let operand ← parseOperand scope budget ts
  have hOperand := operand.shorter
  let product ← parseFactors scope budget operand.value operand.rest
  have hProduct := product.shorter
  let sum ← parseTerms scope budget product.value product.rest
  .ok (sum.weaken (by omega))
  termination_by ts.length * 4 + 2
  decreasing_by all_goals omega

/-- Reads the further terms of a sum that starts with `left`. -/
def parseTerms (scope : Scope) (budget : Nat) (left : Expression) (ts : List Token) :
    Parse Expression (ts.length + 1) :=
  match ts with
  | [] => .ok ⟨left, [], Nat.lt_succ_self _⟩
  | t :: rest =>
    match t.kind with
    | .arithmetic op =>
      if bindsTightly op then .ok ⟨left, t :: rest, Nat.lt_succ_self _⟩
      else do
        let operand ← parseOperand scope budget rest
        have hOperand := operand.shorter
        let right ← parseFactors scope budget operand.value operand.rest
        have hRight := right.shorter
        let sum ← parseTerms scope budget (.arithmetic op left right.value) right.rest
        .ok (sum.weaken (by grind))
    | _ => .ok ⟨left, t :: rest, Nat.lt_succ_self _⟩
  termination_by ts.length * 4
  decreasing_by all_goals grind

/-- Reads the further factors of a product that starts with `left`. -/
def parseFactors (scope : Scope) (budget : Nat) (left : Expression) (ts : List Token) :
    Parse Expression (ts.length + 1) :=
  match ts with
  | [] => .ok ⟨left, [], Nat.lt_succ_self _⟩
  | t :: rest =>
    match t.kind with
    | .arithmetic op =>
      if bindsTightly op then do
        let right ← parseOperand scope budget rest
        have hRight := right.shorter
        let product ← parseFactors scope budget (.arithmetic op left right.value) right.rest
        .ok (product.weaken (by grind))
      else .ok ⟨left, t :: rest, Nat.lt_succ_self _⟩
    | _ => .ok ⟨left, t :: rest, Nat.lt_succ_self _⟩
  termination_by ts.length * 4
  decreasing_by all_goals grind

/-- Reads an operand with any minus signs before it. -/
def parseOperand (scope : Scope) (budget : Nat) (ts : List Token) :
    Parse Expression ts.length :=
  match ts with
  | [] => .error (unexpected scope .expression [])
  | t :: rest =>
    match t.kind with
    | .arithmetic .sub =>
      match budget with
      | 0 => .error (tooDeep scope rest)
      | budget + 1 => do
        let operand ← parseOperand scope budget rest
        .ok ((operand.withValue (negated operand.value)).weaken (Parsed.length_le_cons t rest))
    | _ => parsePrimary scope budget t rest
  termination_by ts.length * 4 + 1
  decreasing_by all_goals grind

/-- Reads an operand that starts with the token `t`. -/
def parsePrimary (scope : Scope) (budget : Nat) (t : Token) (rest : List Token) :
    Parse Expression (rest.length + 1) :=
  match t.kind with
  | .number x => .ok ⟨.literal (.number x), rest, Nat.lt_succ_self _⟩
  | .text content => .ok ⟨.literal (.text content), rest, Nat.lt_succ_self _⟩
  | .keyword .TRUE => .ok ⟨.literal (.bool true), rest, Nat.lt_succ_self _⟩
  | .keyword .FALSE => .ok ⟨.literal (.bool false), rest, Nat.lt_succ_self _⟩
  | .keyword .NULL => .ok ⟨.literal .null, rest, Nat.lt_succ_self _⟩
  | .geometry source => do
    let literal ← geometryLiteral t source
    .ok ⟨literal, rest, Nat.lt_succ_self _⟩
  | .quotedName name => .ok ⟨.attr name, rest, Nat.lt_succ_self _⟩
  | .name name =>
    match rest with
    | [] => .ok ⟨.attr name, [], Nat.lt_succ_self _⟩
    | opened :: after =>
      if opened.isOpening then
        if Text.sameLetters name "geometry" then do
          let arguments ← parseArguments scope budget opened after
          if arguments.value.isEmpty then
            .ok ((arguments.withValue .defaultGeometry).weaken (by grind))
          else .error (errorAt t (.invalidArity name .none arguments.value.length))
        else .error (notAValue t name)
      else .ok ⟨.attr name, opened :: after, Nat.lt_succ_self _⟩
  | .opening =>
    match budget with
    | 0 => .error (tooDeep scope rest)
    | budget + 1 => do
      let inner ← parseSum scope budget rest
      have hInner := inner.shorter
      let closed ← expectClosing scope t inner.rest
      .ok ((closed.withValue inner.value).weaken (by omega))
  | _ => .error (unexpected scope .expression (t :: rest))
  termination_by (rest.length + 1) * 4
  decreasing_by all_goals grind

/-- Reads the arguments of a function after the parenthesis `opened`, each one with its first
    token, and the parenthesis that closes them. -/
def parseArguments (scope : Scope) (budget : Nat) (opened : Token) (ts : List Token) :
    Parse (List (Token × Expression)) ts.length :=
  match ts with
  | [] => .error (unexpected scope .expression [])
  | t :: rest =>
    if t.isClosing then .ok ⟨[], rest, Nat.lt_succ_self _⟩
    else do
      let items ← parseItems scope budget (t :: rest)
      have hItems := items.shorter
      let closed ← expectClosing scope opened items.rest
      .ok ((closed.withValue items.value).weaken (by omega))
  termination_by ts.length * 4 + 4
  decreasing_by all_goals grind

/-- Reads a list of expressions separated by commas, each one with its first token. -/
def parseItems (scope : Scope) (budget : Nat) (ts : List Token) :
    Parse (List (Token × Expression)) ts.length :=
  match ts with
  | [] => .error (unexpected scope .expression [])
  | t :: rest => do
    let item ← parseSum scope budget (t :: rest)
    match item with
    | ⟨value, [], h⟩ => .ok ⟨[(t, value)], [], h⟩
    | ⟨value, separator :: after, h⟩ =>
      if separator.isComma then do
        let others ← parseItems scope budget after
        .ok ((others.withValue ((t, value) :: others.value)).weaken (by grind))
      else .ok ⟨[(t, value)], separator :: after, h⟩
  termination_by ts.length * 4 + 3
  decreasing_by all_goals grind

end

/-! ## Reading predicates

What can follow a complete expression, the predicates that start with a word of their own, and
the errors that they give. None of these contains another filter. -/

/-- What stands where a predicate was looked for: a filter, or an expression that something must
    follow to make it one. A parenthesis may open either. -/
inductive Operand where
  | filter (f : Filter)
  | expression (e : Expression)

/-- Membership of a value in a list in parentheses. -/
def parseMembership (scope : Scope) (budget : Nat) (e : Expression) (negated : Bool)
    (ts : List Token) : Parse Filter ts.length := do
  let opened ← expect scope Token.isOpening .opening ts
  have hOpened := opened.shorter
  let items ← parseItems scope budget opened.rest
  have hItems := items.shorter
  let closed ← expectClosing scope opened.value items.rest
  .ok ((closed.withValue (.oneOf e (items.value.map Prod.snd) negated)).weaken (by omega))

/-- A pattern in quotes. -/
def parsePattern (scope : Scope) (e : Expression) (negated : Bool) :
    (ts : List Token) → Parse Filter ts.length
  | [] => .error (unexpected scope .likePattern [])
  | t :: rest =>
    match t.kind with
    | .text pattern =>
      match Filter.matching e pattern false negated with
      | .ok f => .ok ⟨f, rest, Nat.lt_succ_self _⟩
      | .error reason => .error (errorAt t (.invalidPattern reason))
    | _ => .error (unexpected scope .likePattern (t :: rest))

/-- Two bounds with AND between them. -/
def parseRange (scope : Scope) (budget : Nat) (e : Expression) (negated : Bool)
    (ts : List Token) : Parse Filter ts.length := do
  let low ← parseSum scope budget ts
  have hLow := low.shorter
  let word ← expect scope (·.isKeyword .AND) .andWord low.rest
  have hWord := word.shorter
  let high ← parseSum scope budget word.rest
  let f := if negated then Filter.notBetween e low.value high.value
    else Filter.between e low.value high.value
  .ok ((high.withValue f).weaken (by omega))

/-- The end of a test for null, which only an attribute can have. -/
def parseNullTest (scope : Scope) (e : Expression) (start : Nat) (ts : List Token) :
    Parse Filter ts.length := do
  let ⟨negated, after, hAfter⟩ : Parsed Bool (ts.length + 1) :=
    match ts with
    | [] => ⟨false, [], Nat.lt_succ_self _⟩
    | t :: rest =>
      if t.isKeyword .NOT then ⟨true, rest, Nat.lt_succ_of_lt (Nat.lt_succ_self _)⟩
      else ⟨false, t :: rest, Nat.lt_succ_self _⟩
  let word ← expect scope (·.isKeyword .NULL) .nullWord after
  match e with
  | .attr name => .ok ((word.withValue (.isNull name negated)).weaken (by omega))
  | _ => .error ⟨.nullTestOnExpression, start, none⟩

/-- What follows a complete expression that started at byte `start`: an operator and what it
    needs, or nothing. -/
def parseCondition (scope : Scope) (budget : Nat) (e : Expression) (start : Nat) :
    (ts : List Token) → Parse Operand (ts.length + 1)
  | [] => .ok ⟨.expression e, [], Nat.lt_succ_self _⟩
  | t :: rest =>
    let complete (step : Parse Filter rest.length) : Parse Operand (rest.length + 1 + 1) :=
      step.map fun p => (p.withValue (.filter p.value)).weaken (by omega)
    match t.kind with
    | .compare op => do
      let right ← parseSum scope budget rest
      .ok ((right.withValue (.filter (.comparison op e right.value))).weaken (by grind))
    | .keyword .IN => complete (parseMembership scope budget e false rest)
    | .keyword .LIKE => complete (parsePattern scope e false rest)
    | .keyword .BETWEEN => complete (parseRange scope budget e false rest)
    | .keyword .IS => complete (parseNullTest scope e start rest)
    | .keyword .NOT =>
      match rest with
      | [] => .error (unexpected scope .negatable [])
      | t' :: rest' =>
        let completeNegated (step : Parse Filter rest'.length) :
            Parse Operand (rest'.length + 1 + 1 + 1) :=
          step.map fun p => (p.withValue (.filter p.value)).weaken (by omega)
        match t'.kind with
        | .keyword .IN => completeNegated (parseMembership scope budget e true rest')
        | .keyword .LIKE => completeNegated (parsePattern scope e true rest')
        | .keyword .BETWEEN => completeNegated (parseRange scope budget e true rest')
        | _ => .error (unexpected scope .negatable (t' :: rest'))
    | _ => .ok ⟨.expression e, t :: rest, Nat.lt_succ_self _⟩

/-- A predicate that starts with an expression. -/
def parseComparison (scope : Scope) (budget : Nat) (ts : List Token) :
    Parse Operand ts.length := do
  let start := match ts with
    | [] => scope.stop
    | t :: _ => t.offset
  let left ← parseSum scope budget ts
  have hLeft := left.shorter
  let operand ← parseCondition scope budget left.value start left.rest
  .ok (operand.weaken (by omega))

/-! ### Identifiers -/

/-- The literals of a list of identifiers. -/
def parseIdList (scope : Scope) (budget : Nat) (ts : List Token) :
    Parse (List Value) ts.length :=
  match ts with
  | [] => .error (unexpected scope .expression [])
  | t :: rest => do
    let item ← parseOperand scope budget (t :: rest)
    match item with
    | ⟨.literal value, [], h⟩ => .ok ⟨[value], [], h⟩
    | ⟨.literal value, separator :: after, h⟩ =>
      if separator.isComma then do
        let others ← parseIdList scope budget after
        .ok ((others.withValue (value :: others.value)).weaken (by grind))
      else .ok ⟨[value], separator :: after, h⟩
    | _ => .error (unexpected scope .featureId (t :: rest))
  termination_by ts.length
  decreasing_by all_goals grind

/-- A choice of records by identifier, after its word. -/
def parseIds (scope : Scope) (budget : Nat) (ts : List Token) : Parse Filter ts.length := do
  let opened ← expect scope Token.isOpening .opening ts
  have hOpened := opened.shorter
  let values ← parseIdList scope budget opened.rest
  have hValues := values.shorter
  let closed ← expectClosing scope opened.value values.rest
  .ok ((closed.withValue (.ids values.value)).weaken (by omega))

/-! ### Spatial predicates -/

/-- The number that a bound of a box is. -/
def coordinate (argument : Token × Expression) : Except SyntaxError Float :=
  match argument.2 with
  | .literal (.number x) => .ok x
  | _ => .error (errorAt argument.1 (.unexpectedToken .coordinate argument.1.lexeme))

/-- The numbers of arguments that a spatial predicate takes. -/
def arityOf : SpatialOp → Arity
  | .bbox => .twoOrFive
  | _ => .two

/-- The spatial predicate with a name and arguments. A box is given by a geometry, or by two
    opposite corners. -/
def spatialFilter (op : SpatialOp) (name : Token) (arguments : List (Token × Expression)) :
    Except SyntaxError Filter :=
  match op, arguments with
  | op, [left, right] => .ok (.spatial op left.2 right.2)
  | .bbox, [subject, x₁, y₁, x₂, y₂] => do
    let x₁ ← coordinate x₁
    let y₁ ← coordinate y₁
    let x₂ ← coordinate x₂
    let y₂ ← coordinate y₂
    .ok (.inBox subject.2 ⟨x₁, y₁⟩ ⟨x₂, y₂⟩)
  | op, arguments =>
    .error (errorAt name (.invalidArity op.name (arityOf op) arguments.length))

/-- A spatial predicate after its name: its arguments in parentheses. -/
def parseSpatial (scope : Scope) (budget : Nat) (op : SpatialOp) (name : Token)
    (ts : List Token) : Parse Filter ts.length := do
  let opened ← expect scope Token.isOpening .opening ts
  have hOpened := opened.shorter
  let arguments ← parseArguments scope budget opened.value opened.rest
  let f ← spatialFilter op name arguments.value
  .ok ((arguments.withValue f).weaken (by omega))

/-! ## Reading filters

OR binds looser than AND, and AND looser than NOT. A parenthesis at the start of a predicate
opens a filter or an expression; what stands inside decides. Each such pair of parentheses and
each NOT takes one level of nesting from the budget. -/

/-- An operand where a filter is needed, given the tokens after it. -/
def requireFilter (scope : Scope) (operand : Operand) (after : List Token) :
    Except SyntaxError Filter :=
  match operand with
  | .filter f => .ok f
  | .expression _ => .error (unexpected scope .comparisonOperator after)

/-- Whether a token could only go on with an expression. -/
def Token.continuesExpression (t : Token) : Bool :=
  match t.kind with
  | .arithmetic _ | .compare _ => true
  | .keyword .IN | .keyword .LIKE | .keyword .IS | .keyword .BETWEEN => true
  | _ => false

/-- The spatial predicate that a name and a parenthesis start. -/
def spatialCall? (t : Token) (rest : List Token) : Option SpatialOp :=
  match t.kind, rest with
  | .name text, opened :: _ => if opened.isOpening then SpatialOp.ofName? text else none
  | _, _ => none

mutual

/-- Reads a disjunction. -/
def parseOr (scope : Scope) (budget : Nat) (ts : List Token) : Parse Operand ts.length := do
  let left ← parseAnd scope budget ts
  match left with
  | ⟨operand, [], h⟩ => .ok ⟨operand, [], h⟩
  | ⟨operand, t :: rest, h⟩ =>
    if t.isKeyword .OR then do
      let f ← requireFilter scope operand (t :: rest)
      let others ← parseOrs scope budget (t :: rest)
      .ok ((others.withValue (.filter (.anyOf (f :: others.value)))).weaken (by grind))
    else .ok ⟨operand, t :: rest, h⟩
  termination_by ts.length * 4 + 3
  decreasing_by all_goals grind

/-- Reads the further operands of a disjunction, each one after its OR. -/
def parseOrs (scope : Scope) (budget : Nat) (ts : List Token) :
    Parse (List Filter) (ts.length + 1) :=
  match ts with
  | [] => .ok ⟨[], [], Nat.lt_succ_self _⟩
  | t :: rest =>
    if t.isKeyword .OR then do
      let right ← parseAnd scope budget rest
      have hRight := right.shorter
      let f ← requireFilter scope right.value right.rest
      let others ← parseOrs scope budget right.rest
      .ok ((others.withValue (f :: others.value)).weaken (by grind))
    else .ok ⟨[], t :: rest, Nat.lt_succ_self _⟩
  termination_by ts.length * 4
  decreasing_by all_goals grind

/-- Reads a conjunction. -/
def parseAnd (scope : Scope) (budget : Nat) (ts : List Token) : Parse Operand ts.length := do
  let left ← parseNot scope budget ts
  match left with
  | ⟨operand, [], h⟩ => .ok ⟨operand, [], h⟩
  | ⟨operand, t :: rest, h⟩ =>
    if t.isKeyword .AND then do
      let f ← requireFilter scope operand (t :: rest)
      let others ← parseAnds scope budget (t :: rest)
      .ok ((others.withValue (.filter (.allOf (f :: others.value)))).weaken (by grind))
    else .ok ⟨operand, t :: rest, h⟩
  termination_by ts.length * 4 + 2
  decreasing_by all_goals grind

/-- Reads the further operands of a conjunction, each one after its AND. -/
def parseAnds (scope : Scope) (budget : Nat) (ts : List Token) :
    Parse (List Filter) (ts.length + 1) :=
  match ts with
  | [] => .ok ⟨[], [], Nat.lt_succ_self _⟩
  | t :: rest =>
    if t.isKeyword .AND then do
      let right ← parseNot scope budget rest
      have hRight := right.shorter
      let f ← requireFilter scope right.value right.rest
      let others ← parseAnds scope budget right.rest
      .ok ((others.withValue (f :: others.value)).weaken (by grind))
    else .ok ⟨[], t :: rest, Nat.lt_succ_self _⟩
  termination_by ts.length * 4
  decreasing_by all_goals grind

/-- Reads a predicate with any NOT before it. -/
def parseNot (scope : Scope) (budget : Nat) (ts : List Token) : Parse Operand ts.length :=
  match ts with
  | [] => .error (unexpected scope .expression [])
  | t :: rest =>
    if t.isKeyword .NOT then
      match budget with
      | 0 => .error (tooDeep scope rest)
      | budget + 1 => do
        let operand ← parseNot scope budget rest
        let f ← requireFilter scope operand.value operand.rest
        .ok ((operand.withValue (.filter (.negate f))).weaken (Parsed.length_le_cons t rest))
    else parsePredicate scope budget t rest
  termination_by ts.length * 4 + 1
  decreasing_by all_goals grind

/-- Reads a predicate that starts with the token `t`. -/
def parsePredicate (scope : Scope) (budget : Nat) (t : Token) (rest : List Token) :
    Parse Operand (rest.length + 1) :=
  match t.kind with
  | .keyword .INCLUDE => .ok ⟨.filter .everything, rest, Nat.lt_succ_self _⟩
  | .keyword .EXCLUDE => .ok ⟨.filter .nothing, rest, Nat.lt_succ_self _⟩
  | .keyword .IN => do
    let ids ← parseIds scope budget rest
    .ok ((ids.withValue (.filter ids.value)).weaken (by omega))
  | .opening =>
    match budget with
    | 0 => .error (tooDeep scope rest)
    | inner + 1 => do
      let group ← parseOr scope inner rest
      have hGroup := group.shorter
      let closed ← expectClosing scope t group.rest
      have hClosed := closed.shorter
      match group.value with
      | .filter f =>
        if closed.rest.head?.any Token.continuesExpression then
          .error (unexpected scope .connective closed.rest)
        else .ok ((closed.withValue (.filter f)).weaken (by omega))
      | .expression e => do
        let product ← parseFactors scope budget e closed.rest
        have hProduct := product.shorter
        let sum ← parseTerms scope budget product.value product.rest
        have hSum := sum.shorter
        let operand ← parseCondition scope budget sum.value t.offset sum.rest
        .ok (operand.weaken (by omega))
  | _ =>
    match spatialCall? t rest with
    | some op => do
      let f ← parseSpatial scope budget op t rest
      .ok ((f.withValue (.filter f.value)).weaken (by omega))
    | none => parseComparison scope budget (t :: rest)
  termination_by (rest.length + 1) * 4
  decreasing_by all_goals grind

end

/-- Reads CQL text as a filter, with nesting up to `maxDepth` levels. -/
def parse (source : String) (maxDepth : Nat) : Except SyntaxError Filter := do
  let ts ← tokens source
  let scope : Scope := ⟨source.utf8ByteSize, maxDepth⟩
  match ts with
  | [] => .error ⟨.emptyInput, 0, none⟩
  | _ => do
    let operand ← parseOr scope maxDepth ts
    let f ← requireFilter scope operand.value operand.rest
    match operand.rest with
    | [] => .ok f
    | t :: rest =>
      if t.isClosing then .error (errorAt t .unbalancedParenthesis)
      else .error (unexpected scope .ending (t :: rest))

/-- The nesting that is accepted unless another limit is given. -/
def defaultMaxDepth : Nat := 64

end GeoFilter.Cql
