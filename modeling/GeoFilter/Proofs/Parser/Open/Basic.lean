import GeoFilter.Proofs.Parser.Grammar

set_option autoImplicit false

/-! # What is open at a token

The parser comes back to itself inside a grouping parenthesis, after NOT, after a minus sign and in
the arguments of a call for the default geometry. Such a construct is open from the token that
starts it until what it holds has been read. The relation here follows the grammar up to any token,
also one where the text stops being a filter, and tells which constructs are open there. What lies
before the open constructs and beside them is derived in full. -/

namespace GeoFilter.Cql.Grammar

/-- The constructs that hold what they may be part of. -/
inductive Construct where
  | group
  | not
  | minus
  | arguments
  deriving DecidableEq, Repr

/-- How many of the constructs take a level of the limit on nesting: all but argument lists. -/
def charged : List Construct → Nat
  | [] => 0
  | .arguments :: cs => charged cs
  | .group :: cs | .not :: cs | .minus :: cs => charged cs + 1

/-- What the parser can be in the midst of. -/
inductive Part where
  | operand
  | product
  | sum
  | items
  | ids
  | predicate
  | negation
  | conjunction
  | disjunction

/-- The words that the parser passes between an expression and the rest of its test. -/
def testWords : List (List Keyword) :=
  [[.NOT], [.IN], [.NOT, .IN], [.LIKE], [.NOT, .LIKE], [.IS], [.IS, .NOT]]

/-- `Opens part cs ks`: after the tokens `ks` of a part, which need not be all of it, the constructs
    `cs` are open, outermost first. -/
inductive Opens : Part → List Construct → List TokenKind → Prop where
  -- An operand that is not begun or read in full has nothing open.
  | start : Opens .operand [] []
  | read {d : Nat} {u : List TokenKind} {e : Expression} (h : Arithmetic .unary d u e) :
      Opens .operand [] u
  | minus {cs : List Construct} {u : List TokenKind} (h : Opens .operand cs u) :
      Opens .operand (.minus :: cs) (.arithmetic .sub :: u)
  | enclosed {cs : List Construct} {u : List TokenKind} (h : Opens .sum cs u) :
      Opens .operand (.group :: cs) (.opening :: u)
  | arguments {cs : List Construct} {u : List TokenKind} {name : String}
      (hName : Text.sameLetters name "geometry") (h : Opens .items cs u) :
      Opens .operand (.arguments :: cs) (.name name :: .opening :: u)
  | factor {cs : List Construct} {u : List TokenKind} (h : Opens .operand cs u) :
      Opens .product cs u
  | factors {cs : List Construct} {d : Nat} {u v : List TokenKind} {left : Expression}
      {op : ArithmeticOp} (hLeft : Arithmetic .product d u left) (hOp : op = .mul ∨ op = .div)
      (h : Opens .operand cs v) : Opens .product cs (u ++ .arithmetic op :: v)
  | term {cs : List Construct} {u : List TokenKind} (h : Opens .product cs u) : Opens .sum cs u
  | terms {cs : List Construct} {d : Nat} {u v : List TokenKind} {left : Expression}
      {op : ArithmeticOp} (hLeft : Arithmetic .sum d u left) (hOp : op = .add ∨ op = .sub)
      (h : Opens .product cs v) : Opens .sum cs (u ++ .arithmetic op :: v)
  | item {cs : List Construct} {u : List TokenKind} (h : Opens .sum cs u) : Opens .items cs u
  | items {cs : List Construct} {d : Nat} {u v : List TokenKind} {e : Expression}
      (hFirst : Arithmetic .sum d u e) (h : Opens .items cs v) :
      Opens .items cs (u ++ .comma :: v)
  | id {cs : List Construct} {u : List TokenKind} (h : Opens .operand cs u) : Opens .ids cs u
  | ids {cs : List Construct} {d : Nat} {u v : List TokenKind} {value : Value}
      (hFirst : Arithmetic .unary d u (.literal value)) (h : Opens .ids cs v) :
      Opens .ids cs (u ++ .comma :: v)
  -- A parenthesis at the start of a predicate can also be that of an operand, which `left` reaches.
  | done {d : Nat} {u : List TokenKind} {f : Filter} (h : Sentence .predicate d u f) :
      Opens .predicate [] u
  | group {cs : List Construct} {u : List TokenKind} (h : Opens .disjunction cs u) :
      Opens .predicate (.group :: cs) (.opening :: u)
  | idsWord : Opens .predicate [] [.keyword .IN]
  | idsList {cs : List Construct} {u : List TokenKind} (h : Opens .ids cs u) :
      Opens .predicate cs (.keyword .IN :: .opening :: u)
  | call {cs : List Construct} {u : List TokenKind} {name : String} {op : SpatialOp}
      (hName : SpatialOp.ofName? name = some op) (h : Opens .items cs u) :
      Opens .predicate cs (.name name :: .opening :: u)
  | left {cs : List Construct} {u : List TokenKind} (h : Opens .sum cs u) :
      Opens .predicate cs u
  -- A test is begun after its expression, which is read in full.
  | test {d : Nat} {u : List TokenKind} {e : Expression} {words : List Keyword}
      (hLeft : Arithmetic .sum d u e) (hWords : words ∈ testWords) :
      Opens .predicate [] (u ++ words.map .keyword)
  | right {cs : List Construct} {d : Nat} {u v : List TokenKind} {left : Expression}
      (op : CompareOp) (hLeft : Arithmetic .sum d u left) (h : Opens .sum cs v) :
      Opens .predicate cs (u ++ .compare op :: v)
  | member {cs : List Construct} {d : Nat} {u v : List TokenKind} {e : Expression}
      (negated : Bool) (hLeft : Arithmetic .sum d u e) (h : Opens .items cs v) :
      Opens .predicate cs (u ++ (turned negated ++ .keyword .IN :: .opening :: v))
  | low {cs : List Construct} {d : Nat} {u v : List TokenKind} {e : Expression}
      (negated : Bool) (hLeft : Arithmetic .sum d u e) (h : Opens .sum cs v) :
      Opens .predicate cs (u ++ (turned negated ++ .keyword .BETWEEN :: v))
  | high {cs : List Construct} {d d' : Nat} {u v w : List TokenKind} {e low : Expression}
      (negated : Bool) (hLeft : Arithmetic .sum d u e) (hLow : Arithmetic .sum d' v low)
      (h : Opens .sum cs w) :
      Opens .predicate cs
        (u ++ (turned negated ++ .keyword .BETWEEN :: (v ++ .keyword .AND :: w)))
  | predicate {cs : List Construct} {u : List TokenKind} (h : Opens .predicate cs u) :
      Opens .negation cs u
  | not {cs : List Construct} {u : List TokenKind} (h : Opens .negation cs u) :
      Opens .negation (.not :: cs) (.keyword .NOT :: u)
  | conjunct {cs : List Construct} {u : List TokenKind} (h : Opens .negation cs u) :
      Opens .conjunction cs u
  | conjuncts {cs : List Construct} {d : Nat} {u v : List TokenKind} {f : Filter}
      (hFirst : Sentence .negation d u f) (h : Opens .conjunction cs v) :
      Opens .conjunction cs (u ++ .keyword .AND :: v)
  | alternative {cs : List Construct} {u : List TokenKind} (h : Opens .conjunction cs u) :
      Opens .disjunction cs u
  | alternatives {cs : List Construct} {d : Nat} {u v : List TokenKind} {f : Filter}
      (hFirst : Sentence .conjunction d u f) (h : Opens .disjunction cs v) :
      Opens .disjunction cs (u ++ .keyword .OR :: v)

end GeoFilter.Cql.Grammar
