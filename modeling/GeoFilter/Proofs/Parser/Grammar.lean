import GeoFilter.Cql.Parser

set_option autoImplicit false

/-! # The grammar of filters

The grammar over the kinds of tokens, with what each derivation denotes. Loosest binding first:

    filter     := and ( OR and )*
    and        := not ( AND not )*
    not        := NOT not | predicate
    predicate  := INCLUDE | EXCLUDE | IN list | spatial | '(' filter ')'
                | sum ( cmp sum | [NOT] IN list | [NOT] LIKE text
                      | [NOT] BETWEEN sum AND sum | IS [NOT] NULL )
    sum        := product ( ('+' | '-') product )*
    product    := unary ( ('*' | '/') unary )*
    unary      := '-' unary | primary
    primary    := number | text | TRUE | FALSE | NULL | geometry literal | name
                | geometry '(' ')' | '(' sum ')'

Every derivation also counts how deep it nests: each grouping parenthesis, each NOT and each minus
sign is one level around what it holds. Lists and function calls are not counted. -/

namespace GeoFilter.Cql.Grammar

/-! ## Expressions -/

/-- How tightly an expression binds, loosest first. -/
inductive Binding where
  | sum
  | product
  | unary
  | primary

/-- `Arithmetic b d ks e`: the tokens `ks` are an expression that binds like `b`, nests `d` levels
    deep and denotes `e`. Operators of one level group to the left, and parentheses leave no trace.
    A minus sign before a number is part of the number; elsewhere it multiplies by minus one. -/
inductive Arithmetic : Binding → Nat → List TokenKind → Expression → Prop where
  | number (x : Float) : Arithmetic .primary 0 [.number x] (.literal (.number x))
  | text (s : String) : Arithmetic .primary 0 [.text s] (.literal (.text s))
  | true : Arithmetic .primary 0 [.keyword .TRUE] (.literal (.bool true))
  | false : Arithmetic .primary 0 [.keyword .FALSE] (.literal (.bool false))
  | null : Arithmetic .primary 0 [.keyword .NULL] (.literal .null)
  | geometry {source : String} {g : Geometry} (h : Geometry.ofWkt (Text.upper source) = .ok g) :
      Arithmetic .primary 0 [.geometry source] (.literal (.geometry g))
  | quotedName (name : String) : Arithmetic .primary 0 [.quotedName name] (.attr name)
  | name (name : String) : Arithmetic .primary 0 [.name name] (.attr name)
  | defaultGeometry {name : String} (h : Text.sameLetters name "geometry") :
      Arithmetic .primary 0 [.name name, .opening, .closing] .defaultGeometry
  | group {d : Nat} {u : List TokenKind} {e : Expression} (h : Arithmetic .sum d u e) :
      Arithmetic .primary (d + 1) (.opening :: (u ++ [.closing])) e
  | operand {d : Nat} {u : List TokenKind} {e : Expression} (h : Arithmetic .primary d u e) :
      Arithmetic .unary d u e
  | minusNumber {d : Nat} {u : List TokenKind} {x : Float}
      (h : Arithmetic .unary d u (.literal (.number x))) :
      Arithmetic .unary (d + 1) (.arithmetic .sub :: u) (.literal (.number (-x)))
  | minus {d : Nat} {u : List TokenKind} {e : Expression} (h : Arithmetic .unary d u e)
      (hNumber : ∀ x, e ≠ .literal (.number x)) :
      Arithmetic .unary (d + 1) (.arithmetic .sub :: u)
        (.arithmetic .mul (.literal (.number (-1))) e)
  | factor {d : Nat} {u : List TokenKind} {e : Expression} (h : Arithmetic .unary d u e) :
      Arithmetic .product d u e
  | factors {d d' : Nat} {u v : List TokenKind} {left right : Expression} {op : ArithmeticOp}
      (hLeft : Arithmetic .product d u left) (hOp : op = .mul ∨ op = .div)
      (hRight : Arithmetic .unary d' v right) :
      Arithmetic .product (max d d') (u ++ .arithmetic op :: v) (.arithmetic op left right)
  | term {d : Nat} {u : List TokenKind} {e : Expression} (h : Arithmetic .product d u e) :
      Arithmetic .sum d u e
  | terms {d d' : Nat} {u v : List TokenKind} {left right : Expression} {op : ArithmeticOp}
      (hLeft : Arithmetic .sum d u left) (hOp : op = .add ∨ op = .sub)
      (hRight : Arithmetic .product d' v right) :
      Arithmetic .sum (max d d') (u ++ .arithmetic op :: v) (.arithmetic op left right)

/-- `Listing d ks es`: the tokens `ks` are the expressions `es` with commas between them. -/
inductive Listing : Nat → List TokenKind → List Expression → Prop where
  | one {d : Nat} {u : List TokenKind} {e : Expression} (h : Arithmetic .sum d u e) :
      Listing d u [e]
  | more {d d' : Nat} {u v : List TokenKind} {e : Expression} {es : List Expression}
      (hFirst : Arithmetic .sum d u e) (hOthers : Listing d' v es) :
      Listing (max d d') (u ++ .comma :: v) (e :: es)

/-! ## Filters -/

/-- The levels of filters, loosest binding first. The operands of OR and those of AND have a level
    each, on which a derivation denotes a list. -/
inductive Level where
  | disjunction
  | alternatives
  | conjunction
  | conjuncts
  | negation
  | predicate

/-- What a derivation of a level denotes. -/
abbrev Level.Meaning : Level → Type
  | .alternatives | .conjuncts => List Filter
  | .disjunction | .conjunction | .negation | .predicate => Filter

/-- The word that turns a test around. -/
def turned (negated : Bool) : List TokenKind := if negated then [.keyword .NOT] else []

/-- `Sentence l d ks m`: the tokens `ks` are a filter of level `l` that nests `d` levels deep and
    denotes `m`. -/
inductive Sentence : (l : Level) → Nat → List TokenKind → l.Meaning → Prop where
  | disjunction {d : Nat} {u : List TokenKind} {fs : List Filter}
      (h : Sentence .alternatives d u fs) : Sentence .disjunction d u (Filter.anyOf fs)
  | alternative {d : Nat} {u : List TokenKind} {f : Filter} (h : Sentence .conjunction d u f) :
      Sentence .alternatives d u [f]
  | alternatives {d d' : Nat} {u v : List TokenKind} {f : Filter} {fs : List Filter}
      (hFirst : Sentence .conjunction d u f) (hOthers : Sentence .alternatives d' v fs) :
      Sentence .alternatives (max d d') (u ++ .keyword .OR :: v) (f :: fs)
  | conjunction {d : Nat} {u : List TokenKind} {fs : List Filter}
      (h : Sentence .conjuncts d u fs) : Sentence .conjunction d u (Filter.allOf fs)
  | conjunct {d : Nat} {u : List TokenKind} {f : Filter} (h : Sentence .negation d u f) :
      Sentence .conjuncts d u [f]
  | conjuncts {d d' : Nat} {u v : List TokenKind} {f : Filter} {fs : List Filter}
      (hFirst : Sentence .negation d u f) (hOthers : Sentence .conjuncts d' v fs) :
      Sentence .conjuncts (max d d') (u ++ .keyword .AND :: v) (f :: fs)
  | not {d : Nat} {u : List TokenKind} {f : Filter} (h : Sentence .negation d u f) :
      Sentence .negation (d + 1) (.keyword .NOT :: u) (Filter.negate f)
  | predicate {d : Nat} {u : List TokenKind} {f : Filter} (h : Sentence .predicate d u f) :
      Sentence .negation d u f
  | everything : Sentence .predicate 0 [.keyword .INCLUDE] Filter.everything
  | nothing : Sentence .predicate 0 [.keyword .EXCLUDE] Filter.nothing
  | ids {d : Nat} {u : List TokenKind} {vs : List Value}
      (h : Listing d u (vs.map Expression.literal)) :
      Sentence .predicate d (.keyword .IN :: .opening :: (u ++ [.closing])) (Filter.ids vs)
  | spatial {d : Nat} {u : List TokenKind} {name : String} {op : SpatialOp}
      {left right : Expression} (hName : SpatialOp.ofName? name = some op)
      (h : Listing d u [left, right]) :
      Sentence .predicate d (.name name :: .opening :: (u ++ [.closing]))
        (Filter.spatial op left right)
  | box {d : Nat} {u : List TokenKind} {name : String} {e : Expression} {x₁ y₁ x₂ y₂ : Float}
      (hName : SpatialOp.ofName? name = some .bbox)
      (h : Listing d u [e, .literal (.number x₁), .literal (.number y₁), .literal (.number x₂),
        .literal (.number y₂)]) :
      Sentence .predicate d (.name name :: .opening :: (u ++ [.closing]))
        (Filter.inBox e ⟨x₁, y₁⟩ ⟨x₂, y₂⟩)
  | group {d : Nat} {u : List TokenKind} {f : Filter} (h : Sentence .disjunction d u f) :
      Sentence .predicate (d + 1) (.opening :: (u ++ [.closing])) f
  | comparison {d d' : Nat} {u v : List TokenKind} {left right : Expression} (op : CompareOp)
      (hLeft : Arithmetic .sum d u left) (hRight : Arithmetic .sum d' v right) :
      Sentence .predicate (max d d') (u ++ .compare op :: v) (Filter.comparison op left right)
  | membership {d d' : Nat} {u v : List TokenKind} {e : Expression} {es : List Expression}
      (negated : Bool) (h : Arithmetic .sum d u e) (hList : Listing d' v es) :
      Sentence .predicate (max d d')
        (u ++ (turned negated ++ .keyword .IN :: .opening :: (v ++ [.closing])))
        (Filter.oneOf e es negated)
  | like {d : Nat} {u : List TokenKind} {e : Expression} {pattern : String} {p : LikePattern}
      (negated : Bool) (h : Arithmetic .sum d u e)
      (hPattern : LikePattern.compile pattern false = .ok p) :
      Sentence .predicate d (u ++ (turned negated ++ [.keyword .LIKE, .text pattern]))
        (Filter.like e p negated)
  | between {d d₁ d₂ : Nat} {u v w : List TokenKind} {e low high : Expression}
      (h : Arithmetic .sum d u e) (hLow : Arithmetic .sum d₁ v low)
      (hHigh : Arithmetic .sum d₂ w high) :
      Sentence .predicate (max d (max d₁ d₂))
        (u ++ .keyword .BETWEEN :: (v ++ .keyword .AND :: w)) (Filter.between e low high)
  | notBetween {d d₁ d₂ : Nat} {u v w : List TokenKind} {e low high : Expression}
      (h : Arithmetic .sum d u e) (hLow : Arithmetic .sum d₁ v low)
      (hHigh : Arithmetic .sum d₂ w high) :
      Sentence .predicate (max d (max d₁ d₂))
        (u ++ .keyword .NOT :: .keyword .BETWEEN :: (v ++ .keyword .AND :: w))
        (Filter.notBetween e low high)
  | nullTest {d : Nat} {u : List TokenKind} {name : String} (negated : Bool)
      (h : Arithmetic .sum d u (.attr name)) :
      Sentence .predicate d (u ++ .keyword .IS :: (turned negated ++ [.keyword .NULL]))
        (Filter.isNull name negated)

/-- The tokens are a filter, and this is the one that they denote. -/
def Denotes (ks : List TokenKind) (f : Filter) : Prop := ∃ d, Sentence .disjunction d ks f

end GeoFilter.Cql.Grammar
