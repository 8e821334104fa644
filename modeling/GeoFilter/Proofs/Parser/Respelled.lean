import GeoFilter.Proofs.Lexer.LetterCase
import GeoFilter.Proofs.Parser.Grammar

set_option autoImplicit false

/-! # Names of functions and geometry literals in other letters

The grammar looks at the letters of a plain name only where it names a function, and then in any
case; and a geometry literal is read in upper case. So where every plain name is that of a function,
the case of these letters makes no difference to what the tokens denote. A plain name of an
attribute is part of what they denote. -/

namespace GeoFilter.Cql.Grammar

open Text

/-- Each plain name among the tokens is that of a function: an opening parenthesis follows it. -/
def NamesCalled : List TokenKind → Prop
  | [] => True
  | .name _ :: rest => rest.head? = some .opening ∧ NamesCalled rest
  | _ :: rest => NamesCalled rest

/-- A token without letters whose case may change. -/
def isFixed : TokenKind → Bool
  | .name _ | .geometry _ => false
  | _ => true

/-- A token that stands between the parts of an expression or of a filter, or ends them. -/
def separates : TokenKind → Bool
  | .keyword _ | .compare _ | .arithmetic _ | .closing | .comma => true
  | _ => false

/-- Two lists of tokens that agree but for the case of letters in the names of functions and in
    geometry literals, and that have no other plain names. -/
inductive Respelled : List TokenKind → List TokenKind → Prop where
  | nil : Respelled [] []
  | call {name name' : String} {ks ks' : List TokenKind} (hName : upper name' = upper name)
      (h : Respelled ks ks') :
      Respelled (.name name :: .opening :: ks) (.name name' :: .opening :: ks')
  | literal {source source' : String} {ks ks' : List TokenKind}
      (hSource : upper source' = upper source) (h : Respelled ks ks') :
      Respelled (.geometry source :: ks) (.geometry source' :: ks')
  | same {k : TokenKind} {ks ks' : List TokenKind} (hFixed : isFixed k = true)
      (h : Respelled ks ks') : Respelled (k :: ks) (k :: ks')

variable {ks ks' u v : List TokenKind} {k : TokenKind}

theorem respelled_nil (h : Respelled [] ks') : ks' = [] := by
  cases h
  rfl

theorem respelled_cons (hFixed : isFixed k = true) (h : Respelled (k :: ks) ks') :
    ∃ rest, ks' = k :: rest ∧ Respelled ks rest := by
  cases h with
  | call => exact absurd hFixed Bool.false_ne_true
  | literal => exact absurd hFixed Bool.false_ne_true
  | same _ h => exact ⟨_, rfl, h⟩

theorem respelled_single (hFixed : isFixed k = true) (h : Respelled [k] ks') : ks' = [k] := by
  obtain ⟨rest, rfl, hRest⟩ := respelled_cons hFixed h
  rw [respelled_nil hRest]

/-- A separator stays where it is. -/
theorem respelled_append (hk : separates k = true) (h : Respelled (u ++ k :: v) ks') :
    ∃ u' v', ks' = u' ++ k :: v' ∧ Respelled u u' ∧ Respelled v v' := by
  generalize hTokens : u ++ k :: v = tokens at h
  induction h generalizing u with
  | nil => exact absurd hTokens (by simp)
  | call hName h ih =>
    -- Neither a name nor the parenthesis after it is a separator.
    rcases u with _ | ⟨first, _ | ⟨second, u⟩⟩
    · obtain rfl := (List.cons.inj hTokens).1
      exact absurd hk Bool.false_ne_true
    · obtain rfl := (List.cons.inj (List.cons.inj hTokens).2).1
      exact absurd hk Bool.false_ne_true
    · obtain ⟨hFirst, hSecond⟩ := List.cons.inj hTokens
      obtain ⟨hSecond, hMore⟩ := List.cons.inj hSecond
      obtain ⟨u', v', rfl, hu, hv⟩ := ih hMore
      subst hFirst hSecond
      exact ⟨_ :: _ :: u', v', rfl, .call hName hu, hv⟩
  | literal hSource h ih =>
    cases u with
    | nil =>
      obtain rfl := (List.cons.inj hTokens).1
      exact absurd hk Bool.false_ne_true
    | cons first u =>
      obtain ⟨hFirst, hMore⟩ := List.cons.inj hTokens
      obtain ⟨u', v', rfl, hu, hv⟩ := ih hMore
      subst hFirst
      exact ⟨_ :: u', v', rfl, .literal hSource hu, hv⟩
  | same hFixed h ih =>
    cases u with
    | nil =>
      obtain ⟨rfl, rfl⟩ := List.cons.inj hTokens
      exact ⟨[], _, rfl, .nil, h⟩
    | cons first u =>
      obtain ⟨hFirst, hMore⟩ := List.cons.inj hTokens
      obtain ⟨u', v', rfl, hu, hv⟩ := ih hMore
      subst hFirst
      exact ⟨_ :: u', v', rfl, .same hFixed hu, hv⟩

/-- Tokens between parentheses. -/
theorem respelled_enclosed (h : Respelled (.opening :: (u ++ [.closing])) ks') :
    ∃ u', ks' = .opening :: (u' ++ [.closing]) ∧ Respelled u u' := by
  obtain ⟨rest, rfl, hRest⟩ := respelled_cons rfl h
  obtain ⟨u', v', rfl, hu, hv⟩ := respelled_append rfl hRest
  exact ⟨u', by rw [respelled_nil hv], hu⟩

theorem respelled_call {name : String}
    (h : Respelled (.name name :: .opening :: (u ++ [.closing])) ks') :
    ∃ name' u', ks' = .name name' :: .opening :: (u' ++ [.closing]) ∧
      upper name' = upper name ∧ Respelled u u' := by
  cases h with
  | call hName h =>
    obtain ⟨u', v', rfl, hu, hv⟩ := respelled_append rfl h
    exact ⟨_, u', by rw [respelled_nil hv], hName, hu⟩
  | same hFixed _ => exact absurd hFixed Bool.false_ne_true

theorem eq_of_upper {k k' : TokenKind} (hFixed : isFixed k = true) (h : k'.upper = k.upper) :
    k' = k := by
  have hk : k.upper = k := by cases k <;> first | rfl | exact absurd hFixed Bool.false_ne_true
  rw [hk] at h
  cases k' with
  | name _ | geometry _ =>
    subst h
    exact absurd hFixed Bool.false_ne_true
  | _ => exact h

/-- Tokens that agree in upper case agree but for the letters of names and literals. -/
theorem respelled_of_upper (h : NamesCalled ks)
    (hUpper : ks'.map TokenKind.upper = ks.map TokenKind.upper) : Respelled ks ks' := by
  induction ks generalizing ks' with
  | nil =>
    rw [List.map_eq_nil_iff.1 hUpper]
    exact .nil
  | cons k ks ih =>
    obtain ⟨k', ks', rfl, hk, hks⟩ := List.map_eq_cons_iff.1 hUpper
    cases k with
    | name word =>
      obtain ⟨hOpening, hMore⟩ := h
      obtain ⟨w, rfl⟩ := List.head?_eq_some_iff.1 hOpening
      obtain ⟨rest, rfl, hRest⟩ := respelled_cons rfl (ih hMore hks)
      cases k' with
      | name word' => exact .call (TokenKind.name.inj hk) hRest
      | _ => exact nomatch hk
    | geometry source =>
      cases k' with
      | geometry source' => exact .literal (TokenKind.geometry.inj hk) (ih h hks)
      | _ => exact nomatch hk
    | _ =>
      rw [eq_of_upper rfl hk]
      exact .same rfl (ih h hks)

/-! ## Expressions -/

theorem sameLetters_of_upper {name name' word : String} (hUpper : upper name' = upper name)
    (h : sameLetters name word) : sameLetters name' word := by
  have hLetters := congrArg String.toList hUpper
  rw [toList_upper, toList_upper] at hLetters
  rwa [sameLetters, hLetters]

theorem Arithmetic.respelled {b : Binding} {d : ℕ} {e : Expression} (h : Arithmetic b d ks e)
    (hSame : Respelled ks ks') : Arithmetic b d ks' e := by
  induction h generalizing ks' with
  | number x => exact respelled_single rfl hSame ▸ .number x
  | text s => exact respelled_single rfl hSame ▸ .text s
  | true => exact respelled_single rfl hSame ▸ .true
  | false => exact respelled_single rfl hSame ▸ .false
  | null => exact respelled_single rfl hSame ▸ .null
  | quotedName name => exact respelled_single rfl hSame ▸ .quotedName name
  | geometry h =>
    cases hSame with
    | literal hSource hNil =>
      obtain rfl := respelled_nil hNil
      exact .geometry (hSource ▸ h)
    | same hFixed _ => exact absurd hFixed Bool.false_ne_true
  | name name =>
    cases hSame with
    | same hFixed _ => exact absurd hFixed Bool.false_ne_true
  | defaultGeometry h =>
    obtain ⟨name', u', rfl, hName, hu⟩ := respelled_call (u := []) hSame
    rw [respelled_nil hu]
    exact .defaultGeometry (sameLetters_of_upper hName h)
  | group _ ih =>
    obtain ⟨u', rfl, hu⟩ := respelled_enclosed hSame
    exact .group (ih hu)
  | operand _ ih => exact .operand (ih hSame)
  | minusNumber _ ih =>
    obtain ⟨rest, rfl, hRest⟩ := respelled_cons rfl hSame
    exact .minusNumber (ih hRest)
  | minus _ hNumber ih =>
    obtain ⟨rest, rfl, hRest⟩ := respelled_cons rfl hSame
    exact .minus (ih hRest) hNumber
  | factor _ ih => exact .factor (ih hSame)
  | factors _ hOp _ ihLeft ihRight =>
    obtain ⟨u', v', rfl, hu, hv⟩ := respelled_append rfl hSame
    exact .factors (ihLeft hu) hOp (ihRight hv)
  | term _ ih => exact .term (ih hSame)
  | terms _ hOp _ ihLeft ihRight =>
    obtain ⟨u', v', rfl, hu, hv⟩ := respelled_append rfl hSame
    exact .terms (ihLeft hu) hOp (ihRight hv)

theorem Listing.respelled {d : ℕ} {es : List Expression} (h : Listing d ks es)
    (hSame : Respelled ks ks') : Listing d ks' es := by
  induction h generalizing ks' with
  | one h => exact .one (h.respelled hSame)
  | more h _ ih =>
    obtain ⟨u', v', rfl, hu, hv⟩ := respelled_append rfl hSame
    exact .more (h.respelled hu) (ih hv)

/-! ## Filters -/

theorem ofName?_of_upper {name name' : String} (hUpper : upper name' = upper name) :
    SpatialOp.ofName? name' = SpatialOp.ofName? name := by
  have hName : ∀ name, SpatialOp.ofName? (upper name) = SpatialOp.ofName? name := by
    intro name
    simp only [SpatialOp.ofName?, sameLetters_upper]
  rw [← hName name', hUpper, hName]

theorem respelled_turned {negated : Bool} {w : List TokenKind} {word : Keyword}
    (h : Respelled (u ++ (turned negated ++ .keyword word :: w)) ks') :
    ∃ u' w', ks' = u' ++ (turned negated ++ .keyword word :: w') ∧ Respelled u u' ∧
      Respelled w w' := by
  cases negated with
  | false => exact respelled_append rfl h
  | true =>
    obtain ⟨u', rest, rfl, hu, hRest⟩ := respelled_append (k := .keyword .NOT) rfl h
    obtain ⟨w', rfl, hw⟩ := respelled_cons rfl hRest
    exact ⟨u', w', rfl, hu, hw⟩

/-- What tokens denote does not depend on the case of the letters in function names and geometry
    literals. -/
theorem Sentence.respelled {l : Level} {d : ℕ} {a : l.Meaning} (h : Sentence l d ks a)
    (hSame : Respelled ks ks') : Sentence l d ks' a := by
  induction h generalizing ks' with
  | disjunction _ ih => exact .disjunction (ih hSame)
  | alternative _ ih => exact .alternative (ih hSame)
  | alternatives _ _ ihFirst ihOthers =>
    obtain ⟨u', v', rfl, hu, hv⟩ := respelled_append rfl hSame
    exact .alternatives (ihFirst hu) (ihOthers hv)
  | conjunction _ ih => exact .conjunction (ih hSame)
  | conjunct _ ih => exact .conjunct (ih hSame)
  | conjuncts _ _ ihFirst ihOthers =>
    obtain ⟨u', v', rfl, hu, hv⟩ := respelled_append rfl hSame
    exact .conjuncts (ihFirst hu) (ihOthers hv)
  | not _ ih =>
    obtain ⟨rest, rfl, hRest⟩ := respelled_cons rfl hSame
    exact .not (ih hRest)
  | predicate _ ih => exact .predicate (ih hSame)
  | everything => exact respelled_single rfl hSame ▸ .everything
  | nothing => exact respelled_single rfl hSame ▸ .nothing
  | ids h =>
    obtain ⟨rest, rfl, hRest⟩ := respelled_cons rfl hSame
    obtain ⟨u', rfl, hu⟩ := respelled_enclosed hRest
    exact .ids (h.respelled hu)
  | spatial hOp h =>
    obtain ⟨name', u', rfl, hName, hu⟩ := respelled_call hSame
    exact .spatial ((ofName?_of_upper hName).trans hOp) (h.respelled hu)
  | box hOp h =>
    obtain ⟨name', u', rfl, hName, hu⟩ := respelled_call hSame
    exact .box ((ofName?_of_upper hName).trans hOp) (h.respelled hu)
  | group _ ih =>
    obtain ⟨u', rfl, hu⟩ := respelled_enclosed hSame
    exact .group (ih hu)
  | comparison op hLeft hRight =>
    obtain ⟨u', v', rfl, hu, hv⟩ := respelled_append rfl hSame
    exact .comparison op (hLeft.respelled hu) (hRight.respelled hv)
  | membership negated h hList =>
    obtain ⟨u', w', rfl, hu, hw⟩ := respelled_turned hSame
    obtain ⟨v', rfl, hv⟩ := respelled_enclosed hw
    exact .membership negated (h.respelled hu) (hList.respelled hv)
  | like negated h hPattern =>
    obtain ⟨u', w', rfl, hu, hw⟩ := respelled_turned hSame
    rw [respelled_single rfl hw]
    exact .like negated (h.respelled hu) hPattern
  | between h hLow hHigh =>
    obtain ⟨u', v', rfl, hu, hv⟩ := respelled_append rfl hSame
    obtain ⟨v', w', rfl, hv, hw⟩ := respelled_append rfl hv
    exact .between (h.respelled hu) (hLow.respelled hv) (hHigh.respelled hw)
  | notBetween h hLow hHigh =>
    obtain ⟨u', v', rfl, hu, hv⟩ := respelled_append rfl hSame
    obtain ⟨rest, rfl, hRest⟩ := respelled_cons rfl hv
    obtain ⟨v', w', rfl, hv, hw⟩ := respelled_append rfl hRest
    exact .notBetween (h.respelled hu) (hLow.respelled hv) (hHigh.respelled hw)
  | nullTest negated h =>
    obtain ⟨u', v', rfl, hu, hv⟩ := respelled_append rfl hSame
    obtain ⟨w, w', rfl, hw, hw'⟩ := respelled_turned (u := []) hv
    rw [respelled_nil hw, respelled_nil hw']
    exact .nullTest negated (h.respelled hu)

end GeoFilter.Cql.Grammar
