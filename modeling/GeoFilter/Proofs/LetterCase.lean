import GeoFilter.Proofs.Composition
import GeoFilter.Proofs.Lexer.Recased
import GeoFilter.Proofs.Parser.Respelled

set_option autoImplicit false

/-! # Letter case outside quotes

Keywords, the names of functions, the words and numbers of a geometry literal and the mark of an
exponent are read in any case. So where every attribute name stands in quotes, a source that is read
is read as the same filter after any change of case outside quotes. -/

namespace GeoFilter.Cql

open Grammar

/-! ## Geometry literals of a filter -/

variable {ks u v : List TokenKind} {k : TokenKind}

theorem read_joined (hu : ∀ k ∈ u, IsRead k) (hk : IsRead k) (hv : ∀ k ∈ v, IsRead k) :
    ∀ k' ∈ u ++ k :: v, IsRead k' :=
  List.forall_mem_append.2 ⟨hu, List.forall_mem_cons.2 ⟨hk, hv⟩⟩

theorem read_enclosed (hu : ∀ k ∈ u, IsRead k) : ∀ k ∈ .opening :: (u ++ [.closing]), IsRead k :=
  List.forall_mem_cons.2 ⟨trivial, read_joined hu trivial (List.forall_mem_nil _)⟩

theorem read_turned (negated : Bool) : ∀ k ∈ turned negated, IsRead k := by
  cases negated with
  | false => exact List.forall_mem_nil _
  | true => exact List.forall_mem_singleton.2 trivial

theorem read_of_arithmetic {b : Binding} {d : ℕ} {e : Expression} (h : Arithmetic b d ks e) :
    ∀ k ∈ ks, IsRead k := by
  induction h with
  | geometry h => exact List.forall_mem_singleton.2 ⟨_, h⟩
  | number | text | true | false | null | quotedName | name =>
    exact List.forall_mem_singleton.2 trivial
  | defaultGeometry =>
    exact List.forall_mem_cons.2 ⟨trivial, read_enclosed (u := []) (List.forall_mem_nil _)⟩
  | group _ ih => exact read_enclosed ih
  | operand _ ih | factor _ ih | term _ ih => exact ih
  | minusNumber _ ih | minus _ _ ih => exact List.forall_mem_cons.2 ⟨trivial, ih⟩
  | factors _ _ _ ihLeft ihRight | terms _ _ _ ihLeft ihRight =>
    exact read_joined ihLeft trivial ihRight

theorem read_of_listing {d : ℕ} {es : List Expression} (h : Listing d ks es) :
    ∀ k ∈ ks, IsRead k := by
  induction h with
  | one h => exact read_of_arithmetic h
  | more h _ ih => exact read_joined (read_of_arithmetic h) trivial ih

/-- What is accepted has geometry literals that are read as geometries. -/
theorem read_of_sentence {l : Level} {d : ℕ} {a : l.Meaning} (h : Sentence l d ks a) :
    ∀ k ∈ ks, IsRead k := by
  induction h with
  | disjunction _ ih | alternative _ ih | conjunction _ ih | conjunct _ ih | predicate _ ih =>
    exact ih
  | alternatives _ _ ihFirst ihOthers | conjuncts _ _ ihFirst ihOthers =>
    exact read_joined ihFirst trivial ihOthers
  | not _ ih => exact List.forall_mem_cons.2 ⟨trivial, ih⟩
  | everything | nothing => exact List.forall_mem_singleton.2 trivial
  | ids h | spatial _ h | box _ h =>
    exact List.forall_mem_cons.2 ⟨trivial, read_enclosed (read_of_listing h)⟩
  | group _ ih => exact read_enclosed ih
  | comparison op hLeft hRight =>
    exact read_joined (read_of_arithmetic hLeft) trivial (read_of_arithmetic hRight)
  | membership negated h hList =>
    have hMembers := read_enclosed (read_of_listing hList)
    exact List.forall_mem_append.2
      ⟨read_of_arithmetic h, read_joined (read_turned negated) trivial hMembers⟩
  | like negated h =>
    exact List.forall_mem_append.2 ⟨read_of_arithmetic h,
      read_joined (read_turned negated) trivial (List.forall_mem_singleton.2 trivial)⟩
  | between h hLow hHigh =>
    have hRange := read_joined (k := .keyword .AND) (read_of_arithmetic hLow) trivial
      (read_of_arithmetic hHigh)
    exact read_joined (read_of_arithmetic h) trivial hRange
  | notBetween h hLow hHigh =>
    have hRange := read_joined (k := .keyword .AND) (read_of_arithmetic hLow) trivial
      (read_of_arithmetic hHigh)
    exact read_joined (read_of_arithmetic h) trivial (List.forall_mem_cons.2 ⟨trivial, hRange⟩)
  | nullTest negated h =>
    have hTest := read_joined (k := .keyword .NULL) (read_turned negated) trivial
      (List.forall_mem_nil _)
    exact read_joined (read_of_arithmetic h) trivial hTest

/-! ## Sources -/

/-- A source in which each plain name is that of a function is read as the same filter, under the
    same limit, after any change of the case of letters outside quotes. -/
theorem parse_recased {source source' : String} {m : ℕ} {f : Filter}
    (hNames : ∀ ts, tokens source = .ok ts → NamesCalled (ts.map Token.kind))
    (h : Recased none source.toList source'.toList) (hParse : parse source m = .ok f) :
    parse source' m = .ok f := by
  obtain ⟨d, ks, hd, hCuts, hSentence⟩ := cuts_of_parse hParse
  obtain ⟨ts, hTokens, rfl⟩ := tokens_of_cuts hCuts
  have hRead := read_of_sentence hSentence
  obtain ⟨ks', hCuts', hUpper⟩ := hCuts.recased h hRead
  have hRespelled := respelled_of_upper (hNames ts hTokens) hUpper
  exact (parse_of_cuts hCuts').2 ⟨d, hd, hSentence.respelled hRespelled⟩

/-- Keywords, functions and a geometry in other letters, beside names and texts in quotes. -/
theorem parse_recased_quoted :
    parse "\"Ab\" = 'x''Y' AND Touches(GEOMETRY(), Point EMPTY)" 0
      = .ok (.logic .and [.comparison .eq (.attr "Ab") (.literal (.text "x'Y")),
        .spatial .touches .defaultGeometry (.literal (.geometry (.multiPoint [])))]) := by
  have hCuts : Cuts "\"Ab\" = 'x''Y' and touches(geometry(), point Empty)".toList
      [.quotedName "Ab", .compare .eq, .text "x'Y", .keyword .AND, .name "touches", .opening,
        .name "geometry", .opening, .closing, .comma, .geometry "point Empty", .closing] [] :=
    .token rfl (.space rfl (.token rfl (.space rfl (.token rfl (.space rfl (.token rfl (.space rfl
      (.token rfl (.token rfl (.token rfl (.token rfl (.token rfl (.token rfl (.space rfl
        (.token rfl (.token rfl .done))))))))))))))))
  have hPoint : Geometry.ofWkt (Text.upper "point Empty") = .ok (.multiPoint []) := by
    have hUpper : Text.upper "point Empty" = "POINT EMPTY" := by decide
    rw [hUpper]
    rfl
  have hSum : ∀ {ks e}, Arithmetic .primary 0 ks e → Arithmetic .sum 0 ks e :=
    fun h => .term (.factor (.operand h))
  have hFirst : Sentence .predicate 0 [.quotedName "Ab", .compare .eq, .text "x'Y"]
      (.comparison .eq (.attr "Ab") (.literal (.text "x'Y"))) :=
    .comparison .eq (hSum (.quotedName "Ab")) (hSum (.text "x'Y"))
  have hSecond : Sentence .predicate 0 [.name "touches", .opening, .name "geometry", .opening,
        .closing, .comma, .geometry "point Empty", .closing]
      (.spatial .touches .defaultGeometry (.literal (.geometry (.multiPoint [])))) :=
    .spatial rfl (.more (hSum (.defaultGeometry rfl)) (.one (hSum (.geometry hPoint))))
  have hSentence := Sentence.disjunction (.alternative (.conjunction
    (.conjuncts (.predicate hFirst) (.conjunct (.predicate hSecond)))))
  refine parse_recased ?_ (by decide) (parse_of_sentence hCuts hSentence (Nat.le_refl 0))
  intro ts hTokens
  obtain ⟨ts', hTokens', hKinds⟩ := tokens_of_cuts hCuts
  obtain rfl := Except.ok.inj (hTokens.symm.trans hTokens')
  rw [hKinds]
  exact ⟨rfl, rfl, trivial⟩

end GeoFilter.Cql
