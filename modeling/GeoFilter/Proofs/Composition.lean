import GeoFilter.Proofs.Lexer.Pieces

set_option autoImplicit false

/-! # Filters compose as text

A filter in parentheses is cut into its own tokens and the parentheses, whatever it holds, since
no token of it can reach past a closing parenthesis. So the text of a combination is read as the
combination of the filters that its parts are read as. -/

namespace GeoFilter.Cql

open Grammar

/-! ## Text in parentheses -/

/-- A text in parentheses. -/
def inParens (s : String) : String := "(" ++ s ++ ")"

theorem toList_inParens (s : String) (more : List Char) :
    (inParens s).toList ++ more = '(' :: (s.toList ++ ')' :: more) := by
  simp [inParens]

theorem cuts_inParens {s : String} {ks : List TokenKind} (h : Cuts s.toList ks [])
    (more : List Char) :
    Cuts ((inParens s).toList ++ more) (.opening :: (ks ++ [.closing])) more := by
  rw [toList_inParens]
  exact (h.append (closes_cons (.inl rfl) more)).enclosed

/-- A filter in parentheses is read as a predicate, one level deeper. -/
theorem sentence_inParens {m : Nat} {s : String} {f : Filter} (h : parse s m = .ok f) :
    ∃ d ks, d ≤ m + 1 ∧ Sentence .predicate d ks f ∧
      ∀ more, Cuts ((inParens s).toList ++ more) ks more := by
  -- What was read is a filter of the loosest kind; the parentheses make it a predicate.
  obtain ⟨d, ks, hd, hCuts, hSentence⟩ := cuts_of_parse h
  exact ⟨d + 1, _, Nat.succ_le_succ hd, .group hSentence, cuts_inParens hCuts⟩

/-- A predicate is a whole filter. -/
theorem Grammar.Sentence.whole {d : Nat} {ks : List TokenKind} {f : Filter}
    (h : Sentence .negation d ks f) : Sentence .disjunction d ks f :=
  .disjunction (.alternative (.conjunction (.conjunct h)))

theorem parse_of_sentence {source : String} {d m : Nat} {ks : List TokenKind} {f : Filter}
    (hCuts : Cuts source.toList ks []) (h : Sentence .disjunction d ks f) (hd : d ≤ m) :
    parse source m = .ok f := (parse_of_cuts hCuts).2 ⟨d, hd, h⟩

/-! ## Texts with a word between them -/

/-- A connective between texts. -/
def wordBetween (word : Keyword) (parts : List String) : String :=
  (" " ++ word.word ++ " ").intercalate parts

theorem toList_wordBetween_cons (word : Keyword) (s t : String) (parts : List String) :
    (wordBetween word (s :: t :: parts)).toList =
      s.toList ++ ' ' :: (word.word.toList ++ ' ' :: (wordBetween word (t :: parts)).toList) := by
  unfold wordBetween
  rw [String.intercalate_cons_cons]
  simp

/-- A connective after a text and before another. -/
theorem Cuts.connect {cs cs' rest : List Char} {ks ks' : List TokenKind} (word : Keyword)
    (h : ∀ more, Cuts (cs ++ more) ks more) (h' : Cuts cs' ks' rest) :
    Cuts (cs ++ ' ' :: (word.word.toList ++ ' ' :: cs')) (ks ++ .keyword word :: ks') rest := by
  -- The first part is cut alike before any text, so the connective after it changes nothing.
  refine (h _).trans ?_
  refine .space rfl ?_
  refine (cuts_keyword word (divides_cons (.inl rfl) cs')).trans ?_
  exact .space rfl h'

variable {m : Nat}

/-- Filters in parentheses with a connective between them are read one by one. `P` is the list
    that the connective makes: the operands of AND, or those of OR. -/
theorem operands_inParens (word : Keyword) {P : Nat → List TokenKind → List Filter → Prop}
    (hOne : ∀ {d u f}, Sentence .predicate d u f → P d u [f])
    (hMore : ∀ {d d' u v f fs}, Sentence .predicate d u f → P d' v fs →
      P (max d d') (u ++ .keyword word :: v) (f :: fs))
    {p : String × Filter} {pairs : List (String × Filter)}
    (h : ∀ q ∈ p :: pairs, parse q.1 m = .ok q.2) :
    ∃ d ks, d ≤ m + 1 ∧ P d ks ((p :: pairs).map Prod.snd) ∧
      Cuts (wordBetween word ((p :: pairs).map fun q => inParens q.1)).toList ks [] := by
  induction pairs generalizing p with
  | nil =>
    obtain ⟨d, ks, hd, hSentence, hCuts⟩ := sentence_inParens (h p List.mem_cons_self)
    refine ⟨d, ks, hd, hOne hSentence, ?_⟩
    have hText := hCuts []
    rw [List.append_nil] at hText
    simpa [wordBetween] using hText
  | cons q pairs ih =>
    obtain ⟨d, ks, hd, hSentence, hCuts⟩ := sentence_inParens (h p List.mem_cons_self)
    obtain ⟨d', ks', hd', hOthers, hRest⟩ := ih fun q hq => h q (List.mem_cons_of_mem p hq)
    refine ⟨max d d', ks ++ .keyword word :: ks', Nat.max_le.2 ⟨hd, hd'⟩,
      hMore hSentence hOthers, ?_⟩
    simp only [List.map_cons] at hRest ⊢
    rw [toList_wordBetween_cons]
    exact Cuts.connect word hCuts hRest

theorem parse_inParens {s : String} {f : Filter} (h : parse s m = .ok f) :
    parse (inParens s) (m + 1) = .ok f := by
  obtain ⟨d, ks, hd, hSentence, hCuts⟩ := sentence_inParens h
  have hText := hCuts []
  rw [List.append_nil] at hText
  exact parse_of_sentence hText (Sentence.predicate hSentence).whole hd

theorem parse_not_inParens {s : String} {f : Filter} (h : parse s m = .ok f) :
    parse ("NOT " ++ inParens s) (m + 2) = .ok (.logic .not [f]) := by
  obtain ⟨d, ks, hd, hSentence, hCuts⟩ := sentence_inParens h
  have hText : ("NOT " ++ inParens s).toList
      = Keyword.NOT.word.toList ++ ' ' :: ((inParens s).toList ++ []) := by
    rw [String.toList_append, List.append_nil]
    rfl
  have hTokens : Cuts ("NOT " ++ inParens s).toList (.keyword .NOT :: ks) [] := by
    rw [hText]
    exact (cuts_keyword .NOT (divides_cons (.inl rfl) _)).trans (.space rfl (hCuts []))
  exact parse_of_sentence hTokens (Sentence.not (.predicate hSentence)).whole (Nat.succ_le_succ hd)

theorem parse_conjunction {pairs : List (String × Filter)} (hLength : 2 ≤ pairs.length)
    (h : ∀ q ∈ pairs, parse q.1 m = .ok q.2) :
    parse (wordBetween .AND (pairs.map fun q => inParens q.1)) (m + 1)
      = .ok (.logic .and (pairs.map Prod.snd)) := by
  rcases pairs with _ | ⟨p, _ | ⟨q, pairs⟩⟩
  · exact absurd hLength (by decide)
  · exact absurd hLength (by simp)
  · obtain ⟨d, ks, hd, hSentence, hCuts⟩ :=
      operands_inParens .AND (P := Sentence .conjuncts) (fun h => .conjunct (.predicate h))
        (fun h h' => .conjuncts (.predicate h) h') h
    exact parse_of_sentence hCuts (.disjunction (.alternative (.conjunction hSentence))) hd

theorem parse_disjunction {pairs : List (String × Filter)} (hLength : 2 ≤ pairs.length)
    (h : ∀ q ∈ pairs, parse q.1 m = .ok q.2) :
    parse (wordBetween .OR (pairs.map fun q => inParens q.1)) (m + 1)
      = .ok (.logic .or (pairs.map Prod.snd)) := by
  rcases pairs with _ | ⟨p, _ | ⟨q, pairs⟩⟩
  · exact absurd hLength (by decide)
  · exact absurd hLength (by simp)
  · obtain ⟨d, ks, hd, hSentence, hCuts⟩ :=
      operands_inParens .OR (P := Sentence .alternatives)
        (fun h => .alternative (.conjunction (.conjunct (.predicate h))))
        (fun h h' => .alternatives (.conjunction (.conjunct (.predicate h))) h') h
    exact parse_of_sentence hCuts (.disjunction hSentence) hd

/-- Filters in parentheses are read one by one, and connectives between them make the combination
    of exactly these filters. Nothing in a text reaches into its neighbours. -/
theorem parse_composes (m : Nat) (pairs : List (String × Filter))
    (h : ∀ q ∈ pairs, parse q.1 m = .ok q.2) :
    (2 ≤ pairs.length →
      parse (" AND ".intercalate (pairs.map fun q => "(" ++ q.1 ++ ")")) (m + 1)
        = .ok (.logic .and (pairs.map Prod.snd)) ∧
      parse (" OR ".intercalate (pairs.map fun q => "(" ++ q.1 ++ ")")) (m + 1)
        = .ok (.logic .or (pairs.map Prod.snd))) ∧
    ∀ q ∈ pairs, parse ("(" ++ q.1 ++ ")") (m + 1) = .ok q.2 ∧
      parse ("NOT (" ++ q.1 ++ ")") (m + 2) = .ok (.logic .not [q.2]) := by
  refine ⟨fun hLength => ⟨?_, ?_⟩, fun q hq => ⟨parse_inParens (h q hq), ?_⟩⟩
  · exact parse_conjunction hLength h
  · exact parse_disjunction hLength h
  · have hNot := parse_not_inParens (h q hq)
    have hText : "NOT " ++ inParens q.1 = "NOT (" ++ q.1 ++ ")" := by
      unfold inParens
      rw [← String.append_assoc, ← String.append_assoc]
      rfl
    rwa [hText] at hNot

/-- A name that looks like the start of a geometry, and a text full of parentheses and words. -/
theorem parse_composes_geometry_name :
    parse "(x = POINT ) AND (y = ') OR (')" 1 = .ok (.logic .and
      [.comparison .eq (.attr "x") (.attr "POINT"),
        .comparison .eq (.attr "y") (.literal (.text ") OR ("))]) := by
  have hFirst : parse "x = POINT " 0 = .ok (.comparison .eq (.attr "x") (.attr "POINT")) := by
    have hCuts : Cuts "x = POINT ".toList [.name "x", .compare .eq, .name "POINT"] [] :=
      .token rfl (.space rfl (.token rfl (.space rfl (.token rfl (.space rfl .done)))))
    refine parse_of_sentence hCuts (d := 0) ?_ (Nat.le_refl 0)
    have hName : ∀ name, Arithmetic .sum 0 [.name name] (.attr name) :=
      fun name => .term (.factor (.operand (.name name)))
    exact (Sentence.predicate (.comparison .eq (hName "x") (hName "POINT"))).whole
  have hSecond : parse "y = ') OR ('" 0
      = .ok (.comparison .eq (.attr "y") (.literal (.text ") OR ("))) := by
    have hCuts : Cuts "y = ') OR ('".toList [.name "y", .compare .eq, .text ") OR ("] [] :=
      .token rfl (.space rfl (.token rfl (.space rfl (.token rfl .done))))
    refine parse_of_sentence hCuts (d := 0) ?_ (Nat.le_refl 0)
    have hLeft : Arithmetic .sum 0 [.name "y"] (.attr "y") :=
      .term (.factor (.operand (.name "y")))
    have hRight : Arithmetic .sum 0 [.text ") OR ("] (.literal (.text ") OR (")) :=
      .term (.factor (.operand (.text ") OR (")))
    exact (Sentence.predicate (.comparison .eq hLeft hRight)).whole
  exact ((parse_composes 0 [("x = POINT ", _), ("y = ') OR ('", _)]
    (by simpa using ⟨hFirst, hSecond⟩)).1 (by decide)).1

end GeoFilter.Cql
