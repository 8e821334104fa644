import GeoFilter.Proofs.Printer.Built
import GeoFilter.Proofs.Printer.Filter

set_option autoImplicit false

/-! # Printing and parsing again

The text of a printable filter is read as an equal filter as soon as the limit on nesting allows
for the levels of the text. A filter that was parsed is printable, but its text may have more
levels than the text it came from: every operator and every connective is printed in parentheses.
So it is read again under the same limit exactly if the levels of its own text are within it. -/

namespace GeoFilter

open Cql Cql.Grammar

/-- The text of a filter that reads back is an equal filter under every limit that allows for its
    levels, and no filter under the others. -/
theorem Filter.ReadsBack.parse_iff {f : Filter} (h : f.ReadsBack) :
    ∃ f', f'.same f = true ∧
      ∀ m f'', parse f.toCql m = .ok f'' ↔ f'' = f' ∧ f.nesting ≤ m := by
  obtain ⟨ks, f', hYields, hSentence, hSame⟩ := h
  have hCuts : Cuts f.toCql.toList ks [] := by
    rw [Filter.toCql, String.toList_ofList]
    exact hYields.cuts
  refine ⟨f', hSame, ?_⟩
  intro m f''
  rw [parse_of_cuts hCuts]
  constructor
  -- The tokens denote one filter at one depth, so any reading is the one at hand.
  · rintro ⟨d, hd, hOther⟩
    obtain ⟨rfl, rfl⟩ := sentence_unique hSentence.whole hOther
    exact ⟨rfl, hd⟩
  · rintro ⟨rfl, hm⟩
    exact ⟨f.nesting, hm, hSentence.whole⟩

/-! ## Printable filters -/

/-- Every printable filter is printed as text that is read as an equal filter, under every limit
    on nesting that is large enough. -/
theorem parse_toCql {f : Filter} (h : f.Printable) :
    ∃ d, ∀ m, d ≤ m → ∃ f', parse f.toCql m = .ok f' ∧ f'.same f = true := by
  obtain ⟨f', hSame, hParse⟩ := h.reads_back.parse_iff
  exact ⟨f.nesting, fun m hm => ⟨f', (hParse m f').2 ⟨rfl, hm⟩, hSame⟩⟩

/-- A keyword as a name, a name and a text with quotes in them, a number below zero, a box and a
    geometry. -/
theorem parse_toCql_quoted :
    ∃ d, ∀ m, d ≤ m → ∃ f',
      parse (Filter.logic .or [.isNull "AND" true,
        .logic .not [.comparison .lt (.arithmetic .sub (.attr "a \"b\"") (.literal (.number (-1))))
          (.literal (.text "it's"))],
        .inBox .defaultGeometry ⟨1, -2⟩ ⟨-3, 4⟩,
        .spatial .within (.attr "point") (.literal (.geometry (.point ⟨1, 2⟩)))]).toCql m = .ok f' ∧
      f'.same (.logic .or [.isNull "AND" true,
        .logic .not [.comparison .lt (.arithmetic .sub (.attr "a \"b\"") (.literal (.number (-1))))
          (.literal (.text "it's"))],
        .inBox .defaultGeometry ⟨1, -2⟩ ⟨-3, 4⟩,
        .spatial .within (.attr "point") (.literal (.geometry (.point ⟨1, 2⟩)))]) = true := by
  refine parse_toCql (.disjunction (by decide) ?_)
  have hNumber : (-1 : Float).isFinite = true := by decide
  have hPoint : (Geometry.point ⟨1, 2⟩).ReadsBack := by decide +kernel
  simp only [List.forall_mem_cons, List.not_mem_nil, false_imp_iff, implies_true, and_true]
  refine ⟨.isNull _ _, .negation (.comparison .lt ⟨trivial, hNumber⟩ trivial), ?_, ?_⟩
  · exact .box trivial (by decide) (by decide)
  · exact .spatial .within trivial hPoint

/-! ## Parsed filters -/

/-- A parsed filter is printable if the geometries among its literals read back. -/
theorem printable_of_parse {source : String} {m : ℕ} {f : Filter} (h : parse source m = .ok f)
    (hGeometries : ∀ g ∈ f.geometries, g.ReadsBack) : f.Printable := by
  -- The lexer lets no infinite number through, which is the only other obstacle.
  obtain ⟨d, ks, -, hCuts, hSentence⟩ := cuts_of_parse h
  exact (wellFormed_of_sentence hSentence hCuts.finiteNumbers).printable hGeometries

/-- The text of a parsed filter is read again under the same limit, as an equal filter, exactly if
    the levels of that text are within the limit. -/
theorem parse_toCql_iff {source : String} {m : ℕ} {f : Filter} (h : parse source m = .ok f)
    (hGeometries : ∀ g ∈ f.geometries, g.ReadsBack) :
    (∃ f', parse f.toCql m = .ok f' ∧ f'.same f = true) ↔ f.nesting ≤ m := by
  obtain ⟨f', hSame, hParse⟩ := (printable_of_parse h hGeometries).reads_back.parse_iff
  constructor
  · rintro ⟨f'', hRead, -⟩
    exact ((hParse m f'').1 hRead).2
  · intro hm
    exact ⟨f', (hParse m f').2 ⟨rfl, hm⟩, hSame⟩

/-- A geometry that is read from another text than it is printed as. -/
theorem parse_toCql_iff_empty_point :
    (∃ f', parse (Filter.comparison .eq (.attr "a")
          (.literal (.geometry (.multiPoint [])))).toCql 0 = .ok f' ∧
        f'.same (.comparison .eq (.attr "a") (.literal (.geometry (.multiPoint [])))) = true) ↔
      (Filter.comparison .eq (.attr "a") (.literal (.geometry (.multiPoint [])))).nesting ≤ 0 := by
  have hParse : parse "a = point Empty" 0
      = .ok (.comparison .eq (.attr "a") (.literal (.geometry (.multiPoint [])))) := by
    have hCuts : Cuts "a = point Empty".toList
        [.name "a", .compare .eq, .geometry "point Empty"] [] :=
      .token rfl (.space rfl (.token rfl (.space rfl (.token rfl .done))))
    have hRight : Arithmetic .primary 0 [.geometry "point Empty"]
        (.literal (.geometry (.multiPoint []))) := .geometry rfl
    refine parse_of_sentence hCuts (d := 0) ?_ (Nat.le_refl 0)
    exact (Sentence.predicate (.comparison .eq (sum_of_unary (.operand (.name "a")))
      (sum_of_unary (.operand hRight)))).whole
  refine parse_toCql_iff hParse ?_
  intro g hMem
  obtain rfl := List.mem_singleton.1 hMem
  decide

/-! ## Sums

Operators of one level are read without any nesting, but each of them is printed in parentheses. -/

/-- A sum of `n + 1` terms. -/
def sumOf : ℕ → Expression
  | 0 => .attr "a"
  | n + 1 => .arithmetic .add (sumOf n) (.attr "a")

/-- The text of a sum without parentheses. -/
def sumChars : ℕ → List Char
  | 0 => "a".toList
  | n + 1 => sumChars n ++ " + a".toList

/-- A comparison with a sum on its left. -/
def sumFilter (n : ℕ) : Filter := .comparison .eq (sumOf n) (.attr "a")

theorem yields_a : Yields "a".toList [.name "a"] := yields_name "a"

theorem sum_reads (n : ℕ) : ∃ ks, Yields (sumChars n) ks ∧ Arithmetic .sum 0 ks (sumOf n) := by
  induction n with
  | zero => exact ⟨_, yields_a, sum_of_unary (.operand (.name "a"))⟩
  | succ n ih =>
    obtain ⟨ks, hYields, hSum⟩ := ih
    refine ⟨ks ++ [.arithmetic .add, .name "a"], ?_, ?_⟩
    · exact hYields.space ((yields_arithmetic .add).space yields_a)
    · exact .terms hSum (.inl rfl) (.factor (.operand (.name "a")))

/-- A comparison with a sum is read under every limit. -/
theorem parse_sum (n m : ℕ) :
    parse (String.ofList (sumChars n ++ " = a".toList)) m = .ok (sumFilter n) := by
  obtain ⟨ks, hYields, hSum⟩ := sum_reads n
  have hText := hYields.space ((yields_compare .eq).space yields_a)
  have hSentence := Sentence.predicate (.comparison .eq hSum (sum_of_unary (.operand (.name "a"))))
  refine parse_of_sentence ?_ hSentence.whole (Nat.zero_le m)
  rw [String.toList_ofList]
  exact hText.cuts

theorem nesting_sumOf (n : ℕ) : (sumOf n).nesting = n := by
  induction n with
  | zero => rfl
  | succ n ih => simp [sumOf, Expression.nesting, ih]

theorem printable_sumOf (n : ℕ) : (sumOf n).Printable := by
  induction n with
  | zero => trivial
  | succ n ih => exact ⟨ih, trivial⟩

/-- A sum with more terms than levels are allowed is not read again. -/
theorem parse_sumFilter_toCql {n m : ℕ} (h : m < n) (f' : Filter) :
    parse (sumFilter n).toCql m ≠ .ok f' := by
  intro hParse
  have hPrintable : (sumFilter n).Printable := .comparison .eq (printable_sumOf n) trivial
  obtain ⟨f, -, hIff⟩ := hPrintable.reads_back.parse_iff
  have hNesting : (sumFilter n).nesting = n := by
    simp [sumFilter, Filter.nesting, nesting_sumOf, Expression.nesting]
  have hLevels := ((hIff m f').1 hParse).2
  rw [hNesting] at hLevels
  exact absurd h (Nat.not_lt.2 hLevels)

/-- Sixty-six terms are read under a limit of 64 levels, and what is printed then is refused. -/
theorem sum_not_read_again :
    ∃ f, parse (String.ofList (sumChars 65 ++ " = a".toList)) 64 = .ok f ∧ f.geometries = [] ∧
      ∀ f', parse f.toCql 64 ≠ .ok f' :=
  ⟨sumFilter 65, parse_sum 65 64, rfl, parse_sumFilter_toCql (by decide)⟩

end GeoFilter
