import GeoFilter.Proofs.Lexer.Append

set_option autoImplicit false

/-! # Pieces of CQL text

How each piece that filters are written with is cut: parentheses and commas, operators, words,
names and texts. -/

namespace GeoFilter.Cql

/-! ## Punctuation -/

theorem scan_opening (cs : List Char) : scan '(' cs = some (.opening, 0) := by
  cases cs <;> rfl

theorem scan_closing (cs : List Char) : scan ')' cs = some (.closing, 0) := by
  cases cs <;> rfl

theorem scan_comma (cs : List Char) : scan ',' cs = some (.comma, 0) := by
  cases cs <;> rfl

theorem cuts_opening (more : List Char) : Cuts ('(' :: more) [.opening] more :=
  .token (scan_opening more) .done

theorem cuts_closing (more : List Char) : Cuts (')' :: more) [.closing] more :=
  .token (scan_closing more) .done

theorem cuts_comma (more : List Char) : Cuts (',' :: more) [.comma] more :=
  .token (scan_comma more) .done

/-- Parentheses around a text. -/
theorem Cuts.enclosed {cs more : List Char} {ks : List TokenKind}
    (h : Cuts (cs ++ ')' :: more) ks (')' :: more)) :
    Cuts ('(' :: (cs ++ ')' :: more)) (.opening :: (ks ++ [.closing])) more :=
  (cuts_opening _).trans (h.trans (cuts_closing more))

/-! ## Operators and words -/

theorem cuts_keyword (word : Keyword) {more : List Char} (h : Divides more) :
    Cuts (word.word.toList ++ more) [.keyword word] more := by
  have hScan : ∃ c cs, word.word.toList = c :: cs ∧
      scan c cs = some (.keyword word, cs.length) := by
    cases word <;> exact ⟨_, _, rfl, rfl⟩
  obtain ⟨c, cs, hWord, hScan⟩ := hScan
  rw [hWord]
  exact cuts_token hScan h (by simp)

theorem cuts_compare (op : CompareOp) {more : List Char} (h : Divides more) :
    Cuts (op.symbol.toList ++ more) [.compare op] more := by
  have hScan : ∃ c cs, op.symbol.toList = c :: cs ∧
      scan c cs = some (.compare op, cs.length) := by
    cases op <;> exact ⟨_, _, rfl, rfl⟩
  obtain ⟨c, cs, hSymbol, hScan⟩ := hScan
  rw [hSymbol]
  exact cuts_token hScan h (by simp)

theorem cuts_arithmetic (op : ArithmeticOp) {more : List Char} (h : Divides more) :
    Cuts (op.symbol.toList ++ more) [.arithmetic op] more := by
  have hScan : ∃ c cs, op.symbol.toList = c :: cs ∧
      scan c cs = some (.arithmetic op, cs.length) := by
    cases op <;> exact ⟨_, _, rfl, rfl⟩
  obtain ⟨c, cs, hSymbol, hScan⟩ := hScan
  rw [hSymbol]
  exact cuts_token hScan h (by simp)

end GeoFilter.Cql
