import GeoFilter.Proofs.Parser.Accepted

set_option autoImplicit false

/-! # Cutting text into tokens, piece by piece

`Cuts cs ks rest` cuts the front of a text and stops at `rest`, with the whole text in view: a
token is as long as it can be, so what follows a piece has a say in how the piece is cut. Pieces
that stop where the next one starts are put together with `Cuts.trans`. -/

namespace GeoFilter.Cql

open Grammar

/-- The text `cs` is tokens of the kinds `ks` and then `rest`. -/
inductive Cuts : List Char → List TokenKind → List Char → Prop where
  | done {rest : List Char} : Cuts rest [] rest
  | space {c : Char} {cs rest : List Char} {ks : List TokenKind} (h : isSpace c)
      (hMore : Cuts cs ks rest) : Cuts (c :: cs) ks rest
  | token {first : Char} {cs rest : List Char} {kind : TokenKind} {n : Nat} {ks : List TokenKind}
      (h : scan first cs = some (kind, n)) (hMore : Cuts (cs.drop n) ks rest) :
      Cuts (first :: cs) (kind :: ks) rest

theorem Cuts.trans {cs mid rest : List Char} {ks ks' : List TokenKind} (h : Cuts cs ks mid)
    (h' : Cuts mid ks' rest) : Cuts cs (ks ++ ks') rest := by
  induction h with
  | done => exact h'
  | space h _ ih => exact .space h (ih h')
  | token h _ ih => exact .token h (ih h')

/-! ## The tokens of a text -/

/-- Characters that are not among those of a list fail its test, one by one. -/
theorem all_fail {test : Char → Bool} {cs : List Char} (h : cs.any test = false) :
    ∀ c ∈ cs, test c = false := by
  intro c hc
  rw [← Bool.not_eq_true]
  exact List.any_eq_false.1 h c hc

theorem scan_of_isSpace {c : Char} (h : isSpace c) (cs : List Char) : scan c cs = none := by
  unfold isSpace at h
  simp only [Bool.or_eq_true, beq_iff_eq] at h
  have hTests : ∀ c ∈ [' ', '\t', '\r', '\n'], startsWord c = false :=
    all_fail (by decide)
  rcases h with ((rfl | rfl) | rfl) | rfl <;>
  · unfold scan
    rw [if_neg (by decide), if_neg (by decide), hTests _ (by decide)]
    cases cs <;> rfl

/-- What the tokens of a text are after the spaces at its start. -/
theorem tokensFrom_eq (offset : Nat) (cs : List Char) :
    tokensFrom offset cs =
      match cs.dropWhile isSpace with
      | [] => .ok []
      | first :: rest =>
        let start := offset + byteLength (cs.takeWhile isSpace)
        match scan first rest with
        | none => .error (scanError start first rest)
        | some (kind, n) =>
          (tokensFrom (start + byteLength (first :: rest.take n)) (rest.drop n)).map fun others =>
            ⟨kind, String.ofList (first :: rest.take n), start⟩ :: others := by
  rw [tokensFrom.eq_def]
  split
  · next h =>
    obtain ⟨-, hRest⟩ := Prod.mk.inj h
    rw [hRest]
  · next start first rest h =>
    obtain ⟨hStart, hRest⟩ := Prod.mk.inj h
    -- The recursion takes a length proof along, so the scan is split, not rewritten.
    rewrite [hRest, hStart]
    cases hScan : scan first rest <;> simp only [hScan]

theorem tokensFrom_space {c : Char} (h : isSpace c) (offset : Nat) (cs : List Char) :
    tokensFrom offset (c :: cs) = tokensFrom (offset + c.utf8Size) cs := by
  rw [tokensFrom_eq, tokensFrom_eq]
  simp only [List.dropWhile_cons_of_pos h, List.takeWhile_cons_of_pos h, byteLength,
    Nat.add_assoc]

theorem tokensFrom_token {first : Char} {cs : List Char} {kind : TokenKind} {n : Nat}
    (h : scan first cs = some (kind, n)) (offset : Nat) :
    tokensFrom offset (first :: cs) =
      (tokensFrom (offset + byteLength (first :: cs.take n)) (cs.drop n)).map fun others =>
        ⟨kind, String.ofList (first :: cs.take n), offset⟩ :: others := by
  have hSpace : ¬ isSpace first := by
    intro hSpace
    rw [scan_of_isSpace hSpace] at h
    exact absurd h (by simp)
  rw [tokensFrom_eq]
  simp only [List.dropWhile_cons_of_neg hSpace, List.takeWhile_cons_of_neg hSpace, h, byteLength,
    Nat.add_zero]

theorem tokensFrom_of_cuts {cs : List Char} {ks : List TokenKind} (h : Cuts cs ks [])
    (offset : Nat) : ∃ ts, tokensFrom offset cs = .ok ts ∧ ts.map Token.kind = ks := by
  -- The induction needs the end of the text as a variable; only `done` uses it.
  generalize hRest : ([] : List Char) = rest at h
  induction h generalizing offset with
  | done =>
    subst hRest
    refine ⟨[], ?_, rfl⟩
    rw [tokensFrom_eq]
    rfl
  | space h _ ih =>
    rw [tokensFrom_space h]
    exact ih _ hRest
  | @token first cs rest kind n ks h _ ih =>
    obtain ⟨ts, hTokens, rfl⟩ := ih (offset + byteLength (first :: cs.take n)) hRest
    refine ⟨⟨kind, String.ofList (first :: cs.take n), offset⟩ :: ts, ?_, rfl⟩
    rw [tokensFrom_token h, hTokens]
    rfl

theorem cuts_of_tokensFrom {offset : Nat} {cs : List Char} {ts : List Token}
    (h : tokensFrom offset cs = .ok ts) : Cuts cs (ts.map Token.kind) [] := by
  cases hcs : cs with
  | nil =>
    rw [hcs, tokensFrom_eq] at h
    obtain rfl := Except.ok.inj h
    exact .done
  | cons first rest =>
    rw [hcs] at h
    -- A space is not a token, and every other character starts one or is an error.
    by_cases hSpace : isSpace first
    · rw [tokensFrom_space hSpace] at h
      exact .space hSpace (cuts_of_tokensFrom h)
    · cases hScan : scan first rest with
      | none =>
        rw [tokensFrom_eq] at h
        simp only [List.dropWhile_cons_of_neg hSpace, hScan] at h
        exact absurd h (by simp)
      | some token =>
        obtain ⟨kind, n⟩ := token
        rw [tokensFrom_token hScan] at h
        cases hMore : tokensFrom (offset + byteLength (first :: rest.take n)) (rest.drop n) with
        | error e =>
          rw [hMore] at h
          exact absurd h (by simp [Except.map])
        | ok others =>
          rw [hMore] at h
          obtain rfl := Except.ok.inj h
          exact .token hScan (cuts_of_tokensFrom hMore)
  termination_by cs.length
  decreasing_by all_goals simp only [hcs, List.length_cons, List.length_drop]; omega

theorem tokens_of_cuts {source : String} {ks : List TokenKind} (h : Cuts source.toList ks []) :
    ∃ ts, tokens source = .ok ts ∧ ts.map Token.kind = ks := tokensFrom_of_cuts h 0

theorem cuts_of_parse {source : String} {m : Nat} {f : Filter} (h : parse source m = .ok f) :
    ∃ d ks, d ≤ m ∧ Cuts source.toList ks [] ∧ Sentence .disjunction d ks f := by
  cases hTokens : tokens source with
  | error e =>
    rw [parse_of_tokens_error hTokens] at h
    exact absurd h (by simp)
  | ok ts =>
    obtain ⟨d, hd, hSentence⟩ := (parse_eq_ok_iff hTokens).1 h
    exact ⟨d, ts.map Token.kind, hd, cuts_of_tokensFrom hTokens, hSentence⟩

/-- Text that is cut into tokens is a filter exactly if they derive it within the limit. -/
theorem parse_of_cuts {source : String} {ks : List TokenKind} (h : Cuts source.toList ks [])
    {m : Nat} {f : Filter} :
    parse source m = .ok f ↔ ∃ d, d ≤ m ∧ Sentence .disjunction d ks f := by
  obtain ⟨ts, hTokens, rfl⟩ := tokens_of_cuts h
  exact parse_eq_ok_iff hTokens

end GeoFilter.Cql
