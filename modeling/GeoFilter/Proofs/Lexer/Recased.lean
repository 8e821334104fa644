import GeoFilter.Proofs.Lexer.Literal
import GeoFilter.Proofs.Lexer.Yields

set_option autoImplicit false

/-! # Texts that differ in letter case outside quotes

Two texts that differ only in the case of letters outside quotes are cut at the same places, into
tokens that differ only in the letters of names and of geometry literals. Text in quotes is left
alone, so the tokens must not disagree with the text on where quotes are: outside quoted tokens
there are none. -/

namespace GeoFilter.Cql

open Text

/-- The characters that quote a text or a name. -/
def isQuote (c : Char) : Bool := c == '\'' || c == '"'

/-- The quote that is open after a character, given the one that is open before it. -/
def quoteAfter : Option Char → Char → Option Char
  | none, c => if isQuote c then some c else none
  | some quote, c => if c = quote then none else some quote

/-- `Recased quote cs cs'`: the text `cs'` is `cs` but for the ASCII case of characters outside
    quotes, where the quote `quote` is open at the start. -/
inductive Recased : Option Char → List Char → List Char → Prop where
  | nil (quote : Option Char) : Recased quote [] []
  | outside {c c' : Char} {cs cs' : List Char} (hc : c'.toUpper = c.toUpper)
      (h : Recased (quoteAfter none c) cs cs') : Recased none (c :: cs) (c' :: cs')
  | inside {quote c : Char} {cs cs' : List Char}
      (h : Recased (quoteAfter (some quote) c) cs cs') : Recased (some quote) (c :: cs) (c :: cs')

variable {cs cs' : List Char}

theorem recased_nil {quote : Option Char} (h : Recased quote [] cs') : cs' = [] := by
  cases h
  rfl

theorem recased_outside {c : Char} (h : Recased none (c :: cs) cs') :
    ∃ c' rest, cs' = c' :: rest ∧ c'.toUpper = c.toUpper ∧
      Recased (quoteAfter none c) cs rest := by
  cases h with
  | outside hc h => exact ⟨_, _, rfl, hc, h⟩

theorem recased_inside {quote c : Char} (h : Recased (some quote) (c :: cs) cs') :
    ∃ rest, cs' = c :: rest ∧ Recased (if c = quote then none else some quote) cs rest := by
  cases h with
  | inside h => exact ⟨_, rfl, h⟩

instance decidableRecased :
    (quote : Option Char) → (cs cs' : List Char) → Decidable (Recased quote cs cs')
  | quote, [], [] => isTrue (.nil quote)
  | _, [], _ :: _ => isFalse fun h => List.cons_ne_nil _ _ (recased_nil h)
  | _, _ :: _, [] => isFalse nofun
  | none, c :: cs, c' :: cs' =>
    have := decidableRecased (quoteAfter none c) cs cs'
    decidable_of_iff (c'.toUpper = c.toUpper ∧ Recased (quoteAfter none c) cs cs')
      ⟨fun ⟨hc, h⟩ => .outside hc h, fun h => by
        obtain ⟨_, _, hEq, hc, h⟩ := recased_outside h
        obtain ⟨rfl, rfl⟩ := List.cons.inj hEq
        exact ⟨hc, h⟩⟩
  | some quote, c :: cs, c' :: cs' =>
    have := decidableRecased (quoteAfter (some quote) c) cs cs'
    decidable_of_iff (c' = c ∧ Recased (quoteAfter (some quote) c) cs cs')
      ⟨fun ⟨hc, h⟩ => hc.symm ▸ .inside h, fun h => by
        obtain ⟨_, hEq, h⟩ := recased_inside h
        obtain ⟨rfl, rfl⟩ := List.cons.inj hEq
        exact ⟨rfl, h⟩⟩

theorem Recased.upper {quote : Option Char} (h : Recased quote cs cs') :
    cs'.map Char.toUpper = cs.map Char.toUpper := by
  induction h with
  | nil => rfl
  | outside hc _ ih => rw [List.map_cons, List.map_cons, hc, ih]
  | inside _ ih => rw [List.map_cons, List.map_cons, ih]

/-- After text without quotes no quote is open. -/
theorem Recased.drop (h : Recased none cs cs') {n : ℕ}
    (hNone : ∀ c ∈ cs.take n, isQuote c = false) : Recased none (cs.drop n) (cs'.drop n) := by
  induction n generalizing cs cs' with
  | zero => exact h
  | succ n ih =>
    cases cs with
    | nil =>
      rw [recased_nil h]
      exact .nil none
    | cons c cs =>
      obtain ⟨c', rest, rfl, -, h⟩ := recased_outside h
      obtain ⟨hQuote, hOthers⟩ := List.forall_mem_cons.1 hNone
      rw [quoteAfter, hQuote, if_neg Bool.false_ne_true] at h
      exact ih h hOthers

/-! ## Quoted text -/

/-- Only the quote itself is the quote in upper case. -/
theorem eq_quote_iff {quote : Char} (h : isQuote quote = true) (c : Char) :
    c.toUpper = quote ↔ c = quote := by
  rw [isQuote, Bool.or_eq_true, beq_iff_eq, beq_iff_eq] at h
  rcases h with rfl | rfl <;> exact toUpper_eq_iff (by decide) c

theorem eq_quote_of_recased {quote c c' : Char} (h : isQuote quote = true)
    (hc : c'.toUpper = c.toUpper) : c' = quote ↔ c = quote := by
  rw [← eq_quote_iff h c', ← eq_quote_iff h c, hc]

/-- Quoted text is the same, and after it no quote is open. -/
theorem scanQuoted_recased {quote : Char} (hQuote : isQuote quote = true) {content : List Char}
    {n : ℕ} (h : Recased (some quote) cs cs') (hScan : scanQuoted quote cs = some (content, n)) :
    scanQuoted quote cs' = some (content, n) ∧ Recased none (cs.drop n) (cs'.drop n) := by
  induction cs using scanQuoted.induct quote generalizing cs' content n with
  | case1 => exact absurd hScan (by simp [scanQuoted])
  | case2 =>
    rw [scanQuoted, if_pos rfl] at hScan
    obtain ⟨rfl, rfl⟩ := Prod.mk.inj (Option.some.inj hScan)
    obtain ⟨rest', rfl, hRest⟩ := recased_inside h
    obtain rfl := recased_nil hRest
    exact ⟨by rw [scanQuoted, if_pos rfl], .nil none⟩
  | case3 c hc => exact absurd hScan (by simp [scanQuoted, hc])
  -- A doubled quote closes the quoted part and opens the next one.
  | case4 rest ih =>
    rw [scanQuoted, if_pos rfl, if_pos rfl] at hScan
    obtain ⟨⟨content', n'⟩, hContent, hPair⟩ := Option.map_eq_some_iff.1 hScan
    obtain ⟨rfl, rfl⟩ := Prod.mk.inj hPair
    obtain ⟨rest', rfl, hClosed⟩ := recased_inside h
    rw [if_pos rfl] at hClosed
    obtain ⟨d', rest', rfl, hd, hOpened⟩ := recased_outside hClosed
    obtain rfl := (eq_quote_of_recased hQuote hd).2 rfl
    rw [quoteAfter, if_pos hQuote] at hOpened
    obtain ⟨hScan', hMore⟩ := ih hOpened hContent
    refine ⟨?_, hMore⟩
    rw [scanQuoted, if_pos rfl, if_pos rfl, hScan']
    rfl
  | case5 d rest hd =>
    rw [scanQuoted, if_pos rfl, if_neg hd] at hScan
    obtain ⟨rfl, rfl⟩ := Prod.mk.inj (Option.some.inj hScan)
    obtain ⟨rest', rfl, hClosed⟩ := recased_inside h
    rw [if_pos rfl] at hClosed
    obtain ⟨d', rest', rfl, hd', -⟩ := recased_outside hClosed
    refine ⟨?_, hClosed⟩
    rw [scanQuoted, if_pos rfl, if_neg (mt (eq_quote_of_recased hQuote hd').1 hd)]
  | case6 c d rest hc ih =>
    rw [scanQuoted_cons hc] at hScan
    obtain ⟨⟨content', n'⟩, hContent, hPair⟩ := Option.map_eq_some_iff.1 hScan
    obtain ⟨rfl, rfl⟩ := Prod.mk.inj hPair
    obtain ⟨rest', rfl, hInside⟩ := recased_inside h
    rw [if_neg hc] at hInside
    obtain ⟨hScan', hMore⟩ := ih hInside hContent
    refine ⟨?_, hMore⟩
    rw [scanQuoted_cons hc, hScan']
    rfl

/-! ## Tokens outside quotes -/

/-- A test that the quotes fail is passed by other characters only. -/
theorem not_quote {test : Char → Bool} (hTest : ['\'', '"'].any test = false) {c : Char}
    (h : test c = true) : isQuote c = false := by
  have hFail := all_fail hTest
  rw [← Bool.not_eq_true]
  intro hQuote
  rw [isQuote, Bool.or_eq_true, beq_iff_eq, beq_iff_eq] at hQuote
  rcases hQuote with rfl | rfl
  · exact absurd (h.symm.trans (hFail _ (by decide))) (by decide)
  · exact absurd (h.symm.trans (hFail _ (by decide))) (by decide)

variable {first : Char} {rest : List Char} {kind : TokenKind} {n : ℕ}

theorem unquoted_of_scanNumber (h : scanNumber first rest = some (kind, n)) :
    ∀ c ∈ first :: rest.take n, isQuote c = false := by
  obtain ⟨x, hFinite, hPair⟩ := Option.map_eq_some_iff.1 h
  obtain ⟨-, rfl⟩ := Prod.mk.inj hPair
  have hMarks := Number.marks_of_readFloat (Option.filter_eq_some_iff.1 hFinite).1
  exact fun c hc => not_quote (by decide) (hMarks c hc)

/-- A geometry literal that is read as a geometry, or another token. -/
def IsRead : TokenKind → Prop
  | .geometry source => ∃ g, Geometry.ofWkt (Text.upper source) = .ok g
  | _ => True

theorem unquoted_of_scanWord (hFirst : startsWord first = true)
    (h : scanWord first rest = some (kind, n)) (hRead : IsRead kind) :
    ∀ c ∈ first :: rest.take n, isQuote c = false := by
  rcases scanWord_cases h with ⟨rfl, -⟩ | ⟨_, -, -, -, rfl⟩
  · rw [take_runLength]
    exact List.forall_mem_cons.2 ⟨not_quote (by decide) hFirst,
      fun c hc => not_quote (by decide) (List.mem_takeWhile_imp hc)⟩
  · obtain ⟨g, hg⟩ := hRead
    have hMarks := marks_of_scanWord h hg
    exact fun c hc => not_quote (by decide) (hMarks c hc)

theorem unquoted_of_scanMark (h : scanMark first rest = some (kind, n)) :
    ∀ c ∈ first :: rest.take n, isQuote c = false := by
  unfold scanMark at h
  split at h
  case h_15 => exact absurd h (by simp)
  all_goals
    obtain ⟨-, rfl⟩ := Prod.mk.inj (Option.some.inj h)
    simp [isQuote]

/-- Outside quotes no token holds a quote, if a geometry literal is read as a geometry. -/
theorem unquoted_of_scan (hText : first ≠ '\'') (hName : first ≠ '"')
    (h : scan first rest = some (kind, n)) (hRead : IsRead kind) :
    ∀ c ∈ first :: rest.take n, isQuote c = false := by
  rw [scan, if_neg hText, if_neg hName] at h
  split at h
  · exact unquoted_of_scanNumber h
  · split at h
    · next hWord => exact unquoted_of_scanWord hWord h hRead
    · exact unquoted_of_scanMark h

/-! ## Tokens -/

theorem scan_quote {quote : Char} (h : isQuote quote = true) :
    ∃ make : String → TokenKind, ∀ cs, scan quote cs
      = (scanQuoted quote cs).map fun (content, n) => (make (String.ofList content), n) := by
  rw [isQuote, Bool.or_eq_true, beq_iff_eq, beq_iff_eq] at h
  rcases h with rfl | rfl
  · exact ⟨.text, fun _ => rfl⟩
  · exact ⟨.quotedName, fun _ => rfl⟩

/-- A token is cut at the same place, and it is the same one but for the letters of a name or of a
    geometry literal. -/
theorem scan_recased {cs : List Char} (h : Recased none (first :: rest) cs)
    (hScan : scan first rest = some (kind, n)) (hRead : IsRead kind) :
    ∃ first' rest' kind', cs = first' :: rest' ∧ scan first' rest' = some (kind', n) ∧
      kind'.upper = kind.upper ∧ Recased none (rest.drop n) (rest'.drop n) := by
  have hUpper := h.upper
  have hDrop := h.drop (n := n + 1)
  obtain ⟨first', rest', rfl, hFirst, hRest⟩ := recased_outside h
  by_cases hQuote : isQuote first = true
  · obtain rfl := (eq_quote_of_recased hQuote hFirst).2 rfl
    rw [quoteAfter, if_pos hQuote] at hRest
    obtain ⟨make, hMake⟩ := scan_quote hQuote
    rw [hMake] at hScan
    obtain ⟨⟨content, n'⟩, hContent, hPair⟩ := Option.map_eq_some_iff.1 hScan
    obtain ⟨rfl, rfl⟩ := Prod.mk.inj hPair
    obtain ⟨hContent', hMore⟩ := scanQuoted_recased hQuote hRest hContent
    exact ⟨first', rest', _, rfl, by rw [hMake, hContent']; rfl, rfl, hMore⟩
  · have hOther : ∀ quote, isQuote quote = true → first ≠ quote ∧ first' ≠ quote := by
      intro quote hMark
      have hNe : first ≠ quote := fun hEq => hQuote (hEq ▸ hMark)
      exact ⟨hNe, mt (eq_quote_of_recased hMark hFirst).1 hNe⟩
    have hText := hOther '\'' rfl
    have hName := hOther '"' rfl
    -- Both tokens are the one of the text in upper case.
    have hScan' := scan_upper hText.2 hName.2 rest'
    rw [List.map_cons, List.map_cons] at hUpper
    obtain ⟨hFirst, hRest⟩ := List.cons.inj hUpper
    rw [hFirst, hRest, scan_upper hText.1 hName.1, hScan] at hScan'
    obtain ⟨⟨kind', n'⟩, hToken, hPair⟩ := Option.map_eq_some_iff.1 hScan'.symm
    obtain ⟨hKind, rfl⟩ := Prod.mk.inj hPair
    exact ⟨first', rest', kind', rfl, hToken, hKind,
      hDrop (unquoted_of_scan hText.1 hName.1 hScan hRead)⟩

/-- A text that is cut into tokens is cut into the same ones, but for the letters of names and of
    geometry literals. -/
theorem Cuts.recased {ks : List TokenKind} {cs cs' : List Char} (hCuts : Cuts cs ks [])
    (h : Recased none cs cs') (hRead : ∀ k ∈ ks, IsRead k) :
    ∃ ks', Cuts cs' ks' [] ∧ ks'.map TokenKind.upper = ks.map TokenKind.upper := by
  generalize hEnd : ([] : List Char) = tail at hCuts
  induction hCuts generalizing cs' with
  | done =>
    subst hEnd
    exact ⟨[], recased_nil h ▸ .done, rfl⟩
  | space hSpace _ ih =>
    obtain ⟨c', rest', rfl, hc, hMore⟩ := recased_outside h
    rw [quoteAfter, not_quote (by decide) hSpace, if_neg Bool.false_ne_true] at hMore
    obtain ⟨ks', hCuts', hKinds⟩ := ih hMore hRead hEnd
    refine ⟨ks', .space ?_ hCuts', hKinds⟩
    rwa [← ignoresCase_isSpace c', hc, ignoresCase_isSpace]
  | token hScan _ ih =>
    obtain ⟨hFirst, hOthers⟩ := List.forall_mem_cons.1 hRead
    obtain ⟨first', rest', kind', rfl, hScan', hKind, hMore⟩ := scan_recased h hScan hFirst
    obtain ⟨ks', hCuts', hKinds⟩ := ih hMore hOthers hEnd
    exact ⟨kind' :: ks', .token hScan' hCuts', by rw [List.map_cons, List.map_cons, hKind, hKinds]⟩

end GeoFilter.Cql
