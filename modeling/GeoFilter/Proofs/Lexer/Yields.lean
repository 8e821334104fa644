import GeoFilter.Cql.Printer
import GeoFilter.Proofs.Lexer.Pieces

set_option autoImplicit false

/-! # Text that is the same tokens wherever it stands

A text yields tokens if it is cut into them before any space, closing parenthesis or comma. The
pieces that filters are written with do, and what is put together from such texts with spaces,
commas and parentheses does again. -/

namespace GeoFilter.Cql

/-- Before a space, a closing parenthesis or a comma the text `cs` is the tokens `ks`. -/
def Yields (cs : List Char) (ks : List TokenKind) : Prop :=
  ∀ more, Divides more → Cuts (cs ++ more) ks more

theorem Yields.cuts {cs : List Char} {ks : List TokenKind} (h : Yields cs ks) : Cuts cs ks [] := by
  have hCuts := h [] divides_nil
  rwa [List.append_nil] at hCuts

/-! ## Putting texts together -/

section

variable {cs cs' : List Char} {ks ks' : List TokenKind}

theorem Yields.space (h : Yields cs ks) (h' : Yields cs' ks') :
    Yields (cs ++ ' ' :: cs') (ks ++ ks') := by
  intro more hMore
  rw [List.append_assoc, List.cons_append]
  exact (h _ (divides_cons (.inl rfl) _)).trans (.space rfl (h' more hMore))

theorem Yields.comma (h : Yields cs ks) (h' : Yields cs' ks') :
    Yields (cs ++ ',' :: ' ' :: cs') (ks ++ .comma :: ks') := by
  intro more hMore
  rw [List.append_assoc, List.cons_append, List.cons_append]
  refine (h _ (divides_cons (.inr (.inr rfl)) _)).trans ?_
  exact (cuts_comma _).trans (.space rfl (h' more hMore))

theorem Yields.enclosed (h : Yields cs ks) :
    Yields ('(' :: (cs ++ [')'])) (.opening :: (ks ++ [.closing])) := by
  intro more _
  rw [List.cons_append, List.append_assoc]
  exact (h _ (divides_cons (.inr (.inl rfl)) more)).enclosed

end

/-! ## Single tokens -/

theorem yields_token {first : Char} {rest : List Char} {kind : TokenKind}
    (h : scan first rest = some (kind, rest.length))
    (hName : ∀ name, kind = .name name → ¬ isGeometryWord name) : Yields (first :: rest) [kind] :=
  fun _ hMore => cuts_token h hMore hName

theorem yields_keyword (word : Keyword) : Yields word.word.toList [.keyword word] :=
  fun _ hMore => cuts_keyword word hMore

theorem yields_compare (op : CompareOp) : Yields op.symbol.toList [.compare op] :=
  fun _ hMore => cuts_compare op hMore

theorem yields_arithmetic (op : ArithmeticOp) : Yields op.symbol.toList [.arithmetic op] :=
  fun _ hMore => cuts_arithmetic op hMore

/-- A minus sign stays a token of its own before any text. -/
theorem Yields.minus {cs : List Char} {ks : List TokenKind} (h : Yields cs ks) :
    Yields ('-' :: cs) (.arithmetic .sub :: ks) := by
  intro more hMore
  have hScan : scan '-' (cs ++ more) = some (.arithmetic .sub, 0) := by
    cases cs ++ more <;> rfl
  exact .token hScan (h more hMore)

/-! ## Quoted text -/

theorem scanQuoted_cons {quote c : Char} (h : c ≠ quote) (cs : List Char) :
    scanQuoted quote (c :: cs)
      = (scanQuoted quote cs).map fun (content, n) => (c :: content, n + 1) := by
  cases cs with
  | nil => simp [scanQuoted, h]
  | cons d cs => rw [scanQuoted, if_neg h]

/-- Text in quotes, with the quotes inside it doubled, is read as itself. -/
theorem scanQuoted_doubled (quote : Char) (content : List Char) :
    scanQuoted quote (content.flatMap (fun c => if c = quote then [c, c] else [c]) ++ [quote])
      = some (content,
        (content.flatMap (fun c => if c = quote then [c, c] else [c]) ++ [quote]).length) := by
  induction content with
  | nil => simp [scanQuoted]
  | cons c content ih =>
    rw [List.flatMap_cons, List.append_assoc]
    -- A quote inside was doubled, and the scanner takes the pair as one character.
    by_cases hc : c = quote
    · subst hc
      rw [if_pos rfl, List.cons_append, List.cons_append, List.nil_append, scanQuoted, if_pos rfl,
        if_pos rfl, ih]
      rfl
    · rw [if_neg hc, List.cons_append, List.nil_append, scanQuoted_cons hc, ih]
      rfl

theorem yields_text (s : String) : Yields (textChars s) [.text s] := by
  refine yields_token ?_ (fun _ hKind => nomatch hKind)
  rw [scan, if_pos rfl, scanQuoted_doubled, Option.map_some]
  dsimp only
  rw [String.ofList_toList]

theorem yields_quotedName (name : String) :
    Yields (quoteWith '"' name.toList) [.quotedName name] := by
  refine yields_token ?_ (fun _ hKind => nomatch hKind)
  rw [scan, if_neg (by decide), if_pos rfl, scanQuoted_doubled, Option.map_some]
  dsimp only
  rw [String.ofList_toList]

/-! ## Words -/

/-- A decimal digit is one of the ten. -/
theorem eq_of_isDigit {c : Char} (h : c.isDigit) : ∃ k : Fin 10, c = Char.ofNat (48 + k) := by
  simp only [Char.isDigit, Bool.and_eq_true, decide_eq_true_eq, ge_iff_le,
    UInt32.le_iff_toNat_le] at h
  have hLow : 48 ≤ c.toNat := h.1
  have hHigh : c.toNat ≤ 57 := h.2
  refine ⟨⟨c.toNat - 48, by omega⟩, ?_⟩
  dsimp only
  rw [Nat.add_sub_cancel' hLow, Char.ofNat_toNat]

theorem startsWord_of_isDigit {c : Char} (h : c.isDigit) : startsWord c = false := by
  obtain ⟨k, rfl⟩ := eq_of_isDigit h
  -- Letters are a table, so each of the ten digits is looked up.
  revert k
  decide

theorem scan_of_startsWord {first : Char} (h : startsWord first) (rest : List Char) :
    scan first rest = scanWord first rest := by
  -- The tests before the one for words all ask for a character that starts no word.
  have hOther : ∀ c ∈ ['\'', '"', '.'], startsWord c = false := all_fail (by decide)
  have hNot : ∀ c ∈ ['\'', '"', '.'], first ≠ c := by
    rintro c hc rfl
    rw [hOther first hc] at h
    exact absurd h (by simp)
  have hDigit : first.isDigit = false := by
    rw [← Bool.not_eq_true]
    intro hDigit
    rw [startsWord_of_isDigit hDigit] at h
    exact absurd h (by simp)
  have hNumber : startsNumber first rest = false := by
    simp [startsNumber, hDigit, hNot '.' (by decide)]
  rw [scan, if_neg (hNot _ (by decide)), if_neg (hNot _ (by decide)), hNumber, if_pos h]
  rfl

/-- A word that starts no geometry literal is read up to its end. -/
theorem scan_word {first : Char} {rest more : List Char} (hFirst : startsWord first)
    (hRest : ∀ c ∈ rest, continuesWord c) (hMore : ∀ c ∈ more.head?, continuesWord c = false)
    (hGeometry : ¬ isGeometryWord (String.ofList (first :: rest))) :
    scan first (rest ++ more) = some (plainWord (String.ofList (first :: rest)), rest.length) := by
  have hRun : runLength continuesWord (rest ++ more) = rest.length := by
    rw [runLength_append hMore, runLength_eq_length hRest]
  rw [scan_of_startsWord hFirst, scanWord_eq]
  simp only [hRun, List.take_left, if_neg hGeometry]

/-- What a plain name is. -/
theorem isPlainName_iff {name : String} (h : isPlainName name) :
    ∃ first rest, name.toList = first :: rest ∧ startsWord first ∧
      (∀ c ∈ rest, continuesWord c) ∧ plainWord name = .name name ∧ ¬ isGeometryWord name := by
  unfold isPlainName at h
  split at h
  · exact absurd h (by simp)
  · next first rest hName =>
    simp only [Bool.and_eq_true, Option.isNone_iff_eq_none, Bool.not_eq_true',
      List.all_eq_true] at h
    obtain ⟨⟨⟨hFirst, hRest⟩, hKeyword⟩, hGeometry⟩ := h
    refine ⟨first, rest, hName, hFirst, hRest, ?_, ?_⟩
    · unfold plainWord
      rw [hKeyword]
    · simp [hGeometry]

theorem cuts_plainName {name : String} (h : isPlainName name) {more : List Char}
    (hMore : ∀ c ∈ more.head?, continuesWord c = false) :
    Cuts (name.toList ++ more) [.name name] more := by
  obtain ⟨first, rest, hName, hFirst, hRest, hWord, hGeometry⟩ := isPlainName_iff h
  have hText : String.ofList (first :: rest) = name := by rw [← hName, String.ofList_toList]
  rw [hName, List.cons_append]
  rw [← hText] at hWord hGeometry
  have hScan := scan_word hFirst hRest hMore hGeometry
  rw [hWord, hText] at hScan
  refine .token hScan ?_
  rw [List.drop_left]
  exact .done

/-- The token that an attribute name is written as. -/
def nameToken (name : String) : TokenKind :=
  if isPlainName name then .name name else .quotedName name

theorem yields_name (name : String) : Yields (nameChars name) [nameToken name] := by
  unfold nameChars nameToken
  split
  · next h => exact fun more hMore => cuts_plainName h (hMore.not continuesWord (by decide))
  · exact yields_quotedName name

/-- A function call. -/
theorem Yields.call {name : String} {cs : List Char} {ks : List TokenKind} (h : Yields cs ks)
    (hName : isPlainName name) :
    Yields (name.toList ++ '(' :: (cs ++ [')']))
      (.name name :: .opening :: (ks ++ [.closing])) := by
  intro more hMore
  have hOpening : ∀ c ∈ ('(' :: (cs ++ [')'] ++ more)).head?, continuesWord c = false := by
    intro c hc
    obtain rfl := Option.some.inj hc
    decide
  rw [List.append_assoc, List.cons_append]
  exact (cuts_plainName hName hOpening).trans (h.enclosed more hMore)

end GeoFilter.Cql
