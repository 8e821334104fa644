import GeoFilter.Proofs.Lexer.Cuts

set_option autoImplicit false

/-! # Tokens and the text after them

A token stays the same when other text follows it that starts with a space, a closing parenthesis
or a comma. Only a word for a geometry type has to look further: a space and a parenthesis after
it would make it a literal, a closing parenthesis or a comma cannot. -/

namespace GeoFilter.Cql

open Grammar

/-- The text is at its end, or goes on with a space, a closing parenthesis or a comma. -/
def Divides (more : List Char) : Prop := ∀ c ∈ more.head?, c = ' ' ∨ c = ')' ∨ c = ','

/-- The text is at its end, or goes on with a closing parenthesis or a comma. -/
def Closes (more : List Char) : Prop := ∀ c ∈ more.head?, c = ')' ∨ c = ','

theorem Closes.divides {more : List Char} (h : Closes more) : Divides more :=
  fun c hc => .inr (h c hc)

theorem divides_nil : Divides [] := fun _ hc => nomatch hc

theorem divides_cons {c : Char} (h : c = ' ' ∨ c = ')' ∨ c = ',') (cs : List Char) :
    Divides (c :: cs) := by
  intro c' hc
  obtain rfl := Option.some.inj hc
  exact h

theorem closes_cons {c : Char} (h : c = ')' ∨ c = ',') (cs : List Char) : Closes (c :: cs) := by
  intro c' hc
  obtain rfl := Option.some.inj hc
  exact h

/-- A test that the dividing characters fail is failed by the text that they start. -/
theorem Divides.not {more : List Char} (h : Divides more) (test : Char → Bool)
    (hTest : [' ', ')', ','].any test = false) : ∀ c ∈ more.head?, test c = false := by
  intro c hc
  exact all_fail hTest c (by simpa using h c hc)

theorem Closes.not {more : List Char} (h : Closes more) (test : Char → Bool)
    (hTest : [')', ','].any test = false) : ∀ c ∈ more.head?, test c = false := by
  intro c hc
  exact all_fail hTest c (by simpa using h c hc)

/-! ## Runs of characters -/

theorem runLength_le (test : Char → Bool) (cs : List Char) : runLength test cs ≤ cs.length :=
  (List.takeWhile_sublist test).length_le

theorem take_runLength (test : Char → Bool) (cs : List Char) :
    cs.take (runLength test cs) = cs.takeWhile test :=
  (List.prefix_iff_eq_take.1 (List.takeWhile_prefix test)).symm

theorem drop_runLength (test : Char → Bool) (cs : List Char) :
    cs.drop (runLength test cs) = cs.dropWhile test := by
  have hSplit := List.takeWhile_append_dropWhile (p := test) (l := cs)
  calc cs.drop (runLength test cs)
      = (cs.takeWhile test ++ cs.dropWhile test).drop (cs.takeWhile test).length := by
        rw [hSplit, runLength]
    _ = cs.dropWhile test := List.drop_left

theorem runLength_cons (test : Char → Bool) (c : Char) (cs : List Char) :
    runLength test (c :: cs) = if test c then runLength test cs + 1 else 0 := by
  unfold runLength
  rw [List.takeWhile_cons]
  split <;> rfl

/-- A text of characters of one kind is one run. -/
theorem runLength_eq_length {test : Char → Bool} {cs : List Char} (h : ∀ c ∈ cs, test c) :
    runLength test cs = cs.length := by
  induction cs with
  | nil => rfl
  | cons c cs ih =>
    rw [runLength_cons, if_pos (h c List.mem_cons_self),
      ih fun c' hc => h c' (List.mem_cons_of_mem c hc), List.length_cons]

/-- A run ends before text whose first character does not belong to it. -/
theorem runLength_append {test : Char → Bool} {more : List Char}
    (h : ∀ c ∈ more.head?, test c = false) (cs : List Char) :
    runLength test (cs ++ more) = runLength test cs := by
  induction cs with
  | nil =>
    cases more with
    | nil => rfl
    | cons c more => simp [h c rfl, runLength]
  | cons c cs ih => rw [List.cons_append, runLength_cons, runLength_cons, ih]

/-- A run that ends within a text does not see what follows. -/
theorem runLength_append_of_lt {test : Char → Bool} {cs : List Char}
    (h : runLength test cs < cs.length) (more : List Char) :
    runLength test (cs ++ more) = runLength test cs := by
  induction cs with
  | nil => exact absurd h (Nat.not_lt_zero _)
  | cons c cs ih =>
    rw [runLength_cons] at h
    rw [List.cons_append, runLength_cons, runLength_cons]
    split
    · next hc =>
      rw [if_pos hc, List.length_cons] at h
      rw [ih (Nat.lt_of_succ_lt_succ h)]
    · rfl

/-! ## Quoted text -/

theorem scanQuoted_append {quote : Char} {cs content more : List Char} {n : Nat}
    (h : scanQuoted quote cs = some (content, n)) (hMore : more.head? ≠ some quote) :
    n ≤ cs.length ∧ scanQuoted quote (cs ++ more) = some (content, n) := by
  induction cs using scanQuoted.induct quote generalizing content n with
  | case1 => exact absurd h (by simp [scanQuoted])
  -- The closing quote is the last character, and what follows must not double it.
  | case2 =>
    rw [scanQuoted, if_pos rfl] at h
    obtain ⟨rfl, rfl⟩ := Prod.mk.inj (Option.some.inj h)
    refine ⟨Nat.le_refl 1, ?_⟩
    cases more with
    | nil => simp [scanQuoted]
    | cons c more =>
      have hc : ¬ c = quote := fun hc => hMore (congrArg some hc)
      simp [scanQuoted, hc]
  | case3 c hc => exact absurd h (by simp [scanQuoted, hc])
  | case4 rest ih =>
    rw [scanQuoted, if_pos rfl, if_pos rfl] at h
    obtain ⟨⟨content', n'⟩, hRest, hPair⟩ := Option.map_eq_some_iff.1 h
    obtain ⟨rfl, rfl⟩ := Prod.mk.inj hPair
    obtain ⟨hLength, hAppend⟩ := ih hRest
    refine ⟨by simp only [List.length_cons]; omega, ?_⟩
    rw [List.cons_append, List.cons_append, scanQuoted, if_pos rfl, if_pos rfl, hAppend]
    rfl
  | case5 d rest hd =>
    rw [scanQuoted, if_pos rfl, if_neg hd] at h
    obtain ⟨rfl, rfl⟩ := Prod.mk.inj (Option.some.inj h)
    refine ⟨by simp only [List.length_cons]; omega, ?_⟩
    rw [List.cons_append, List.cons_append, scanQuoted, if_pos rfl, if_neg hd]
  | case6 c d rest hc ih =>
    rw [scanQuoted, if_neg hc] at h
    obtain ⟨⟨content', n'⟩, hRest, hPair⟩ := Option.map_eq_some_iff.1 h
    obtain ⟨rfl, rfl⟩ := Prod.mk.inj hPair
    obtain ⟨hLength, hAppend⟩ := ih hRest
    refine ⟨by simp only [List.length_cons] at *; omega, ?_⟩
    rw [List.cons_append, List.cons_append, scanQuoted, if_neg hc, ← List.cons_append, hAppend]
    rfl

/-! ## Numbers -/

theorem fractionLength_le (cs : List Char) : fractionLength cs ≤ cs.length := by
  unfold fractionLength
  split
  · next cs =>
    have hRun := runLength_le Char.isDigit cs
    simp only [List.length_cons]
    omega
  · exact Nat.zero_le _

theorem fractionLength_append {more : List Char} (h : Divides more) (cs : List Char) :
    fractionLength (cs ++ more) = fractionLength cs := by
  have hDigit := h.not Char.isDigit (by decide)
  cases cs with
  | nil =>
    cases more with
    | nil => rfl
    | cons c more =>
      have hPoint := h.not (· == '.') (by decide) c rfl
      rw [List.nil_append, fractionLength]
      · rfl
      · rintro cs' hcs
        rw [(List.cons.inj hcs).1] at hPoint
        exact absurd hPoint (by decide)
  | cons c cs =>
    by_cases hc : c = '.'
    · subst hc
      show 1 + runLength Char.isDigit (cs ++ more) = 1 + runLength Char.isDigit cs
      rw [runLength_append hDigit]
    · simp [fractionLength, hc]

theorem exponentLength_le (cs : List Char) : exponentLength cs ≤ cs.length := by
  unfold exponentLength
  split
  · exact Nat.le_refl _
  · next e cs =>
    split
    · split
      · exact Nat.zero_le _
      · next sign digits =>
        have hRun := runLength_le Char.isDigit digits
        have hRun' := runLength_le Char.isDigit (sign :: digits)
        simp only [List.length_cons] at *
        split <;> split <;> omega
    · exact Nat.zero_le _

theorem exponentLength_append {more : List Char} (h : Divides more) (cs : List Char) :
    exponentLength (cs ++ more) = exponentLength cs := by
  have hDigit := h.not Char.isDigit (by decide)
  have hNone : runLength Char.isDigit more = 0 := runLength_append hDigit []
  cases cs with
  | nil =>
    cases more with
    | nil => rfl
    | cons c more =>
      have hLetter := h.not (fun c => c == 'e' || c == 'E') (by decide) c rfl
      simp only [Bool.or_eq_false_iff, beq_eq_false_iff_ne] at hLetter
      simp [exponentLength, hLetter.1, hLetter.2]
  | cons e cs =>
    cases cs with
    | nil =>
      cases more with
      | nil => rfl
      | cons c more =>
        have hSign := h.not (fun c => c == '+' || c == '-') (by decide) c rfl
        simp only [Bool.or_eq_false_iff, beq_eq_false_iff_ne] at hSign
        simp [exponentLength, hSign.1, hSign.2, hNone]
    | cons sign digits =>
      simp only [exponentLength, List.cons_append, runLength_append hDigit, runLength_cons]

theorem numberLength_le (first : Char) (rest : List Char) :
    numberLength first rest ≤ rest.length := by
  have hWhole := runLength_le Char.isDigit rest
  have hFraction := fractionLength_le (rest.drop (runLength Char.isDigit rest))
  unfold numberLength
  dsimp only
  split
  · have hExponent := exponentLength_le (rest.drop (runLength Char.isDigit rest))
    simp only [List.length_drop] at *
    omega
  · have hExponent := exponentLength_le (rest.drop (runLength Char.isDigit rest
      + fractionLength (rest.drop (runLength Char.isDigit rest))))
    simp only [List.length_drop] at *
    omega

theorem numberLength_append {more : List Char} (h : Divides more) (first : Char)
    (rest : List Char) : numberLength first (rest ++ more) = numberLength first rest := by
  have hDigit := h.not Char.isDigit (by decide)
  have hWhole := runLength_le Char.isDigit rest
  have hFraction := fractionLength_le (rest.drop (runLength Char.isDigit rest))
  rw [List.length_drop] at hFraction
  unfold numberLength
  simp only [runLength_append hDigit, List.drop_append_of_le_length hWhole,
    fractionLength_append h]
  split
  · rw [List.drop_append_of_le_length hWhole, exponentLength_append h]
  · rw [List.drop_append_of_le_length (by omega), exponentLength_append h]

theorem startsNumber_append {more : List Char} (h : Divides more) (first : Char)
    (rest : List Char) : startsNumber first (rest ++ more) = startsNumber first rest := by
  unfold startsNumber
  cases rest with
  | nil =>
    cases more with
    | nil => rfl
    | cons c more => simp [h.not Char.isDigit (by decide) c rfl]
  | cons c rest => rfl

theorem scanNumber_append {more : List Char} (h : Divides more) {first : Char}
    {rest : List Char} {token : TokenKind × Nat} (hScan : scanNumber first rest = some token) :
    token.2 ≤ rest.length ∧ scanNumber first (rest ++ more) = some token := by
  have hLength := numberLength_le first rest
  have hTake : (rest ++ more).take (numberLength first rest)
      = rest.take (numberLength first rest) := List.take_append_of_le_length hLength
  unfold scanNumber at *
  simp only [numberLength_append h, hTake]
  refine ⟨?_, hScan⟩
  obtain ⟨x, -, rfl⟩ := Option.map_eq_some_iff.1 hScan
  exact hLength

/-! ## Geometry literals -/

theorem closingLength_cons (depth : Nat) (c : Char) (cs : List Char) :
    closingLength depth (c :: cs) =
      if c = '(' then (closingLength (depth + 1) cs).map (· + 1)
      else if c = ')' then
        match depth with
        | 0 => some 1
        | depth + 1 => (closingLength depth cs).map (· + 1)
      else (closingLength depth cs).map (· + 1) := by
  rewrite [closingLength.eq_def]
  rfl

theorem closingLength_append {depth n : Nat} {cs : List Char} (h : closingLength depth cs = some n)
    (more : List Char) : n ≤ cs.length ∧ closingLength depth (cs ++ more) = some n := by
  induction cs generalizing depth n with
  | nil => exact absurd h (by simp [closingLength])
  | cons c cs ih =>
    rw [List.cons_append, closingLength_cons]
    rw [closingLength_cons] at h
    split at h
    · next hOpening =>
      obtain ⟨n', hRest, rfl⟩ := Option.map_eq_some_iff.1 h
      obtain ⟨hLength, hAppend⟩ := ih hRest
      rw [if_pos hOpening, hAppend]
      exact ⟨Nat.succ_le_succ hLength, rfl⟩
    · next hOpening =>
      rw [if_neg hOpening]
      split at h
      · next hClosing =>
        rw [if_pos hClosing]
        -- The outermost parenthesis closes: nothing after it is looked at.
        cases depth with
        | zero =>
          obtain rfl := Option.some.inj h
          exact ⟨Nat.succ_le_succ (Nat.zero_le _), rfl⟩
        | succ depth =>
          obtain ⟨n', hRest, rfl⟩ := Option.map_eq_some_iff.1 h
          obtain ⟨hLength, hAppend⟩ := ih hRest
          simp only [hAppend]
          exact ⟨Nat.succ_le_succ hLength, rfl⟩
      · next hClosing =>
        obtain ⟨n', hRest, rfl⟩ := Option.map_eq_some_iff.1 h
        obtain ⟨hLength, hAppend⟩ := ih hRest
        rw [if_neg hClosing, hAppend]
        exact ⟨Nat.succ_le_succ hLength, rfl⟩

/-- The length of the dimension word that a text starts with, if it starts with one. -/
def markerLength (cs : List Char) : Nat :=
  match (cs.take 2).map Char.toUpper with
  | 'Z' :: 'M' :: _ => 2
  | 'Z' :: _ => 1
  | 'M' :: _ => 1
  | _ => 0

theorem dimensionLength_eq (cs : List Char) :
    dimensionLength cs = if markerLength cs = 0 then 0
      else markerLength cs + runLength isSpace (cs.drop (markerLength cs)) := rfl

theorem markerLength_le (cs : List Char) : markerLength cs ≤ cs.length := by
  unfold markerLength
  rcases cs with _ | ⟨c, _ | ⟨c', cs⟩⟩
  · exact Nat.le_refl 0
  · simp only [List.take_succ_cons, List.take_nil, List.map_cons, List.map_nil, List.length_cons]
    split <;> simp_all
  · simp only [List.length_cons]
    split <;> omega

theorem dimensionLength_le (cs : List Char) : dimensionLength cs ≤ cs.length := by
  have hMarker := markerLength_le cs
  have hRun := runLength_le isSpace (cs.drop (markerLength cs))
  rw [List.length_drop] at hRun
  rw [dimensionLength_eq]
  split <;> omega

/-- The dimension word is decided by the text before a parenthesis or a comma. -/
theorem markerLength_append {more : List Char} (h : Closes more) (cs : List Char) :
    markerLength (cs ++ more) = markerLength cs := by
  have hLetter := h.not (fun c => c.toUpper == 'Z' || c.toUpper == 'M') (by decide)
  rcases cs with _ | ⟨c, _ | ⟨c', cs⟩⟩
  · cases more with
    | nil => rfl
    | cons m more =>
      have hm := hLetter m rfl
      simp only [Bool.or_eq_false_iff, beq_eq_false_iff_ne] at hm
      simp only [markerLength, List.nil_append, List.take_succ_cons, List.map_cons, List.take_nil,
        List.map_nil]
      split <;> simp_all
  · cases more with
    | nil => rfl
    | cons m more =>
      have hm := hLetter m rfl
      simp only [Bool.or_eq_false_iff, beq_eq_false_iff_ne] at hm
      simp only [markerLength, List.cons_append, List.nil_append, List.take_succ_cons,
        List.take_zero, List.map_cons, List.take_nil, List.map_nil]
      split <;> simp_all
  · rfl

/-- A dimension word that ends within a text does not see what follows. -/
theorem markerLength_append_of_lt {cs : List Char} (h : markerLength cs < cs.length)
    (more : List Char) : markerLength (cs ++ more) = markerLength cs := by
  rcases cs with _ | ⟨c, _ | ⟨c', cs⟩⟩
  · exact absurd h (Nat.not_lt_zero _)
  · unfold markerLength at *
    rcases more with _ | ⟨m, more⟩
    · rfl
    · simp only [List.cons_append, List.nil_append, List.take_succ_cons, List.take_zero,
        List.map_cons, List.take_nil, List.map_nil, List.length_cons] at *
      split <;> simp_all
  · rfl

theorem dimensionLength_append {more : List Char} (h : Closes more) (cs : List Char) :
    dimensionLength (cs ++ more) = dimensionLength cs := by
  rw [dimensionLength_eq, dimensionLength_eq, markerLength_append h,
    List.drop_append_of_le_length (markerLength_le cs),
    runLength_append (h.not isSpace (by decide))]

theorem dimensionLength_append_of_lt {cs : List Char} (h : dimensionLength cs < cs.length)
    (more : List Char) : dimensionLength (cs ++ more) = dimensionLength cs := by
  rw [dimensionLength_eq] at h
  have hMarker : markerLength cs < cs.length := by split at h <;> omega
  rw [dimensionLength_eq, dimensionLength_eq, markerLength_append_of_lt hMarker]
  split
  · rfl
  · next hSome =>
    rw [if_neg hSome] at h
    rw [List.drop_append_of_le_length (Nat.le_of_lt hMarker), runLength_append_of_lt]
    rw [List.length_drop]
    omega

/-- Where the body of a geometry literal would start. -/
def bodyStart (cs : List Char) : Nat :=
  runLength isSpace cs + dimensionLength (cs.drop (runLength isSpace cs))

theorem bodyStart_le (cs : List Char) : bodyStart cs ≤ cs.length := by
  have hRun := runLength_le isSpace cs
  have hDimension := dimensionLength_le (cs.drop (runLength isSpace cs))
  rw [List.length_drop] at hDimension
  unfold bodyStart
  omega

theorem bodyStart_append {more : List Char} (h : Closes more) (cs : List Char) :
    bodyStart (cs ++ more) = bodyStart cs := by
  unfold bodyStart
  rw [runLength_append (h.not isSpace (by decide)),
    List.drop_append_of_le_length (runLength_le isSpace cs), dimensionLength_append h]

theorem bodyStart_append_of_lt {cs : List Char} (h : bodyStart cs < cs.length)
    (more : List Char) : bodyStart (cs ++ more) = bodyStart cs := by
  have hRun : runLength isSpace cs < cs.length := Nat.lt_of_le_of_lt (Nat.le_add_right _ _) h
  have hDimension : dimensionLength (cs.drop (runLength isSpace cs))
      < (cs.drop (runLength isSpace cs)).length := by
    unfold bodyStart at h
    rw [List.length_drop]
    omega
  unfold bodyStart
  rw [runLength_append_of_lt hRun, List.drop_append_of_le_length (runLength_le isSpace cs),
    dimensionLength_append_of_lt hDimension]

/-- What stands where the body of a geometry literal would start. -/
def bodyTail (start : Nat) : List Char → LiteralTail
  | '(' :: body =>
    match closingLength 0 body with
    | some n => .length (start + 1 + n)
    | none => .unclosed
  | body =>
    if (body.take 5).map Char.toUpper = ['E', 'M', 'P', 'T', 'Y'] then .length (start + 5)
    else .absent

theorem literalTail_eq (cs : List Char) :
    literalTail cs = bodyTail (bodyStart cs) (cs.drop (bodyStart cs)) := rfl

theorem bodyTail_opening (start : Nat) (body : List Char) :
    bodyTail start ('(' :: body) =
      match closingLength 0 body with
      | some n => .length (start + 1 + n)
      | none => .unclosed := rfl

theorem bodyTail_other (start : Nat) {body : List Char} (h : body.head? ≠ some '(') :
    bodyTail start body =
      if (body.take 5).map Char.toUpper = ['E', 'M', 'P', 'T', 'Y'] then .length (start + 5)
      else .absent := by
  unfold bodyTail
  split
  · exact absurd rfl h
  · rfl

/-- The word EMPTY takes five characters. -/
theorem length_of_empty {cs : List Char}
    (h : (cs.take 5).map Char.toUpper = ['E', 'M', 'P', 'T', 'Y']) : 5 ≤ cs.length := by
  have hLength := congrArg List.length h
  simp only [List.length_map, List.length_take, List.length_cons, List.length_nil] at hLength
  omega

/-- The word EMPTY is not completed by a parenthesis or a comma. -/
theorem empty_append_iff {more : List Char} (h : Closes more) (cs : List Char) :
    ((cs ++ more).take 5).map Char.toUpper = ['E', 'M', 'P', 'T', 'Y']
      ↔ (cs.take 5).map Char.toUpper = ['E', 'M', 'P', 'T', 'Y'] := by
  constructor
  · intro hEmpty
    by_cases hLength : 5 ≤ cs.length
    · rwa [List.take_append_of_le_length hLength] at hEmpty
    · cases more with
      | nil => rwa [List.append_nil] at hEmpty
      | cons m more =>
        -- A word that the next text completes would have its first character as a letter.
        have hLetter := h.not (fun c => ['E', 'M', 'P', 'T', 'Y'].contains c.toUpper) (by decide) m
          rfl
        have hMem : m.toUpper ∈ ['E', 'M', 'P', 'T', 'Y'] := by
          rw [← hEmpty]
          refine List.mem_map_of_mem ?_
          rw [List.take_append, List.mem_append]
          refine .inr ?_
          rw [List.take_cons (by omega)]
          exact List.mem_cons_self
        rw [← List.contains_iff_mem, hLetter] at hMem
        exact absurd hMem (by simp)
  · intro hEmpty
    rwa [List.take_append_of_le_length (length_of_empty hEmpty)]

/-- A geometry literal ends with itself, whatever follows. -/
theorem literalTail_append_length {cs : List Char} {m : Nat} (h : literalTail cs = .length m)
    (more : List Char) : m ≤ cs.length ∧ literalTail (cs ++ more) = .length m := by
  -- There is a body, so where it starts is decided before the text ends.
  have hBody : bodyStart cs < cs.length := by
    apply Nat.lt_of_not_le
    intro hEnd
    rw [literalTail_eq, List.drop_of_length_le hEnd] at h
    exact absurd h (by simp [bodyTail])
  have hLength : (cs.drop (bodyStart cs)).length = cs.length - bodyStart cs := List.length_drop
  rw [literalTail_eq, bodyStart_append_of_lt hBody,
    List.drop_append_of_le_length (Nat.le_of_lt hBody)]
  rw [literalTail_eq] at h
  generalize cs.drop (bodyStart cs) = body at *
  cases body with
  | nil => exact absurd h (by simp [bodyTail])
  | cons c body =>
    rw [List.length_cons] at hLength
    by_cases hc : c = '('
    · subst hc
      rw [List.cons_append, bodyTail_opening]
      rw [bodyTail_opening] at h
      cases hClosing : closingLength 0 body with
      | none => simp [hClosing] at h
      | some n =>
        obtain ⟨hn, hAppend⟩ := closingLength_append hClosing more
        simp only [hClosing, LiteralTail.length.injEq] at h
        simp only [hAppend, LiteralTail.length.injEq]
        omega
    · have hHead : (c :: body).head? ≠ some '(' := by simpa using hc
      have hHead' : (c :: body ++ more).head? ≠ some '(' := by simpa using hc
      rw [bodyTail_other _ hHead] at h
      rw [bodyTail_other _ hHead']
      split at h
      · next hEmpty =>
        have hFive := length_of_empty hEmpty
        rw [List.take_append_of_le_length hFive, if_pos hEmpty]
        simp only [LiteralTail.length.injEq, List.length_cons] at *
        omega
      · exact absurd h (by simp)

/-- A parenthesis or a comma does not make a geometry literal of a word. -/
theorem literalTail_append_absent {cs more : List Char} (h : literalTail cs = .absent)
    (hMore : Closes more) : literalTail (cs ++ more) = .absent := by
  rw [literalTail_eq, bodyStart_append hMore, List.drop_append_of_le_length (bodyStart_le cs)]
  rw [literalTail_eq] at h
  generalize cs.drop (bodyStart cs) = body at *
  have hHead : body.head? ≠ some '(' := by
    intro hOpening
    obtain ⟨body, rfl⟩ := List.head?_eq_some_iff.1 hOpening
    rw [bodyTail_opening] at h
    split at h <;> exact absurd h (by simp)
  have hHead' : (body ++ more).head? ≠ some '(' := by
    cases body with
    | nil =>
      cases more with
      | nil => simp
      | cons m more =>
        have hm := hMore.not (· == '(') (by decide) m rfl
        simpa using hm
    | cons c body => simpa using hHead
  rw [bodyTail_other _ hHead] at h
  rw [bodyTail_other _ hHead']
  split at h
  · exact absurd h (by simp)
  · next hEmpty => rw [if_neg (mt (empty_append_iff hMore body).1 hEmpty)]

/-! ## Words -/

/-- A word that no geometry literal starts with. -/
def plainWord (word : String) : TokenKind :=
  match Keyword.ofWord? word with
  | some keyword => .keyword keyword
  | none => .name word

theorem scanWord_eq (first : Char) (rest : List Char) :
    scanWord first rest =
      let n := runLength continuesWord rest
      let word := String.ofList (first :: rest.take n)
      if isGeometryWord word then
        match literalTail (rest.drop n) with
        | .absent => some (plainWord word, n)
        | .unclosed => none
        | .length m => some (.geometry (String.ofList (first :: rest.take (n + m))), n + m)
      else some (plainWord word, n) := rfl

/-- No word for a geometry type is a keyword. -/
theorem plainWord_of_geometry {word : String} (h : isGeometryWord word) :
    plainWord word = .name word := by
  have hApart : ∀ w ∈ geometryWords, ∀ k ∈ Keyword.all, ¬ Text.sameLetters k.word w := by decide
  obtain ⟨w, hw, hSame⟩ := List.any_eq_true.1 h
  have hNone : Keyword.ofWord? word = none := by
    unfold Keyword.ofWord?
    rw [List.find?_eq_none]
    intro k hk hKeyword
    have hBack : Text.sameLetters word w := by
      unfold Text.sameLetters at *
      rw [beq_iff_eq] at *
      exact hSame.symm
    exact hApart w hw k hk (sameLetters_trans hKeyword hBack)
  unfold plainWord
  rw [hNone]

theorem plainWord_cases (word : String) :
    plainWord word = .name word ∨ ∃ k, plainWord word = .keyword k := by
  unfold plainWord
  split
  · exact .inr ⟨_, rfl⟩
  · exact .inl rfl

/-- A word ends where its letters do, unless a geometry literal starts with it. -/
theorem scanWord_cases {first : Char} {rest : List Char} {kind : TokenKind} {n : Nat}
    (h : scanWord first rest = some (kind, n)) :
    (n = runLength continuesWord rest ∧ ((∃ name, kind = .name name) ∨ ∃ k, kind = .keyword k)) ∨
      ∃ m, isGeometryWord (String.ofList (first :: rest.take (runLength continuesWord rest))) ∧
        literalTail (rest.drop (runLength continuesWord rest)) = .length m ∧
        n = runLength continuesWord rest + m ∧
        kind = .geometry (String.ofList (first :: rest.take n)) := by
  have hPlain : ∀ {word : String} {m : Nat}, some (plainWord word, m) = some (kind, n) →
      n = m ∧ ((∃ name, kind = .name name) ∨ ∃ k, kind = .keyword k) := by
    intro word m hSome
    obtain ⟨rfl, rfl⟩ := Prod.mk.inj (Option.some.inj hSome)
    exact ⟨rfl, (plainWord_cases word).imp_left fun hName => ⟨_, hName⟩⟩
  rw [scanWord_eq] at h
  dsimp only at h
  split at h
  · next hWord =>
    split at h
    · exact .inl (hPlain h)
    · exact absurd h (by simp)
    · next m hTail =>
      obtain ⟨rfl, rfl⟩ := Prod.mk.inj (Option.some.inj h)
      exact .inr ⟨m, hWord, hTail, rfl, rfl⟩
  · exact .inl (hPlain h)

theorem scanWord_append {more : List Char} (h : Divides more) {first : Char} {rest : List Char}
    {kind : TokenKind} {n : Nat} (hScan : scanWord first rest = some (kind, n))
    (hName : ∀ name, kind = .name name → isGeometryWord name → Closes more) :
    n ≤ rest.length ∧ scanWord first (rest ++ more) = some (kind, n) := by
  have hRun := runLength_append (h.not continuesWord (by decide)) rest
  have hLength := runLength_le continuesWord rest
  have hTake : (rest ++ more).take (runLength continuesWord rest)
      = rest.take (runLength continuesWord rest) := List.take_append_of_le_length hLength
  rw [scanWord_eq] at *
  simp only [hRun, hTake, List.drop_append_of_le_length hLength]
  dsimp only at hScan
  split at hScan
  · next hGeometry =>
    rw [if_pos hGeometry]
    split at hScan
    · next hAbsent =>
      obtain ⟨rfl, rfl⟩ := Prod.mk.inj (Option.some.inj hScan)
      -- A word for a type is only safe before what cannot start a body.
      rw [literalTail_append_absent hAbsent (hName _ (plainWord_of_geometry hGeometry) hGeometry)]
      exact ⟨hLength, rfl⟩
    · exact absurd hScan (by simp)
    · next m hTail =>
      obtain ⟨rfl, rfl⟩ := Prod.mk.inj (Option.some.inj hScan)
      obtain ⟨hm, hAppend⟩ := literalTail_append_length hTail more
      rw [List.length_drop] at hm
      have hAll : runLength continuesWord rest + m ≤ rest.length := by omega
      rw [hAppend]
      simp only [List.take_append_of_le_length hAll]
      exact ⟨hAll, trivial⟩
  · next hGeometry =>
    obtain ⟨rfl, rfl⟩ := Prod.mk.inj (Option.some.inj hScan)
    rw [if_neg hGeometry]
    exact ⟨hLength, rfl⟩

/-! ## Marks -/

/-- Only the next character can make a mark longer. -/
theorem scanMark_head (first c : Char) (cs cs' : List Char) :
    scanMark first (c :: cs) = scanMark first (c :: cs') := by
  unfold scanMark
  split <;> simp_all

/-- Only an equality sign or a greater sign makes a mark longer. -/
theorem scanMark_other (first : Char) {c : Char} (hEq : c ≠ '=') (hGt : c ≠ '>')
    (cs : List Char) : scanMark first (c :: cs) = scanMark first [] := by
  unfold scanMark
  split <;> simp_all

theorem scanMark_divides {more : List Char} (h : Divides more) (first : Char) :
    scanMark first more = scanMark first [] := by
  cases more with
  | nil => rfl
  | cons m more =>
    have hm := h.not (fun c => c == '=' || c == '>') (by decide) m rfl
    simp only [Bool.or_eq_false_iff, beq_eq_false_iff_ne] at hm
    exact scanMark_other first hm.1 hm.2 more

theorem scanMark_length {first : Char} {rest : List Char} {token : TokenKind × Nat}
    (h : scanMark first rest = some token) : token.2 ≤ rest.length := by
  unfold scanMark at h
  split at h
  case h_15 => exact absurd h (by simp)
  all_goals
    obtain rfl := Option.some.inj h
    simp

theorem scanMark_append {more : List Char} (h : Divides more) {first : Char} {rest : List Char}
    {token : TokenKind × Nat} (hScan : scanMark first rest = some token) :
    token.2 ≤ rest.length ∧ scanMark first (rest ++ more) = some token := by
  refine ⟨scanMark_length hScan, ?_⟩
  cases rest with
  | nil => rw [List.nil_append, scanMark_divides h, hScan]
  | cons c rest => rw [List.cons_append, scanMark_head first c (rest ++ more) rest, hScan]

/-! ## Tokens -/

theorem scan_append {more : List Char} (h : Divides more) {first : Char} {rest : List Char}
    {kind : TokenKind} {n : Nat} (hScan : scan first rest = some (kind, n))
    (hName : ∀ name, kind = .name name → isGeometryWord name → Closes more) :
    n ≤ rest.length ∧ scan first (rest ++ more) = some (kind, n) := by
  have hQuote : ∀ quote, quote = '\'' ∨ quote = '"' → more.head? ≠ some quote := by
    rintro quote hQuote hHead
    have hOther := h.not (fun c => c == '\'' || c == '"') (by decide) quote hHead
    rcases hQuote with rfl | rfl <;> exact absurd hOther (by decide)
  unfold scan at *
  -- The tests look at the first character, and for a number at the one after it.
  rw [startsNumber_append h]
  split at hScan
  · next hFirst =>
    obtain ⟨⟨content, n'⟩, hContent, hToken⟩ := Option.map_eq_some_iff.1 hScan
    obtain ⟨rfl, rfl⟩ := Prod.mk.inj hToken
    obtain ⟨hLength, hAppend⟩ := scanQuoted_append hContent (hQuote first (.inl hFirst))
    rw [if_pos hFirst, hAppend]
    exact ⟨hLength, rfl⟩
  · next hFirst =>
    rw [if_neg hFirst]
    split at hScan
    · next hSecond =>
      obtain ⟨⟨content, n'⟩, hContent, hToken⟩ := Option.map_eq_some_iff.1 hScan
      obtain ⟨rfl, rfl⟩ := Prod.mk.inj hToken
      obtain ⟨hLength, hAppend⟩ := scanQuoted_append hContent (hQuote first (.inr hSecond))
      rw [if_pos hSecond, hAppend]
      exact ⟨hLength, rfl⟩
    · next hSecond =>
      rw [if_neg hSecond]
      split at hScan
      · next hNumber =>
        rw [if_pos hNumber]
        exact scanNumber_append h hScan
      · next hNumber =>
        rw [if_neg hNumber]
        split at hScan
        · next hWord =>
          rw [if_pos hWord]
          exact scanWord_append h hScan hName
        · next hWord =>
          rw [if_neg hWord]
          exact scanMark_append h hScan

/-- Tokens stay what they are before a parenthesis or a comma. -/
theorem Cuts.append {cs more : List Char} {ks : List TokenKind} (h : Cuts cs ks [])
    (hMore : Closes more) : Cuts (cs ++ more) ks more := by
  -- As in `tokensFrom_of_cuts`, the end of the text must be a variable.
  generalize hRest : ([] : List Char) = rest at h
  induction h with
  | done =>
    subst hRest
    exact .done
  | space h _ ih => exact .space h (ih hRest)
  | token h _ ih =>
    obtain ⟨hLength, hAppend⟩ := scan_append hMore.divides h fun _ _ _ => hMore
    rw [List.cons_append]
    refine .token hAppend ?_
    rw [List.drop_append_of_le_length hLength]
    exact ih hRest

/-- A text that is a single token stays it before a space, a parenthesis or a comma, unless it is
    a word for a geometry type. -/
theorem cuts_token {first : Char} {rest more : List Char} {kind : TokenKind}
    (h : scan first rest = some (kind, rest.length)) (hMore : Divides more)
    (hName : ∀ name, kind = .name name → ¬ isGeometryWord name) :
    Cuts (first :: rest ++ more) [kind] more := by
  obtain ⟨-, hAppend⟩ := scan_append hMore h fun name hKind hGeometry =>
    absurd hGeometry (hName name hKind)
  rw [List.cons_append]
  refine .token hAppend ?_
  rw [List.drop_left]
  exact .done

end GeoFilter.Cql
