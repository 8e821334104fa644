import GeoFilter.Proofs.Geometry.Tokens
import GeoFilter.Proofs.Number.LetterCase

set_option autoImplicit false

/-! # What is read of geometry text

What follows a complete geometry is ignored, so a reader answers for the tokens that it took only:
they are numbers, commas, words of letters, and parentheses that match. -/

namespace GeoFilter.Wkt

open Number

/-! ## Matched tokens -/

/-- Tokens that can be read: their parentheses match, and their words hold the characters of
    number text only. -/
inductive Matched : List Token → Prop where
  | nil : Matched []
  | comma {u : List Token} (h : Matched u) : Matched (.comma :: u)
  | number (x : Float) {u : List Token} (h : Matched u) : Matched (.number x :: u)
  | word {text : String} {u : List Token} (hText : AllMarks text.toList) (h : Matched u) :
      Matched (.word text :: u)
  | enclosed {u v : List Token} (h : Matched u) (h' : Matched v) :
      Matched (.opening :: (u ++ .closing :: v))

theorem Matched.append {u v : List Token} (h : Matched u) (h' : Matched v) : Matched (u ++ v) := by
  induction h with
  | nil => exact h'
  | comma _ ih => exact .comma ih
  | number x _ ih => exact .number x ih
  | word hText _ ih => exact .word hText ih
  | enclosed h _ _ ih =>
    rw [List.cons_append, List.append_assoc, List.cons_append]
    exact .enclosed h ih

/-- `EMPTY`, or matched tokens between parentheses. -/
inductive Body : List Token → Prop where
  | empty {text : String} (h : Text.sameLetters text "EMPTY") : Body [.word text]
  | enclosed {u : List Token} (h : Matched u) : Body (.opening :: (u ++ [.closing]))

/-- A word that is a given one in upper case holds the characters of number text only. -/
theorem marks_of_upper {text : String} {letters : List Char} (hLetters : AllMarks letters)
    (h : text.toList.map Char.toUpper = letters) : AllMarks text.toList := by
  intro c hc
  have hTest : Text.IgnoresCase isNumberMark := by decide
  rw [← hTest c]
  exact hLetters _ (h ▸ List.mem_map_of_mem hc)

theorem marks_of_sameLetters {text word : String} (h : Text.sameLetters text word)
    (hWord : AllMarks (word.toList.map Char.toUpper)) : AllMarks text.toList :=
  marks_of_upper hWord (beq_iff_eq.1 h)

theorem Body.matched {u : List Token} (h : Body u) : Matched u := by
  cases h with
  | empty h => exact .word (marks_of_sameLetters h (by decide)) .nil
  | enclosed h => exact .enclosed h .nil

/-! ## Readers -/

variable {α β : Type} {item : List Token → Step α}

/-- What a reader takes from the start of the tokens has this form. -/
def Takes (form : List Token → Prop) (item : List Token → Step α) : Prop :=
  ∀ ts a rest, item ts = some (a, rest) → ∃ u, ts = u ++ rest ∧ form u

theorem Takes.mono {form form' : List Token → Prop} (h : Takes form item)
    (hForm : ∀ u, form u → form' u) : Takes form' item := by
  intro ts a rest hRead
  obtain ⟨u, hTokens, hu⟩ := h ts a rest hRead
  exact ⟨u, hTokens, hForm u hu⟩

theorem Takes.map {form : List Token → Prop} (h : Takes form item) (f : α → β) :
    Takes form fun ts => (item ts).map fun (a, rest) => (f a, rest) := by
  intro ts b rest hRead
  obtain ⟨⟨a, rest'⟩, hItem, hPair⟩ := Option.map_eq_some_iff.1 hRead
  obtain ⟨rfl, rfl⟩ := Prod.mk.inj hPair
  exact h ts a _ hItem

theorem takes_readList (h : Takes Matched item) (limit : ℕ) :
    Takes Matched (readList item limit) := by
  induction limit with
  | zero => exact fun _ _ _ hRead => nomatch hRead
  | succ limit ih =>
    intro ts as rest hRead
    rw [readList] at hRead
    split at hRead
    · exact absurd hRead (by simp)
    · next first after hFirst =>
      obtain ⟨⟨others, rest'⟩, hOthers, hPair⟩ := Option.map_eq_some_iff.1 hRead
      obtain ⟨rfl, rfl⟩ := Prod.mk.inj hPair
      obtain ⟨u, rfl, hu⟩ := h _ _ _ hFirst
      obtain ⟨v, rfl, hv⟩ := ih _ _ _ hOthers
      exact ⟨u ++ .comma :: v, by simp, hu.append (.comma hv)⟩
    · next first after _ hFirst =>
      obtain ⟨-, rfl⟩ := Prod.mk.inj (Option.some.inj hRead)
      exact h _ _ _ hFirst

theorem takes_readItems (h : Takes Matched item) : Takes Matched (readItems item) :=
  fun ts => takes_readList h ts.length ts

theorem takes_readBody {empty : α} (h : Takes Matched item) : Takes Body (readBody empty item) := by
  intro ts a rest hRead
  unfold readBody at hRead
  split at hRead
  · split at hRead
    · next a' rest' hBody =>
      obtain ⟨rfl, rfl⟩ := Prod.mk.inj (Option.some.inj hRead)
      obtain ⟨u, rfl, hu⟩ := h _ _ _ hBody
      exact ⟨_, by simp, .enclosed hu⟩
    · exact absurd hRead (by simp)
  · split at hRead
    · next hEmpty =>
      obtain ⟨-, rfl⟩ := Prod.mk.inj (Option.some.inj hRead)
      exact ⟨[_], rfl, .empty hEmpty⟩
    · exact absurd hRead (by simp)
  · exact absurd hRead (by simp)

/-! ## Parts -/

theorem taken_of_dropNumbers {count : ℕ} {ts rest : List Token}
    (h : dropNumbers count ts = some rest) : ∃ u, ts = u ++ rest ∧ Matched u := by
  induction count generalizing ts with
  | zero => exact ⟨[], Option.some.inj h, .nil⟩
  | succ count ih =>
    unfold dropNumbers at h
    split at h
    · next heq => exact absurd heq (by simp)
    · next count' x ts' heq =>
      obtain rfl := Nat.succ.inj heq
      obtain ⟨u, rfl, hu⟩ := ih h
      exact ⟨_, rfl, .number x hu⟩
    · exact absurd h (by simp)

theorem takes_readCoord (extra : ℕ) : Takes Matched (readCoord extra) := by
  intro ts c rest hRead
  unfold readCoord at hRead
  split at hRead
  · next x y ts' =>
    obtain ⟨rest', hDrop, hPair⟩ := Option.map_eq_some_iff.1 hRead
    obtain ⟨-, rfl⟩ := Prod.mk.inj hPair
    obtain ⟨u, rfl, hu⟩ := taken_of_dropNumbers hDrop
    exact ⟨_, rfl, .number x (.number y hu)⟩
  · exact absurd hRead (by simp)

theorem takes_readPath (extra : ℕ) : Takes Body (readPath extra) :=
  takes_readBody (takes_readItems (takes_readCoord extra))

theorem takes_readPolygon (extra : ℕ) : Takes Body (readPolygon extra) :=
  (takes_readBody (takes_readItems ((takes_readPath extra).mono fun _ => Body.matched))).map _

theorem takes_readMember (extra : ℕ) : Takes Matched (readMember extra) := by
  intro ts c rest hRead
  unfold readMember at hRead
  split at hRead
  · split at hRead
    · next c' rest' hCoord =>
      obtain ⟨rfl, rfl⟩ := Prod.mk.inj (Option.some.inj hRead)
      obtain ⟨u, rfl, hu⟩ := takes_readCoord extra _ _ _ hCoord
      exact ⟨_, by simp, .enclosed hu .nil⟩
    · exact absurd hRead (by simp)
  · exact takes_readCoord extra _ _ _ hRead

/-! ## Geometries -/

/-- Words in front of a body. -/
inductive Headed : List Token → Prop where
  | body {u : List Token} (h : Body u) : Headed u
  | word {text : String} {u : List Token} (hText : AllMarks text.toList) (h : Headed u) :
      Headed (.word text :: u)

theorem Headed.matched {u : List Token} (h : Headed u) : Matched u := by
  induction h with
  | body h => exact h.matched
  | word hText _ ih => exact .word hText ih

theorem takes_readKind {member : List Token → Step Geometry} (h : Takes Matched member)
    (extra : ℕ) (kind : Kind) : Takes Body fun ts => readKind member extra ts kind := by
  have hPath := takes_readPath extra
  have hPolygon := takes_readPolygon extra
  cases kind with
  | point => exact takes_readBody ((takes_readCoord extra).map _)
  | lineString | linearRing => exact hPath.map _
  | polygon => exact hPolygon.map _
  | multiPoint => exact (takes_readBody (takes_readItems (takes_readMember extra))).map _
  | multiLineString =>
    exact (takes_readBody (takes_readItems (hPath.mono fun _ => Body.matched))).map _
  | multiPolygon =>
    exact (takes_readBody (takes_readItems (hPolygon.mono fun _ => Body.matched))).map _
  | collection => exact (takes_readBody (takes_readItems h)).map _

theorem marks_of_extraOf {text : String} {extra : ℕ} (h : Kind.extraOf text = some extra) :
    AllMarks text.toList := by
  unfold Kind.extraOf at h
  split at h
  · next hOne => rcases hOne with hOne | hOne <;> exact marks_of_sameLetters hOne (by decide)
  · split at h
    · next hTwo => exact marks_of_sameLetters hTwo (by decide)
    · exact absurd h (by simp)

/-- A type word holds the letters of a type, and those of a dimension after them. -/
theorem marks_of_ofWord {text : String} {named : Kind × Option ℕ}
    (h : Kind.ofWord text = some named) : AllMarks text.toList := by
  have hWords : ∀ kind : Kind, AllMarks kind.word.toList := by
    intro kind
    cases kind <;> decide
  obtain ⟨kind, -, hKind⟩ := List.exists_of_findSome?_eq_some h
  dsimp only at hKind
  split at hKind
  · next hLetters => exact marks_of_upper (hWords kind) hLetters
  · split at hKind
    · exact absurd hKind (by simp)
    · split at hKind
      · next hPrefix =>
        obtain ⟨extra, hExtra, -⟩ := Option.map_eq_some_iff.1 hKind
        obtain ⟨glued, hGlued⟩ := List.isPrefixOf_iff_prefix.1 hPrefix
        have hMarks := marks_of_extraOf hExtra
        rw [String.toList_ofList, ← hGlued, List.drop_left] at hMarks
        exact marks_of_upper ((hWords kind).append hMarks) hGlued.symm
      · exact absurd hKind (by simp)

theorem taken_of_readDimension {glued : Option ℕ} {ts rest : List Token} {extra : ℕ}
    (h : readDimension glued ts = some (extra, rest)) :
    ts = rest ∨ ∃ text, ts = .word text :: rest ∧ AllMarks text.toList := by
  unfold readDimension at h
  split at h
  · exact .inl (Prod.mk.inj (Option.some.inj h)).2
  · exact absurd h (by simp)
  · exact absurd h (by simp)
  · split at h
    · next hExtra =>
      obtain ⟨-, rfl⟩ := Prod.mk.inj (Option.some.inj h)
      exact .inr ⟨_, rfl, marks_of_extraOf hExtra⟩
    · split at h
      · exact .inl (Prod.mk.inj (Option.some.inj h)).2
      · exact absurd h (by simp)
  · exact .inl (Prod.mk.inj (Option.some.inj h)).2

theorem takes_readGeometry (levels : ℕ) : Takes Headed (readGeometry levels) := by
  induction levels with
  | zero => exact fun _ _ _ hRead => nomatch hRead
  | succ levels ih =>
    intro ts g rest hRead
    unfold readGeometry at hRead
    split at hRead
    · next levels' text ts' heq =>
      obtain rfl := Nat.succ.inj heq
      split at hRead
      · exact absurd hRead (by simp)
      · next kind glued hWord =>
        split at hRead
        · exact absurd hRead (by simp)
        · next extra after hDimension =>
          have hKind := takes_readKind (ih.mono fun _ => Headed.matched) extra kind
          obtain ⟨u, rfl, hu⟩ := hKind _ _ _ hRead
          have hText := marks_of_ofWord hWord
          rcases taken_of_readDimension hDimension with rfl | ⟨dimension, rfl, hMarks⟩
          · exact ⟨_, rfl, .word hText (.body hu)⟩
          · exact ⟨_, rfl, .word hText (.word hMarks (.body hu))⟩
    · exact absurd hRead (by simp)

/-! ## Where parentheses close -/

/-- The tokens after the one that closes `depth + 1` open parentheses. -/
def afterClosing (depth : ℕ) : List Token → Option (List Token)
  | [] => none
  | .opening :: ts => afterClosing (depth + 1) ts
  | .closing :: ts =>
    match depth with
    | 0 => some ts
    | depth + 1 => afterClosing depth ts
  | _ :: ts => afterClosing depth ts

/-- Matching parentheses are passed over, however many are open. -/
theorem Matched.afterClosing {u : List Token} (h : Matched u) (depth : ℕ) (ts : List Token) :
    Wkt.afterClosing depth (u ++ ts) = Wkt.afterClosing depth ts := by
  induction h generalizing depth ts with
  | nil => rfl
  | comma _ ih => exact ih depth ts
  | number x _ ih => exact ih depth ts
  | word hText _ ih => exact ih depth ts
  | @enclosed u v _ _ ih ih' =>
    rw [List.cons_append, List.append_assoc, List.cons_append, Wkt.afterClosing, ih]
    exact ih' depth ts

/-- A run of characters is no parenthesis. -/
theorem ofRun_cases (run : List Char) :
    Token.ofRun run = .malformed ∨ (∃ x, Token.ofRun run = .number x) ∨
      ∃ text, Token.ofRun run = .word text := by
  cases run with
  | nil => exact .inl rfl
  | cons c cs =>
    rw [Token.ofRun]
    split
    · split
      · exact .inr (.inl ⟨_, rfl⟩)
      · exact .inl rfl
    · exact .inr (.inr ⟨_, rfl⟩)

theorem afterClosing_gathered (depth : ℕ) (run : List Char) (ts : List Token) :
    afterClosing depth (gathered run ++ ts) = afterClosing depth ts := by
  unfold gathered
  split
  · rfl
  · rcases ofRun_cases run.reverse with hRun | ⟨x, hRun⟩ | ⟨text, hRun⟩ <;>
      rw [hRun, List.singleton_append, afterClosing] <;> simp

/-- The last character of a text, and none before it, closes `depth + 1` open parentheses. -/
inductive ClosesLast : ℕ → List Char → Prop where
  | last : ClosesLast 0 [')']
  | opening {depth : ℕ} {cs : List Char} (h : ClosesLast (depth + 1) cs) :
      ClosesLast depth ('(' :: cs)
  | closing {depth : ℕ} {cs : List Char} (h : ClosesLast depth cs) :
      ClosesLast (depth + 1) (')' :: cs)
  | other {depth : ℕ} {c : Char} {cs : List Char} (hOpening : c ≠ '(') (hClosing : c ≠ ')')
      (h : ClosesLast depth cs) : ClosesLast depth (c :: cs)

theorem ClosesLast.ends {depth : ℕ} {cs : List Char} (h : ClosesLast depth cs) :
    ∃ start, cs = start ++ [')'] := by
  induction h with
  | last => exact ⟨[], rfl⟩
  | opening _ ih | closing _ ih | other _ _ _ ih =>
    obtain ⟨start, rfl⟩ := ih
    exact ⟨_ :: start, rfl⟩

/-- The token that closes the open parentheses is the last one, and no NUL ends the tokens before
    it. -/
theorem ClosesLast.tokens {depth : ℕ} {cs run : List Char} {rest : List Token}
    (hCloses : ClosesLast depth cs) (h : afterClosing depth (tokensAfter run cs) = some rest) :
    rest = [] ∧ ∀ c ∈ cs, c.toNat ≠ 0 := by
  induction hCloses generalizing run with
  | last =>
    have hTokens : tokensAfter run [')'] = gathered run ++ [.closing] := rfl
    rw [hTokens, afterClosing_gathered] at h
    exact ⟨(Option.some.inj h).symm, by simp⟩
  | @opening depth cs _ ih =>
    have hTokens : tokensAfter run ('(' :: cs)
        = gathered run ++ .opening :: tokensAfter [] cs := rfl
    rw [hTokens, afterClosing_gathered] at h
    obtain ⟨hRest, hNul⟩ := ih h
    exact ⟨hRest, List.forall_mem_cons.2 ⟨by decide, hNul⟩⟩
  | @closing depth cs _ ih =>
    have hTokens : tokensAfter run (')' :: cs)
        = gathered run ++ .closing :: tokensAfter [] cs := rfl
    rw [hTokens, afterClosing_gathered] at h
    obtain ⟨hRest, hNul⟩ := ih h
    exact ⟨hRest, List.forall_mem_cons.2 ⟨by decide, hNul⟩⟩
  | @other depth c cs hOpening hClosing _ ih =>
    have hSome : c.toNat ≠ 0 ∧ ∃ run', afterClosing depth (tokensAfter run' cs) = some rest := by
      rw [tokensAfter] at h
      split at h
      · -- The tokens would end here, with parentheses still open.
        rw [← List.append_nil (gathered run), afterClosing_gathered] at h
        exact absurd h (by simp [afterClosing])
      · next hNul =>
        refine ⟨hNul, ?_⟩
        split at h
        · rw [afterClosing_gathered] at h
          exact ⟨[], h⟩
        · split at h
          · rw [afterClosing_gathered] at h
            exact ⟨[], h⟩
          · exact ⟨_, h⟩
    obtain ⟨hNul, run', hMore⟩ := hSome
    obtain ⟨hRest, hOthers⟩ := ih hMore
    exact ⟨hRest, List.forall_mem_cons.2 ⟨hNul, hOthers⟩⟩

/-! ## The characters of a literal -/

/-- A character that stands in geometry text: in a word or a number, or between them. -/
def isTextMark (c : Char) : Bool := isNumberMark c || isCut c

/-- A token that can be read. -/
def Token.Legible : Token → Prop
  | .malformed => False
  | .word text => AllMarks text.toList
  | _ => True

theorem Matched.legible {u : List Token} (h : Matched u) : ∀ t ∈ u, t.Legible := by
  induction h with
  | nil => exact fun _ hMem => nomatch hMem
  | comma _ ih => exact List.forall_mem_cons.2 ⟨trivial, ih⟩
  | number x _ ih => exact List.forall_mem_cons.2 ⟨trivial, ih⟩
  | word hText _ ih => exact List.forall_mem_cons.2 ⟨hText, ih⟩
  | enclosed _ _ ih ih' =>
    exact List.forall_mem_cons.2 ⟨trivial,
      List.forall_mem_append.2 ⟨ih, List.forall_mem_cons.2 ⟨trivial, ih'⟩⟩⟩

theorem marks_of_ofRun {run : List Char} (h : (Token.ofRun run).Legible) : AllMarks run := by
  cases run with
  | nil => exact fun _ hc => nomatch hc
  | cons c cs =>
    rw [Token.ofRun] at h
    split at h
    · split at h
      · next x hRead =>
        have hMarks := marks_of_readFloat hRead
        split at hMarks
        · next hPlus => exact .cons (by rw [hPlus]; decide) hMarks
        · exact hMarks
      · exact h.elim
    · rwa [Token.Legible, String.toList_ofList] at h

theorem marks_of_gathered {run : List Char} (h : ∀ t ∈ gathered run, t.Legible) : AllMarks run := by
  unfold gathered at h
  split at h
  · next hEmpty =>
    rw [List.isEmpty_iff] at hEmpty
    exact hEmpty ▸ fun _ hc => nomatch hc
  · have hRun := marks_of_ofRun (h _ (List.mem_singleton.2 rfl))
    exact fun c hc => hRun c (List.mem_reverse.2 hc)

/-- Where the tokens of a text can be read and no NUL ends them, each of its characters belongs to
    geometry text. -/
theorem marks_of_tokensAfter {run cs : List Char} (hNul : ∀ c ∈ cs, c.toNat ≠ 0)
    (h : ∀ t ∈ tokensAfter run cs, t.Legible) : AllMarks run ∧ ∀ c ∈ cs, isTextMark c = true := by
  induction cs generalizing run with
  | nil => exact ⟨marks_of_gathered h, fun _ hc => nomatch hc⟩
  | cons c cs ih =>
    obtain ⟨hc, hOthers⟩ := List.forall_mem_cons.1 hNul
    have hCut : isCut c = true → ∀ mark, (∀ t ∈ gathered run ++ (mark ++ tokensAfter [] cs),
        t.Legible) → AllMarks run ∧ ∀ c' ∈ c :: cs, isTextMark c' = true := by
      intro hCut mark hTokens
      obtain ⟨hRun, hMore⟩ := List.forall_mem_append.1 hTokens
      have hRest := (ih hOthers (List.forall_mem_append.1 hMore).2).2
      exact ⟨marks_of_gathered hRun,
        List.forall_mem_cons.2 ⟨by simp [isTextMark, hCut], hRest⟩⟩
    rw [tokensAfter, if_neg hc] at h
    split at h
    · next hSpace => exact hCut (by simp [isCut, hSpace]) [] h
    · split at h
      · next hOpening => exact hCut (by rw [hOpening]; decide) [.opening] h
      · split at h
        · next hClosing => exact hCut (by rw [hClosing]; decide) [.closing] h
        · split at h
          · next hComma => exact hCut (by rw [hComma]; decide) [.comma] h
          · obtain ⟨hRun, hRest⟩ := ih hOthers h
            obtain ⟨hMark, hRun⟩ := List.forall_mem_cons.1 hRun
            exact ⟨hRun, List.forall_mem_cons.2 ⟨by simp [isTextMark, hMark], hRest⟩⟩

/-- Where words stand before an opening parenthesis, the body that is read is the one that is
    opened there. -/
theorem body_of_words {heads ts u rest : List Token}
    (hHeads : ∀ t ∈ heads, ∃ text, t = .word text ∧ ¬ Text.sameLetters text "EMPTY")
    (h : Headed u) (hTokens : heads ++ .opening :: ts = u ++ rest) :
    ∃ v, Matched v ∧ ts = v ++ .closing :: rest := by
  induction h generalizing heads with
  | body h =>
    cases h with
    | empty hEmpty =>
      cases heads with
      | nil => exact nomatch (List.cons.inj hTokens).1
      | cons t heads =>
        obtain ⟨text, rfl, hOther⟩ := hHeads t List.mem_cons_self
        obtain rfl := Token.word.inj (List.cons.inj hTokens).1
        exact absurd hEmpty hOther
    | @enclosed v h =>
      cases heads with
      | nil => exact ⟨v, h, by simpa using (List.cons.inj hTokens).2⟩
      | cons t heads =>
        obtain ⟨text, rfl, -⟩ := hHeads t List.mem_cons_self
        exact nomatch (List.cons.inj hTokens).1
  | word hText _ ih =>
    cases heads with
    | nil => exact nomatch (List.cons.inj hTokens).1
    | cons t heads =>
      exact ih (fun t' hMem => hHeads t' (List.mem_cons_of_mem t hMem)) (List.cons.inj hTokens).2

/-- A geometry that is read ends where the parenthesis closes that its body opens. So if this is
    where the text ends, the text is read whole. -/
theorem marks_of_read {levels : ℕ} {heads rest : List Token} {body : List Char} {g : Geometry}
    (hHeads : ∀ t ∈ heads, ∃ text, t = .word text ∧ ¬ Text.sameLetters text "EMPTY")
    (hCloses : ClosesLast 0 body)
    (h : readGeometry levels (heads ++ .opening :: tokens body) = some (g, rest)) :
    ∀ c ∈ body, isTextMark c = true := by
  obtain ⟨u, hTokens, hu⟩ := takes_readGeometry levels _ _ _ h
  obtain ⟨v, hv, hBody⟩ := body_of_words hHeads hu hTokens
  have hClosing : afterClosing 0 (tokens body) = some rest := by
    rw [hBody, hv.afterClosing, afterClosing]
  obtain ⟨rfl, hNul⟩ := hCloses.tokens hClosing
  have hLegible : ∀ t ∈ tokens body, t.Legible := by
    rw [hBody]
    exact List.forall_mem_append.2 ⟨hv.legible, by simp [Token.Legible]⟩
  exact (marks_of_tokensAfter hNul hLegible).2

end GeoFilter.Wkt
