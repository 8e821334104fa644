import Mathlib.Tactic.Common
import GeoFilter.Proofs.Lexer.Cuts
import GeoFilter.Proofs.Parser.Located.Filter

set_option autoImplicit false

/-! # Every syntax error points into its source

The tokens of a text stand where their offsets say, so the errors of the parser point at the text
of a token or at its end; where no token starts, the lexer points at the text that stands there. -/

namespace GeoFilter.Cql

/-! ## Lengths in bytes -/

theorem utf8ByteSize_ofList (cs : List Char) : (String.ofList cs).utf8ByteSize = byteLength cs := by
  induction cs with
  | nil => rfl
  | cons c cs ih =>
    have hFirst : (String.ofList [c]).utf8ByteSize = c.utf8Size := by
      rw [← String.singleton_eq_ofList, String.utf8ByteSize_singleton]
    calc (String.ofList (c :: cs)).utf8ByteSize
      _ = (String.ofList [c] ++ String.ofList cs).utf8ByteSize := by
        rw [← String.ofList_append, List.singleton_append]
      _ = byteLength (c :: cs) := by rw [String.utf8ByteSize_append, hFirst, ih]; rfl

theorem byteLength_append (cs ds : List Char) :
    byteLength (cs ++ ds) = byteLength cs + byteLength ds := by
  rw [← utf8ByteSize_ofList, ← utf8ByteSize_ofList, ← utf8ByteSize_ofList, String.ofList_append,
    String.utf8ByteSize_append]

/-- Part of the characters of a text stand after those before them. -/
theorem standsAt_ofList (before text after : List Char) :
    StandsAt (String.ofList (before ++ text ++ after)) (byteLength before)
      (String.ofList text) := by
  refine ⟨String.ofList before, String.ofList after, ?_, utf8ByteSize_ofList before⟩
  rw [String.ofList_append, String.ofList_append]

/-! ## The tokens of a text -/

theorem scanError_pointsInto (before : List Char) (first : Char) (rest : List Char) :
    (scanError (byteLength before) first rest).PointsInto
      (String.ofList (before ++ first :: rest)) := by
  refine ⟨?_, fun hToken => nomatch hToken⟩
  have hStands := standsAt_ofList before ((first :: rest).takeWhile fun c => !Text.isBlank c)
    ((first :: rest).dropWhile fun c => !Text.isBlank c)
  rw [List.append_assoc, List.takeWhile_append_dropWhile] at hStands
  exact hStands

/-- What comes before the rest of a text is kept, so that the rest is cut at its place. -/
theorem tokensFrom_located (before cs : List Char) :
    Located (String.ofList (before ++ cs)) (AllStand (String.ofList (before ++ cs)))
      (tokensFrom (byteLength before) cs) := by
  cases cs with
  | nil =>
    rw [tokensFrom_eq]
    exact .ok (allStand_nil _)
  | cons first rest =>
    by_cases hSpace : isSpace first
    · have hRest := tokensFrom_located (before ++ [first]) rest
      rw [List.append_assoc, List.singleton_append, byteLength_append] at hRest
      rw [tokensFrom_space hSpace]
      exact hRest
    · cases hScan : scan first rest with
      | none =>
        rw [tokensFrom_eq]
        simp only [List.dropWhile_cons_of_neg hSpace, List.takeWhile_cons_of_neg hSpace, hScan]
        exact .error (scanError_pointsInto before first rest)
      | some token =>
        obtain ⟨kind, n⟩ := token
        have hText : before ++ (first :: rest.take n) ++ rest.drop n = before ++ first :: rest := by
          rw [List.append_assoc, List.cons_append, List.take_append_drop]
        have hToken := standsAt_ofList before (first :: rest.take n) (rest.drop n)
        have hRest := tokensFrom_located (before ++ (first :: rest.take n)) (rest.drop n)
        rw [hText] at hToken hRest
        rw [byteLength_append] at hRest
        rw [tokensFrom_token hScan]
        exact hRest.map fun others hOthers => allStand_cons hToken hOthers
  termination_by cs.length
  decreasing_by all_goals simp only [List.length_cons, List.length_drop]; omega

theorem tokens_located (source : String) : Located source (AllStand source) (tokens source) := by
  have hTokens := tokensFrom_located [] source.toList
  rw [List.nil_append, String.ofList_toList] at hTokens
  exact hTokens

/-! ## Whole texts -/

theorem endText_located {source : String} {limit : Nat} {operand : Operand} {rest : List Token}
    (h : AllStand source rest) :
    Located source (fun _ => True) (endText (.of source limit) operand rest) := by
  refine (requireFilter_located h).bind fun f _ _ => ?_
  cases rest with
  | nil => exact .ok trivial
  | cons t rest =>
    dsimp only
    split
    · exact .errorAt h.head _
    · exact .unexpected h _

theorem parse_located (source : String) (m : Nat) :
    Located source (fun _ => True) (parse source m) := by
  have hLocated := tokens_located source
  cases hTokens : tokens source with
  | error e =>
    rw [hTokens] at hLocated
    rw [parse_of_tokens_error hTokens]
    cases hLocated with
    | error h => exact .error h
  | ok ts =>
    rw [hTokens] at hLocated
    cases hLocated with
    | ok hStand =>
      cases ts with
      | nil =>
        rw [parse_of_tokens_nil hTokens]
        -- An empty text is refused as a whole, at its start.
        exact .error ⟨standsAt_start source, fun _ hCause => absurd rfl hCause⟩
      | cons t ts =>
        rw [parse_eq_outcome hTokens]
        refine (parseOr_located (t :: ts) hStand).bind ?_
        rintro ⟨operand, rest⟩ - hRest
        exact endText_located hRest

/-- A syntax error has its offset in its source, at the start of a character or at the end, and the
    text of its token, if it has one, comes next there. Without a token it points at the end, but
    for an empty text and for a test of an expression against null. -/
theorem parse_error_pointsInto {source : String} {m : Nat} {e : SyntaxError}
    (h : parse source m = .error e) :
    e.offset ≤ source.utf8ByteSize ∧
    (String.Pos.Raw.mk e.offset).IsValid source ∧
    (∀ token, e.token = some token → ∃ before after,
      source = before ++ token ++ after ∧ before.utf8ByteSize = e.offset) ∧
    (e.token = none → e.cause ≠ .emptyInput → e.cause ≠ .nullTestOnExpression →
      e.offset = source.utf8ByteSize) := by
  have hLocated := parse_located source m
  rw [h] at hLocated
  cases hLocated with
  | error hPoints =>
    refine ⟨hPoints.stands.le, hPoints.stands.isValid, ?_, hPoints.ending⟩
    intro token hToken
    have hStands := hPoints.stands
    rw [hToken] at hStands
    exact hStands

/-- Some characters before the offending comma take two bytes. -/
theorem parse_error_pointsInto_umlaut :
    ∃ e, parse "größe = 'süß' , 1" 64 = .error e ∧
      (String.Pos.Raw.mk e.offset).IsValid "größe = 'süß' , 1" ∧
      ∀ token, e.token = some token → ∃ before after,
        "größe = 'süß' , 1" = before ++ token ++ after ∧ before.utf8ByteSize = e.offset := by
  have hError : (parse "größe = 'süß' , 1" 64).isOk = false := by decide +kernel
  cases hParse : parse "größe = 'süß' , 1" 64 with
  | ok f =>
    rw [hParse] at hError
    exact absurd hError.symm Bool.false_ne_true
  | error e =>
    obtain ⟨-, hValid, hToken, -⟩ := parse_error_pointsInto hParse
    exact ⟨e, rfl, hValid, hToken⟩

end GeoFilter.Cql
