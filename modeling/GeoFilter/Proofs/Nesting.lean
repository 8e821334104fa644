import GeoFilter.Proofs.Lexer.Yields
import GeoFilter.Proofs.Parser.Open.Exceeded.Filter
import GeoFilter.Proofs.Parser.Open.Refused
import GeoFilter.Proofs.Threshold

set_option autoImplicit false

/-! # What the limit on nesting limits

The parser fails at the limit exactly if more grouping parentheses, NOTs and minus signs than the
limit are open at some token. Argument lists of calls for the default geometry hold each other like
parentheses but take no level, so a text of such calls drives the parser as deep as it likes. -/

namespace GeoFilter.Cql

open Grammar

/-! ## The constructs that take a level -/

theorem parse_reachesLimit_iff {source : String} {ts : List Token}
    (h : tokens source = .ok ts) (m : Nat) :
    ReachesLimit ⟨source.utf8ByteSize, m⟩ (parse source m) ↔
      ReachesLimit ⟨source.utf8ByteSize, m⟩
        (parseOr ⟨source.utf8ByteSize, m⟩ m ts).outcome := by
  cases ts with
  | nil =>
    -- Without a token there is another error before the parser starts.
    have hEmpty : Unlimited (parse source m) := by
      rw [parse_of_tokens_nil h]
      exact unlimited_error fun limit h => Cause.noConfusion h
    rw [parseOr_nil]
    exact iff_of_false hEmpty.not_reachesLimit (not_reachesLimit_unexpected .expression [])
  | cons t ts =>
    rw [parse_eq_outcome h]
    constructor
    · intro hParse
      exact hParse.of_first fun read => unlimited_endText _ read.1 read.2
    · intro hOr
      exact hOr.bind _

/-- The parser fails at the limit exactly if at some token more constructs are open than the limit,
    argument lists not counted. What comes after that token, and whether the text could still
    become a filter, makes no difference. -/
theorem parse_depthExceeded_iff (source : String) (m : Nat) :
    (∃ e, parse source m = .error e ∧ e.cause = .depthExceeded m) ↔
      ∃ u rest cs, tokens source = .ok (u ++ rest) ∧
        Opens .disjunction cs (u.map Token.kind) ∧ m < charged cs := by
  constructor
  · rintro ⟨e, hParse, hCause⟩
    cases hTokens : tokens source with
    | error e' =>
      rw [parse_of_tokens_error hTokens] at hParse
      obtain rfl := Except.error.inj hParse
      exact absurd hCause (unlimited_tokensFrom 0 source.toList e' hTokens m)
    | ok ts =>
      have hOr := (parse_reachesLimit_iff hTokens m).1 ⟨e, hParse, hCause⟩
      obtain ⟨cs, u, rest, hm, rfl, hOpens⟩ := parseOr_exceeds hOr
      exact ⟨u, rest, cs, rfl, hOpens, hm⟩
  · rintro ⟨u, rest, cs, hTokens, hOpens, hm⟩
    have hRefused := partRefused ⟨source.utf8ByteSize, m⟩ hOpens
    exact (parse_reachesLimit_iff hTokens m).2 (hRefused.first m u rest rfl hm)

/-! ## The construct that takes none -/

/-- Calls for the default geometry, each in the arguments of the one before, and none of them
    closed. -/
def geometryCalls : Nat → String
  | 0 => ""
  | n + 1 => "geometry(" ++ geometryCalls n

/-- The kinds of the tokens of unclosed calls. -/
def callKinds : Nat → List TokenKind
  | 0 => []
  | n + 1 => .name "geometry" :: .opening :: callKinds n

theorem cuts_geometryCalls (n : Nat) : Cuts (geometryCalls n).toList (callKinds n) [] := by
  induction n with
  | zero => exact .done
  | succ n ih =>
    have hText : (geometryCalls (n + 1)).toList
        = "geometry".toList ++ '(' :: (geometryCalls n).toList := by
      rw [geometryCalls, String.toList_append]
      rfl
    have hName : Cuts (geometryCalls (n + 1)).toList [.name "geometry"]
        ('(' :: (geometryCalls n).toList) := by
      rw [hText]
      refine cuts_plainName (by decide) ?_
      intro c hc
      obtain rfl := Option.some.inj hc
      rfl
    exact hName.trans ((cuts_opening _).trans ih)

/-- In unclosed calls one argument list is open for each call. -/
theorem opens_callKinds (n : Nat) : Opens .sum (List.replicate n .arguments) (callKinds n) := by
  induction n with
  | zero => exact .term (.factor .start)
  | succ n ih => exact .term (.factor (.arguments (by decide) (.item ih)))

/-- A list fails as its first operand does. -/
theorem parseItems_of_error {scope : Scope} {b : Nat} {t : Token} {ts : List Token}
    {e : SyntaxError} (h : (parseOperand scope b (t :: ts)).outcome = .error e) :
    (parseItems scope b (t :: ts)).outcome = .error e := by
  rw [outcome_parseItems]
  dsimp only
  rw [outcome_parseSum, h]
  rfl

/-- Unclosed calls are read one in the other, all with the same budget, until the tokens end. -/
theorem parseOperand_callKinds (scope : Scope) (b n : Nat) {ts : List Token}
    (h : ts.map Token.kind = callKinds n) :
    (parseOperand scope b ts).outcome = .error (unexpected scope .expression []) := by
  induction n generalizing ts with
  | zero =>
    obtain rfl := List.map_eq_nil_iff.1 h
    rw [outcome_parseOperand]
  | succ n ih =>
    obtain ⟨t, ts, rfl, ht, h⟩ := exists_of_map_cons h
    obtain ⟨opened, ts, rfl, hOpened, h⟩ := exists_of_map_cons h
    have hName : Text.sameLetters "geometry" "geometry" := by decide
    have hArguments : (parseArguments scope b opened ts).outcome
        = .error (unexpected scope .expression []) := by
      rw [outcome_parseArguments]
      cases ts with
      | nil => rfl
      | cons t' after =>
        have hClosing : ¬ t'.isClosing := by
          rw [Token.isClosing_iff]
          intro hClosing
          cases n with
          | zero => simp [callKinds] at h
          | succ n => simp [callKinds, hClosing] at h
        dsimp only
        rw [if_neg hClosing, parseItems_of_error (ih h)]
        rfl
    rw [outcome_parseOperand]
    simp only [ht]
    rw [outcome_parsePrimary]
    simp only [ht, Token.isOpening_iff.2 hOpened, hName, if_true, hArguments]
    rfl

/-- Any number of argument lists can be open at once under any limit: the text of unclosed calls is
    read to its end, and it is the end that is refused. -/
theorem parse_geometryCalls (n m : Nat) :
    ∃ ts, tokens (geometryCalls (n + 1)) = .ok ts ∧
      Opens .disjunction (List.replicate (n + 1) .arguments) (ts.map Token.kind) ∧
      ∃ e, parse (geometryCalls (n + 1)) m = .error e ∧ e.cause = .unexpectedEnd .expression := by
  obtain ⟨ts, hTokens, hKinds⟩ := tokens_of_cuts (cuts_geometryCalls (n + 1))
  refine ⟨ts, hTokens, ?_, ?_⟩
  · rw [hKinds]
    exact .alternative (.conjunct (.predicate (.left (opens_callKinds (n + 1)))))
  · have hOperand :=
      parseOperand_callKinds ⟨(geometryCalls (n + 1)).utf8ByteSize, m⟩ m (n + 1) hKinds
    obtain ⟨t, ts, rfl, ht, h⟩ := exists_of_map_cons hKinds
    obtain ⟨start, hStart⟩ := parseNot_of_plain (plain_of_geometry (by decide) ht ts)
    refine ⟨unexpected ⟨(geometryCalls (n + 1)).utf8ByteSize, m⟩ .expression [], ?_, rfl⟩
    rw [parse_eq_outcome hTokens, outcome_parseOr, outcome_parseAnd, hStart, hOperand]
    rfl

/-- A text with more argument lists open than the limit that is not refused for its nesting. -/
theorem geometryCalls_not_refused :
    (∃ u rest cs, tokens (geometryCalls 66) = .ok (u ++ rest) ∧
      Opens .disjunction cs (u.map Token.kind) ∧ defaultMaxDepth < cs.length) ∧
    ¬ ∃ e, parse (geometryCalls 66) defaultMaxDepth = .error e ∧
      e.cause = .depthExceeded defaultMaxDepth := by
  obtain ⟨ts, hTokens, hOpens, e, hParse, hCause⟩ := parse_geometryCalls 65 defaultMaxDepth
  constructor
  · refine ⟨ts, [], _, by rw [List.append_nil, hTokens], hOpens, ?_⟩
    rw [List.length_replicate]
    decide
  · rintro ⟨e', hParse', hCause'⟩
    rw [hParse] at hParse'
    obtain rfl := Except.error.inj hParse'
    rw [hCause] at hCause'
    exact Cause.noConfusion hCause'

end GeoFilter.Cql
