import GeoFilter.Regex

set_option autoImplicit false

/-! # LIKE patterns

In a pattern `%` stands for any run of characters, `_` for exactly one, and a backslash makes
the character after it stand for itself; a backslash at the end stands for itself. A pattern
matches a text as a whole. A relaxed pattern may match anywhere inside the text, and is the
same as the pattern between two `%`.

A pattern is translated to a regular expression, in which the characters that stand for themselves
are escaped. -/

namespace GeoFilter

/-- A pattern, by its text. -/
structure LikePattern where
  source : String
  deriving DecidableEq

/-- Why a pattern does not compile. -/
inductive PatternFault where
  | unreadable
  | tooLarge
  deriving DecidableEq, Repr

/-- A pattern that does not compile. -/
structure PatternError where
  pattern : String
  fault : PatternFault

namespace LikePattern

/-! ## Translation -/

/-- The expression that the characters of a pattern are translated to. The characters that stand for
    themselves are collected in `literal`, the last one first, and escaped together. -/
def translate (literal : List Char) : List Char → List Char
  | [] => Regex.escape literal.reverse
  | '%' :: cs => Regex.escape literal.reverse ++ '.' :: '*' :: translate [] cs
  | '_' :: cs => Regex.escape literal.reverse ++ '.' :: translate [] cs
  | ['\\'] => Regex.escape ('\\' :: literal).reverse
  | '\\' :: c :: cs => translate (c :: literal) cs
  | c :: cs => translate (c :: literal) cs

/-- The expression for a pattern: it covers the text from start to end, and a point stands for a
    newline too. -/
def expression (p : LikePattern) : List Char :=
  "(?s)^(?:".toList ++ translate [] p.source.toList ++ ")$".toList

/-- The parts of the expression for a pattern. -/
def parts? (p : LikePattern) : Option (List Regex.Part) := Regex.read p.expression

/-- Whether a pattern matches a text as a whole. -/
def isMatch (p : LikePattern) (text : String) : Bool :=
  match p.parts? with
  | some parts => Regex.isMatch parts text.toList
  | none => false

/-! ## Compiling -/

/-- The bytes that a compiled pattern may take. -/
def sizeLimit : Nat := 10485760

/-- Whether a text ends in a backslash that no backslash before it escapes. -/
def endsInEscape (cs : List Char) : Bool :=
  cs.foldl (fun escaped c => !escaped && c == '\\') false

/-- The pattern text between two `%`; a backslash that would escape the last one is doubled, so
    that it still stands for itself. -/
def relax (source : String) : String :=
  let cs := source.toList
  String.ofList ('%' :: (cs ++ if endsInEscape cs then ['\\', '%'] else ['%']))

/-- The pattern with a text, if it can be read and is small enough to compile. -/
def compile (source : String) (relaxed : Bool) : Except PatternError LikePattern :=
  let p : LikePattern := ⟨if relaxed then relax source else source⟩
  match p.parts? with
  | some parts =>
    if sizeLimit < Regex.compiledSize parts then .error ⟨p.source, .tooLarge⟩ else .ok p
  | none => .error ⟨p.source, .unreadable⟩

/-- Only the text of a pattern is kept, already relaxed. -/
theorem eq_of_compile {source : String} {relaxed : Bool} {p : LikePattern}
    (h : compile source relaxed = .ok p) : p = ⟨if relaxed then relax source else source⟩ := by
  dsimp only [compile] at h
  generalize LikePattern.mk (if relaxed then relax source else source) = q at h ⊢
  split at h
  · split at h
    · exact nomatch h
    · exact (Except.ok.inj h).symm
  · exact nomatch h

/-- A pattern that was compiled compiles again from its text. -/
theorem compile_source {source : String} {relaxed : Bool} {p : LikePattern}
    (h : compile source relaxed = .ok p) : compile p.source false = .ok p := by
  obtain rfl := eq_of_compile h
  exact h

end LikePattern

namespace PatternError

/-- Why the pattern was refused. -/
def reason (e : PatternError) : String :=
  match e.fault with
  | .unreadable => "The expression cannot be read."
  | .tooLarge => s!"Compiled regex exceeds size limit of {LikePattern.sizeLimit} bytes."

/-- The full wording. -/
def message (e : PatternError) : String :=
  s!"LIKE pattern '{e.pattern}' cannot be compiled: {e.reason}"

end PatternError

end GeoFilter
