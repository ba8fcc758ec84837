import QueryGateway.Sql.Dialect

/-!
# Patterns

A pattern is matched at the front of a text with backtracking.  Of two
alternatives the first is tried first, a repetition goes on as long as it can,
and where the rest of a pattern does not match, the last choice is taken back.
`rests` lists what each way of matching leaves of the text, in the order in
which the ways are tried, so a match is the first of them.

Each dialect has a pattern for the quoted tokens that it reads.
-/

namespace QueryGateway.Sql

/-- A pattern of a text. -/
inductive Pattern where
  | character (c : Char)
  | noneOf (excluded : List Char)
  | followed (first second : Pattern)
  | either (first second : Pattern)
  | repeated (body : Pattern)
  deriving Repr, DecidableEq

namespace Pattern

/-- What is left of a text after each number of repetitions of a step, the most first; each
repetition has to take something. -/
def repetitions (step : List Char → List (List Char)) : Nat → List Char → List (List Char)
  | 0, cs => [cs]
  | most + 1, cs =>
      ((step cs).filter fun rest => rest.length < cs.length).flatMap (repetitions step most)
        ++ [cs]

/-- What each way of matching a pattern leaves of a text, in the order in which the ways are
tried. -/
def rests : Pattern → List Char → List (List Char)
  | .character _, [] => []
  | .character c, d :: rest => if d = c then [rest] else []
  | .noneOf _, [] => []
  | .noneOf excluded, d :: rest => if d ∈ excluded then [] else [rest]
  | .followed first second, cs => (first.rests cs).flatMap second.rests
  | .either first second, cs => first.rests cs ++ second.rests cs
  | .repeated body, cs => repetitions body.rests cs.length cs

/-- The front of a text that a pattern matches. -/
def matched? (pattern : Pattern) (cs : List Char) : Option (List Char) :=
  (pattern.rests cs).head?.map fun rest => cs.take (cs.length - rest.length)

/-- A mark that is doubled. -/
def doubled (mark : Char) : Pattern :=
  .followed (.character mark) (.character mark)

/-- A backslash and any character behind it. -/
def escaped : Pattern :=
  .followed (.character '\\') (.noneOf [])

/-- Any number of parts up to a mark. -/
def closed (mark : Char) (part : Pattern) : Pattern :=
  .followed (.repeated part) (.character mark)

/-- Any number of parts between two marks. -/
def enclosed (mark : Char) (part : Pattern) : Pattern :=
  .followed (.character mark) (.closed mark part)

end Pattern

namespace Dialect

/-- The quoted tokens that a dialect reads.  ClickHouse reads escapes in all of them, and doubled
marks in texts only. -/
def quotedTokenPattern : Dialect → Pattern
  | .postgres =>
      .either
        (.enclosed '\'' (.either (.noneOf ['\'']) (.doubled '\'')))
        (.enclosed '"' (.either (.noneOf ['"']) (.doubled '"')))
  | .clickHouse _ =>
      .either
        (.enclosed '\'' (.either (.noneOf ['\'', '\\']) (.either .escaped (.doubled '\''))))
        (.either
          (.enclosed '\x60' (.either (.noneOf ['\x60', '\\']) .escaped))
          (.enclosed '"' (.either (.noneOf ['"', '\\']) .escaped)))

end Dialect

end QueryGateway.Sql
