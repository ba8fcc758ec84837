/-!
# Quoted tokens

A quoted token stands between two equal marks.  Inside, a mark is written
either twice or after a backslash, and where backslashes escape, a backslash is
written twice.  A `QuoteStyle` says how a mark is read; `quote` writes a
content, `unquote` undoes the escapes of an interior, and `tokenLength?` finds
the longest token at the front of a text.
-/

namespace QueryGateway.Sql

/-- What a quoted token stands for. -/
inductive QuoteKind where
  | text
  | identifier
  deriving Repr, DecidableEq

/-- How tokens between one mark are read: whether a doubled mark and whether a backslash stand for
a character of the content. -/
structure QuoteStyle where
  kind : QuoteKind
  mark : Char
  doubles : Bool
  backslash : Bool
  deriving Repr, DecidableEq

namespace QuoteStyle

/-- One character of a content as it stands in a token.  A style that reads backslashes writes
them, another one doubles the mark. -/
def escapeChar (style : QuoteStyle) (c : Char) : List Char :=
  if style.backslash then
    if c = '\\' || c = style.mark then ['\\', c] else [c]
  else if c = style.mark then
    [c, c]
  else
    [c]

/-- A content with its escapes. -/
def escape (style : QuoteStyle) (content : List Char) : List Char :=
  content.flatMap style.escapeChar

/-- A content as a token. -/
def quote (style : QuoteStyle) (content : List Char) : List Char :=
  style.mark :: style.escape content ++ [style.mark]

/-- The content of an interior: each backslash stands for the character after it, and each
doubled mark for one. -/
def unescape (style : QuoteStyle) : List Char → List Char
  | [] => []
  | [c] => [c]
  | c :: d :: rest =>
      if style.backslash && c = '\\' then d :: style.unescape rest
      else if style.doubles && c = style.mark && d = style.mark then c :: style.unescape rest
      else c :: style.unescape (d :: rest)

/-- The content of a token. -/
def unquote (style : QuoteStyle) (token : List Char) : List Char :=
  style.unescape (token.drop 1).dropLast

/-- How many characters of a text belong to a token that was opened before it, the closing mark
included.  A doubled mark goes on with the token if the token is closed further on, and else its
first half closes the token. -/
def tailLength? (style : QuoteStyle) : List Char → Option Nat
  | [] => none
  | c :: rest =>
      if c = style.mark then
        match rest with
        | [] => some 1
        | d :: rest =>
            if style.doubles && d = style.mark then
              match style.tailLength? rest with
              | some length => some (length + 2)
              | none => some 1
            else
              some 1
      else if style.backslash && c = '\\' then
        match rest with
        | [] => none
        | _ :: rest => (style.tailLength? rest).map (· + 2)
      else
        (style.tailLength? rest).map (· + 1)

/-- The length of the longest token at the front of a text. -/
def tokenLength? (style : QuoteStyle) : List Char → Option Nat
  | [] => none
  | c :: rest => if c = style.mark then (style.tailLength? rest).map (· + 1) else none

end QuoteStyle

end QueryGateway.Sql
