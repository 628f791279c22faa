/-!
# Lines

Text files may end their lines in several ways; read text knows the line feed only.
-/

namespace TrustWeb.Text

/-- The text with a line feed in place of each carriage return, with or without a line feed after
it. -/
def unifyLineEnds : List Char → List Char
  | [] => []
  | '\r' :: '\n' :: rest => '\n' :: unifyLineEnds rest
  | c :: rest => (if c == '\r' then '\n' else c) :: unifyLineEnds rest

end TrustWeb.Text
