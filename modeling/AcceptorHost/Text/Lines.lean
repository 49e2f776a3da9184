/-!
# Line ends

Text that is read from a file has one kind of line end: a return with a line
feed and a return alone both count as a line feed.
-/

namespace AcceptorHost

namespace Text

/-- The text with every line end as a line feed. -/
def uniformLines : List Char → List Char
  | [] => []
  | '\r' :: '\n' :: rest => '\n' :: uniformLines rest
  | c :: rest => (if c = '\r' then '\n' else c) :: uniformLines rest

end Text

end AcceptorHost
