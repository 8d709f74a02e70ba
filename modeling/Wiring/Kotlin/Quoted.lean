/-!
# String literals

A text is written between quotes. A backslash stands before quotes, backslashes and dollar signs,
and the letters `n`, `r` and `t` after a backslash stand for line ends and tabs.

* `escapedChar`, `quote`.
-/

namespace Wiring.Kotlin

/-- The characters that are written for one character of a text. -/
def escapedChar : Char → List Char
  | '\\' => ['\\', '\\']
  | '"' => ['\\', '"']
  | '$' => ['\\', '$']
  | '\n' => ['\\', 'n']
  | '\r' => ['\\', 'r']
  | '\t' => ['\\', 't']
  | c => [c]

/-- The literal of a text. -/
def quote (s : String) : String :=
  String.ofList ('"' :: (s.toList.flatMap escapedChar ++ ['"']))

end Wiring.Kotlin
