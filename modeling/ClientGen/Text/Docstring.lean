namespace ClientGen.Text

/-- A text as it stands in a docstring: the backslash doubled, and a backslash before each of three
double quotes in a row, counted from the left. -/
def escapeDocstring : List Char → List Char
  | [] => []
  | '"' :: '"' :: '"' :: cs => '\\' :: '"' :: '\\' :: '"' :: '\\' :: '"' :: escapeDocstring cs
  | c :: cs => (if c == '\\' then ['\\', '\\'] else [c]) ++ escapeDocstring cs

end ClientGen.Text
