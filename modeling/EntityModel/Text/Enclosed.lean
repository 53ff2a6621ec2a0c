/-!
# Texts between quotes

A text is enclosed by putting a quote character at both ends and writing each quote inside it twice.
Table texts enclose names and strings in this way.
-/

namespace EntityModel.Text

/-- The text with each `quote` written twice. -/
def doubled (quote : Char) (cs : List Char) : List Char :=
  cs.flatMap fun c => if c = quote then [c, c] else [c]

/-- The text between two quotes, with each quote inside written twice. -/
def enclosed (quote : Char) (s : String) : String :=
  String.ofList (quote :: doubled quote s.toList ++ [quote])

@[simp] theorem doubled_nil (quote : Char) : doubled quote [] = [] := rfl

theorem doubled_cons (quote c : Char) (cs : List Char) :
    doubled quote (c :: cs) = (if c = quote then [c, c] else [c]) ++ doubled quote cs := rfl

theorem toList_enclosed (quote : Char) (s : String) :
    (enclosed quote s).toList = quote :: doubled quote s.toList ++ [quote] := by
  simp [enclosed]

end EntityModel.Text
