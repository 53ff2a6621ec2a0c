/-!
# The size of a text in bytes

Places in a text are counted in the bytes of its UTF-8 form wherever a limit or a column is about
the stored text rather than about its characters.
-/

namespace EntityModel.Text

def byteCount (cs : List Char) : Nat := cs.foldl (fun count c => count + c.utf8Size) 0

@[simp] theorem byteCount_nil : byteCount [] = 0 := rfl

/-- A count that starts at a number is that number more. -/
theorem foldl_utf8Size (cs : List Char) (start : Nat) :
    cs.foldl (fun count c => count + c.utf8Size) start = start + byteCount cs := by
  induction cs generalizing start with
  | nil => rfl
  | cons c cs ih =>
    simp only [byteCount, List.foldl_cons, Nat.zero_add]
    rw [ih, ih c.utf8Size, Nat.add_assoc]

@[simp] theorem byteCount_cons (c : Char) (cs : List Char) :
    byteCount (c :: cs) = c.utf8Size + byteCount cs := by
  rw [byteCount, List.foldl_cons, Nat.zero_add, foldl_utf8Size]

/-- The bytes of two texts add up. -/
@[simp] theorem byteCount_append (cs ds : List Char) :
    byteCount (cs ++ ds) = byteCount cs + byteCount ds := by
  rw [byteCount, List.foldl_append, foldl_utf8Size ds]
  rfl

end EntityModel.Text
