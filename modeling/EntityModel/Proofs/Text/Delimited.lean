import EntityModel.Text.Enclosed

/-!
# Texts that end by themselves

A reader of a text has to see where a part of it ends. The texts of a family are delimited in front
of certain rests (`Delimited`) if equal wholes, each of a text and such a rest, say the same and
leave the same rest. A name between quotes is delimited in front of all that does not start with
its quote (`delimited_enclosed`). One delimited text after another is delimited
(`Delimited.append`), and so are lists with separators and an end (`Delimited.joined`).
-/

namespace EntityModel.Text

variable {α β γ δ : Type}

/-- Where two texts of a family, each in front of a rest of the given kind, make the same whole,
they have the same reading and the same rest. -/
def Delimited (text : α → List Char) (reading : α → β) (Rest : List Char → Prop) : Prop :=
  ∀ ⦃x y : α⦄ ⦃r s : List Char⦄, Rest r → Rest s → text x ++ r = text y ++ s →
    reading x = reading y ∧ r = s

/-- Does a text start with one of the given ones? -/
def StartsWith (fronts : List String) (text : List Char) : Prop :=
  ∃ front ∈ fronts, front.toList <+: text

instance (fronts : List String) (text : List Char) : Decidable (StartsWith fronts text) :=
  inferInstanceAs (Decidable (∃ front ∈ fronts, front.toList <+: text))

theorem StartsWith.append {fronts : List String} {text : List Char} (h : StartsWith fronts text)
    (rest : List Char) : StartsWith fronts (text ++ rest) := by
  obtain ⟨front, hfront, hprefix⟩ := h
  exact ⟨front, hfront, hprefix.trans (List.prefix_append text rest)⟩

theorem StartsWith.mono {fronts others : List String} {text : List Char}
    (h : StartsWith fronts text) (hfronts : ∀ front ∈ fronts, StartsWith others front.toList) :
    StartsWith others text := by
  obtain ⟨front, hfront, rest, rfl⟩ := h
  exact (hfronts front hfront).append rest

namespace Delimited

variable {text : α → List Char} {reading : α → β} {Rest : List Char → Prop}

theorem mono (h : Delimited text reading Rest) {Other : List Char → Prop}
    (hrest : ∀ r, Other r → Rest r) : Delimited text reading Other :=
  fun _ _ _ _ hr hs heq => h (hrest _ hr) (hrest _ hs) heq

/-- The same texts, written in another way. -/
theorem congr (h : Delimited text reading Rest) {other : α → List Char}
    (htext : ∀ x, other x = text x) : Delimited other reading Rest := by
  rw [funext htext]
  exact h

/-- The texts of the parts of larger things. -/
theorem comp (h : Delimited text reading Rest) (part : γ → α) :
    Delimited (fun x => text (part x)) (fun x => reading (part x)) Rest :=
  fun _ _ _ _ hr hs heq => h hr hs heq

/-- Behind a fixed text. -/
theorem behind (h : Delimited text reading Rest) (front : List Char) :
    Delimited (fun x => front ++ text x) reading Rest := by
  intro x y r s hr hs heq
  rw [List.append_assoc, List.append_assoc] at heq
  exact h hr hs (List.append_cancel_left heq)

/-- Two texts in a row, of which the first is delimited in front of the second. -/
theorem append {last : α → List Char} {lastReading : α → γ} {LastRest : List Char → Prop}
    (h : Delimited text reading Rest) (hlast : Delimited last lastReading LastRest)
    (hrest : ∀ x r, LastRest r → Rest (last x ++ r)) :
    Delimited (fun x => text x ++ last x) (fun x => (reading x, lastReading x)) LastRest := by
  intro x y r s hr hs heq
  rw [List.append_assoc, List.append_assoc] at heq
  obtain ⟨hfirst, heq⟩ := h (hrest x r hr) (hrest y s hs) heq
  obtain ⟨hsecond, hrs⟩ := hlast hr hs heq
  exact ⟨Prod.ext hfirst hsecond, hrs⟩

/-- In front of a fixed text. -/
theorem before (h : Delimited text reading Rest) (back : List Char)
    (hback : ∀ r, Rest (back ++ r)) :
    Delimited (fun x => text x ++ back) reading fun _ => True := by
  intro x y r s _ _ heq
  rw [List.append_assoc, List.append_assoc] at heq
  obtain ⟨hreading, heq⟩ := h (hback r) (hback s) heq
  exact ⟨hreading, List.append_cancel_left heq⟩

/-- Texts of two families of which none can be taken for one of the other family. -/
theorem sum {other : γ → List Char} {otherReading : γ → δ} (h : Delimited text reading Rest)
    (hother : Delimited other otherReading Rest)
    (hne : ∀ x y r s, text x ++ r ≠ other y ++ s) :
    Delimited (Sum.elim text other) (Sum.map reading otherReading) Rest := by
  intro x y r s hr hs heq
  cases x with
  | inl x =>
    cases y with
    | inl y => exact (h hr hs heq).imp_left (congrArg Sum.inl)
    | inr y => exact absurd heq (hne x y r s)
  | inr x =>
    cases y with
    | inl y => exact absurd heq.symm (hne y x s r)
    | inr y => exact (hother hr hs heq).imp_left (congrArg Sum.inr)

/-- Lists of one text or more, with a separator between them and an end behind the last. -/
theorem joined (h : Delimited text reading Rest) (separator close : List Char)
    (hseparator : ∀ r, Rest (separator ++ r)) (hclose : ∀ r, Rest (close ++ r))
    (hne : ∀ r s, separator ++ r ≠ close ++ s) {xs ys : List α} (hxs : xs ≠ []) (hys : ys ≠ [])
    {r s : List Char}
    (heq : separator.intercalate (xs.map text) ++ (close ++ r) =
      separator.intercalate (ys.map text) ++ (close ++ s)) :
    xs.map reading = ys.map reading ∧ r = s := by
  induction xs generalizing ys with
  | nil => exact absurd rfl hxs
  | cons x xs ih =>
    cases ys with
    | nil => exact absurd rfl hys
    | cons y ys =>
      cases xs with
      | nil =>
        cases ys with
        | nil =>
          simp only [List.map_cons, List.map_nil, List.intercalate_singleton] at heq ⊢
          obtain ⟨hreading, heq⟩ := h (hclose r) (hclose s) heq
          exact ⟨by rw [hreading], List.append_cancel_left heq⟩
        | cons y' ys =>
          simp only [List.map_cons, List.map_nil, List.intercalate_singleton,
            List.intercalate_cons_cons, List.append_assoc] at heq
          obtain ⟨-, heq⟩ := h (hclose r) (hseparator _) heq
          exact absurd heq.symm (hne _ _)
      | cons x' xs =>
        cases ys with
        | nil =>
          simp only [List.map_cons, List.map_nil, List.intercalate_singleton,
            List.intercalate_cons_cons, List.append_assoc] at heq
          obtain ⟨-, heq⟩ := h (hseparator _) (hclose s) heq
          exact absurd heq (hne _ _)
        | cons y' ys =>
          rw [List.map_cons, List.map_cons, List.intercalate_cons_cons, List.map_cons,
            List.map_cons, List.intercalate_cons_cons] at heq
          simp only [List.append_assoc] at heq
          obtain ⟨hreading, heq⟩ := h (hseparator _) (hseparator _) heq
          obtain ⟨hrest, hrs⟩ :=
            ih (List.cons_ne_nil _ _) (List.cons_ne_nil _ _) (List.append_cancel_left heq)
          exact ⟨by rw [List.map_cons, hreading, hrest, ← List.map_cons], hrs⟩

end Delimited

/-! ## Texts of certain characters -/

/-- Texts of characters of a class end at the first other character. -/
theorem delimited_of_class (text : α → List Char) {p : Char → Bool}
    (h : ∀ x, ∀ c ∈ text x, p c = true) :
    Delimited text text fun r => ∀ c ∈ r.head?, p c = false := by
  have htake (x : α) {r : List Char} (hr : ∀ c ∈ r.head?, p c = false) :
      (text x ++ r).takeWhile p = text x := by
    rw [List.takeWhile_append_of_pos (h x)]
    cases r with
    | nil => simp
    | cons c r => simp [hr c rfl]
  intro x y r s hr hs heq
  have htext : text x = text y := by rw [← htake x hr, ← htake y hs, heq]
  rw [htext] at heq
  exact ⟨htext, List.append_cancel_left heq⟩

/-! ## Texts between quotes -/

theorem doubled_append_inj {quote : Char} {cs ds r s : List Char}
    (hr : ∀ c ∈ r.head?, c ≠ quote) (hs : ∀ c ∈ s.head?, c ≠ quote)
    (heq : doubled quote cs ++ quote :: r = doubled quote ds ++ quote :: s) :
    cs = ds ∧ r = s := by
  induction cs generalizing ds with
  | nil =>
    cases ds with
    | nil => exact ⟨rfl, List.tail_eq_of_cons_eq heq⟩
    | cons d ds =>
      rw [doubled_cons] at heq
      by_cases hd : d = quote
      · -- the quote that closes the first text would be one that is written twice
        subst hd
        simp only [if_true, doubled_nil, List.nil_append, List.cons_append] at heq
        rw [(List.cons.inj heq).2] at hr
        exact absurd rfl (hr d rfl)
      · simp only [hd, if_false, doubled_nil, List.nil_append, List.cons_append] at heq
        exact absurd (List.cons.inj heq).1.symm hd
  | cons c cs ih =>
    rw [doubled_cons] at heq
    cases ds with
    | nil =>
      by_cases hc : c = quote
      · subst hc
        simp only [if_true, doubled_nil, List.nil_append, List.cons_append] at heq
        rw [← (List.cons.inj heq).2] at hs
        exact absurd rfl (hs c rfl)
      · simp only [hc, if_false, doubled_nil, List.nil_append, List.cons_append] at heq
        exact absurd (List.cons.inj heq).1 hc
    | cons d ds =>
      rw [doubled_cons] at heq
      have hcd : c = d := by
        by_cases hc : c = quote <;> by_cases hd : d = quote <;> simp_all
      subst hcd
      rw [List.append_assoc, List.append_assoc] at heq
      obtain ⟨hrest, hrs⟩ := ih (List.append_cancel_left heq)
      exact ⟨by rw [hrest], hrs⟩

/-- A text between quotes ends at its second quote, unless another one follows. -/
theorem delimited_enclosed (quote : Char) :
    Delimited (fun s => (enclosed quote s).toList) id fun r => ∀ c ∈ r.head?, c ≠ quote := by
  intro s t r r' hr hr' heq
  simp only [toList_enclosed, List.cons_append, List.append_assoc, List.nil_append,
    List.cons.injEq, true_and] at heq
  obtain ⟨htext, hrest⟩ := doubled_append_inj hr hr' heq
  exact ⟨String.toList_inj.1 htext, hrest⟩

end EntityModel.Text
