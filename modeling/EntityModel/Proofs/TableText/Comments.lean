import EntityModel.Proofs.Registry.Wiring
import EntityModel.TableText

/-!
# Comments of a table text

A table text says each relationship in a comment, which a reader skips up to the first line feed.
The names in it stand as they are: the text of a relationship is one comment exactly if no line feed
is in the names of its two entities (`isComment_comment_iff`), and a name of an entity may have one
(`line_feed_ends_comment`).
-/

namespace EntityModel

/-- One comment up to the end of its line: after the dashes the only line feed is the last
character. -/
def Text.IsComment (text : String) : Prop :=
  ∃ body : List Char, text.toList = '-' :: '-' :: ' ' :: (body ++ ['\n']) ∧ '\n' ∉ body

theorem Text.isComment_iff {text : String} {body : List Char}
    (h : text.toList = '-' :: '-' :: ' ' :: (body ++ ['\n'])) :
    IsComment text ↔ '\n' ∉ body := by
  constructor
  · rintro ⟨other, hother, hline⟩
    rw [h] at hother
    simp only [List.cons.injEq, true_and] at hother
    rw [List.append_cancel_right hother]
    exact hline
  · intro hline
    exact ⟨body, h, hline⟩

namespace Relationship

variable (r : Relationship)

/-- The comment of a relationship between its dashes and its line feed. -/
def commentBody : List Char :=
  r.owner.toList ++ ' ' :: r.association.cardinality.words.toList ++ ' ' :: r.other.toList ++
    (r.association.role.elim [] fun name => " as ".toList ++ name.toList) ++
    (r.association.foreignKey.name.elim [] fun name =>
      " (foreign key ".toList ++ name.toList ++ [')'])

theorem toList_comment : r.comment.toList = '-' :: '-' :: ' ' :: (r.commentBody ++ ['\n']) := by
  obtain ⟨owner, other, ⟨cardinality, role, key, constraints⟩, property, shape⟩ := r
  cases role <;> cases key <;> simp [comment, commentBody]

/-- The names that stand in the comment of a relationship. -/
def names : List String :=
  [r.owner, r.other] ++ r.association.role.toList ++ r.association.foreignKey.name.toList

/-- What stands between the names has no line feed. -/
theorem mem_commentBody_iff : '\n' ∈ r.commentBody ↔ ∃ name ∈ r.names, '\n' ∈ name.toList := by
  obtain ⟨owner, other, ⟨cardinality, role, key, constraints⟩, property, shape⟩ := r
  have hwords : '\n' ∉ cardinality.words.toList := by
    cases cardinality <;> decide
  cases role <;> cases key <;> simp [commentBody, names, hwords]

theorem isComment_comment_iff :
    Text.IsComment r.comment ↔ ∀ name ∈ r.names, '\n' ∉ name.toList := by
  rw [Text.isComment_iff r.toList_comment, mem_commentBody_iff]
  push Not
  rfl

/-- The relationships of a binding tell no other names than those of their entities, but for the
column of the foreign key. -/
theorem isComment_comment_of_mem_pair {x : Binding} {r : Relationship} (h : r ∈ x.pair) :
    Text.IsComment r.comment ↔ '\n' ∉ r.owner.toList ∧ '\n' ∉ r.other.toList := by
  rw [isComment_comment_iff]
  rcases List.mem_pair.1 h with rfl | rfl
  · simp [names]
  · simp [names]

end Relationship

namespace Json

theorem exists_pair_of_mem_relationships {document : Json} {rel : Relationship}
    (h : rel ∈ document.relationships) : ∃ x : Binding, rel ∈ x.pair := by
  obtain ⟨field, -, hfield⟩ := List.mem_flatMap.1 h
  obtain ⟨property, -, hrel⟩ := List.mem_flatMap.1 hfield
  dsimp only [propertyRelationships] at hrel
  split at hrel
  · split at hrel
    · exact ⟨_, hrel⟩
    · cases hrel
  · cases hrel

end Json

namespace Registry

variable {σ : Type}

/-- **When a relationship stays a comment**: exactly if the names of its two entities have no line
feed. -/
theorem isComment_initializeWith_iff (b : Backend σ) (document : Json) (options : InitOptions)
    (s : σ) :
    let made := (initializeWith b {} document options s).2.1
    ∀ rel ∈ made.relationships,
      Text.IsComment rel.comment ↔ '\n' ∉ rel.owner.toList ∧ '\n' ∉ rel.other.toList := by
  intro made rel hrel
  have hdocument : rel ∈ document.relationships := by
    rw [← relationships_initializeWith b document options s]
    exact hrel
  obtain ⟨x, hx⟩ := Json.exists_pair_of_mem_relationships hdocument
  exact Relationship.isComment_comment_of_mem_pair hx

/-- The rest of a name with a line feed stands outside of any comment. -/
theorem line_feed_ends_comment :
    let document : Json := .object [("definitions", .object
      [("A\nB", .object [("properties", .object
        [("self", .object [("$ref", .string "#/definitions/A\nB")])])])])]
    let made := (initializeWith Store.backend {} document {} {}).2.1
    made.relationships = Binding.pair ⟨"A\nB", "A\nB", "self", .direct⟩ ∧
      (∀ rel ∈ made.relationships, ¬ Text.IsComment rel.comment) ∧
      made.tableText =
        "CREATE TABLE \x60A\nB\x60 (\n);\n-- A\nB has many A\nB\n" ++
          "-- A\nB belongs to A\nB as A\nB (foreign key id)\n" := by
  intro document made
  have hrelationships : made.relationships = Binding.pair ⟨"A\nB", "A\nB", "self", .direct⟩ := by
    decide
  refine ⟨hrelationships, ?_, by decide +kernel⟩
  rw [hrelationships]
  intro rel hrel
  rw [Relationship.isComment_comment_of_mem_pair hrel]
  rcases List.mem_pair.1 hrel with rfl | rfl
  · decide
  · decide

end Registry

end EntityModel
