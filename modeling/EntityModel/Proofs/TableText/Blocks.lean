import EntityModel.Proofs.Registry.Consistency
import EntityModel.Proofs.TableText.Comments

/-!
# Tables and their comments

Behind the table of an entity stand the relationships that have its name as their owner, picked out
of all relationships table by table. That every relationship is in exactly one of these parts needs
two things of the registry: its owner is an entity, and no two entities have one name. Both are
invariants of runs (`Registry.Consistent`), so the table text of a run loses no relationship and
tells none twice (`Registry.run_tableText`).
-/

namespace EntityModel

/-- A table text opens with the name of its entity. -/
theorem Entity.exists_tableText_eq (e : Entity) :
    ∃ rest, e.tableText = "CREATE TABLE " ++ quotedName e.name ++ " (\n" ++ rest := by
  unfold tableText
  dsimp only
  rw [String.append_assoc]
  exact ⟨_, rfl⟩

/-- Relationships taken apart by their owners, entity after entity. -/
theorem Relationship.perm_flatMap_filter {entities : List Entity}
    {relationships : List Relationship} (hnames : (entities.map Entity.name).Nodup)
    (howners : ∀ rel ∈ relationships, rel.owner ∈ entities.map Entity.name) :
    (entities.flatMap fun e => relationships.filter (·.owner == e.name)).Perm relationships := by
  induction entities generalizing relationships with
  | nil =>
    have hnone : relationships = [] :=
      List.eq_nil_iff_forall_not_mem.2 fun rel hrel => by simpa using howners rel hrel
    rw [hnone]
    exact .nil
  | cons e rest ih =>
    obtain ⟨he, hrest⟩ := List.nodup_cons.1 hnames
    let others := relationships.filter (!·.owner == e.name)
    -- what the other entities own is not what the first one owns
    have hothers : ∀ other ∈ rest, relationships.filter (·.owner == other.name) =
        others.filter (·.owner == other.name) := by
      intro other hother
      have hne : other.name ≠ e.name := fun heq => he (heq ▸ List.mem_map_of_mem hother)
      rw [List.filter_filter]
      refine List.filter_congr fun rel _ => ?_
      by_cases howner : rel.owner = other.name <;> simp [howner, hne]
    have howners' : ∀ rel ∈ others, rel.owner ∈ rest.map Entity.name := by
      intro rel hrel
      obtain ⟨hmem, hne⟩ := List.mem_filter.1 hrel
      exact (List.mem_cons.1 (howners rel hmem)).resolve_left (by simpa using hne)
    have hperm := ih hrest howners'
    rw [List.flatMap_cons, List.flatMap_congr hothers]
    exact (hperm.append_left _).trans (List.filter_append_perm _ relationships)

namespace Registry

variable {r : Registry}

theorem Consistent.owner_mem (h : r.Consistent) :
    ∀ rel ∈ r.relationships, rel.owner ∈ r.entities.map Entity.name := by
  obtain ⟨xs, hxs, hentities⟩ := h.relationships
  rw [hxs]
  intro rel hrel
  obtain ⟨x, hx, hpair⟩ := List.mem_flatMap.1 hrel
  have htarget := entity?_isSome_iff.1 (hentities x hx).1
  rcases List.mem_pair.1 hpair with rfl | rfl
  · exact htarget
  · exact htarget

/-- Every relationship is owned by exactly one entity. -/
theorem Consistent.perm_owned (h : r.Consistent) :
    (r.entities.flatMap r.owned).Perm r.relationships :=
  Relationship.perm_flatMap_filter h.nodup h.owner_mem

theorem owner_of_mem_owned {e : Entity} {rel : Relationship} (h : rel ∈ r.owned e) :
    rel.owner = e.name :=
  beq_iff_eq.1 (List.mem_filter.1 h).2

/-- **Every relationship is told once**, after any calls: the table text is one block for each
entity, in their order, its table and then comments. The comments of all blocks are those of the
relationships in another order, and those of a block have its entity as their owner and keep the
order of the relationships. -/
theorem run_tableText {σ : Type} {calls : List (Call σ)}
    (hkeys : ∀ call ∈ calls, ∀ document ∈ call.operation.document?,
      document.definitions.keys.Nodup) (s : σ) :
    let r := (run calls {} s).1
    ∃ blocks : List (Entity × List Relationship),
      r.tableText = "\n".intercalate (blocks.map fun (e, owned) =>
        e.tableText ++ String.join (owned.map Relationship.comment)) ∧
      blocks.map Prod.fst = r.entities ∧ (r.entities.map Entity.name).Nodup ∧
      (blocks.flatMap Prod.snd).Perm r.relationships ∧
      ∀ block ∈ blocks, block.2.Sublist r.relationships ∧
        (∃ rest, block.1.tableText = "CREATE TABLE " ++ quotedName block.1.name ++ " (\n" ++ rest) ∧
        ∀ rel ∈ block.2, rel.owner = block.1.name ∧
          rel.comment.toList = '-' :: '-' :: ' ' :: (rel.commentBody ++ ['\n']) := by
  intro r
  have hr : r.Consistent := (Consistent.new false).run hkeys s
  refine ⟨r.entities.map fun e => (e, r.owned e), ?_, ?_, hr.nodup, ?_, ?_⟩
  · rw [List.map_map]
    rfl
  · rw [List.map_map]
    exact List.map_id _
  · rw [List.flatMap_map]
    exact hr.perm_owned
  · intro block hblock
    obtain ⟨e, -, rfl⟩ := List.mem_map.1 hblock
    refine ⟨List.filter_sublist, e.exists_tableText_eq, fun rel hrel => ?_⟩
    exact ⟨owner_of_mem_owned hrel, rel.toList_comment⟩

/-- A run that wires bindings of its own choice, in which the owners of relationships alternate. -/
theorem run_tableText_alternating :
    let calls : List (Call Store) :=
      [⟨Store.backend, .register (commentDocument "#/definitions/Post")⟩,
        ⟨Store.backend, .bind [⟨"Comment", "Post", "post", .direct⟩,
          ⟨"Post", "Comment", "comments", .array⟩, ⟨"Comment", "User", "author", .direct⟩,
          ⟨"Post", "Post", "parent", .direct⟩]⟩]
    let r := (run calls {} {}).1
    (∀ call ∈ calls, ∀ document ∈ call.operation.document?, document.definitions.keys.Nodup) ∧
      r.relationships.map Relationship.owner =
        ["Post", "Post", "Comment", "Comment", "Post", "Post"] ∧
      r.tableText =
        "CREATE TABLE \x60Post\x60 (\n);\n" ++
          "-- Post has many Comment\n-- Post belongs to Comment as Comment (foreign key id)\n" ++
          "-- Post has many Post\n-- Post belongs to Post as Post (foreign key id)\n" ++
          "\nCREATE TABLE \x60Comment\x60 (\n);\n" ++
          "-- Comment has many Post\n-- Comment belongs to Post as Post (foreign key id)\n" ∧
      ∃ blocks : List (Entity × List Relationship),
        r.tableText = "\n".intercalate (blocks.map fun (e, owned) =>
          e.tableText ++ String.join (owned.map Relationship.comment)) ∧
        blocks.map Prod.fst = r.entities ∧ (r.entities.map Entity.name).Nodup ∧
        (blocks.flatMap Prod.snd).Perm r.relationships ∧
        ∀ block ∈ blocks, block.2.Sublist r.relationships ∧
          (∃ rest,
            block.1.tableText = "CREATE TABLE " ++ quotedName block.1.name ++ " (\n" ++ rest) ∧
          ∀ rel ∈ block.2, rel.owner = block.1.name ∧
            rel.comment.toList = '-' :: '-' :: ' ' :: (rel.commentBody ++ ['\n']) := by
  intro calls r
  have hkeys : ∀ call ∈ calls, ∀ document ∈ call.operation.document?,
      document.definitions.keys.Nodup := by
    intro call hcall document hdocument
    rcases List.mem_pair.1 hcall with rfl | rfl
    · cases hdocument
      decide
    · cases hdocument
  exact ⟨hkeys, by decide, by decide +kernel, run_tableText hkeys {}⟩

end Registry

end EntityModel
