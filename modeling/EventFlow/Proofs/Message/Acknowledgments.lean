import EventFlow.Proofs.Message.Bodies

/-!
# Acknowledgments Read from Their Bodies

The body of an acknowledgment holds that acknowledgment and no other.

Two of the members of a body are left out when there is nothing to say, so the
members alone do not show what an acknowledgment has. Reading makes up for it:
where a member is missing, its value is the empty one (`ofMembers?`). A text that
only looks like members is no danger to this, because a body is read by its tree,
and in the tree a string is a single leaf whatever is in it.

What is left out cannot be said in another way either. An acknowledgment that
replaces an event by one without content and metadata is the same as one that
leaves the event alone, and so are their bodies.

## Main definitions

* `Json.Tree.members?`, `Json.Tree.bool?`: What a tree is, if it is an object or
  a truth value.
* `Acknowledgment.trees`: What the members of a body are read as.
* `Acknowledgment.ofMembers?`: What the members of an object say.

## Theorems

* `readsAs_members`: A body is read as its members.
* `ofMembers?_trees`: The members say what was written.
* `mem_names_trees`: Which members there are.
* `read_of_body?`: An acknowledgment is read back from its body.
* `body?_eq_iff`: No two acknowledgments have the same body.
-/

namespace EventFlow

open Json

namespace Json

/-- The members of an object, by name. -/
def Tree.members? : Tree → Option (List (String × Tree))
  | .object members => namedMembers? members
  | _ => none

/-- A truth value. -/
def Tree.bool? : Tree → Option Bool
  | .bool value => some value
  | _ => none

end Json

namespace Acknowledgment

/-- What the members of a body with this content are read as. -/
def trees (content : String) (a : Acknowledgment) : List (String × Tree) :=
  (if content.isEmpty then [] else [("content", .text (.ofText content))]) ++
    (if a.metadata.isEmpty then [] else [("metadata", .array (a.metadata.map Metadata.tree))]) ++
    [("filter", .bool a.filter)]

/-- What the members of an object say: where content or metadata is missing, there
    is none. -/
def ofMembers? (members : List (String × Tree)) : Option Acknowledgment := do
  let content ← (soleMember? "content" members).bind (defaulting Tree.text? "")
  let metadata ← (soleMember? "metadata" members).bind (defaulting Metadata.listOfTree? [])
  let filter ← (soleMember? "filter" members).bind (required Tree.bool?)
  return ⟨Bytes.ofText content, metadata, filter⟩

variable {a : Acknowledgment} {content : String} {body : Bytes}

/-- A body is read as its members, as many as there are. -/
theorem readsAs_members (content : String) (a : Acknowledgment) :
    ReadsAs (.object (a.members content))
      (.object ((a.trees content).map fun member => (.ofText member.1, member.2))) := by
  have hcontent : MemberReadsAs ("content", .text content)
      (.ofText "content", .text (.ofText content)) := ⟨rfl, readsAs_text content⟩
  have hmetadata : MemberReadsAs ("metadata", Metadata.listJson a.metadata)
      (.ofText "metadata", .array (a.metadata.map Metadata.tree)) :=
    ⟨rfl, Metadata.readsAs_listJson a.metadata⟩
  have hfilter : MemberReadsAs ("filter", .bool a.filter) (.ofText "filter", .bool a.filter) :=
    ⟨rfl, readsAs_bool a.filter⟩
  refine readsAs_object ?_
  unfold members trees
  -- Either of the first two members may be left out.
  by_cases hc : content.isEmpty = true
  · by_cases hm : a.metadata.isEmpty = true
    · rw [if_pos hc, if_pos hc, if_pos hm, if_pos hm]
      exact .cons hfilter .nil
    · rw [if_pos hc, if_pos hc, if_neg hm, if_neg hm]
      exact .cons hmetadata (.cons hfilter .nil)
  · by_cases hm : a.metadata.isEmpty = true
    · rw [if_neg hc, if_neg hc, if_pos hm, if_pos hm]
      exact .cons hcontent (.cons hfilter .nil)
    · rw [if_neg hc, if_neg hc, if_neg hm, if_neg hm]
      exact .cons hcontent (.cons hmetadata (.cons hfilter .nil))

/-- The members say what was written, also where they do not say it. -/
theorem ofMembers?_trees (content : String) (a : Acknowledgment) :
    ofMembers? (a.trees content) = some ⟨Bytes.ofText content, a.metadata, a.filter⟩ := by
  -- A member that was left out is found missing, and its value is the one that was not said.
  have hcontent : (soleMember? "content" (a.trees content)).bind (defaulting Tree.text? "") =
      some content := by
    by_cases hc : content = ""
    · by_cases hm : a.metadata = [] <;> simp [trees, soleMember?, defaulting, hc, hm]
    · by_cases hm : a.metadata = [] <;> simp [trees, soleMember?, defaulting, Tree.text?, hc, hm]
  have hmetadata : (soleMember? "metadata" (a.trees content)).bind
      (defaulting Metadata.listOfTree? []) = some a.metadata := by
    by_cases hm : a.metadata = []
    · by_cases hc : content = "" <;> simp [trees, soleMember?, defaulting, hc, hm]
    · by_cases hc : content = "" <;>
        simp [trees, soleMember?, defaulting, Metadata.listOfTree?_trees, hc, hm]
  have hfilter : (soleMember? "filter" (a.trees content)).bind (required Tree.bool?) =
      some a.filter := by
    by_cases hc : content = "" <;> by_cases hm : a.metadata = [] <;>
      simp [trees, soleMember?, required, Tree.bool?, hc, hm]
  unfold ofMembers?
  rw [hcontent, hmetadata, hfilter]
  rfl

/-- Content and metadata have a member exactly if they are not empty. -/
theorem mem_names_trees (content : String) (a : Acknowledgment) :
    ("content" ∈ (a.trees content).map Prod.fst ↔ content ≠ "") ∧
    ("metadata" ∈ (a.trees content).map Prod.fst ↔ a.metadata ≠ []) := by
  by_cases hc : content = "" <;> by_cases hm : a.metadata = [] <;> simp [trees, hc, hm]

/-- An acknowledgment is read back from its body. Content and metadata have a
    member there just if they are not empty. -/
theorem read_of_body? (h : a.body? = some body) : ∃ members,
    (Tree.ofBytes? body).bind Tree.members? = some members ∧ ofMembers? members = some a ∧
    ("content" ∈ members.map Prod.fst ↔ a.content ≠ []) ∧
    ("metadata" ∈ members.map Prod.fst ↔ a.metadata ≠ []) := by
  unfold body? at h
  rcases Option.map_eq_some_iff.mp h with ⟨content, htext, rfl⟩
  have hcontent : Bytes.ofText content = a.content := Bytes.ofText_of_text? htext
  -- The text is empty if its bytes are.
  have hempty : content = "" ↔ a.content = [] := by
    rw [← hcontent, Bytes.ofText_eq_nil]
  rcases mem_names_trees content a with ⟨hnamed, hlisted⟩
  refine ⟨a.trees content, ?_, ?_, hnamed.trans (not_congr hempty), hlisted⟩
  · rw [ofBytes?_of_readsAs (readsAs_members content a)]
    exact namedMembers?_map _
  · rw [ofMembers?_trees, hcontent]

/-- The acknowledgments that have a body are those whose content is UTF-8. -/
theorem isSome_body? (a : Acknowledgment) : a.body?.isSome = (Bytes.text? a.content).isSome :=
  Option.isSome_map

/-- No two acknowledgments have the same body. -/
theorem body?_eq_iff {a' : Acknowledgment} (h : a.body? = some body) :
    a'.body? = some body ↔ a' = a := by
  constructor
  · intro h'
    rcases read_of_body? h with ⟨members, hmembers, hread, -⟩
    rcases read_of_body? h' with ⟨members', hmembers', hread', -⟩
    -- One body has one list of members, and these say one acknowledgment.
    obtain rfl := Option.some.inj (hmembers.symm.trans hmembers')
    exact Option.some.inj (hread'.symm.trans hread)
  · rintro rfl
    exact h

end Acknowledgment

end EventFlow
