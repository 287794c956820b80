import EventFlow.Json.Record
import EventFlow.Proofs.Json.Strings
import Mathlib.Data.List.Forall2

/-!
# Fields of Records

What a reader of a record finds for each of its fields.

A record is written in one of two ways. In an object a field is what its name
says, and in an array it is what its place says. `Tree.held` is what is there
for a field in either case, without any opinion about how much of it there
should be. A reader has one: none or one is fine, more is an error. So if a
record is read, what the reader has of a field is all that is there
(`held_of_fields?`), and whoever finds two values knows that it is not read.

## Main definitions

* `Tree.held`: All that a tree has for a field of a record.

## Theorems

* `mapM_eq_some_iff`: Each of some things gives what stands in its place.
* `soleMember?_eq_some_iff`: The only member of a name is all that there is.
* `held_object`: What an object has for a field, if its names are texts.
* `held_of_fields?`: A reader has all that is there.
* `length_held_le_one`: Nothing with two values for a field is read.
-/

namespace EventFlow

namespace Json

variable {name : String} {names : List String}

/-- All that a tree has for a field of a record with these fields: the members of
    its name, or the item in its place. -/
def Tree.held (names : List String) (name : String) : Tree → List Tree
  | .array items => (items[names.idxOf name]?).toList
  | .object members =>
    members.filterMap fun member => if member.1.text? = some name then some member.2 else none
  | _ => []

/-! ## Members -/

/-- Each of some things gives what stands in its place. -/
theorem mapM_eq_some_iff {α β : Type} {f : α → Option β} {list : List α} {results : List β} :
    list.mapM f = some results ↔ List.Forall₂ (fun a b => f a = some b) list results := by
  induction list generalizing results with
  | nil =>
      rw [List.mapM_nil, List.forall₂_nil_left_iff]
      exact Option.some_inj.trans eq_comm
  | cons a list ih =>
      rw [List.mapM_cons, List.forall₂_cons_left_iff]
      simp only [Option.bind_eq_bind, Option.bind_eq_some_iff, Option.pure_def, Option.some_inj, ih]
      exact ⟨fun ⟨b, hb, others, hothers, heq⟩ => ⟨b, others, hb, hothers, heq.symm⟩,
        fun ⟨b, others, hb, hothers, heq⟩ => ⟨b, hb, others, hothers, heq.symm⟩⟩

/-- The names of members are read as what they were written as. -/
theorem namedMembers?_map (members : List (String × Tree)) :
    namedMembers? (members.map fun member => (.ofText member.1, member.2)) = some members := by
  rw [namedMembers?, mapM_eq_some_iff, List.forall₂_map_left_iff, List.forall₂_same]
  exact fun member _ => congrArg (Option.map _) (RawText.text?_ofText member.1)

/-- The only member of a name is all that there is of this name. -/
theorem soleMember?_eq_some_iff {members : List (String × Tree)} {field : Option Tree} :
    soleMember? name members = some field ↔
      (members.filter fun member => member.1 = name).map Prod.snd = field.toList := by
  unfold soleMember?
  generalize (members.filter fun member => member.1 = name) = found
  rcases found with _ | ⟨⟨_, tree⟩, _ | ⟨member, others⟩⟩ <;> cases field <;> simp

/-- An object all of whose names are texts has for a field the members of its
    name. -/
theorem held_object {members : List (RawText × Tree)} {named : List (String × Tree)}
    (h : namedMembers? members = some named) : (Tree.object members).held names name =
      (named.filter fun member => member.1 = name).map Prod.snd := by
  have hread := mapM_eq_some_iff.mp h
  clear h
  change members.filterMap _ = _
  induction hread with
  | nil => rfl
  | @cons member own members named hown _ ih =>
      rcases Option.map_eq_some_iff.mp hown with ⟨text, htext, rfl⟩
      -- A member is kept on both sides, or on neither.
      by_cases hname : text = name
      · rw [List.filter_cons_of_pos (by simpa using hname), List.map_cons, ← ih,
          List.filterMap_cons_some (by rw [if_pos (by rw [htext, hname])])]
      · rw [List.filter_cons_of_neg (by simpa using hname), ← ih,
          List.filterMap_cons_none (by rw [if_neg (by rw [htext]; simpa using hname)])]

/-! ## Readers -/

/-- What a reader of a record has for its fields is all that there is for them. -/
theorem held_of_fields? {tree : Tree} {fields : List (Option Tree)} (nodup : names.Nodup)
    (h : tree.fields? names = some fields) :
    List.Forall₂ (fun name field => tree.held names name = field.toList) names fields := by
  cases tree with
  | object members =>
      rcases Option.bind_eq_some_iff.mp h with ⟨named, hnamed, hfields⟩
      refine (mapM_eq_some_iff.mp hfields).imp fun name field hfield => ?_
      -- The names are texts, or there would be no fields.
      rw [held_object hnamed]
      exact soleMember?_eq_some_iff.mp hfield
  | array items =>
      change (if _ then _ else _) = _ at h
      by_cases hlength : items.length ≤ names.length
      · rw [if_pos hlength] at h
        obtain rfl := Option.some.inj h
        refine List.forall₂_iff_get.mpr ⟨?_, fun i hi hi' => ?_⟩
        · rw [List.length_append, List.length_map, List.length_replicate,
            Nat.add_sub_cancel' hlength]
        · -- The item in the place of a name, or what the reader puts there.
          simp only [Tree.held, List.get_eq_getElem, List.Nodup.idxOf_getElem nodup]
          by_cases hitem : i < items.length
          · rw [List.getElem_append_left (by simpa using hitem)]
            simp [hitem]
          · rw [List.getElem_append_right (by simpa using hitem)]
            simp [hitem]
      · rw [if_neg hlength] at h
        exact absurd h nofun
  | null | bool | number | text => exact absurd h nofun

/-- So nothing that is read has two values for a field. -/
theorem length_held_le_one {tree : Tree} {fields : List (Option Tree)} (nodup : names.Nodup)
    (h : tree.fields? names = some fields) (hname : name ∈ names) :
    (tree.held names name).length ≤ 1 := by
  have hheld := held_of_fields? nodup h
  rcases List.getElem_of_mem hname with ⟨i, hi, rfl⟩
  have hfield := hheld.get hi (hheld.length_eq ▸ hi)
  change (tree.held names (names.get ⟨i, hi⟩)).length ≤ 1
  rw [hfield]
  -- A field is one value or none.
  cases fields.get ⟨i, hheld.length_eq ▸ hi⟩ with
  | none => exact Nat.zero_le 1
  | some tree => exact Nat.le_refl 1

end Json

end EventFlow
