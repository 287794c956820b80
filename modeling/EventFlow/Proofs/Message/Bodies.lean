import EventFlow.Message.Codec
import EventFlow.Proofs.Json.Records
import EventFlow.Proofs.Json.Writing

/-!
# Messages Read from Their Bodies

The body of a message holds that message and no other.

Writing and reading a message take the same way in opposite directions: from
the message to a JSON value, from there to a text, and back over the tree of
that text. The middle part is no concern of messages. It is enough to say what
tree each of the written values is read as, and `ReadsAs` puts these together;
reading a record is then a look into a tree that is known.

Metadata is a list on both sides. Nothing is sorted and nothing is merged, so
entries of one key survive as they are.

An identifier is answered as a bare text, of which quotes and white space at the
ends are dropped. `EventId.IsWord` are identifiers that have none.

## Main definitions

* `Metadata.tree`, `Message.tree`: What written records are read as.
* `EventId.IsWord`: An identifier of letters, digits and hyphens.

## Theorems

* `readsAs_metadata`: Metadata entries are read as what they are.
* `ofBody?_of_body?`: A message is read back from its body.
* `isSome_body?`: Which messages have a body.
* `body?_injective`: No two messages have the same one.
* `IsWord.ofBody?_ofText`: Identifiers that are answered as they are.
-/

namespace EventFlow

open Json

/-- Where no character of a class is, none is removed, neither in front nor at the
    end. -/
theorem Text.strip_of_forall {p : Char → Bool} {s : List Char} (h : ∀ c ∈ s, p c = false) :
    strip p s = s := by
  have hkeep : ∀ s : List Char, (∀ c ∈ s, p c = false) → s.dropWhile p = s := by
    intro s h
    cases s with
    | nil => rfl
    | cons c rest =>
        have hc : ¬ p c = true := by
          rw [h c (.head _)]
          exact Bool.false_ne_true
        exact List.dropWhile_cons_of_neg hc
  unfold strip
  rw [hkeep s h, hkeep _ fun c hc => h c (List.mem_reverse.mp hc), List.reverse_reverse]

namespace Metadata

/-- What a written metadata entry is read as: an object with its key and its value,
    in this order. -/
def tree (entry : Metadata) : Json.Tree :=
  .object [(.ofText "key", .text (.ofText entry.key)),
    (.ofText "value", .text (.ofText entry.value))]

/-- An entry is written as an object of two strings, and read as that. -/
theorem readsAs_metadata (entry : Metadata) : ReadsAs entry.json entry.tree := by
  unfold json tree
  exact readsAs_object (.cons ⟨rfl, readsAs_text _⟩ (.cons ⟨rfl, readsAs_text _⟩ .nil))

/-- Entries are read in the order in which they are written. -/
theorem readsAs_listJson (entries : List Metadata) :
    ReadsAs (listJson entries) (.array (entries.map tree)) := by
  refine readsAs_array ?_
  rw [List.forall₂_map_left_iff, List.forall₂_map_right_iff]
  -- Nothing is sorted or merged, so it is one after the other.
  induction entries with
  | nil => exact .nil
  | cons entry entries ih => exact .cons (readsAs_metadata entry) ih

theorem ofTree?_tree (entry : Metadata) : ofTree? entry.tree = some entry := by
  have hfields : entry.tree.fields? ["key", "value"] =
      some [some (.text (.ofText entry.key)), some (.text (.ofText entry.value))] := by
    simp [tree, Tree.fields?, namedMembers?, soleMember?]
  unfold ofTree?
  rw [hfields]
  simp [required, Tree.text?]

/-- And a list of them says the entries, in their order and as often as they are. -/
theorem listOfTree?_trees (entries : List Metadata) :
    listOfTree? (.array (entries.map tree)) = some entries := by
  change (entries.map tree).mapM ofTree? = some entries
  rw [mapM_eq_some_iff, List.forall₂_map_left_iff, List.forall₂_same]
  exact fun entry _ => ofTree?_tree entry

end Metadata

namespace Message

/-- What the body of a message with this content is read as. -/
def tree (content : String) (metadata : List Metadata) : Json.Tree :=
  .object [(.ofText "content", .text (.ofText content)),
    (.ofText "metadata", .array (metadata.map Metadata.tree))]

theorem ofTree?_tree (content : String) (metadata : List Metadata) :
    ofTree? (tree content metadata) = some ⟨Bytes.ofText content, metadata⟩ := by
  have hfields : (tree content metadata).fields? ["content", "metadata"] =
      some [some (.text (.ofText content)), some (.array (metadata.map Metadata.tree))] := by
    simp [tree, Tree.fields?, namedMembers?, soleMember?]
  unfold ofTree?
  rw [hfields]
  simp [defaulting, Json.optional, Tree.text?, Metadata.listOfTree?_trees]

/-- A message is read back from its body. Only messages whose content is UTF-8 have
    one, and then nothing of the content is lost: the body has a text, and its
    encoding is the content. -/
theorem ofBody?_of_body? {m : Message} {body : Bytes} (h : m.body? = some body) :
    ofBody? body = some m := by
  unfold body? at h
  cases htext : Bytes.text? m.content with
  | none =>
      rw [htext] at h
      exact absurd h nofun
  | some content =>
      rw [htext, Option.map_some, Option.some.injEq] at h
      -- The body is an object with both members, also if they are empty.
      have hreads : ReadsAs (.object [("content", .text content),
          ("metadata", Metadata.listJson m.metadata)]) (tree content m.metadata) :=
        readsAs_object (.cons ⟨rfl, readsAs_text content⟩
          (.cons ⟨rfl, Metadata.readsAs_listJson m.metadata⟩ .nil))
      unfold ofBody?
      rw [← h, ofBytes?_of_readsAs hreads, Option.bind_some, ofTree?_tree,
        Bytes.ofText_of_text? htext]

/-- The messages that have a body are those whose content is UTF-8. -/
theorem isSome_body? (m : Message) : m.body?.isSome = (Bytes.text? m.content).isSome :=
  Option.isSome_map

/-- No two messages have the same body, since each is read back from its own. -/
theorem body?_injective {m m' : Message} {body : Bytes} (h : m.body? = some body)
    (h' : m'.body? = some body) : m = m' := by
  have hread := ofBody?_of_body? h
  rw [ofBody?_of_body? h'] at hread
  exact (Option.some.inj hread).symm

end Message

namespace EventId

variable {id : EventId}

/-- An identifier of letters, digits and hyphens. It is not empty, since an empty
    answer is none. -/
def IsWord (id : EventId) : Prop :=
  id.toList ≠ [] ∧ ∀ ch ∈ id.toList, ch.isAlphanum = true ∨ ch = '-'

instance : DecidablePred IsWord := fun id =>
  decidable_of_iff (id.toList ≠ [] ∧ id.toList.all (fun ch => ch.isAlphanum || ch = '-') = true) <|
  by
    unfold IsWord
    simp only [List.all_eq_true, Bool.or_eq_true, decide_eq_true_eq]

/-- The characters of such an identifier are in four ranges, all of them ASCII. -/
theorem toNat_of_isWord (h : IsWord id) {ch : Char} (hch : ch ∈ id.toList) :
    ch.toNat = 0x2d ∨ (0x30 ≤ ch.toNat ∧ ch.toNat ≤ 0x39) ∨
      (0x41 ≤ ch.toNat ∧ ch.toNat ≤ 0x5a) ∨ (0x61 ≤ ch.toNat ∧ ch.toNat ≤ 0x7a) := by
  rcases h.2 ch hch with halphanum | rfl
  · unfold Char.isAlphanum Char.isAlpha Char.isUpper Char.isLower Char.isDigit at halphanum
    simp only [Bool.or_eq_true, Bool.and_eq_true, decide_eq_true_eq, UInt32.le_iff_toNat_le,
      ge_iff_le] at halphanum
    change ((65 ≤ ch.toNat ∧ ch.toNat ≤ 90) ∨ (97 ≤ ch.toNat ∧ ch.toNat ≤ 122)) ∨
      (48 ≤ ch.toNat ∧ ch.toNat ≤ 57) at halphanum
    omega
  · exact .inl rfl

/-- Nothing of it is taken for the quotes or the white space around it, so what the
    backend answers with is what is read. -/
theorem IsWord.ofBody?_ofText (h : IsWord id) :
    EventId.ofBody? (Bytes.ofText id) = some id := by
  have hblank : ∀ ch ∈ id.toList, Text.isBlank ch = false := by
    intro ch hch
    have hrange := toNat_of_isWord h hch
    unfold Text.isBlank
    simp only [Bool.or_eq_false_iff, Bool.and_eq_false_iff, beq_eq_false_iff_ne,
      decide_eq_false_iff_not]
    omega
  have hquote : ∀ ch ∈ id.toList, decide (ch = '\x22') = false := by
    intro ch hch
    have hrange := toNat_of_isWord h hch
    rw [decide_eq_false_iff_not]
    rintro rfl
    simp at hrange
  unfold EventId.ofBody?
  -- So neither white space nor quotes are removed, and what is left is all of it.
  rw [Bytes.mendedText_ofText, Text.strip_of_forall hblank, Text.strip_of_forall hquote]
  simp only
  rw [Text.strip_of_forall hblank]
  cases hid : id.toList with
  | nil => exact absurd hid h.1
  | cons ch rest =>
      simp only
      rw [← hid, String.ofList_toList]

end EventId

end EventFlow
