import EventFlow.Proofs.Http.Storage
import EventFlow.Proofs.Json.Values
import EventFlow.Proofs.Message.Acknowledgments

/-!
# References Read from Texts

A reference is what its text says, whoever wrote the text.

The reader of a reference wants three fields and is indifferent to the rest. So
the members may come in any order and among others, they may be spelled in any
way, and a flow that is null is no flow. `Shows` is what all of these objects
have in common, and each of them decodes to the reference that it shows.

What the reader insists on is that no field is there twice, and that two of the
three are there at all. This can be seen in the tree of a text, without reading
it any further (`Deficient`), and nothing deficient decodes. A record may also be
written as an array, with the fields in their order; then a field is missing if
the array ends before it, and none can be there twice.

A reference is decoded in three places, and all of them do the same with a text
(`Decodes`).

## Main definitions

* `Reference.fieldNames`: The fields of a reference.
* `IsFlow`, `Shows`: The members of an object that shows a reference.
* `Deficient`: A field is missing, or there twice.
* `Decodes`: What becomes of a text wherever it is decoded.

## Theorems

* `ofBody?_of_shows`: An object is read as the reference that it shows.
* `ofBody?_of_deficient`: What is deficient is not read.
* `decodes_of_ofBody?`: A text decodes in one way everywhere.
* `decodes_as_shown`: References and lists of metadata entries are what their
  texts say.
-/

namespace EventFlow

open Json

namespace Reference

/-- The fields of a reference, in their order. -/
def fieldNames : List String := ["ack_id", "event_id", "flow_id"]

/-- What the member for the flow may hold, if there is one. -/
inductive IsFlow : Option String → Option Bytes → Prop where
  | named {flowId : String} {value : Bytes} (value_eq : IsTextOf flowId value) :
      IsFlow (some flowId) (some value)
  | absent : IsFlow none none
  | null : IsFlow none (some [0x6e, 0x75, 0x6c, 0x6c])

/-- These are the members of a reference in any order, with any others among them. A
    flow that is missing and one that is null are the same. -/
def Shows (r : Reference) (members : List (String × Bytes)) : Prop :=
  ∃ ack event flow others, IsTextOf r.ackId ack ∧ IsTextOf r.eventId event ∧
    IsFlow r.flowId flow ∧ (∀ member ∈ others, member.1 ∉ fieldNames) ∧
    members.Perm (("ack_id", ack) :: ("event_id", event) ::
      flow.toList.map (fun value => ("flow_id", value)) ++ others)

/-- A field that has to be there is missing, or one is there twice. -/
def Deficient (tree : Tree) : Prop :=
  tree.held fieldNames "ack_id" = [] ∨ tree.held fieldNames "event_id" = [] ∨
    ∃ name ∈ fieldNames, 2 ≤ (tree.held fieldNames name).length

/-- A text decodes to a reference, or does not decode: by itself, as the content of
    a message, and as the body of the answer to a claim. -/
structure Decodes (text : Bytes) (result : Option Reference) : Prop where
  direct : ofBody? text = result
  content : ∀ m : Message, m.content = text → m.read? ofTree? = result
  claimed : ∀ {τ : Type} (c : Http.Client) (t : Http.Transport τ) (s : Http.State τ)
    (e : Endpoints) (budget : Option Span) (task : Http.Task) (request : Http.Request),
    c.task (.claim budget) = .ok task →
    request = c.request (e.current.extend task.segments) task → Http.refusal request = none →
    (t.exchange request s.transport).1.Answered text →
    (c.call t (.claim budget) s e).1.result = Http.decoded "a reference" result

variable {r : Reference} {text : Bytes} {members : List (String × Bytes)}

/-! ## Fields -/

/-- A reference is read of fields that are there, and of a flow that may not be. -/
theorem ofTree?_of_fields {tree ack event : Tree} {flow : Option Tree}
    (fields : tree.fields? fieldNames = some [some ack, some event, flow])
    (ack_eq : ack.text? = some r.ackId) (event_eq : event.text? = some r.eventId)
    (flow_eq : Json.optional Tree.text? flow = some r.flowId) : ofTree? tree = some r := by
  unfold fieldNames at fields
  unfold ofTree?
  rw [fields]
  simp only [required, Option.bind_some, ack_eq, event_eq, flow_eq, Option.bind_eq_bind,
    Option.pure_def]

/-- Nothing else is: a tree that is read has both identifiers among its fields. -/
theorem fields_of_ofTree? {tree : Tree} (h : ofTree? tree = some r) :
    ∃ ack event flow, tree.fields? fieldNames = some [some ack, some event, flow] := by
  unfold ofTree? at h
  split at h
  · rename_i ack event flow hfields
    rcases Option.bind_eq_some_iff.mp h with ⟨ackId, hack, h⟩
    rcases Option.bind_eq_some_iff.mp h with ⟨eventId, hevent, -⟩
    rcases Option.bind_eq_some_iff.mp hack with ⟨ack, rfl, -⟩
    rcases Option.bind_eq_some_iff.mp hevent with ⟨event, rfl, -⟩
    exact ⟨ack, event, flow, hfields⟩
  · exact absurd h nofun

/-- What is deficient is not read. -/
theorem ofTree?_of_deficient {tree : Tree} (h : Deficient tree) : ofTree? tree = none := by
  rw [Option.eq_none_iff_forall_ne_some]
  intro r hread
  rcases fields_of_ofTree? hread with ⟨ack, event, flow, hfields⟩
  have hnodup : fieldNames.Nodup := by decide
  -- What the reader has is all that there is, so neither nothing nor two of it.
  rcases held_of_fields? hnodup hfields with _ | ⟨hack, _ | ⟨hevent, -⟩⟩
  rcases h with hmissing | hmissing | ⟨name, hname, htwice⟩
  · exact List.cons_ne_nil _ _ (hack.symm.trans hmissing)
  · exact List.cons_ne_nil _ _ (hevent.symm.trans hmissing)
  · exact Nat.not_succ_le_self 1 (htwice.trans (length_held_le_one hnodup hfields hname))

/-! ## Objects -/

section Object

variable {trees : List (String × Tree)}

/-- The members of a name are the trees of this name, in the same order. -/
theorem forall₂_filter (name : String) (reads : List.Forall₂ MemberReads members trees) :
    List.Forall₂ MemberReads (members.filter fun member => member.1 = name)
      (trees.filter fun tree => tree.1 = name) := by
  refine List.rel_filter (fun member tree h => ?_) reads
  simp only [decide_eq_true_eq, h.1]

/-- A field that an object has once, or not at all, is found. -/
theorem soleMember?_of_rel {name : String} (reads : List.Forall₂ MemberReads members trees)
    {value : Option Bytes} {field : Option Tree} (rel : Option.Rel (Reads Delimited) value field)
    (h : (members.filter fun member => member.1 = name).map Prod.snd = value.toList) :
    soleMember? name trees = some field := by
  have hfound := forall₂_filter name reads
  rw [soleMember?_eq_some_iff]
  generalize (members.filter fun member => member.1 = name) = found at h hfound
  cases rel with
  | none =>
      obtain rfl := List.map_eq_nil_iff.mp h
      rw [List.forall₂_nil_left_iff.mp hfound]
      rfl
  | some hreads =>
      rcases List.map_eq_singleton_iff.mp h with ⟨member, rfl, rfl⟩
      rcases List.forall₂_cons_left_iff.mp hfound with ⟨tree, others, ⟨-, htree⟩, hnil, heq⟩
      rw [heq, List.forall₂_nil_left_iff.mp hnil]
      -- A text is read in one way, so the tree that was found is the one that was meant.
      exact congrArg (fun tree => [tree]) (htree.unique hreads)

/-- Members of other names and another order make no difference to a field. -/
theorem soleMember?_of_perm {name : String} (reads : List.Forall₂ MemberReads members trees)
    {own others : List (String × Bytes)} (perm : members.Perm (own ++ others))
    (foreign : ∀ member ∈ others, member.1 ∉ fieldNames) (known : name ∈ fieldNames)
    {value : Option Bytes} {field : Option Tree} (rel : Option.Rel (Reads Delimited) value field)
    (h : (own.filter fun member => member.1 = name).map Prod.snd = value.toList) :
    soleMember? name trees = some field := by
  refine soleMember?_of_rel reads rel ?_
  -- Members of other names are not looked at.
  have hnone : (others.filter fun member => member.1 = name) = [] :=
    List.filter_eq_nil_iff.mpr fun member hmem hname =>
      foreign member hmem (of_decide_eq_true hname ▸ known)
  have hperm := (perm.filter fun member => member.1 = name).map Prod.snd
  rw [List.filter_append, hnone, List.append_nil, h] at hperm
  -- One value, or none, has one order only.
  cases value with
  | none => exact List.perm_nil.mp hperm
  | some value => exact List.perm_singleton.mp hperm

/-- An object has the fields that are found in it, as its names are texts. -/
theorem fields?_object {ack event flow : Option Tree}
    (ack_eq : soleMember? "ack_id" trees = some ack)
    (event_eq : soleMember? "event_id" trees = some event)
    (flow_eq : soleMember? "flow_id" trees = some flow) :
    (Tree.object (trees.map fun tree => (.ofText tree.1, tree.2))).fields? fieldNames =
      some [ack, event, flow] := by
  change (namedMembers? _).bind _ = _
  rw [namedMembers?_map]
  exact mapM_eq_some_iff.mpr (.cons ack_eq (.cons event_eq (.cons flow_eq .nil)))

/-- An object has for a field as many values as it has members of its name. -/
theorem length_held {name : String} (reads : List.Forall₂ MemberReads members trees) :
    ((Tree.object (trees.map fun tree => (.ofText tree.1, tree.2))).held fieldNames name).length =
      (members.map Prod.fst).count name := by
  rw [held_object (namedMembers?_map trees), List.length_map,
    ← (forall₂_filter name reads).length_eq, List.count, List.countP_map,
    List.countP_eq_length_filter]
  rfl

end Object

/-! ## Texts -/

/-- The flow is read from what its member holds. -/
theorem IsFlow.exists_field {flowId : Option String} {value : Option Bytes}
    (h : IsFlow flowId value) : ∃ field, Option.Rel (Reads Delimited) value field ∧
      Json.optional Tree.text? field = some flowId := by
  cases h with
  | named value_eq =>
      exact ⟨_, .some value_eq.reads, congrArg (Option.map some) (RawText.text?_ofText _)⟩
  | absent => exact ⟨none, .none, rfl⟩
  | null => exact ⟨_, .some reads_null, rfl⟩

/-- An object is read as the reference that it shows. -/
theorem ofBody?_of_shows (h : IsObject members text) (shown : r.Shows members) :
    ofBody? text = some r := by
  rcases h.exists_trees with ⟨trees, reads, htext⟩
  rcases shown with ⟨ack, event, flow, others, hack, hevent, hflow, foreign, perm⟩
  rcases hflow.exists_field with ⟨field, hfield, hflow⟩
  -- All three fields are found in the same way.
  have hfound : ∀ {name value field}, name ∈ fieldNames → Option.Rel (Reads Delimited) value field →
      _ → soleMember? name trees = some field :=
    fun known rel held => soleMember?_of_perm reads perm foreign known rel held
  rw [ofBody?, htext, Option.bind_some]
  refine ofTree?_of_fields (fields?_object
    (hfound (by decide) (.some hack.reads) ?_) (hfound (by decide) (.some hevent.reads) ?_)
    (hfound (by decide) hfield ?_)) (RawText.text?_ofText _) (RawText.text?_ofText _) hflow
  all_goals cases flow <;> simp

/-- A text without a tree, or whose tree is deficient, is not read. -/
theorem ofBody?_of_deficient (h : ∀ tree, Tree.ofBytes? text = some tree → Deficient tree) :
    ofBody? text = none :=
  Option.bind_eq_none_iff.mpr fun tree htree => ofTree?_of_deficient (h tree htree)

/-- What an object holds can be seen from its members: it lacks a field that no
    member names, and has as many values for one as members name it. -/
theorem deficient_of_isObject (h : IsObject members text)
    (lacks : "ack_id" ∉ members.map Prod.fst ∨ "event_id" ∉ members.map Prod.fst ∨
      ∃ name ∈ fieldNames, 2 ≤ (members.map Prod.fst).count name) {tree : Tree}
    (htree : Tree.ofBytes? text = some tree) : Deficient tree := by
  rcases h.exists_trees with ⟨trees, reads, htext⟩
  obtain rfl := Option.some.inj (htext.symm.trans htree)
  rcases lacks with hack | hevent | ⟨name, hname, htwice⟩
  · exact .inl (List.length_eq_zero_iff.mp
      ((length_held reads).trans (List.count_eq_zero.mpr hack)))
  · exact .inr (.inl (List.length_eq_zero_iff.mp
      ((length_held reads).trans (List.count_eq_zero.mpr hevent))))
  · exact .inr (.inr ⟨name, hname, (length_held reads).symm ▸ htwice⟩)

/-- The text that is written of a reference shows it. -/
theorem exists_shown (r : Reference) :
    ∃ members, IsObject members r.json.toBytes ∧ r.Shows members := by
  have htext : ∀ s : String, IsValue (Bytes.ofChars (Json.text s).write) :=
    fun s => (isTextOf_writeText s).isValue
  -- A flow is written just if there is one.
  rcases r with ⟨ackId, eventId, _ | flow⟩
  · refine ⟨_, isObject_toBytes ?_, _, _, none, [], isTextOf_writeText ackId,
      isTextOf_writeText eventId, .absent, nofun, .refl _⟩
    exact List.forall_mem_cons.mpr ⟨htext _, List.forall_mem_singleton.mpr (htext _)⟩
  · refine ⟨_, isObject_toBytes ?_, _, _, some _, [], isTextOf_writeText ackId,
      isTextOf_writeText eventId, .named (isTextOf_writeText flow), nofun, .refl _⟩
    exact List.forall_mem_cons.mpr
      ⟨htext _, List.forall_mem_cons.mpr ⟨htext _, List.forall_mem_singleton.mpr (htext _)⟩⟩

/-! ## Places -/

/-- A text decodes in one way everywhere. -/
theorem decodes_of_ofBody? {result : Option Reference} (h : ofBody? text = result) :
    Decodes text result where
  direct := h
  content := by
    rintro m rfl
    exact h
  claimed := by
    intro τ c t s e budget task request written addressed sends answered
    -- The request is sent, and what comes back is the text.
    have hsend : (Http.send t request s).1 = (t.exchange request s.transport).1 := by
      rw [Http.send, sends]
    rw [Http.call_of_task written, ← addressed]
    simp only [hsend, Http.Exchange.body_of_answered answered, Http.interpret, h]

/-- References and lists of metadata entries are what their texts say.

    A reference is read back from its own text, and from every object that shows
    it: with its members in any order and spelled in any way, with further members
    among them, and with a flow that is null where it has none. A text in which one
    of the two identifiers is missing, or a field is there twice, does not decode.
    In an object a field is missing if no member has its name; in an array, which
    holds the fields in their order, if the array ends before it. -/
theorem decodes_as_shown :
    (∀ r : Reference, Decodes r.json.toBytes (some r) ∧
      (Message.ofJson r.json).read? ofTree? = some r) ∧
    (∀ (r : Reference) (members : List (String × Bytes)) (text : Bytes), IsObject members text →
      r.Shows members → Decodes text (some r)) ∧
    (∀ (members : List (String × Bytes)) (text : Bytes), IsObject members text →
      ("ack_id" ∉ members.map Prod.fst ∨ "event_id" ∉ members.map Prod.fst ∨
        ∃ name ∈ fieldNames, 2 ≤ (members.map Prod.fst).count name) → Decodes text none) ∧
    (∀ text : Bytes, (∀ tree, Tree.ofBytes? text = some tree → Deficient tree) →
      Decodes text none) ∧
    ∀ entries : List Metadata,
      (Message.ofJson (Metadata.listJson entries)).read? Metadata.listOfTree? = some entries := by
  refine ⟨fun r => ?_, fun r members text h shown => ?_, fun members text h lacks => ?_,
    fun text h => ?_, fun entries => ?_⟩
  · rcases exists_shown r with ⟨members, hobject, hshown⟩
    have hdecodes := decodes_of_ofBody? (ofBody?_of_shows hobject hshown)
    exact ⟨hdecodes, hdecodes.content _ rfl⟩
  · exact decodes_of_ofBody? (ofBody?_of_shows h shown)
  · exact decodes_of_ofBody? (ofBody?_of_deficient fun tree => deficient_of_isObject h lacks)
  · exact decodes_of_ofBody? (ofBody?_of_deficient h)
  · rw [Message.read?, Message.ofJson, ofBytes?_of_readsAs (Metadata.readsAs_listJson entries)]
    exact Metadata.listOfTree?_trees entries

/-- The members from the last one to the first, with another in front of them, a flow
    that is null, and an identifier that is there twice. -/
theorem decodes_as_shown_reversed :
    Decodes (Json.object [("seen", .array [.bool true]), ("flow_id", .null),
      ("event_id", .text "e"), ("ack_id", .text "a")]).toBytes (some (.of "a" "e")) ∧
    Decodes (Json.object [("ack_id", .text "a"), ("event_id", .text "e"),
      ("ack_id", .text "a")]).toBytes none := by
  have htext : ∀ s : String, IsValue (Bytes.ofChars (Json.text s).write) :=
    fun s => (isTextOf_writeText s).isValue
  have hseen : IsValue (Bytes.ofChars (Json.array [.bool true]).write) :=
    .array (listed_writeItems [.bool true]) (List.forall_mem_singleton.mpr (.scalar .true))
  rcases decodes_as_shown with ⟨-, hshown, hlacks, -⟩
  constructor
  · refine hshown _ _ _ (isObject_toBytes ?_) ⟨_, _, _, _, isTextOf_writeText "a",
      isTextOf_writeText "e", .null, ?_, (List.reverse_perm _).symm⟩
    · simp only [List.forall_mem_cons, htext, hseen, List.not_mem_nil, false_implies,
        implies_true, and_true, true_and]
      exact .scalar .null
    · exact List.forall_mem_singleton.mpr (by decide)
  · refine hlacks _ _ (isObject_toBytes ?_) (.inr (.inr ⟨"ack_id", by decide, by decide⟩))
    simp only [List.forall_mem_cons, htext, List.not_mem_nil, false_implies, implies_true,
      and_true]

end Reference

end EventFlow
