import EventFlow.Proofs.Json.Values

/-!
# Reading What Was Written

The text of a value is read as the tree of that value, wherever it stands.

`ReadsAs` is what is to be said of the text of a value. Strings, truth values and
containers of these say themselves where they end, so nothing is asked of what
stands behind them.

The text of a container is one of those that the grammar has for it, the one
without any white space (`listed_writeItems`, `listed_writeMembers`). How it is
read is then known from how containers are read in general.

## Main definitions

* `Json.ReadsAs`: The text of a value is read as a tree.
* `Json.MemberReadsAs`: The text of a member is read as a name and a tree.

## Theorems

* `readsAs_text`, `readsAs_bool`: Strings and truth values are read as what they
  are.
* `readsAs_array`, `readsAs_object`: So are containers, if what is inside is.
* `ofBytes?_of_readsAs`: The text of a value has its tree.
* `isObject_toBytes`: The text of an object shows its members.
-/

namespace EventFlow

namespace Json

open Machine

/-- A machine that meets the text of a value completes a tree and reads on. There is
    no proviso on what stands behind, since no number is written. -/
def ReadsAs (value : Json) (tree : Tree) : Prop :=
  ∀ (stack : List Frame) (expect : Expect) (rest : Bytes), expect.TakesValue →
    Machine.run ⟨stack, expect⟩ (Bytes.ofChars value.write ++ rest) =
      (Machine.complete stack tree).bind fun m => m.run rest

/-- That is to be read, whatever follows. The one form is what is shown of written
    values, the other is that of all texts of the grammar. -/
theorem readsAs_iff {value : Json} {tree : Tree} :
    ReadsAs value tree ↔ Reads Anything (Bytes.ofChars value.write) tree :=
  ⟨fun h stack expect rest hexpect _ => h stack expect rest hexpect,
    fun h stack expect rest hexpect => h stack expect rest hexpect trivial⟩

/-- The text of a string is one of those that the grammar has for it: the one in
    which only what has to be escaped is. -/
theorem isTextOf_writeText (s : String) : IsTextOf s (Bytes.ofChars (writeText s)) := by
  rw [ofChars_writeText]
  exact .quoted (spells_escaped s.toList)

/-- Strings are read as what they are. -/
theorem readsAs_text (s : String) : ReadsAs (.text s) (.text (.ofText s)) :=
  readsAs_iff.mpr (isTextOf_writeText s).reads

/-- So are truth values. -/
theorem readsAs_bool (value : Bool) : ReadsAs (.bool value) (.bool value) := by
  rw [readsAs_iff]
  cases value with
  | true => exact reads_token (.bool true) (fun _ _ => rfl) (fun _ => rfl) nofun
  | false => exact reads_token (.bool false) (fun _ _ => rfl) (fun _ => rfl) nofun

/-! ## Lists -/

/-- White space may be missing, and in what is written it always is. -/
theorem isBlank_nil : IsBlank [] := fun _ hb => absurd hb List.not_mem_nil

/-- A single item. -/
theorem listed_singleton (item : Bytes) : Listed [item] item := by
  have hlisted : Listed [item] ([] ++ (item ++ [])) := .last isBlank_nil isBlank_nil
  rwa [List.nil_append, List.append_nil] at hlisted

/-- An item before others. -/
theorem Listed.cons {next : Bytes} {items : List Bytes} {s : Bytes}
    (rest : Listed (next :: items) s) (item : Bytes) :
    Listed (item :: next :: items) (item ++ 0x2c :: s) := by
  have hlisted : Listed (item :: next :: items) ([] ++ (item ++ ([] ++ 0x2c :: s))) :=
    .more isBlank_nil isBlank_nil rest
  rwa [List.nil_append, List.nil_append] at hlisted

/-- The items of an array are a list. The cases are those of the writer, which puts
    a comma between two items and none behind the last. -/
theorem listed_writeItems : ∀ items : List Json,
    Listed (items.map fun item => Bytes.ofChars item.write) (Bytes.ofChars (writeItems items))
  | [] => .none isBlank_nil
  | [item] => listed_singleton _
  | item :: item' :: items => by
    rw [writeItems, Bytes.ofChars_append]
    · -- The recursion is that of the writer, with a comma between the first two.
      exact (listed_writeItems (item' :: items)).cons _
    · exact List.cons_ne_nil _ _

/-- How the name of a member is spelled, and the text of its value. -/
def spelling (member : String × Json) : Bytes × Bytes :=
  (Bytes.ofChars (member.1.toList.flatMap escapeChar), Bytes.ofChars member.2.write)

/-- The text of a member. -/
def memberText (member : String × Json) : Bytes :=
  Bytes.ofChars (writeText member.1) ++ 0x3a :: Bytes.ofChars member.2.write

/-- A member has its name, a colon, and its value. -/
theorem isMember_memberText (member : String × Json) :
    IsMember (spelling member).1 (spelling member).2 (memberText member) := by
  rw [memberText, ofChars_writeText, List.cons_append, List.append_assoc]
  exact .colon isBlank_nil isBlank_nil

/-- So are the members of an object. -/
theorem listed_writeMembers : ∀ members : List (String × Json),
    Listed (members.map memberText) (Bytes.ofChars (writeMembers members))
  | [] => .none isBlank_nil
  | [(name, value)] => by
    rw [writeMembers, Bytes.ofChars_append]
    exact listed_singleton _
  | (name, value) :: member :: members => by
    -- Here the writer puts a name and a colon in front of each value.
    have hbytes : Bytes.ofChars (writeMembers ((name, value) :: member :: members)) =
        memberText (name, value) ++ 0x2c :: Bytes.ofChars (writeMembers (member :: members)) := by
      rw [writeMembers, Bytes.ofChars_append, Bytes.ofChars_append]
      · rfl
      · exact List.cons_ne_nil _ _
    rw [hbytes]
    exact (listed_writeMembers (member :: members)).cons _

/-! ## Containers -/

/-- An array is read as the array of what its items are read as. Its text is one of
    the grammar, so this is a case of how arrays are read. -/
theorem readsAs_array {items : List Json} {trees : List Tree}
    (h : List.Forall₂ ReadsAs items trees) : ReadsAs (.array items) (.array trees) := by
  have hreads : List.Forall₂ (Reads Anything) (items.map fun item => Bytes.ofChars item.write)
      trees := List.forall₂_map_left_iff.mpr (h.imp fun _ _ => readsAs_iff.mp)
  rw [readsAs_iff, write, Bytes.ofChars_cons, Bytes.ofChars_append]
  exact reads_array fitsInside_anything (listed_writeItems items) hreads

/-- A member is read under its name, as what its value is read as. -/
def MemberReadsAs (member : String × Json) (tree : RawText × Tree) : Prop :=
  tree.1 = .ofText member.1 ∧ ReadsAs member.2 tree.2

/-- An object is read as the object of what its members are read as. -/
theorem readsAs_object {members : List (String × Json)} {trees : List (RawText × Tree)}
    (h : List.Forall₂ MemberReadsAs members trees) : ReadsAs (.object members) (.object trees) := by
  have hmade : List.Forall₂ (fun member text => IsMember member.1 member.2 text)
      (members.map spelling) (members.map memberText) := by
    rw [List.forall₂_map_left_iff, List.forall₂_map_right_iff, List.forall₂_same]
    exact fun member _ => isMember_memberText member
  have hreads : List.Forall₂ (fun member tree => ReadsName member.1 tree.1 ∧
      Reads Anything member.2 tree.2) (members.map spelling) trees := by
    refine List.forall₂_map_left_iff.mpr (h.imp ?_)
    rintro member ⟨raw, tree⟩ ⟨rfl, hvalue⟩
    -- A written name spells itself, whatever has to be escaped in it.
    exact ⟨scanText_start_of_spells (spells_escaped _), readsAs_iff.mp hvalue⟩
  rw [readsAs_iff, write, Bytes.ofChars_cons, Bytes.ofChars_append]
  exact reads_object fitsInside_anything (listed_writeMembers members) hmade hreads

/-! ## Whole texts -/

/-- A whole text is the encoding of what is written. -/
theorem toBytes_eq (value : Json) : value.toBytes = Bytes.ofChars value.write :=
  Bytes.ofText_ofList value.write

/-- The text of a value has its tree. The machine begins with nothing open, so it
    ends as soon as the value does. -/
theorem ofBytes?_of_readsAs {value : Json} {tree : Tree} (h : ReadsAs value tree) :
    Tree.ofBytes? value.toBytes = some tree := by
  have hrun := h [] .value [] (.inl rfl)
  rw [List.append_nil, ← toBytes_eq] at hrun
  unfold Tree.ofBytes? Machine.start
  rw [hrun]
  -- Nothing is left, and nothing is open.
  change run ⟨[], .nothing tree⟩ [] = _
  rw [run]
  rfl

/-- The text of an object shows its members, if the texts of their values are
    those of values. -/
theorem isObject_toBytes {members : List (String × Json)}
    (values : ∀ member ∈ members, IsValue (Bytes.ofChars member.2.write)) :
    IsObject (members.map fun member => (member.1, Bytes.ofChars member.2.write))
      (Json.object members).toBytes := by
  have hmade : List.Forall₂ (fun member text => ∃ q, Spells member.1.toList q ∧
      IsMember q member.2 text) (members.map fun member => (member.1, Bytes.ofChars member.2.write))
      (members.map memberText) := by
    rw [List.forall₂_map_left_iff, List.forall₂_map_right_iff, List.forall₂_same]
    exact fun member _ => ⟨_, spells_escaped _, isMember_memberText member⟩
  have hobject := IsObject.braces isBlank_nil isBlank_nil (listed_writeMembers members) hmade
    (List.forall_mem_map.mpr values)
  rw [toBytes_eq, write, Bytes.ofChars_cons, Bytes.ofChars_append]
  rwa [List.nil_append, List.append_nil] at hobject

end Json

end EventFlow
