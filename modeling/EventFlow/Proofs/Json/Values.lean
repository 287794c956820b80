import EventFlow.Json.Tree
import EventFlow.Proofs.Json.Grammar

/-!
# Reading Values

Every text of the grammar is read.

A machine that is given a text keeps its open containers on a stack, and how it
goes on after a value depends on them and on nothing else. So what is to be said
of a value is said for every stack and for what stands behind it: the machine
completes the value and reads on. `Reads` is that statement, and it composes. An
array is read as the array of what its items are read as, and an object likewise.

What stands behind a value makes a difference to a number only, which has to end
there. Texts that hold none need no such proviso, so `Reads` leaves it open. All
that a container asks of it is that it be met inside (`FitsInside`).

For the two kinds of container the argument is the same one. A `Container` has all
in which they differ: the brackets, the frame that collects what was read, and what
the machine waits for after a comma. A value can begin where a value is expected or where the first
item of an array is, and it is the same to the machine in both places: only a
closing bracket would make a difference, and no value begins with one.

## Main definitions

* `Expect.TakesValue`: A value may come next.
* `Reads`, `ReadsName`: A value, or a name, is read, whatever it stands in.
* `FitsInside`: A proviso that is met inside of containers.
* `Container`: Arrays or objects.
* `MemberReads`: A member is read as a tree with a name.

## Theorems

* `run_token`: A machine goes on with the token in front.
* `Container.run_listed`: The inside of a container is read.
* `reads_array`, `reads_object`: Containers are read, if what is inside is.
* `exists_reads`: Every value is read.
* `ofBytes?_of_reads`: A text has the tree that its value is read as.
* `IsObject.exists_trees`: An object has the tree of its members.
-/

namespace EventFlow

namespace Json

/-! ## Machines -/

/-- A value may come next. -/
def Expect.TakesValue (expect : Expect) : Prop :=
  expect = .value ∨ expect = .firstItem

namespace Machine

/-- A machine looks at nothing but the next token. This is its definition without
    the bookkeeping that shows that it comes to an end. -/
theorem run_eq (m : Machine) (s : Bytes) : m.run s =
    match nextToken s with
    | .finished => m.tree?
    | .malformed => none
    | .token token rest => (m.step token).bind fun m => m.run rest := by
  rw [run]
  split
  · rename_i hnext
    rw [hnext]
  · rename_i hnext
    rw [hnext]
  · rename_i token rest hnext
    rw [hnext]
    change _ = (m.step token).bind _
    cases m.step token <;> rfl

/-- A machine goes on with the token in front. -/
theorem run_token {s rest : Bytes} {token : Token} (h : nextToken s = .token token rest)
    (m : Machine) : m.run s = (m.step token).bind fun m => m.run rest := by
  rw [run_eq, h]

/-- A value that is a single token and opens nothing is complete at once. A closing
    bracket is excluded, as it would end an array where a first item may stand. -/
theorem run_single {s rest : Bytes} {token : Token} {tree : Tree}
    (htoken : nextToken s = .token token rest)
    (hbegin : ∀ stack, beginValue stack token = complete stack tree)
    (hclose : token ≠ .closeArray) (stack : List Frame) {expect : Expect}
    (hexpect : expect.TakesValue) :
    run ⟨stack, expect⟩ s = (complete stack tree).bind fun m => m.run rest := by
  -- In both places a value is begun in the same way.
  have hstep : step ⟨stack, expect⟩ token = beginValue stack token := by
    rcases hexpect with rfl | rfl
    · rfl
    · unfold step
      cases token with
      | closeArray => exact absurd rfl hclose
      | _ => rfl
  rw [run_token htoken, hstep, hbegin]

/-- White space makes no difference to a machine. -/
theorem run_append {s : Bytes} (h : IsBlank s) (m : Machine) (rest : Bytes) :
    m.run (s ++ rest) = m.run rest := by
  rw [run_eq, run_eq, nextToken_append h]

end Machine

open Machine

/-! ## Values -/

/-- A machine that meets a value completes a tree and reads on, if what is behind
    the value fits. -/
def Reads (fits : Bytes → Prop) (value : Bytes) (tree : Tree) : Prop :=
  ∀ (stack : List Frame) (expect : Expect) (rest : Bytes), expect.TakesValue → fits rest →
    run ⟨stack, expect⟩ (value ++ rest) = (complete stack tree).bind fun m => m.run rest

/-- Anything fits. -/
def Anything : Bytes → Prop := fun _ => True

/-- What stands behind a value in a container fits. -/
def FitsInside (fits : Bytes → Prop) : Prop :=
  ∀ (after rest : Bytes) (b : UInt8), IsBlank after → b = 0x2c ∨ b = 0x5d ∨ b = 0x7d →
    fits (after ++ b :: rest)

/-- Where nothing is asked, it is met everywhere. -/
theorem fitsInside_anything : FitsInside Anything := fun _ _ _ _ _ => trivial

/-- Inside of a container a value is followed by a delimiter. -/
theorem fitsInside_delimited : FitsInside Delimited := by
  intro after rest b blank hb
  refine delimited_append blank fun b' hb' => ?_
  obtain rfl := Option.some.inj hb'
  rw [mem_delimiters]
  tauto

variable {fits fits' : Bytes → Prop}

/-- A name is read as a string. -/
def ReadsName (q : Bytes) (raw : RawText) : Prop :=
  ∀ rest, scanText .start (q ++ 0x22 :: rest) = some (raw, rest)

/-- A string is read, with its quotes around it, as what is read between these. -/
theorem reads_text {q : Bytes} {raw : RawText} (h : ReadsName q raw) :
    Reads fits (0x22 :: (q ++ [0x22])) (.text raw) := by
  intro stack expect rest hexpect _
  have hbytes : 0x22 :: (q ++ [0x22]) ++ rest = 0x22 :: (q ++ 0x22 :: rest) := by
    rw [List.cons_append, List.append_assoc, List.singleton_append]
  rw [hbytes]
  exact run_single (nextToken_quoted (h rest)) (fun _ => rfl) nofun stack hexpect

/-- A value that is a single token and opens nothing, whatever follows it. -/
theorem reads_token {value : Bytes} {tree : Tree} (token : Token)
    (htoken : ∀ rest, fits rest → nextToken (value ++ rest) = .token token rest)
    (hbegin : ∀ stack, beginValue stack token = complete stack tree)
    (hclose : token ≠ .closeArray) : Reads fits value tree :=
  fun stack _ rest hexpect hfits => run_single (htoken rest hfits) hbegin hclose stack hexpect

/-- So is the value that is none. -/
theorem reads_null : Reads fits [0x6e, 0x75, 0x6c, 0x6c] .null :=
  reads_token .null (fun _ _ => rfl) (fun _ => rfl) nofun

/-- Every value with nothing inside is read. Only the number has a use for what
    follows. -/
theorem exists_reads_scalar {value : Bytes} (h : IsScalar value) :
    ∃ tree, Reads Delimited value tree := by
  cases h with
  | null => exact ⟨.null, reads_null⟩
  | true =>
      exact ⟨.bool true, reads_token (.bool true) (fun _ _ => rfl) (fun _ => rfl) nofun⟩
  | false =>
      exact ⟨.bool false, reads_token (.bool false) (fun _ _ => rfl) (fun _ => rfl) nofun⟩
  | number digits =>
      rcases nextToken_number digits with ⟨numeral, htoken⟩
      exact ⟨.number numeral, reads_token _ htoken (fun _ => rfl) nofun⟩
  | text quoted =>
      rcases scanText_of_isQuoted quoted .start with ⟨raw, hraw⟩
      exact ⟨.text raw, reads_text hraw⟩

/-! ## Containers -/

/-- A kind of container: its brackets, what the machine keeps of it while it is open,
    and what the machine does at its brackets and commas. -/
structure Container (α : Type) where
  opening : UInt8
  close : UInt8
  frame : List α → Frame
  tree : List α → Tree
  /-- What may come behind the opening bracket. -/
  first : Expect
  /-- What may come behind a comma. -/
  next : Expect
  close_eq : close = 0x5d ∨ close = 0x7d
  opens : ∀ stack expect rest, expect.TakesValue →
    run ⟨stack, expect⟩ (opening :: rest) = run ⟨frame [] :: stack, first⟩ rest
  goesOn : ∀ done stack rest, run ⟨frame done :: stack, .separator⟩ (0x2c :: rest) =
    run ⟨frame done :: stack, next⟩ rest
  ends : ∀ done stack rest, run ⟨frame done :: stack, .separator⟩ (close :: rest) =
    (complete stack (tree done.reverse)).bind fun m => m.run rest
  ends_empty : ∀ stack rest, run ⟨frame [] :: stack, first⟩ (close :: rest) =
    (complete stack (tree [])).bind fun m => m.run rest

namespace Container

/-- Arrays. -/
def array : Container Tree where
  opening := 0x5b
  close := 0x5d
  frame := .array
  tree := .array
  first := .firstItem
  next := .value
  close_eq := .inl rfl
  opens := by
    have htoken : ∀ rest, nextToken (0x5b :: rest) = .token .openArray rest := fun _ => rfl
    rintro stack expect rest (rfl | rfl) <;> exact (run_token (htoken rest) _).trans rfl
  goesOn := fun done stack rest => by
    have htoken : nextToken (0x2c :: rest) = .token .comma rest := rfl
    exact (run_token htoken _).trans rfl
  ends := fun done stack rest => by
    have htoken : nextToken (0x5d :: rest) = .token .closeArray rest := rfl
    exact (run_token htoken _).trans rfl
  ends_empty := fun stack rest => by
    have htoken : nextToken (0x5d :: rest) = .token .closeArray rest := rfl
    exact (run_token htoken _).trans rfl

/-- Objects. -/
def object : Container (RawText × Tree) where
  opening := 0x7b
  close := 0x7d
  frame := .object
  tree := .object
  first := .firstName
  next := .name
  close_eq := .inr rfl
  opens := by
    have htoken : ∀ rest, nextToken (0x7b :: rest) = .token .openObject rest := fun _ => rfl
    rintro stack expect rest (rfl | rfl) <;> exact (run_token (htoken rest) _).trans rfl
  goesOn := fun done stack rest => by
    have htoken : nextToken (0x2c :: rest) = .token .comma rest := rfl
    exact (run_token htoken _).trans rfl
  ends := fun done stack rest => by
    have htoken : nextToken (0x7d :: rest) = .token .closeObject rest := rfl
    exact (run_token htoken _).trans rfl
  ends_empty := fun stack rest => by
    have htoken : nextToken (0x7d :: rest) = .token .closeObject rest := rfl
    exact (run_token htoken _).trans rfl

variable {α : Type} {texts : List Bytes} {items : List α} {s : Bytes}

/-- A machine that meets an item in a container adds it to what is there already. -/
def ReadsItem (k : Container α) (fits : Bytes → Prop) (text : Bytes) (item : α) : Prop :=
  ∀ done stack expect rest, expect = k.next ∨ expect = k.first → fits rest →
    run ⟨k.frame done :: stack, expect⟩ (text ++ rest) =
      run ⟨k.frame (item :: done) :: stack, .separator⟩ rest

/-- The inside of a container that has been begun, and its end. The induction is on
    the list of items, with what was read before in front of them, and a comma leads
    from one to the next. -/
theorem run_listed (k : Container α) (inside : FitsInside fits)
    (reads : List.Forall₂ (k.ReadsItem fits) texts items) (listed : Listed texts s)
    (hne : texts ≠ []) (done : List α) (stack : List Frame) (expect : Expect)
    (hexpect : expect = k.next ∨ expect = k.first) (rest : Bytes) :
    run ⟨k.frame done :: stack, expect⟩ (s ++ k.close :: rest) =
      (complete stack (k.tree (done.reverse ++ items))).bind fun m => m.run rest := by
  induction listed generalizing items done expect with
  | none => exact absurd rfl hne
  -- The last item is followed by the closing bracket.
  | @last before text after blank blank' =>
      rcases reads with _ | ⟨hitem, _ | _⟩
      rename_i item
      rw [List.append_assoc, List.append_assoc, run_append blank,
        hitem _ _ _ _ hexpect (inside _ _ _ blank' (.inr k.close_eq)), run_append blank', k.ends,
        List.reverse_cons]
  -- Any other is followed by a comma.
  | @more before text after s text' texts blank blank' _ ih =>
      rcases reads with _ | ⟨hitem, hitems⟩
      rename_i item items
      rw [List.append_assoc, List.append_assoc, List.append_assoc, List.cons_append,
        run_append blank, hitem _ _ _ _ hexpect (inside _ _ _ blank' (.inl rfl)),
        run_append blank', k.goesOn, ih hitems (List.cons_ne_nil _ _) _ _ (.inl rfl),
        List.reverse_cons, List.append_assoc]
      rfl

/-- A container is read as the tree of what its items are read as. An empty one may
    have white space in it, and then there is no item to begin with. -/
theorem reads (k : Container α) (inside : FitsInside fits) (listed : Listed texts s)
    (reads : List.Forall₂ (k.ReadsItem fits) texts items) :
    Reads fits' (k.opening :: (s ++ [k.close])) (k.tree items) := by
  intro stack expect rest hexpect _
  rw [List.cons_append, List.append_assoc, List.singleton_append, k.opens _ _ _ hexpect]
  by_cases hne : texts = []
  · subst hne
    cases reads
    cases listed with
    | none blank => rw [run_append blank, k.ends_empty]
  · exact k.run_listed inside reads listed hne [] stack _ (.inr rfl) rest

end Container

/-- An array is read as the array of what its items are read as. -/
theorem reads_array {texts : List Bytes} {trees : List Tree} {s : Bytes}
    (inside : FitsInside fits) (listed : Listed texts s)
    (reads : List.Forall₂ (Reads fits) texts trees) :
    Reads fits' (0x5b :: (s ++ [0x5d])) (.array trees) :=
  Container.array.reads inside listed <| reads.imp fun _ _ hreads done stack expect rest hexpect =>
    hreads (.array done :: stack) expect rest hexpect

/-- A member is read under its name, as what its value is read as. -/
theorem readsItem_of_isMember {q value text : Bytes} {raw : RawText} {tree : Tree}
    (h : IsMember q value text) (hname : ReadsName q raw) (hvalue : Reads fits value tree) :
    Container.object.ReadsItem fits text (raw, tree) := by
  intro done stack expect rest hexpect hfits
  change run ⟨.object done :: stack, expect⟩ _ = run ⟨.object ((raw, tree) :: done) :: stack, _⟩ _
  cases h with
  | @colon before after blank blank' =>
      -- A name may come first or behind a comma.
      have hstep : step ⟨.object done :: stack, expect⟩ (.text raw) =
          some ⟨.member done raw :: stack, .colon⟩ := by
        rcases hexpect with rfl | rfl <;> rfl
      have hcolon : ∀ s, nextToken (0x3a :: s) = .token .colon s := fun _ => rfl
      have hbytes : 0x22 :: (q ++ 0x22 :: (before ++ 0x3a :: (after ++ value))) ++ rest =
          0x22 :: (q ++ 0x22 :: (before ++ 0x3a :: (after ++ (value ++ rest)))) := by
        simp only [List.cons_append, List.append_assoc]
      -- The name is one token, the colon another, and the value is read in the frame of its
      -- member.
      rw [hbytes, run_token (nextToken_quoted (hname _)), hstep, Option.bind_some,
        run_append blank, run_token (hcolon _)]
      change run ⟨.member done raw :: stack, .value⟩ _ = _
      rw [run_append blank', hvalue _ _ _ (.inl rfl) hfits]
      rfl

/-- An object is read as the object of what its members are read as. -/
theorem reads_object {members : List (Bytes × Bytes)} {texts : List Bytes}
    {trees : List (RawText × Tree)} {s : Bytes} (inside : FitsInside fits)
    (listed : Listed texts s)
    (made : List.Forall₂ (fun member text => IsMember member.1 member.2 text) members texts)
    (reads : List.Forall₂ (fun member tree => ReadsName member.1 tree.1 ∧
      Reads fits member.2 tree.2) members trees) :
    Reads fits' (0x7b :: (s ++ [0x7d])) (.object trees) := by
  -- What is left is that each member is an item.
  refine Container.object.reads inside listed ?_
  clear listed
  induction made generalizing trees with
  | nil =>
      cases reads
      exact .nil
  | cons hmember _ ih =>
      rcases reads with _ | ⟨⟨hname, hvalue⟩, hreads⟩
      exact .cons (readsItem_of_isMember hmember hname hvalue) (ih hreads)

/-! ## Every text -/

/-- What is read of each of some things is read of all of them. -/
theorem exists_forall₂ {α β : Type} {R : α → β → Prop} {list : List α}
    (h : ∀ a ∈ list, ∃ b, R a b) : ∃ list', List.Forall₂ R list list' := by
  induction list with
  | nil => exact ⟨[], .nil⟩
  | cons a list ih =>
      rcases h a (.head _) with ⟨b, hb⟩
      rcases ih fun a' ha' => h a' (.tail _ ha') with ⟨list', hlist⟩
      exact ⟨b :: list', .cons hb hlist⟩

/-- Every value is read. -/
theorem exists_reads {value : Bytes} (h : IsValue value) : ∃ tree, Reads Delimited value tree := by
  induction h with
  | scalar simple => exact exists_reads_scalar simple
  | array listed _ ih =>
      rcases exists_forall₂ ih with ⟨trees, htrees⟩
      exact ⟨.array trees, reads_array fitsInside_delimited listed htrees⟩
  | @object members texts s listed made names _ ih =>
      -- A name need not be text: it is enough that it can be skipped.
      have hread : ∀ member ∈ members, ∃ tree : RawText × Tree,
          ReadsName member.1 tree.1 ∧ Reads Delimited member.2 tree.2 := fun member hmem => by
        rcases scanText_of_isQuoted (names member hmem) .start with ⟨raw, hraw⟩
        rcases ih member hmem with ⟨tree, htree⟩
        exact ⟨(raw, tree), hraw, htree⟩
      rcases exists_forall₂ hread with ⟨trees, htrees⟩
      exact ⟨.object trees, reads_object fitsInside_delimited listed made htrees⟩

/-- A value with white space around it is a text that has the tree of the value. -/
theorem ofBytes?_of_reads {before value after : Bytes} {tree : Tree}
    (h : Reads Delimited value tree) (blank : IsBlank before) (blank' : IsBlank after) :
    Tree.ofBytes? (before ++ (value ++ after)) = some tree := by
  -- Behind the value there is white space or nothing, and either ends a number.
  have hend : Delimited after := by
    have hafter : Delimited (after ++ []) := delimited_append blank' fun b hb => absurd hb nofun
    rwa [List.append_nil] at hafter
  rw [Tree.ofBytes?, Machine.start, run_append blank, h [] .value after (.inl rfl) hend]
  change run ⟨[], .nothing tree⟩ after = some tree
  have hrun := run_append blank' ⟨[], .nothing tree⟩ []
  rw [List.append_nil] at hrun
  rw [hrun, run_eq]
  rfl

/-- A value is read in one way only, since it is a whole text as well, and that has
    one tree. -/
theorem Reads.unique {value : Bytes} {tree tree' : Tree} (h : Reads Delimited value tree)
    (h' : Reads Delimited value tree') : tree = tree' := by
  have hblank : IsBlank [] := fun b hb => absurd hb List.not_mem_nil
  have htree := ofBytes?_of_reads h hblank hblank
  rw [ofBytes?_of_reads h' hblank hblank] at htree
  exact (Option.some.inj htree).symm

/-! ## Objects by name -/

/-- The text of a string is a value. -/
theorem IsTextOf.isValue {s : String} {text : Bytes} (h : IsTextOf s text) : IsValue text := by
  cases h with
  | quoted spelled => exact .scalar (.text (isQuoted_of_spells spelled))

/-- It is read as that string. -/
theorem IsTextOf.reads {s : String} {text : Bytes} (h : IsTextOf s text) :
    Reads fits text (.text (.ofText s)) := by
  cases h with
  | quoted spelled => exact reads_text (scanText_start_of_spells spelled)

/-- The tree of a member has its name, and what its value is read as. -/
def MemberReads (member : String × Bytes) (tree : String × Tree) : Prop :=
  member.1 = tree.1 ∧ Reads Delimited member.2 tree.2

/-- An object has the tree of the members that it was made of. -/
theorem IsObject.exists_trees {members : List (String × Bytes)} {text : Bytes}
    (h : IsObject members text) : ∃ trees : List (String × Tree),
      List.Forall₂ MemberReads members trees ∧
      Tree.ofBytes? text = some (.object (trees.map fun tree => (.ofText tree.1, tree.2))) := by
  cases h with
  | @braces before s after texts blank blank' listed made values =>
      -- Each member is spelled in some way, and for the reader that is all the same.
      have hread : ∃ (spelled : List (Bytes × Bytes)) (trees : List (String × Tree)),
          List.Forall₂ (fun member text => IsMember member.1 member.2 text) spelled texts ∧
          List.Forall₂ (fun member tree => ReadsName member.1 tree.1 ∧
            Reads Delimited member.2 tree.2) spelled
            (trees.map fun tree => (.ofText tree.1, tree.2)) ∧
          List.Forall₂ MemberReads members trees := by
        clear listed
        induction made with
        | nil => exact ⟨[], [], .nil, .nil, .nil⟩
        | @cons member text members texts hmember _ ih =>
            rcases hmember with ⟨q, hspells, hmade⟩
            rcases exists_reads (values member (.head _)) with ⟨tree, htree⟩
            rcases ih fun member' hmem => values member' (.tail _ hmem) with
              ⟨spelled, trees, htexts, htrees, hmembers⟩
            exact ⟨(q, member.2) :: spelled, (member.1, tree) :: trees, .cons hmade htexts,
              .cons ⟨scanText_start_of_spells hspells, htree⟩ htrees,
              .cons ⟨rfl, htree⟩ hmembers⟩
      rcases hread with ⟨spelled, trees, htexts, htrees, hmembers⟩
      exact ⟨trees, hmembers, ofBytes?_of_reads
        (reads_object fitsInside_delimited listed htexts htrees) blank blank'⟩

end Json

end EventFlow
