import EventFlow.CommandLine.Arguments
import Mathlib.Data.List.TakeWhile

/-!
# Arguments with Metadata

What the arguments say that publish a content with some metadata texts, and when
they say nothing.

An option and its value are two arguments, and the value is checked only when the
next option comes, or at the end. So the state between two pairs is one in which
a value may still be unchecked, and what counts of it is what it resolves to.
`gather` puts reading and the last check together, and the lemmas on it say what
comes of a list of pairs from any such state: all of the texts in their order
(`gather_of_entries`), or an error (`gather_of_not_entries`). The error is never
the one that asks for help, which would not be a failure. Only the content can
ask for that, being in the place where an option may stand as well.

## Main definitions

* `metadataArguments`, `produceArguments`: The arguments of a publication.
* `IsEntry`: A text that can be given as metadata.
* `gather`: What all arguments behind a command say.

## Theorems

* `text_of_metadata?`, `metadata?_eq_none`: Which texts are entries.
* `of_ofList_produce`: What is accepted and what that says.
* `ofList_produce_of_option`: A content that looks like an option is not accepted.
* `exitCode_of_not_entries`: Texts that are no entries are an error.
* `ofList_get`, `ofList_get_divided`: The arguments that fetch.
-/

namespace EventFlow

namespace CommandLine

variable {content m id : String} {metas : List String} {g : Given}
  {options : List (String × String)} {positionals : List String} {e : ArgumentError}

/-! ## Texts of metadata -/

/-- An entry is the text that it was read from. -/
theorem text_of_metadata? {entry : Metadata} (h : metadata? m = some entry) :
    entry.key ++ "=" ++ entry.value = m := by
  have hsplit := List.takeWhile_append_dropWhile (p := (· != '=')) (l := m.toList)
  unfold metadata? at h
  cases hd : m.toList.dropWhile (· != '=') with
  | nil => simp [hd] at h
  | cons c value =>
      -- What is left begins with the character that ended the key.
      have hc : c = '=' := by
        have hhead := List.head?_dropWhile_not (· != '=') m.toList
        rw [hd] at hhead
        simpa using hhead
      simp only [hd] at h
      split at h
      · exact absurd h (by simp)
      · rw [hd, hc] at hsplit
        rw [← Option.some.inj h]
        apply String.toList_injective
        simp only [String.toList_append, String.toList_ofList]
        exact (List.append_assoc _ _ _).trans hsplit

/-- A text is no entry if it has no equals sign, so that it has no value, or begins
    with one, so that its key would be empty. -/
theorem metadata?_eq_none (h : '=' ∉ m.toList ∨ m.toList.head? = some '=') :
    metadata? m = none := by
  unfold metadata?
  rcases h with hnone | hhead
  · have hd : m.toList.dropWhile (· != '=') = [] := by
      rw [List.dropWhile_eq_nil_iff]
      intro c hc
      rw [bne_iff_ne]
      exact fun heq => hnone (heq ▸ hc)
    rw [hd]
  · -- The key is empty, which is what the reader refuses.
    cases hm : m.toList with
    | nil => rfl
    | cons c rest =>
        rw [hm] at hhead
        obtain rfl := Option.some.inj hhead
        rfl

/-! ## What is read behind a command -/

/-- The arguments that give metadata texts. -/
def metadataArguments (metas : List String) : List String :=
  metas.flatMap fun m => ["--meta", m]

/-- The arguments that publish a content with metadata texts. -/
def produceArguments (content : String) (metas : List String) : List String :=
  "produce" :: content :: metadataArguments metas

/-- A text that can be given as metadata: it looks like no option, and it is an
    entry. -/
def IsEntry (m : String) : Prop := Form.of m = .plain ∧ (metadata? m).isSome = true

/-- What all arguments behind a command say, the last option included. -/
def gather (level : Level) (g : Given) (arguments : List String) : Except ArgumentError Given :=
  (read level false g arguments).bind fun r => r.1.resolve

/-- The name of the option, which is never taken for a value. The option before it
    is checked now, and may be at fault. -/
theorem read_meta (g : Given) (rest : List String) :
    read (inner "produce") false g ("--meta" :: rest) =
      g.resolve.bind fun g => read (inner "produce") false
        { g with pending := some ("meta", .metadata, none) } rest := by
  have hform : Form.of "--meta" = .long "meta".toList := by decide
  have hlong : readLong (inner "produce") g "meta".toList = g.beginOption "meta" .metadata := rfl
  have hcommand : (inner "produce").commands.contains "--meta" = false := rfl
  rw [read]
  simp only [hform, hlong, hcommand, Bool.and_false, Bool.false_eq_true, if_false]
  unfold Given.beginOption
  cases g.resolve with
  | error e => rfl
  | ok g => rfl

/-- A value that looks like no option is taken as it is. It is checked when the next
    option comes, or at the end. -/
theorem read_value (hm : Form.of m = .plain) (rest : List String) :
    read (inner "produce") false ⟨options, positionals, some ("meta", .metadata, none)⟩
        (m :: rest) =
      read (inner "produce") false ⟨options, positionals, some ("meta", .metadata, some m)⟩
        rest := by
  rw [read]
  simp only [hm, Given.awaitsValue, Bool.not_true, Bool.false_and, Bool.false_eq_true, if_false,
    if_true]
  rfl

/-- The check of an entry adds the option behind those that were accepted. -/
theorem resolve_entry (h : (metadata? m).isSome = true) :
    (Given.mk options positionals (some ("meta", .metadata, some m))).resolve =
      .ok ⟨options ++ [("meta", m)], positionals, none⟩ := by
  rcases Option.isSome_iff_exists.mp h with ⟨entry, hentry⟩
  unfold Given.resolve Given.accept Shape.check
  simp only [hentry]
  rfl

/-- The check of another text fails, with a message about that text. -/
theorem resolve_not_entry (options : List (String × String)) (positionals : List String)
    (h : metadata? m = none) : ∃ message,
    (Given.mk options positionals (some ("meta", .metadata, some m))).resolve =
      .error (.value message) := by
  unfold Given.resolve Given.accept Shape.check
  simp only [h]
  exact ⟨_, rfl⟩

/-- An option that waits in vain for its value is at fault whatever option comes
    next, known or not. -/
theorem readLong_of_resolve (h : g.resolve = .error .usage) (level : Level) (s : List Char) :
    readLong level g s = .error .usage := by
  unfold readLong Given.addOption Given.beginOption Given.askHelp
  simp only [h]
  split
  · rfl
  · rfl
  · rfl
  · rfl
  · rfl
  · split
    · rfl
    · rfl

/-- Where a value is due, nothing that looks like an option is taken. -/
theorem gather_of_not_plain (options : List (String × String)) (positionals : List String)
    (hm : Form.of m ≠ .plain) (metas : List String) :
    gather (inner "produce") ⟨options, positionals, some ("meta", .metadata, none)⟩
      (m :: metadataArguments metas) = .error .usage := by
  unfold gather
  rw [read]
  simp only [Given.awaitsValue, Bool.not_true, Bool.false_and, Bool.false_eq_true, if_false]
  cases hform : Form.of m with
  | plain => exact absurd hform hm
  | divider =>
      simp only
      cases metas with
      | nil => rfl
      | cons m' metas =>
          -- Even a positional argument would need the value first.
          change (read _ true _ ("--meta" :: m' :: metadataArguments metas)).bind _ = _
          rw [read]
          simp only [if_true, Given.addPositional, Given.resolve, ite_self]
          rfl
  | long s =>
      have hdue : (Given.mk options positionals (some ("meta", .metadata, none))).resolve =
          .error .usage := rfl
      simp only
      -- The next option comes too early.
      rw [readLong_of_resolve hdue]
      rfl
  | short c =>
      simp only [Given.askHelp, Given.resolve, ite_self]
      rfl

/-- What is at fault before the texts stays so: the first name of an option brings
    it to light, or the end does. -/
theorem gather_of_resolve (h : g.resolve = .error e) (metas : List String) :
    gather (inner "produce") g (metadataArguments metas) = .error e := by
  unfold gather
  cases metas with
  | nil => exact h
  | cons m metas =>
      change (read _ false g ("--meta" :: m :: metadataArguments metas)).bind _ = _
      rw [read_meta, h]
      rfl

/-- One text more: it is the value that the rest begins with, still unchecked. -/
theorem gather_cons (h : g.resolve = .ok ⟨options, positionals, none⟩)
    (hm : Form.of m = .plain) (metas : List String) :
    gather (inner "produce") g (metadataArguments (m :: metas)) =
      gather (inner "produce") ⟨options, positionals, some ("meta", .metadata, some m)⟩
        (metadataArguments metas) := by
  unfold gather
  change (read _ false g ("--meta" :: m :: metadataArguments metas)).bind _ = _
  rw [read_meta, h]
  change (read _ false _ _).bind _ = _
  rw [read_value hm]

/-- Texts that are entries are all there, in their order. The induction goes along
    the pairs, and takes the place of the state by any that resolves to the same. -/
theorem gather_of_entries (h : g.resolve = .ok ⟨options, positionals, none⟩)
    (hall : ∀ m ∈ metas, IsEntry m) :
    gather (inner "produce") g (metadataArguments metas) =
      .ok ⟨options ++ metas.map fun m => ("meta", m), positionals, none⟩ := by
  induction metas generalizing g options with
  | nil =>
      rw [List.map_nil, List.append_nil]
      exact h
  | cons m metas ih =>
      rcases hall m (.head _) with ⟨hform, hentry⟩
      rw [gather_cons h hform, ih (resolve_entry hentry) fun m' hm' => hall m' (.tail _ hm'),
        List.append_assoc]
      rfl

/-- A text that is no entry is an error, and not one that asks for help. -/
theorem gather_of_not_entries (h : g.resolve = .ok ⟨options, positionals, none⟩)
    (hnot : ¬ ∀ m ∈ metas, IsEntry m) :
    ∃ e, e ≠ .help ∧ gather (inner "produce") g (metadataArguments metas) = .error e := by
  induction metas generalizing g options with
  | nil => exact absurd (fun m hm => absurd hm List.not_mem_nil) hnot
  | cons m metas ih =>
      by_cases hform : Form.of m = .plain
      · rw [gather_cons h hform]
        cases hentry : metadata? m with
        | none =>
            -- Nothing is noticed yet: the fault shows at the next name, or at the end.
            rcases resolve_not_entry options positionals hentry with ⟨message, herror⟩
            exact ⟨_, by simp, gather_of_resolve herror metas⟩
        | some entry =>
            have hsome : (metadata? m).isSome = true := by
              rw [hentry]
              rfl
            refine ih (resolve_entry hsome) fun hall => hnot fun m' hm' => ?_
            -- This text is an entry, so the one that is none comes later.
            rcases List.mem_cons.mp hm' with rfl | hm'
            · exact ⟨hform, hsome⟩
            · exact hall m' hm'
      · -- A text that looks like an option is not even taken as a value.
        refine ⟨.usage, by simp, ?_⟩
        have hdue := gather_of_not_plain options positionals hform metas
        unfold gather at hdue ⊢
        change (read _ false g ("--meta" :: m :: metadataArguments metas)).bind _ = _
        rw [read_meta, h]
        exact hdue

/-! ## Publishing -/

/-- What a command and its arguments say is what the arguments behind the
    command say. -/
theorem ofList_command {name : String} (hname : outer.commands.contains name = true)
    (hhelp : name ≠ "help") (rest : List String) :
    Arguments.ofList (name :: rest) =
      ((gather (inner name) .empty rest).bind fun g =>
        match command? name g with
        | some command => .ok ⟨(g.value? "config").or none, command⟩
        | none => .error .usage) := by
  -- The outer level ends at the command, with nothing given before it.
  have hread : read outer false .empty (name :: rest) = .ok (.empty, some (name, rest)) := by
    rw [read]
    simp only [hname, Given.awaitsValue, Bool.false_eq_true, if_false]
    rfl
  have hcommand : Arguments.ofList (name :: rest) =
      ((readCommand name rest).bind fun r => .ok ⟨r.2.or none, r.1⟩) := by
    unfold Arguments.ofList
    rw [hread]
    simp only [bind, Except.bind]
    cases readCommand name rest with
    | error e => rfl
    | ok r => rfl
  rw [hcommand]
  unfold readCommand gather
  simp only [bind, Except.bind]
  cases read (inner name) false .empty rest with
  | error e => rfl
  | ok r =>
      simp only
      cases r.1.resolve with
      | error e => rfl
      | ok g =>
          simp only
          cases command? name g with
          | none => rfl
          | some command => rfl

/-- The argument in the place of the content is read by its form alone. -/
theorem read_content (content : String) (rest : List String) :
    read (inner "produce") false .empty (content :: rest) =
      match Form.of content with
      | .divider => read (inner "produce") true .empty rest
      | .long s => (readLong (inner "produce") .empty s).bind fun g =>
          read (inner "produce") false g rest
      | .short c => .error (if c = 'h' then .help else .usage)
      | .plain => read (inner "produce") false ⟨[], [content], none⟩ rest := by
  -- There are no commands inside this one, so the content is not compared with any.
  have hcommand : (inner "produce").commands.contains content = false := rfl
  rw [read]
  simp only [hcommand, Bool.and_false, Bool.false_eq_true, if_false]
  cases Form.of content with
  | plain => rfl
  | divider => rfl
  | short c => rfl
  | long s => simp only; cases readLong (inner "produce") .empty s <;> rfl

/-- A content that looks like no option is what is to be published. -/
theorem gather_content (hcontent : Form.of content = .plain) (rest : List String) :
    gather (inner "produce") .empty (content :: rest) =
      gather (inner "produce") ⟨[], [content], none⟩ rest := by
  unfold gather
  rw [read_content, hcontent]

/-- A content and entries are what is to be published, in the order given. -/
theorem ofList_produce_of_entries (hcontent : Form.of content = .plain)
    (hall : ∀ m ∈ metas, IsEntry m) :
    Arguments.ofList (produceArguments content metas) =
      .ok ⟨none, .produce content (metas.filterMap metadata?)⟩ := by
  have hvalues : (Given.mk (metas.map fun m => ("meta", m)) [content] none).values "meta" =
      metas := by
    unfold Given.values
    rw [List.filter_map, List.map_map]
    -- All options have this name, so none is left out.
    have hall : metas.filter ((fun o : String × String => o.1 == "meta") ∘
        fun m => ("meta", m)) = metas := List.filter_eq_self.mpr fun m _ => rfl
    rw [hall]
    exact List.map_id metas
  have hnone : (Given.mk (metas.map fun m => ("meta", m)) [content] none).value? "config" =
      none := by
    -- And so none of them names a configuration.
    unfold Given.value?
    rw [List.find?_eq_none.mpr, Option.map_none]
    intro o ho
    rcases List.mem_map.mp ho with ⟨m, -, rfl⟩
    exact Bool.false_ne_true
  have hcommand : command? "produce" ⟨metas.map fun m => ("meta", m), [content], none⟩ =
      some (.produce content (metas.filterMap metadata?)) := by
    unfold command?
    simp only [hvalues]
  unfold produceArguments
  rw [ofList_command rfl (by decide), gather_content hcontent, gather_of_entries rfl hall,
    List.nil_append]
  simp only [Except.bind, hcommand, hnone, Option.or_none]

/-- Texts that are no entries are an error of the arguments. -/
theorem ofList_produce_of_not_entries (hcontent : Form.of content = .plain)
    (hnot : ¬ ∀ m ∈ metas, IsEntry m) :
    ∃ e, e ≠ .help ∧ Arguments.ofList (produceArguments content metas) = .error e := by
  rcases gather_of_not_entries (g := ⟨[], [content], none⟩) rfl hnot with ⟨e, hne, herror⟩
  refine ⟨e, hne, ?_⟩
  unfold produceArguments
  rw [ofList_command rfl (by decide), gather_content hcontent, herror]
  rfl

/-- What an option in the place of the content leaves behind: itself with its value,
    or the wait for that. In neither case there is a content. -/
theorem readLong_empty {level : Level} {s : List Char} (h : readLong level .empty s = .ok g) :
    (∃ o, g = ⟨[o], [], none⟩) ∨ ∃ name shape, g = ⟨[], [], some (name, shape, none)⟩ := by
  have haccept : ∀ {name : String} {shape : Shape} {value : String},
      Given.empty.addOption name shape value = .ok g → ∃ o, g = ⟨[o], [], none⟩ := by
    intro name shape value h
    unfold Given.addOption at h
    simp only [Given.resolve, Given.empty] at h
    unfold Given.accept at h
    split at h
    · exact absurd h (by simp)
    split at h
    · exact absurd h (by simp)
    · exact ⟨(name, value), (Except.ok.inj h).symm⟩
  unfold readLong at h
  simp only at h
  split at h
  · exact absurd h (by simp)
  · exact .inl (haccept h)
  · exact .inl (haccept h)
  · exact .inr ⟨_, _, (Except.ok.inj h).symm⟩
  · exact absurd h (by simp)
  · split at h
    · exact absurd h (by simp)
    · exact absurd h (by simp)

/-- What looks like an option is read as one in the place of the content, so no
    content is there. If help is asked for, it is by this option alone. -/
theorem gather_of_option (hcontent : Form.of content ≠ .plain) (metas : List String) :
    (∃ g, gather (inner "produce") .empty (content :: metadataArguments metas) = .ok g ∧
      g.positionals = []) ∨
    ∃ e, gather (inner "produce") .empty (content :: metadataArguments metas) = .error e ∧
      (e = .help → gather (inner "produce") .empty [content] = .error .help) := by
  unfold gather
  rw [read_content, read_content]
  cases hform : Form.of content with
  | plain => exact absurd hform hcontent
  | short c => exact .inr ⟨_, rfl, fun hhelp => congrArg Except.error hhelp⟩
  | divider =>
      cases metas with
      -- Nothing stands behind the divider, so the content is missing.
      | nil => exact .inl ⟨_, rfl, rfl⟩
      | cons m metas =>
          -- The name of the option is the content then, and its value is one too many.
          exact .inr ⟨.usage, rfl, fun hhelp => absurd hhelp (by simp)⟩
  | long s =>
      cases hlong : readLong (inner "produce") .empty s with
      | error e =>
          simp only [hlong]
          exact .inr ⟨_, rfl, fun hhelp => congrArg Except.error hhelp⟩
      | ok g =>
          simp only [hlong]
          change (∃ g', gather (inner "produce") g (metadataArguments metas) = .ok g' ∧ _) ∨
            ∃ e, gather (inner "produce") g (metadataArguments metas) = .error e ∧ _
          -- An option that has its value leaves the texts to be read as ever. One that waits for
          -- it finds the name of another option, or the end.
          rcases readLong_empty hlong with ⟨o, rfl⟩ | ⟨name, shape, rfl⟩
          · by_cases hall : ∀ m ∈ metas, IsEntry m
            · exact .inl ⟨_, gather_of_entries rfl hall, rfl⟩
            · rcases gather_of_not_entries (g := ⟨[o], [], none⟩) rfl hall with ⟨e, hne, herror⟩
              exact .inr ⟨e, herror, fun hhelp => absurd hhelp hne⟩
          · exact .inr ⟨.usage, gather_of_resolve rfl metas, fun hhelp => absurd hhelp (by simp)⟩

/-- A content that looks like an option is not accepted, and if help is asked
    for, it is by this option alone. -/
theorem ofList_produce_of_option (hcontent : Form.of content ≠ .plain) (metas : List String) :
    ∃ e, Arguments.ofList (produceArguments content metas) = .error e ∧
      (e = .help → Arguments.ofList ["produce", content] = .error .help) := by
  unfold produceArguments
  rw [ofList_command rfl (by decide), ofList_command rfl (by decide)]
  rcases gather_of_option hcontent metas with ⟨g, hg, hnone⟩ | ⟨e, herror, hhelp⟩
  · have hcommand : command? "produce" g = none := by
      unfold command?
      rw [hnone]
      rfl
    refine ⟨.usage, ?_, fun hhelp => absurd hhelp (by simp)⟩
    rw [hg]
    simp only [Except.bind, hcommand]
  · refine ⟨e, ?_, fun heq => ?_⟩
    · rw [herror]
      rfl
    · rw [hhelp heq]
      rfl

/-- What is accepted for a publication, and what that says. -/
theorem of_ofList_produce {arguments : Arguments}
    (h : Arguments.ofList (produceArguments content metas) = .ok arguments) :
    Form.of content = .plain ∧ (∀ m ∈ metas, IsEntry m) ∧
      arguments = ⟨none, .produce content (metas.filterMap metadata?)⟩ := by
  by_cases hcontent : Form.of content = .plain
  · by_cases hall : ∀ m ∈ metas, IsEntry m
    · rw [ofList_produce_of_entries hcontent hall] at h
      exact ⟨hcontent, hall, (Except.ok.inj h).symm⟩
    · rcases ofList_produce_of_not_entries hcontent hall with ⟨e, -, herror⟩
      exact absurd (h.symm.trans herror) (by simp)
  · rcases ofList_produce_of_option hcontent metas with ⟨e, herror, -⟩
    exact absurd (h.symm.trans herror) (by simp)

/-- Texts that are no entries are an error, whatever the content is. It is not
    one of the usage or of a value only if the content itself asks for help. -/
theorem exitCode_of_not_entries (hnot : ¬ ∀ m ∈ metas, IsEntry m) (content : String) :
    ∃ e, Arguments.ofList (produceArguments content metas) = .error e ∧
      (e.exitCode = 2 ∨ Arguments.ofList ["produce", content] = .error .help) := by
  have hcode : ∀ e : ArgumentError, e ≠ .help → e.exitCode = 2 := by
    intro e hne
    cases e with
    | help => exact absurd rfl hne
    | usage => rfl
    | value message => rfl
  by_cases hcontent : Form.of content = .plain
  · rcases ofList_produce_of_not_entries hcontent hnot with ⟨e, hne, herror⟩
    exact ⟨e, herror, .inl (hcode e hne)⟩
  · rcases ofList_produce_of_option hcontent metas with ⟨e, herror, hhelp⟩
    -- Help is asked for before any text of metadata is looked at.
    by_cases hne : e = .help
    · exact ⟨e, herror, .inr (hhelp hne)⟩
    · exact ⟨e, herror, .inl (hcode e hne)⟩

/-! ## Fetching -/

/-- A text looks like no option if it is a hyphen, or does not begin with one. -/
theorem form_eq_plain (h : id = "-" ∨ id.toList.head? ≠ some '-') : Form.of id = .plain := by
  rcases h with rfl | hhead
  · decide
  · unfold Form.of
    split
    · rename_i heq
      exact absurd (by rw [heq]; rfl) hhead
    · rename_i heq
      exact absurd (by rw [heq]; rfl) hhead
    · rename_i heq
      exact absurd (by rw [heq]; rfl) hhead
    · rfl

/-- A text that looks like no option is the identifier to fetch. -/
theorem ofList_get (h : Form.of id = .plain) :
    Arguments.ofList ["get", id] = .ok ⟨none, .get id none⟩ := by
  have hcommand : (inner "get").commands.contains id = false := rfl
  have hread : read (inner "get") false .empty [id] = .ok (⟨[], [id], none⟩, none) := by
    rw [read]
    simp only [hcommand, h, Bool.and_false, Bool.false_eq_true, if_false]
    rfl
  rw [ofList_command rfl (by decide)]
  unfold gather
  rw [hread]
  rfl

/-- Behind a divider any text is taken as it is, one that looks like an option
    included. -/
theorem ofList_get_divided (id : String) :
    Arguments.ofList ["get", "--", id] = .ok ⟨none, .get id none⟩ := by
  rw [ofList_command rfl (by decide)]
  rfl

end CommandLine

end EventFlow
