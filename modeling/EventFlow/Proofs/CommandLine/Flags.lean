import EventFlow.CommandLine.Arguments
import EventFlow.Proofs.Url.Hosts
import Mathlib.Data.List.TakeWhile

/-!
# Flags among the Arguments

When a flag counts as given.

A flag is given if its name stands among the arguments behind two hyphens, and
nothing else gives it. Three things could get in the way. The text might be taken
for the value of the option before it; but a value that looks like an option is not
accepted. It might stand behind a divider, where all that follows is positional; but
where there is no place for a positional argument, nothing can follow. And an equals
sign might give the flag a value, which flags do not take. So at a level without
positional arguments, reading adds a flag just where its text is found
(`gathered_read`), by induction along the arguments. The state on the way may hold an
option that waits for its value or to be checked, and that is never the flag.

## Main definitions

* `Flag`: The name of a flag, as far as a level has it.
* `Sought`: What a step of the reading makes of a flag.
* `Gathered`: What some arguments make of it.

## Theorems

* `sought_readLong`: A single option.
* `gathered_read`: A whole level.
* `consume_flags`: The flags of a claim.
-/

namespace EventFlow

namespace CommandLine

variable {name : String} {level : Level} {g g' g'' : Given} {rest : List String}
  {command : Option (String × List String)}

/-- A name that is that of a flag, if the level has an option of that name. It has
    no equals sign, at which reading would cut it. -/
structure Flag (level : Level) (name : String) : Prop where
  ne_empty : name ≠ ""
  plain : '=' ∉ name.toList
  shape_eq : ∀ option, level.options.find? (·.1 == name) = some option → option.2 = .flag

/-- From the one state to the other, the flag was given or was not. -/
structure Sought (name : String) (given : Prop) (g g' : Given) : Prop where
  has_iff : g'.has name = true ↔ g.has name = true ∨ given
  /-- No flag waits for a value. -/
  pending : ∀ option, g'.pending = some option → option.1 ≠ name

theorem Sought.trans {given given' : Prop} (h : Sought name given g g')
    (h' : Sought name given' g' g'') : Sought name (given ∨ given') g g'' where
  has_iff := by rw [h'.has_iff, h.has_iff, or_assoc]
  pending := h'.pending

/-! ## Single steps -/

/-- What is accepted is added behind the options so far, and nothing else changes. -/
theorem Given.eq_of_accept {option value : String} {shape : Shape}
    (h : g.accept option shape value = .ok g') :
    g' = { g with options := g.options ++ [(option, value)] } := by
  unfold Given.accept at h
  split at h
  · exact absurd h (by simp)
  split at h
  · exact absurd h (by simp)
  · exact (Except.ok.inj h).symm

/-- An option that is accepted gives the flag if it has its name. -/
theorem sought_accept {option value : String} {shape : Shape} (hnone : g.pending = none)
    (h : g.accept option shape value = .ok g') : Sought name (option = name) g g' := by
  obtain rfl := Given.eq_of_accept h
  refine ⟨?_, fun other hother => absurd (hnone.symm.trans hother) (by simp)⟩
  simp [Given.has]

/-- The option that was read last is another one, so its check does not give the
    flag. After the check no option is left that waits. -/
theorem sought_resolve (hpending : ∀ option, g.pending = some option → option.1 ≠ name)
    (h : g.resolve = .ok g') : Sought name False g g' ∧ g'.pending = none := by
  unfold Given.resolve at h
  split at h
  · rename_i hnone
    obtain rfl := Except.ok.inj h
    exact ⟨⟨iff_of_eq (or_false _).symm, hpending⟩, hnone⟩
  · exact absurd h (by simp)
  · rename_i option shape value hsome
    have haccept : Sought name (option = name) { g with pending := none } g' :=
      sought_accept rfl h
    refine ⟨⟨?_, haccept.pending⟩, by rw [Given.eq_of_accept h]⟩
    rw [haccept.has_iff, or_iff_left (hpending _ hsome), or_false]
    rfl

/-- An option that comes with its value, or needs none, gives the flag if it has its
    name. -/
theorem sought_addOption {option value : String} {shape : Shape}
    (hpending : ∀ option, g.pending = some option → option.1 ≠ name)
    (h : g.addOption option shape value = .ok g') : Sought name (option = name) g g' := by
  unfold Given.addOption at h
  split at h
  · exact absurd h (by simp)
  · rename_i g₁ hresolve
    rcases sought_resolve hpending hresolve with ⟨hsought, hnone⟩
    have haccept : Sought name (False ∨ option = name) g g' :=
      hsought.trans (sought_accept hnone h)
    exact ⟨by rw [haccept.has_iff, false_or], haccept.pending⟩

/-- An option that will wait for its value is another one, and its name is noted. -/
theorem sought_beginOption {option : String} {shape : Shape} (hother : option ≠ name)
    (hpending : ∀ option, g.pending = some option → option.1 ≠ name)
    (h : g.beginOption option shape = .ok g') : Sought name False g g' := by
  unfold Given.beginOption at h
  split at h
  · exact absurd h (by simp)
  · rename_i g₁ hresolve
    have hsought := (sought_resolve hpending hresolve).1
    obtain rfl := Except.ok.inj h
    refine ⟨hsought.has_iff, fun waiting hwaiting => ?_⟩
    -- The one that waits now is the one that was just read.
    rw [← Option.some.inj hwaiting]
    exact hother

theorem takeWhile_of_name (hplain : '=' ∉ name.toList) :
    name.toList.takeWhile (· != '=') = name.toList := by
  rw [List.takeWhile_eq_self_iff]
  intro c hc
  rw [bne_iff_ne]
  exact fun heq => hplain (heq ▸ hc)

/-- An argument that begins with two hyphens gives a flag if the rest of it is the
    name of the flag, and then the level has one of that name. -/
theorem sought_readLong {s : List Char} (hflag : Flag level name)
    (hpending : ∀ option, g.pending = some option → option.1 ≠ name)
    (h : readLong level g s = .ok g') :
    Sought name (s = name.toList) g g' ∧
      (s = name.toList → (level.options.find? (·.1 == name)).isSome = true) := by
  have hsplit := List.takeWhile_append_dropWhile (p := (· != '=')) (l := s)
  have hname : s = name.toList → String.ofList (s.takeWhile (· != '=')) = name := by
    rintro rfl
    rw [takeWhile_of_name hflag.plain, String.ofList_toList]
  unfold readLong at h
  simp only at h
  generalize hoption : String.ofList (s.takeWhile (· != '=')) = option at h hname
  generalize hvalue : s.dropWhile (· != '=') = value at h hsplit
  -- What stands in front of the equals sign is looked up, and the rest depends on its shape.
  cases hfound : level.options.find? (·.1 == option) with
  | none =>
      cases value with
      | cons c value => simp [hfound] at h
      | nil =>
          simp only [hfound] at h
          split at h <;> exact absurd h (by simp)
  | some found =>
      rcases found with ⟨_, shape⟩
      refine ⟨?_, fun heq => by rw [← hname heq, hfound]; rfl⟩
      by_cases hshape : shape = .flag
      · subst hshape
        -- A flag takes no value, so there is no equals sign here.
        cases value with
        | cons c value => simp [hfound] at h
        | nil =>
            simp only [hfound] at h
            have hadd := sought_addOption hpending h
            -- Nothing was cut off: the option is all of the argument.
            have hiff : option = name ↔ s = name.toList := by
              refine ⟨fun heq => ?_, hname⟩
              rw [← hsplit, List.append_nil, ← heq, ← hoption, String.toList_ofList]
            exact ⟨by rw [hadd.has_iff, hiff], hadd.pending⟩
      · -- What takes a value is not the flag, with a value behind it or without.
        have hother : option ≠ name := fun heq => hshape (hflag.shape_eq _ (heq ▸ hfound))
        have hnot : s ≠ name.toList := fun heq => hother (hname heq)
        cases value with
        | nil =>
            have hbegin : g.beginOption option shape = .ok g' := by
              simp only [hfound] at h
              cases shape with
              | flag => exact absurd rfl hshape
              | _ => exact h
            have hsought := sought_beginOption hother hpending hbegin
            exact ⟨by rw [hsought.has_iff, eq_false hnot], hsought.pending⟩
        | cons c value =>
            have hadd : g.addOption option shape (String.ofList value) = .ok g' := by
              simp only [hfound] at h
              cases shape with
              | flag => exact absurd rfl hshape
              | _ => exact h
            have hsought := sought_addOption hpending hadd
            exact ⟨by rw [hsought.has_iff, eq_false hother, eq_false hnot], hsought.pending⟩

/-! ## Levels -/

/-- Where there is no place for a positional argument, one is an error. -/
theorem addPositional_of_none (hlevel : level.positionals = 0) (value : String) :
    g.addPositional level value = .error .usage := by
  unfold Given.addPositional
  rw [hlevel, if_neg (Nat.not_lt_zero _)]

/-- The argument that gives a flag. -/
theorem eq_of_long {argument : String} {s : List Char} (h : Form.of argument = .long s) :
    argument = "--" ++ name ↔ s = name.toList := by
  have htext : argument.toList = '-' :: '-' :: s := by
    unfold Form.of at h
    split at h
    · exact absurd h (by simp)
    · rename_i heq
      rw [heq, Form.long.inj h]
    · exact absurd h (by simp)
    · exact absurd h (by simp)
  rw [← String.toList_inj, htext, String.toList_append]
  simp

/-- Behind two hyphens, a name is read as that of an option. -/
theorem long_of_flag (hne : name ≠ "") : Form.of ("--" ++ name) = .long name.toList := by
  unfold Form.of
  rw [String.toList_append]
  cases h : name.toList with
  | nil => exact absurd (String.toList_eq_nil_iff.mp h) hne
  | cons c rest => rfl

/-- What some arguments at a level come to, before the command if there is one. -/
structure Gathered (level : Level) (name : String) (g g' : Given) (before : List String) :
    Prop where
  sought : Sought name ("--" ++ name ∈ before) g g'
  known : "--" ++ name ∈ before → (level.options.find? (·.1 == name)).isSome = true

/-- No arguments give no flag. -/
theorem gathered_nil (hpending : ∀ option, g.pending = some option → option.1 ≠ name) :
    Gathered level name g g [] where
  sought := ⟨by simp, hpending⟩
  known := fun h => absurd h List.not_mem_nil

/-- One argument more, which gives the flag or does not. -/
theorem Gathered.cons {argument : String} {given : Prop} {before : List String}
    (h : Gathered level name g' g'' before) (hiff : argument = "--" ++ name ↔ given)
    (hstep : Sought name given g g')
    (hknown : given → (level.options.find? (·.1 == name)).isSome = true) :
    Gathered level name g g'' (argument :: before) where
  sought := by
    refine ⟨?_, h.sought.pending⟩
    rw [(hstep.trans h.sought).has_iff, List.mem_cons, eq_comm (b := argument), hiff]
  known := fun hmem => by
    rcases List.mem_cons.mp hmem with heq | hmem
    · exact hknown (hiff.mp heq.symm)
    · exact h.known hmem

/-- At a level without positional arguments, a flag is given by its text among the
    arguments that are read, and by nothing else. -/
theorem gathered_read (hlevel : level.positionals = 0) (hflag : Flag level name)
    {arguments : List String} (hpending : ∀ option, g.pending = some option → option.1 ≠ name)
    (h : read level false g arguments = .ok (g', command)) :
    ∃ before, arguments = before ++ (command.map fun c => c.1 :: c.2).getD [] ∧
      Gathered level name g g' before ∧ ∀ c, command = some c → c.1 ∈ level.commands := by
  have hother : ∀ {argument : String}, (∀ s, Form.of argument ≠ .long s) →
      (argument = "--" ++ name ↔ False) := by
    intro argument hform
    -- The text of the flag has the long form, and no other.
    refine iff_of_false (fun heq => ?_) not_false
    exact hform name.toList (heq ▸ long_of_flag hflag.ne_empty)
  induction arguments generalizing g with
  | nil =>
      obtain ⟨rfl, rfl⟩ := Prod.mk.inj (Except.ok.inj h)
      exact ⟨[], rfl, gathered_nil hpending, fun c hc => by simp at hc⟩
  | cons argument rest ih =>
      rw [read] at h
      simp only [Bool.false_eq_true, if_false, addPositional_of_none hlevel] at h
      split at h
      · -- A command ends the level, and what is behind it is not looked at here.
        rename_i hcommand
        obtain ⟨rfl, rfl⟩ := Prod.mk.inj (Except.ok.inj h)
        refine ⟨[], rfl, gathered_nil hpending, fun c hc => ?_⟩
        obtain rfl := Option.some.inj hc
        simpa using (Bool.and_eq_true_iff.mp hcommand).2
      cases hform : Form.of argument with
      | divider =>
          simp only [hform] at h
          -- Behind a divider all arguments are positional, of which this level has none.
          cases rest with
          | nil =>
              obtain ⟨rfl, rfl⟩ := Prod.mk.inj (Except.ok.inj h)
              exact ⟨[argument], rfl, (gathered_nil hpending).cons
                (hother fun s => by simp [hform]) ⟨by simp, hpending⟩ False.elim,
                fun c hc => by simp at hc⟩
          | cons next rest =>
              rw [read] at h
              simp [addPositional_of_none hlevel] at h
      | long s =>
          simp only [hform] at h
          split at h
          · exact absurd h (by simp)
          · rename_i g₁ hlong
            rcases sought_readLong hflag hpending hlong with ⟨hsought, hknown⟩
            -- An option gives the flag or another one, and then the rest is read.
            rcases ih hsought.pending h with ⟨before, rfl, hgathered, hcommand⟩
            exact ⟨argument :: before, rfl, hgathered.cons (eq_of_long hform) hsought hknown,
              hcommand⟩
      | short c => simp [hform] at h
      | plain =>
          simp only [hform] at h
          split at h
          · -- The value goes to the option that waits for it.
            have hvalue : Sought name False g (g.addValue argument) := by
              refine ⟨by simp [Given.has, Given.addValue], fun option hoption => ?_⟩
              rcases Option.map_eq_some_iff.mp hoption with ⟨waiting, hwaiting, rfl⟩
              exact hpending waiting hwaiting
            rcases ih hvalue.pending h with ⟨before, rfl, hgathered, hcommand⟩
            exact ⟨argument :: before, rfl,
              hgathered.cons (hother fun s => by simp [hform]) hvalue False.elim, hcommand⟩
          · exact absurd h (by simp)

/-! ## Claims -/

/-- What is accepted as a claim was read at both levels. -/
theorem of_ofList_consume {arguments : List String} {named : Option String} {ack filter : Bool}
    {timeout : Option Span}
    (h : Arguments.ofList arguments = .ok ⟨named, .consume ack filter timeout⟩) :
    ∃ g g₁ g₂ rest command, read outer false .empty arguments = .ok (g, some ("consume", rest)) ∧
      read (inner "consume") false .empty rest = .ok (g₁, command) ∧ g₁.resolve = .ok g₂ ∧
      g₂.has "ack" = ack ∧ g₂.has "filter" = filter := by
  unfold Arguments.ofList at h
  rcases Url.exists_of_bind_eq_ok h with ⟨⟨g, command⟩, hread, h⟩
  simp only at h
  split at h
  · exact absurd h (by simp)
  · exact absurd h (by simp)
  rename_i name rest hhelp
  rcases Url.exists_of_bind_eq_ok h with ⟨⟨found, config⟩, hcommand, h⟩
  rcases Url.exists_of_bind_eq_ok h with ⟨g', -, h⟩
  have hconsume : found = .consume ack filter timeout :=
    congrArg Arguments.command (Except.ok.inj h)
  unfold readCommand at hcommand
  rcases Url.exists_of_bind_eq_ok hcommand with ⟨⟨g₁, command⟩, hinner, hcommand⟩
  rcases Url.exists_of_bind_eq_ok hcommand with ⟨g₂, hresolve, hcommand⟩
  split at hcommand
  · rename_i found' hfound
    obtain ⟨rfl, -⟩ := Prod.mk.inj (Except.ok.inj hcommand)
    -- Of all commands, only the claim has two flags.
    rw [hconsume] at hfound
    unfold command? at hfound
    simp only at hfound
    split at hfound
    · split at hfound
      · exact absurd hfound (by simp)
      · injection hfound with hfound
        injection hfound with hack hfilter
        exact ⟨g, g₁, g₂, rest, command, hread, hinner, hresolve, hack, hfilter⟩
    all_goals exact absurd hfound (by simp)
  · exact absurd hcommand (by simp)

/-- The flags of a claim are given by their texts, wherever these stand among the
    arguments, and by nothing else. -/
theorem consume_flags {arguments : List String} {named : Option String} {ack filter : Bool}
    {timeout : Option Span}
    (h : Arguments.ofList arguments = .ok ⟨named, .consume ack filter timeout⟩) :
    (ack = true ↔ "--ack" ∈ arguments) ∧ (filter = true ↔ "--filter" ∈ arguments) := by
  rcases of_ofList_consume h with ⟨g, g₁, g₂, rest, command, hread, hinner, hresolve, rfl, rfl⟩
  have hgiven : ∀ name, Flag outer name → Flag (inner "consume") name →
      outer.options.find? (·.1 == name) = none → "--" ++ name ≠ "consume" →
      (g₂.has name = true ↔ "--" ++ name ∈ arguments) := by
    intro name houter hflag hunknown hne
    rcases gathered_read rfl houter (fun _ hnone => absurd hnone (by simp [Given.empty])) hread with
      ⟨before, rfl, hbefore, -⟩
    rcases gathered_read rfl hflag (fun _ hnone => absurd hnone (by simp [Given.empty])) hinner with
      ⟨behind, hbehind, hgathered, hnothing⟩
    -- No command stands inside a claim, so its level goes on to the last argument.
    have hnone : command = none := by
      cases command with
      | none => rfl
      | some c => exact absurd (hnothing c rfl) List.not_mem_nil
    have hsought := hgathered.sought.trans (sought_resolve hgathered.sought.pending hresolve).1
    -- In front of the command the flag is not known, and an unknown option is refused.
    have hnot : "--" ++ name ∉ before := fun hmem => by simpa [hunknown] using hbefore.known hmem
    have hempty : Given.empty.has name = false := rfl
    subst hnone
    simp only [Option.map_none, Option.getD_none, List.append_nil] at hbehind
    subst hbehind
    rw [hsought.has_iff, hempty]
    simp [hnot, hne]
  exact ⟨hgiven "ack" ⟨by decide, by decide, by decide⟩ ⟨by decide, by decide, by decide⟩ rfl
      (by decide),
    hgiven "filter" ⟨by decide, by decide, by decide⟩ ⟨by decide, by decide, by decide⟩ rfl
      (by decide)⟩

end CommandLine

end EventFlow
