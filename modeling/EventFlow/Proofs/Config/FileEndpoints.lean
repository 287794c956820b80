import EventFlow.Proofs.Config.Validation
import EventFlow.Proofs.Url.Divided

/-!
# Endpoints of a File

When the endpoints of a configuration file are taken one for one.

A file has a list of endpoints, and a program adds them one by one. The list of the
file is made one text with commas between its entries, and this text is read as a
list with commas is, so what is taken are the entries of each entry
(`endpoints_applyFile`). An endpoint always has one at least (`splitList_ne_nil`), so
there are as many endpoints as entries only if each has exactly one.

That entry is without the white space around it, and without commas. If an endpoint
had commas and one entry nevertheless, it would be another URL
(`of_splitList_eq_singleton`), since a comma is seen wherever it stands in a URL. So
what is needed is also enough: no commas, and white space that does not matter.

## Main definitions

* `Settings.withEach`: Settings with endpoints that were added one by one.

## Theorems

* `splitList_intercalate`: The entries of lists that were joined.
* `splitList_of_divided`: The first entry of an endpoint with commas.
* `build_applyFile_iff`: When a file has the endpoints that its entries are.
-/

namespace EventFlow

/-- If each text has an entry, there are as many entries as texts at least. -/
theorem length_le_flatMap {α β : Type} {split : α → List β} {texts : List α}
    (h : ∀ t ∈ texts, split t ≠ []) : texts.length ≤ (texts.flatMap split).length := by
  induction texts with
  | nil => exact Nat.zero_le _
  | cons t texts ih =>
      have hpos := List.length_pos_iff.mpr (h t (.head _))
      have hle := ih fun t' ht => h t' (.tail _ ht)
      rw [List.flatMap_cons, List.length_append, List.length_cons]
      omega

/-- If lists of texts have as many entries as there are texts, each of them has one. -/
theorem forall₂_singleton {α β γ : Type} {split : α → List β} {R : α → γ → Prop}
    {S : β → γ → Prop} {texts : List α} {urls : List γ} (hne : ∀ t ∈ texts, split t ≠ [])
    (hread : List.Forall₂ R texts urls) (hsplit : List.Forall₂ S (texts.flatMap split) urls) :
    List.Forall₂ (fun t u => R t u ∧ ∃ piece, split t = [piece] ∧ S piece u) texts urls := by
  induction hread with
  | nil => exact .nil
  | @cons t u texts urls hfirst hothers ih =>
      rw [List.flatMap_cons] at hsplit
      rcases List.exists_cons_of_ne_nil (hne t (.head _)) with ⟨piece, pieces, hpieces⟩
      have hlength := hsplit.length_eq
      have hothersLength := hothers.length_eq
      have hleast := length_le_flatMap fun t ht => hne t (.tail _ ht)
      rw [hpieces, List.length_append, List.length_cons, List.length_cons] at hlength
      -- One entry more would be one endpoint too many.
      have hnil : pieces = [] := List.eq_nil_of_length_eq_zero (by omega)
      subst hnil
      rw [hpieces, List.singleton_append] at hsplit
      cases hsplit with
      | cons hpiece hsplit =>
          exact .cons ⟨hfirst, piece, hpieces, hpiece⟩ (ih (fun t ht => hne t (.tail _ ht)) hsplit)

namespace Settings

/-! ## Entries of a list -/

/-- Joining lists with commas puts their entries one after the other. There has to
    be one, as the text of no lists still has a piece, which is empty. -/
theorem splitList_intercalate {texts : List String} (h : texts ≠ []) :
    splitList (",".intercalate texts) = texts.flatMap splitList := by
  unfold splitList
  rw [String.toList_intercalate, show ",".toList = [','] from rfl,
    Text.splitAt_intercalate ',' (by simpa using h), List.map_flatMap, List.filterMap_flatMap,
    List.flatMap_map]

/-- A comma separates the entries before it from those behind it. -/
theorem splitList_append {text before after : String}
    (h : text.toList = before.toList ++ ',' :: after.toList) :
    splitList text = splitList before ++ splitList after := by
  unfold splitList
  rw [h, Text.splitAt_append_cons, List.map_append, List.filterMap_append]

/-- A text without commas is one entry, unless it is blank. -/
theorem splitList_of_not_mem {text : String} (h : ',' ∉ text.toList) :
    splitList text = if Text.isBlankText text then [] else [Text.trim text] := by
  have hblank : Text.strip Text.isBlank text.toList = [] ↔ Text.isBlankText text = true := by
    rw [Text.strip_eq_nil_iff, Text.isBlankText, List.all_eq_true]
  unfold splitList
  rw [Text.splitAt_of_not_mem h, List.map_singleton]
  split
  · rename_i hnil
    rw [hblank.mpr hnil]
    rfl
  · rename_i hnil
    rw [List.filterMap_cons_some, List.filterMap_nil]
    exact if_neg (mt List.isEmpty_iff.mp (mt hblank.mp hnil))

/-- Only commas and white space come to nothing in a list. -/
theorem blank_of_splitList_eq_nil {text : String} (h : splitList text = []) :
    ∀ c ∈ text.toList, c = ',' ∨ Text.isBlank c = true := by
  intro c hc
  by_cases hcomma : c = ','
  · exact .inl hcomma
  rcases Text.exists_mem_splitAt hcomma hc with ⟨piece, hpiece, hmem⟩
  refine .inr (Text.strip_eq_nil_iff.mp ?_ c hmem)
  -- A piece with anything else in it would be an entry.
  by_contra hne
  have hentry : String.ofList (Text.strip Text.isBlank piece) ∈ splitList text :=
    List.mem_filterMap.mpr
      ⟨_, List.mem_map_of_mem hpiece, if_neg (mt List.isEmpty_iff.mp hne)⟩
  rw [h] at hentry
  exact List.not_mem_nil hentry

variable {text piece : String} {u : Url}

/-- An endpoint is not nothing in a list. -/
theorem splitList_ne_nil (hread : Url.ofText text = .ok u) : splitList text ≠ [] := by
  intro hnil
  -- Commas and white space alone would all be taken from the ends of a URL.
  have hborder : ∀ c ∈ text.toList, Url.isBorder c = true :=
    Url.isBorder_of_ofText hread (List.append_nil _).symm fun c hc =>
      (blank_of_splitList_eq_nil hnil c hc).imp id .inl
  have hnothing : Url.significant text.toList = [] := by
    rw [Url.significant, Text.strip_eq_nil_iff.mpr hborder, List.filter_nil]
  rw [Url.ofText, hnothing] at hread
  cases hread

/-- Of an endpoint with commas, what stands in front of the first one is an entry. -/
theorem splitList_of_divided (hread : Url.ofText text = .ok u) {front rest : String}
    (h : text.toList = front.toList ++ ',' :: rest.toList) (hfront : ',' ∉ front.toList) :
    splitList text = Text.trim front :: splitList rest := by
  rw [splitList_append h, splitList_of_not_mem hfront, if_neg]
  · rfl
  · -- A URL has its scheme in front of any comma, and that is not blank.
    rcases Url.exists_not_loose hread h with ⟨c, hc, hnot⟩
    exact fun hblank => hnot (.inr (.inl (List.all_eq_true.mp hblank c hc)))

/-- An endpoint that stays one entry of a list, and the same URL, has no commas, and
    the entry is what is left of it without the white space around it. -/
theorem of_splitList_eq_singleton (hread : Url.ofText text = .ok u)
    (hsplit : splitList text = [piece]) (hpiece : Url.Accepts piece u) :
    ',' ∉ text.toList ∧ piece = Text.trim text := by
  by_cases hcomma : ',' ∈ text.toList
  · -- Nothing that counts is behind the first entry, which makes it another URL.
    exfalso
    rcases Text.exists_divided hcomma with ⟨front, rest, htext, hfront⟩
    rw [splitList_of_divided hread htext hfront] at hsplit
    rcases List.cons.inj hsplit with ⟨rfl, hrest⟩
    refine Url.ne_of_divided htext (blank_of_splitList_eq_nil hrest) hread hpiece.read ?_ rfl
    rcases hpiece.fit.host with ⟨authority, hauthority, hhost⟩
    exact ⟨authority, hauthority, fun hname => hhost (by rw [hname]; rfl)⟩
  · refine ⟨hcomma, ?_⟩
    rw [splitList_of_not_mem hcomma] at hsplit
    split at hsplit
    · cases hsplit
    · exact (List.singleton_inj.mp hsplit).symm

/-! ## Endpoints of a file -/

/-- The settings with these endpoints only, each of them added behind the others. -/
def withEach (s : Settings) (texts : List String) : Settings :=
  texts.foldl withEndpoint { s with endpoints := [] }

/-- One by one, the texts are added as they are. -/
theorem withEach_eq (s : Settings) (texts : List String) :
    s.withEach texts = { s with endpoints := texts } := by
  have hfold : ∀ before, texts.foldl withEndpoint { s with endpoints := before } =
      { s with endpoints := before ++ texts } := by
    induction texts with
    | nil => intro before; rw [List.append_nil]; rfl
    | cons t texts ih =>
        intro before
        rw [List.foldl_cons, List.append_cons]
        exact ih (before ++ [t])
  exact hfold []

/-- Such settings pass if the texts and the names do. -/
theorem exists_build_withEach_iff {s : Settings} {texts : List String} :
    (∃ config, (s.withEach texts).build = .ok config) ↔ texts ≠ [] ∧
      (∀ t ∈ texts, ∃ u, Url.Accepts t u) ∧ Named s.flowId ∧ Named s.workerId := by
  rw [exists_build_iff, withEach_eq]

/-- Other texts of the same endpoints pass as the same configuration. -/
theorem build_of_withEach {s : Settings} {texts : List String} {config : Config}
    (h : (s.withEach texts).build = .ok config) (hne : s.endpoints ≠ [])
    (hread : List.Forall₂ Url.Accepts s.endpoints config.endpoints) : s.build = .ok config := by
  rw [withEach_eq, build_eq_ok_iff] at h
  refine build_eq_ok_iff.mpr ⟨endpointUrls_eq_ok_iff.mpr ⟨hne, ?_⟩, h.2⟩
  simpa only [Url.ofEndpointText_eq_ok_iff] using hread

/-- What a file leaves as endpoints are the entries of its entries. -/
theorem endpoints_applyFile {s s' : Settings} {file : FileConfig} (h : s.applyFile file = .ok s')
    (hne : file.endpoints ≠ []) : s'.endpoints = file.endpoints.flatMap splitList := by
  have hstep : (Step.file file).apply s = .ok s' := h
  have hendpoints := (checked_apply hstep).1
  rw [Step.texts, if_neg hne, splitList_intercalate hne] at hendpoints
  exact hendpoints

/-- A list of endpoints whose entries are kept has an entry for each text. -/
theorem flatMap_splitList {texts : List String} (haccepted : ∀ t ∈ texts, ∃ u, Url.Accepts t u)
    (hcomma : ∀ t ∈ texts, ',' ∉ t.toList) : texts.flatMap splitList = texts.map Text.trim := by
  rw [List.map_eq_flatMap]
  refine List.flatMap_congr fun t ht => ?_
  rcases haccepted t ht with ⟨u, haccepts⟩
  -- An endpoint is not blank, so its one entry is kept.
  have hentry := splitList_ne_nil haccepts.read
  rw [splitList_of_not_mem (hcomma t ht)] at hentry ⊢
  split at hentry
  · exact absurd rfl hentry
  · rename_i hblank
    exact if_neg hblank

/-- The endpoints of a file are taken one for one, as if each was added, exactly if
    none of them has a comma in it and each is the same URL without the white space
    around it. -/
theorem build_applyFile_iff {s s' : Settings} {file : FileConfig} (h : s.applyFile file = .ok s')
    (hne : file.endpoints ≠ [])
    (halone : ∀ t ∈ file.endpoints, ∃ config, (s'.withEach [t]).build = .ok config) :
    (∃ config, s'.build = .ok config ∧ (s'.withEach file.endpoints).build = .ok config ∧
      List.Forall₂ (fun t u => Url.ofText t = .ok u) file.endpoints config.endpoints) ↔
    ∀ t ∈ file.endpoints, ',' ∉ t.toList ∧ Url.ofText (Text.trim t) = Url.ofText t := by
  have hendpoints := endpoints_applyFile h hne
  have haccepted : ∀ t ∈ file.endpoints, ∃ u, Url.Accepts t u := by
    intro t ht
    rcases exists_build_withEach_iff.mp (halone t ht) with ⟨-, haccepted, -⟩
    exact haccepted t (.head _)
  constructor
  · -- As many endpoints as entries: each entry was divided into one.
    rintro ⟨config, hbuild, -, hread⟩
    have hsplit := (sound_of_build hbuild).endpoints
    rw [hendpoints] at hsplit
    have hnonempty : ∀ t ∈ file.endpoints, splitList t ≠ [] := fun t ht =>
      (haccepted t ht).elim fun u haccepts => splitList_ne_nil haccepts.read
    have hkept : List.Forall₂ (fun t u => (',' ∉ t.toList ∧
        Url.ofText (Text.trim t) = Url.ofText t) ∧ Url.ofText t = .ok u)
        file.endpoints config.endpoints := by
      refine (forall₂_singleton hnonempty hread hsplit).imp ?_
      rintro t u ⟨hread, piece, hpiece, haccepts⟩
      rcases of_splitList_eq_singleton hread hpiece haccepts with ⟨hcomma, rfl⟩
      exact ⟨⟨hcomma, haccepts.read.trans hread.symm⟩, hread⟩
    exact ((List.forall₂_and_left _ _).mp hkept).1
  · -- The entries are trimmed, and otherwise what would have been added.
    intro hentries
    rw [flatMap_splitList haccepted fun t ht => (hentries t ht).1] at hendpoints
    -- The names are the same for all texts, so any of them tells that they are there.
    rcases List.exists_mem_of_ne_nil _ hne with ⟨t, ht⟩
    rcases exists_build_withEach_iff.mp (halone t ht) with ⟨-, -, named⟩
    rcases exists_build_withEach_iff.mpr ⟨hne, haccepted, named⟩ with ⟨config, hconfig⟩
    have hread := (sound_of_build hconfig).endpoints
    rw [withEach_eq] at hread
    have htrimmed : List.Forall₂ Url.Accepts s'.endpoints config.endpoints := by
      rw [hendpoints, List.forall₂_map_left_iff]
      exact ((List.forall₂_and_left _ _).mpr ⟨hentries, hread⟩).imp fun t u h =>
        ⟨h.1.2.trans h.2.read, h.2.fit⟩
    have hne' : s'.endpoints ≠ [] := by
      rw [hendpoints]
      exact mt List.map_eq_nil_iff.mp hne
    exact ⟨config, build_of_withEach hconfig hne' htrimmed, hconfig, hread.imp fun t u h => h.read⟩

/-- A file that says what is needed, with these endpoints. -/
def fileOf (texts : List String) : FileConfig :=
  { FileConfig.empty with endpoints := texts, flowId := some "f", workerId := some "w" }

/-- Endpoints with user, port, query and fragment, and with white space around. -/
def plainEntries : List String := ["http://u:p@a:8080/x y?q=1;z#f", " https://[::1]/\n"]

/-- Two such endpoints are taken one for one. -/
theorem build_applyFile_iff_plain : ∃ s' config, empty.applyFile (fileOf plainEntries) = .ok s' ∧
    s'.build = .ok config ∧ (s'.withEach plainEntries).build = .ok config ∧
      config.endpoints.length = 2 := by
  let s' : Settings := { empty with
    endpoints := ["http://u:p@a:8080/x y?q=1;z#f", "https://[::1]/"],
    flowId := some "f", workerId := some "w" }
  have happly : empty.applyFile (fileOf plainEntries) = .ok s' := by decide +kernel
  have hnamed : Named s'.flowId ∧ Named s'.workerId :=
    ⟨⟨"f", rfl, 'f', by decide, rfl⟩, ⟨"w", rfl, 'w', by decide, rfl⟩⟩
  have haccepted : ∀ t ∈ plainEntries, ∃ u, Url.Accepts t u := by
    simp only [← Url.ofEndpointText_eq_ok_iff]
    refine exists_mapM_iff.mp ⟨[⟨"http".toList, some ⟨['u'], ['p'], .name ['a'], some 8080⟩,
      .segments ["x%20y".toList], some "q=1;z".toList, some ['f']⟩,
      ⟨"https".toList, some ⟨[], [], .ipv6 [0, 0, 0, 0, 0, 0, 0, 1], none⟩, .segments [[]],
        none, none⟩], ?_⟩
    decide +kernel
  have halone : ∀ t ∈ plainEntries, ∃ config, (s'.withEach [t]).build = .ok config := fun t ht =>
    exists_build_withEach_iff.mpr
      ⟨List.cons_ne_nil _ _, List.forall_mem_singleton.mpr (haccepted t ht), hnamed⟩
  have hkept : ∀ t ∈ plainEntries, ',' ∉ t.toList ∧ Url.ofText (Text.trim t) = Url.ofText t := by
    decide +kernel
  rcases (build_applyFile_iff happly (List.cons_ne_nil _ _) halone).mpr hkept with
    ⟨config, hbuild, heach, hread⟩
  exact ⟨s', config, happly, hbuild, heach, hread.length_eq.symm⟩

/-- An endpoint with a comma in its path is accepted alone. In a file it is divided,
    and what stands behind the comma is refused. -/
theorem build_applyFile_comma : ∃ s', empty.applyFile (fileOf ["http://a/x,y"]) = .ok s' ∧
    (∃ config, (s'.withEach ["http://a/x,y"]).build = .ok config) ∧
      s'.build = .error (.endpoint (.invalid "y" "relative URL without a base")) := by
  let s' : Settings := { empty with
    endpoints := ["http://a/x", "y"], flowId := some "f", workerId := some "w" }
  have hnamed : Named s'.flowId ∧ Named s'.workerId :=
    ⟨⟨"f", rfl, 'f', by decide, rfl⟩, ⟨"w", rfl, 'w', by decide, rfl⟩⟩
  have hread : Url.ofEndpointText "http://a/x,y" = .ok
      ⟨"http".toList, some ⟨[], [], .name ['a'], none⟩, .segments ["x,y".toList], none, none⟩ := by
    decide +kernel
  refine ⟨s', by decide +kernel, ?_, by decide +kernel⟩
  exact exists_build_withEach_iff.mpr ⟨List.cons_ne_nil _ _,
    List.forall_mem_singleton.mpr ⟨_, Url.ofEndpointText_eq_ok_iff.mp hread⟩, hnamed⟩

end Settings

end EventFlow
