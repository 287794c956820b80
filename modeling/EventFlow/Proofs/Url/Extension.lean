import EventFlow.Endpoint
import EventFlow.Proofs.Url.Segments

/-!
# URLs Below a Base

What the segments of a route make of the URL that they are added to.

A base that was read from a text has its path in the form that adding keeps
(`Base`), and a route begins with a word that stands for itself (`Plain`). From
there on nothing of the base can be lost, and the segments of the route follow
those of the base, as `Names` puts it, exactly if all of them are addressable.

A route that is named this way can be told from every other one by the text of
its URL alone. No slash in it comes from within a segment, so the text is
divided in one way only, and what stands between two slashes is read in one way
only.

## Main definitions

* `Url.Base`: A URL that routes can be put below.
* `Url.stem`: The segments of the base that stay.
* `Url.Below`: A URL that stays below a base.
* `Url.Names`: A URL that names a route below a base.

## Theorems

* `base_of_ofText`: What is read is a base, if it is usable.
* `below_extend`: No route leaves its base.
* `names_extend_iff`: Which routes are named.
* `Names.injective`: No two routes have one URL.
-/

namespace EventFlow

namespace UrlPath

variable {kind : SchemeKind} {list list' : List (List Char)} {s : List Char}

/-! ## Plain segments -/

/-- A segment that stands for itself wherever it is added: it is not skipped, it is
    not taken for the root, and it is not taken for a drive. -/
structure Plain (s : List Char) : Prop where
  addressable : Addressable s
  ne_nil : s ≠ []
  notDrive : ∀ kind, isDrive (encodeSegment kind s) = false

/-- Something is written for it. -/
theorem Plain.written_ne_nil (h : Plain s) (kind : SchemeKind) : encodeSegment kind s ≠ [] := by
  intro hnil
  refine h.ne_nil (Bytes.ofChars_injective (t := []) ?_)
  rw [← decode_of_addressable kind h.addressable, hnil, Percent.decode]
  rfl

/-- A plain segment is put behind the others even where there are none. -/
theorem push_plain (h : Plain s) :
    push kind list s = settle kind (kept list ++ [encodeSegment kind s]) := by
  have haddressable := h.addressable
  rcases not_dots_of_addressable kind haddressable with ⟨hdot, hdots⟩
  rw [push_of_not_dots (not_or.mpr ⟨haddressable.1, haddressable.2.1⟩)]
  -- None of the exceptions is met: no dots in either form, and no drive.
  unfold step
  rw [if_neg (Bool.not_eq_true _ ▸ hdots), if_neg (Bool.not_eq_true _ ▸ hdot), h.notDrive,
    Bool.and_false, if_neg Bool.false_ne_true]

/-- Segments are kept as a whole if the last of them is not empty. -/
theorem firm_concat (hs : s ≠ []) (head : kind = .file → (list ++ [s]).head? ≠ some []) :
    Firm kind (list ++ [s]) where
  ne_nil := List.append_ne_nil_of_right_ne_nil _ (List.cons_ne_nil _ _)
  ne_root := fun hroot => by
    rcases List.append_eq_singleton_iff.mp hroot with ⟨-, hnil⟩ | ⟨-, hnil⟩
    · exact hs (List.cons.inj hnil).1
    · exact List.cons_ne_nil _ _ hnil
  head := head

/-- Whatever was there before a plain segment, the path is kept as a whole from
    there on. -/
theorem firm_push_plain (h : Plain s) (list : List (List Char)) : Firm kind (push kind list s) := by
  have hwritten := h.written_ne_nil kind
  rw [push_plain h]
  by_cases hk : kind = .file
  · subst hk
    have hhead := head_of_settled (settle_settle (kept list ++ [encodeSegment .file s]))
    -- For the path of a file, empty segments in front were taken away, but not down to the root.
    have hlast : settle .file (kept list ++ [encodeSegment .file s]) ≠ [[]] := by
      intro hroot
      unfold settle at hroot
      rw [if_pos rfl] at hroot
      cases hd : (kept list ++ [encodeSegment .file s]).dropWhile List.isEmpty with
      | nil =>
          -- Then all of them are empty, but this one is not.
          have hempty := List.dropWhile_eq_nil_iff.mp hd (encodeSegment .file s)
            (List.mem_append_right _ (.head _))
          exact hwritten (List.isEmpty_iff.mp hempty)
      | cons x xs =>
          have hx := List.head?_dropWhile_not List.isEmpty (kept list ++ [encodeSegment .file s])
          rw [hd] at hroot hx
          obtain rfl := (List.cons.inj hroot).1
          simp at hx
    refine ⟨settle_ne_nil (List.append_ne_nil_of_right_ne_nil _ (List.cons_ne_nil _ _)), hlast,
      fun _ => hhead.resolve_left hlast⟩
  · rw [settle_of_ne_file hk]
    exact firm_concat hwritten fun hfile => absurd hfile hk

/-! ## The text of segments -/

/-- Each segment has its slash in front, so the texts are put one after the other. -/
theorem segmentsText_append (list list' : List (List Char)) :
    segmentsText (list ++ list') = segmentsText list ++ segmentsText list' :=
  List.flatMap_append

/-- Up to the next slash there is the segment itself. -/
theorem takeWhile_append_segmentsText (h : '/' ∉ s) (list : List (List Char)) :
    (s ++ segmentsText list).takeWhile (· != '/') = s := by
  have hall : ∀ c ∈ s, (c != '/') = true := by
    intro c hc
    rw [bne_iff_ne]
    exact fun heq => h (heq ▸ hc)
  have hnone : (segmentsText list).takeWhile (· != '/') = [] := by
    cases list with
    | nil => rfl
    | cons x xs => rfl
  rw [List.takeWhile_append_of_pos hall, hnone, List.append_nil]

/-- Segments without slashes are told apart by their text. -/
theorem segmentsText_injective (h : ∀ s ∈ list, '/' ∉ s) (h' : ∀ s ∈ list', '/' ∉ s)
    (heq : segmentsText list = segmentsText list') : list = list' := by
  induction list generalizing list' with
  | nil =>
      cases list' with
      | nil => rfl
      | cons s' list' => exact absurd heq (List.cons_ne_nil _ _).symm
  | cons s list ih =>
      cases list' with
      | nil => exact absurd heq (List.cons_ne_nil _ _)
      | cons s' list' =>
          have htail : s ++ segmentsText list = s' ++ segmentsText list' :=
            (List.cons.inj heq).2
          -- Both are cut at the first slash.
          have hs : s = s' := by
            rw [← takeWhile_append_segmentsText (h s (.head _)) list, htail,
              takeWhile_append_segmentsText (h' s' (.head _))]
          subst hs
          rw [ih (fun x hx => h x (.tail _ hx)) (fun x hx => h' x (.tail _ hx))
            (List.append_cancel_left htail)]

end UrlPath

namespace Url

open UrlPath (Plain Addressable Firm Within encodeSegment)

variable {base u : Url} {word : String} {route route' : List String}

/-! ## Bases -/

/-- A usable URL, the path of which is settled if it is the path of a file. -/
structure Base (u : Url) : Prop where
  usable : u.isUsable = true
  settled : UrlPath.settle u.kind u.segments = u.segments

/-- A usable URL has a path of segments. -/
theorem path_of_usable (h : u.isUsable = true) : u.path = .segments u.segments := by
  unfold isUsable at h
  unfold segments
  cases hpath : u.path with
  | segments list => rfl
  | undivided s =>
      rw [hpath] at h
      exact absurd h Bool.false_ne_true

/-- And it has an authority. -/
theorem authority_of_usable (h : u.isUsable = true) : ∃ a, u.authority = some a := by
  unfold isUsable at h
  rw [path_of_usable h] at h
  unfold hostText? at h
  cases hauthority : u.authority with
  | none =>
      rw [hauthority] at h
      exact absurd h Bool.false_ne_true
  | some a => exact ⟨a, rfl⟩

/-- The path of a file is settled when it is read. -/
theorem settle_readPath (s : List Char) :
    UrlPath.settle .file (readPath .file s) = readPath .file s := by
  unfold readPath
  cases s with
  | nil => rfl
  | cons c rest =>
      have hmark : (isMark c && !SchemeKind.file.isSpecial) = false := Bool.and_false _
      simp only [hmark]
      split
      · exact UrlPath.settle_settle _
      · exact UrlPath.settle_settle _

/-- The scheme of what is read is the one that stood in front. -/
theorem scheme_of_readAfterSlashes {scheme s : List Char} {kind : SchemeKind}
    (h : readAfterSlashes scheme kind s = .ok u) : u.scheme = scheme := by
  unfold readAfterSlashes at h
  cases hread : readAuthority scheme kind s with
  | error e =>
      rw [hread] at h
      exact absurd h (by simp [bind, Except.bind])
  | ok read =>
      rw [hread] at h
      rw [← Except.ok.inj h]
      rfl

/-- This is so for the other families of schemes, too. -/
theorem scheme_of_readOther {scheme s : List Char} (h : readOther scheme s = .ok u) :
    u.scheme = scheme := by
  unfold readOther at h
  split at h
  · exact scheme_of_readAfterSlashes h
  · rw [← Except.ok.inj h]
    rfl
  · rw [← Except.ok.inj h]

/-- What is read behind the scheme of files has that scheme, and its path was read
    as one of a file. -/
theorem eq_of_readFile {scheme s : List Char} (h : readFile scheme s = .ok u) :
    u.scheme = scheme ∧ ∃ rest, u.path = .segments (readPath .file rest) := by
  -- Whichever way the host is found, what is made of it is the same.
  have hread : ∀ {result : Except UrlError (Host × List Char)},
      (result >>= fun read => Except.ok (withSegments scheme
        (some { noHost with
          host := if meetsDrive [] (filePieces read.2) then .name [] else read.1 })
        (readPath .file read.2) (readMarks .file (afterPath read.2)))) = .ok u →
      u.scheme = scheme ∧ ∃ rest, u.path = .segments (readPath .file rest) := by
    intro result hresult
    cases result with
    | error e => exact absurd hresult (by simp [bind, Except.bind])
    | ok read =>
        rw [← Except.ok.inj hresult]
        exact ⟨rfl, _, rfl⟩
  unfold readFile at h
  simp only at h
  split at h
  · split at h
    · split at h
      · exact hread h
      · rw [← bind_assoc] at h
        exact hread h
    · exact hread h
  · exact hread h

/-- What is read from a text is a base, if it is usable. -/
theorem base_of_ofText {text : String} (h : ofText text = .ok u) (husable : u.isUsable = true) :
    u.Base where
  usable := husable
  settled := by
    by_cases hfile : u.kind = .file
    · unfold ofText at h
      split at h
      · exact absurd h (by simp)
      · rename_i scheme rest hscheme
        unfold kind at hfile
        split at h
        · -- Only the scheme of files has paths that are settled.
          rcases eq_of_readFile h with ⟨hscheme, rest, hpath⟩
          rw [kind, hfile, segments, hpath]
          exact settle_readPath rest
        · rename_i hspecial
          rw [scheme_of_readAfterSlashes h, hspecial] at hfile
          -- It has another kind.
          exact absurd hfile (by decide)
        · rename_i hother
          rw [scheme_of_readOther h, hother] at hfile
          exact absurd hfile (by decide)
    · exact UrlPath.settle_of_ne_file hfile

/-- The segments of a base that stay in front of what is added. -/
def stem (u : Url) : List (List Char) := UrlPath.kept (UrlPath.dropEmptyLast u.segments)

/-- What stays of a base begins with no empty segment, if it is settled. -/
theorem Base.head_stem (h : base.Base) (hkind : base.kind = .file) :
    base.stem.head? ≠ some [] := by
  have hsettled := h.settled
  rw [hkind] at hsettled
  unfold stem
  rcases UrlPath.head_of_settled hsettled with hroot | hhead
  · rw [hroot]
    decide
  · unfold UrlPath.kept
    split
    · exact fun hnil => Option.some_ne_none _ hnil.symm
    · rw [UrlPath.head?_dropEmptyLast]
      exact hhead

/-! ## Routes below a base -/

/-- What a route adds is added segment by segment, where the base leaves off. -/
theorem segments_extend (h : base.isUsable = true) (route : List String) :
    (base.extend route).segments =
      (route.map String.toList).foldl (UrlPath.push base.kind)
        (UrlPath.dropEmptyLast base.segments) := by
  unfold extend segments
  simp only
  rw [path_of_usable h]

/-- And the path stays one of segments. -/
theorem path_extend (h : base.isUsable = true) (route : List String) :
    (base.extend route).path = .segments (base.extend route).segments := by
  unfold extend segments
  simp only
  rw [path_of_usable h]

/-- What stays of a base and a plain word are kept as a whole. -/
theorem Base.firm (h : base.Base) (hword : Plain word.toList) :
    Firm base.kind (base.stem ++ [encodeSegment base.kind word.toList]) := by
  have hwritten := hword.written_ne_nil base.kind
  refine UrlPath.firm_concat hwritten fun hkind => ?_
  by_cases hstem : base.stem = []
  · rw [hstem]
    exact fun hnil => hwritten (Option.some.inj hnil)
  · rw [List.head?_append_of_ne_nil _ hstem]
    exact h.head_stem hkind

/-- A route that begins with a plain word begins behind what stays of the base. -/
theorem segments_extend_cons (h : base.Base) (hword : Plain word.toList) (route : List String) :
    (base.extend (word :: route)).segments =
      (route.map String.toList).foldl (UrlPath.push base.kind)
        (base.stem ++ [encodeSegment base.kind word.toList]) := by
  -- The word settles all: behind it nothing of the base is at stake.
  have hfirm := h.firm hword
  rw [segments_extend h.usable, List.map_cons, List.foldl_cons, UrlPath.push_plain hword]
  change List.foldl _ (UrlPath.settle base.kind (base.stem ++ _)) _ = _
  rw [UrlPath.settle_of_head hfirm.ne_nil hfirm.head]

/-- A route that ends with a plain word is kept when an addressable name is
    added to it, whatever the rest of the route is. -/
theorem segments_extend_concat (h : base.isUsable = true) (hword : Plain word.toList)
    (route : List String) {name : String} (hname : Addressable name.toList) :
    (base.extend (route ++ [word] ++ [name])).segments =
      (base.extend (route ++ [word])).segments ++ [encodeSegment base.kind name.toList] := by
  rw [segments_extend h, segments_extend h, List.map_append, List.foldl_append, List.map_append,
    List.foldl_append]
  exact UrlPath.push_addressable (UrlPath.firm_push_plain hword _) hname

/-! ## No route leaves its base -/

/-- Whatever follows the plain word, what stays of the base is still there, and
    something follows it. -/
theorem within_extend (h : base.Base) (hword : Plain word.toList) (route : List String) :
    Within base.stem (base.extend (word :: route)).segments := by
  rw [segments_extend_cons h hword]
  exact UrlPath.within_foldl_push h.head_stem ⟨_, List.cons_ne_nil _ _, rfl⟩

/-- A text without one slash at its end. -/
def withoutSlash (s : List Char) : List Char :=
  if s.getLast? = some '/' then s.dropLast else s

/-- Without it, a text is a beginning of itself. -/
theorem withoutSlash_isPrefix (s : List Char) : withoutSlash s <+: s := by
  unfold withoutSlash
  split
  · exact List.dropLast_prefix s
  · exact List.prefix_refl s

/-- A path that goes on behind what stays of another one begins with the text
    of that one. -/
theorem withoutSlash_isPrefix_of_within {list list' : List (List Char)}
    (h : Within (UrlPath.kept (UrlPath.dropEmptyLast list)) list') :
    withoutSlash (UrlPath.segmentsText list) <+: UrlPath.segmentsText list' := by
  rcases h with ⟨more, hmore, rfl⟩
  rw [UrlPath.segmentsText_append]
  rcases List.eq_nil_or_concat' list with rfl | ⟨init, last, rfl⟩
  · exact List.nil_prefix
  by_cases hlast : last = []
  · -- The slash at the end is that of an empty segment, which gives way.
    have htext : withoutSlash (UrlPath.segmentsText (init ++ [[]])) =
        UrlPath.segmentsText init := by
      rw [UrlPath.segmentsText_append]
      change withoutSlash (_ ++ ['/']) = _
      unfold withoutSlash
      rw [List.getLast?_concat, if_pos rfl, List.dropLast_concat]
    subst hlast
    rw [htext]
    by_cases hinit : init = []
    · rw [hinit]
      exact List.nil_prefix
    rw [UrlPath.dropEmptyLast_concat_nil hinit]
    unfold UrlPath.kept
    by_cases hroot : init = [[]]
    · -- All that is left of two slashes is one, and every segment has one in front.
      rw [if_pos hroot, hroot]
      cases more with
      | nil => exact absurd rfl hmore
      | cons x xs => exact ⟨x ++ UrlPath.segmentsText xs, rfl⟩
    · rw [if_neg hroot]
      exact List.prefix_append _ _
  · rw [UrlPath.kept_dropEmptyLast_concat hlast]
    exact (withoutSlash_isPrefix _).trans (List.prefix_append _ _)

/-- The text of the path goes on behind that of the base. -/
theorem isPrefix_text_extend (h : base.Base) (hword : Plain word.toList) (route : List String) :
    withoutSlash base.path.text <+: (base.extend (word :: route)).path.text := by
  rw [path_of_usable h.usable, path_extend h.usable]
  exact withoutSlash_isPrefix_of_within (within_extend h hword route)

/-- A URL that goes to where a base goes, and there below its path. -/
structure Below (u base : Url) : Prop where
  scheme : u.scheme = base.scheme
  authority : u.authority = base.authority
  query : u.query = none
  fragment : u.fragment = none
  path : withoutSlash base.path.text <+: u.path.text
  segments : Within base.stem u.segments

/-- No route that begins with a plain word leads out of its base. -/
theorem below_extend (h : base.Base) (hword : Plain word.toList) (route : List String) :
    (base.extend (word :: route)).Below base where
  scheme := rfl
  authority := rfl
  query := rfl
  fragment := rfl
  path := isPrefix_text_extend h hword route
  segments := within_extend h hword route

/-! ## What a URL names -/

/-- A URL that has the segments of a route below a base, each of them escaped
    and none of them divided. -/
def Names (u base : Url) (route : List String) : Prop :=
  ∃ written, u.segments = base.stem ++ written ∧
    (∀ s ∈ written, ∀ c ∈ s, endsAuthority u.kind c = false) ∧
    written.map Percent.decode = route.map Bytes.ofText

/-- A route that begins with a plain word is named exactly if all that follows
    is addressable. -/
theorem names_extend_iff (h : base.Base) (hword : Plain word.toList) :
    (base.extend (word :: route)).Names base (word :: route) ↔
      ∀ s ∈ route, Addressable s.toList := by
  have hdecode : ∀ s : String, Addressable s.toList →
      Percent.decode (encodeSegment base.kind s.toList) = Bytes.ofText s := by
    intro s hs
    rw [UrlPath.decode_of_addressable _ hs, Bytes.ofText_eq]
  constructor
  · rintro ⟨written, hsegments, -, hread⟩
    rw [segments_extend_cons h hword] at hsegments
    -- As many segments are there as were added, so none was lost.
    have hlength : written.length = route.length + 1 := by
      rw [← List.length_map Percent.decode, hread, List.length_map, List.length_cons]
    have hgrown := congrArg List.length hsegments
    rw [List.length_append, hlength] at hgrown
    have hmany : (base.stem ++ [encodeSegment base.kind word.toList]).length +
        (route.map String.toList).length = base.stem.length + (route.length + 1) := by
      rw [List.length_append, List.length_singleton, List.length_map]
      omega
    rcases UrlPath.grown_foldl_push (h.firm hword).ne_nil (hgrown.trans hmany.symm) with
      ⟨added, hadded, hplaced⟩
    rw [hadded, List.append_assoc] at hsegments
    obtain rfl := List.append_cancel_left hsegments
    -- What was added is read as the route, less its first word.
    have hothers : added.map Percent.decode =
        (route.map String.toList).map Bytes.ofChars := by
      rw [List.map_map]
      refine (List.cons.inj hread).2.trans (List.map_congr_left fun s _ => ?_)
      exact Bytes.ofText_eq s
    intro s hs
    exact UrlPath.addressable_of_forall_placed hplaced hothers _ (List.mem_map_of_mem hs)
  · intro hroute
    -- All of the route is there in its escaped form.
    refine ⟨(word :: route).map fun s => encodeSegment base.kind s.toList, ?_, ?_, ?_⟩
    · have hall : ∀ s ∈ route.map String.toList, Addressable s := by
        intro s hs
        rcases List.mem_map.mp hs with ⟨s', hs', rfl⟩
        exact hroute s' hs'
      rw [segments_extend_cons h hword, UrlPath.foldl_push_addressable (h.firm hword) hall,
        List.append_assoc, List.map_map]
      rfl
    · intro s hs c hc
      rcases List.mem_map.mp hs with ⟨s', -, rfl⟩
      exact UrlPath.endsAuthority_of_mem_encodeSegment hc
    · rw [List.map_map]
      refine List.map_congr_left fun s hs => ?_
      rcases List.mem_cons.mp hs with rfl | hs
      · exact hdecode s hword.addressable
      · exact hdecode s (hroute s hs)

/-! ## Telling routes apart -/

/-- The text of a URL below a base tells its segments. -/
theorem segmentsText_of_text_eq (h : base.isUsable = true)
    (heq : (base.extend route).text = (base.extend route').text) :
    UrlPath.segmentsText (base.extend route).segments =
      UrlPath.segmentsText (base.extend route').segments := by
  rcases authority_of_usable h with ⟨a, ha⟩
  -- All but the segments is the same for every route.
  have hchars : ∀ route, (base.extend route).chars = base.scheme ++ ':' :: '/' :: '/' ::
      (a.text ++ UrlPath.segmentsText (base.extend route).segments) := by
    intro route
    have hauthority : (base.extend route).authority = some a := ha
    unfold chars middleText
    rw [hauthority, path_extend h]
    change base.scheme ++
      ':' :: (('/' :: '/' :: (a.text ++ UrlPath.segmentsText _)) ++ [] ++ []) = _
    rw [List.append_nil, List.append_nil]
  have heq' := String.ofList_injective heq
  rw [hchars, hchars] at heq'
  have htail := List.append_cancel_left heq'
  simp only [List.cons.injEq, true_and] at htail
  exact List.append_cancel_left htail

/-- Two routes that are named below a base are told apart by their texts. -/
theorem Names.injective (hbase : base.isUsable = true)
    (h : (base.extend route).Names base route) (h' : (base.extend route').Names base route')
    (heq : (base.extend route).text = (base.extend route').text) : route = route' := by
  rcases h with ⟨written, hsegments, hundivided, hread⟩
  rcases h' with ⟨written', hsegments', hundivided', hread'⟩
  have htext := segmentsText_of_text_eq hbase heq
  rw [hsegments, hsegments', UrlPath.segmentsText_append, UrlPath.segmentsText_append] at htext
  have hslash : ∀ {kind : SchemeKind}, endsAuthority kind '/' = true := by
    intro kind
    rfl
  -- Slashes end the authority, and no character of a segment does.
  have hwritten : written = written' := by
    refine UrlPath.segmentsText_injective (fun s hs hc => ?_) (fun s hs hc => ?_)
      (List.append_cancel_left htext)
    · exact Bool.noConfusion ((hundivided s hs _ hc).symm.trans hslash)
    · exact Bool.noConfusion ((hundivided' s hs _ hc).symm.trans hslash)
  have hroutes : route.map Bytes.ofText = route'.map Bytes.ofText := by
    rw [← hread, ← hread', hwritten]
  exact List.map_injective_iff.mpr (fun _ _ => Bytes.ofText_injective) hroutes

end Url

end EventFlow
