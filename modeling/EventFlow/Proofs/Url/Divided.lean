import EventFlow.Proofs.Url.Hosts

/-!
# Divided Endpoints

What becomes of the URL of a text that a list divides.

A URL that was read is read again from any text that has what counts in it, and
since a remainder is seen in the host or in what follows it, no text with one is
read as the URL without it (`ofText_append`).

What a list makes of an endpoint has to begin with the endpoint's scheme. The
scheme begins with a letter, and all that is ignored in front of it are controls and
spaces, so nothing else of what comes to nothing can stand there
(`isBorder_of_ofText`). The first piece is therefore an entry, and if it is the only
one, the rest of the endpoint is a remainder (`ne_of_divided`).

## Theorems

* `ofText_append`: Texts with a remainder are other URLs.
* `isBorder_of_ofText`: What can stand in front of an endpoint.
* `ne_of_divided`: An endpoint is not the only entry that is left of it.
-/

namespace EventFlow

namespace Url

variable {s t : List Char} {kind : SchemeKind}

/-! ## Texts with remainders -/

theorem splitScheme_append {scheme rest : List Char} (h : splitScheme s = some (scheme, rest))
    (t : List Char) : splitScheme (s ++ t) = some (scheme, rest ++ t) := by
  cases s with
  | nil => cases h
  | cons c s =>
      rw [splitScheme] at h
      rw [List.cons_append, splitScheme]
      split at h
      · rename_i halpha
        rw [if_pos halpha]
        split at h
        · rename_i after hafter
          have hne : s.dropWhile isSchemeChar ≠ [] := by
            rw [hafter]
            exact List.cons_ne_nil _ _
          rw [Text.dropWhile_append_of_ne_nil hne, Text.takeWhile_append_of_ne_nil hne, hafter]
          cases h
          rfl
        · cases h
      · cases h

theorem readOther_append (h : Remainder t) {scheme : List Char} {u u' : Url}
    (hhost : ∃ authority, u.authority = some authority ∧ authority.host ≠ .name [])
    (hs : readOther scheme s = .ok u) (hst : readOther scheme (s ++ t) = .ok u') : u ≠ u' := by
  rcases hhost with ⟨authority, hauthority, -⟩
  unfold readOther at hs
  split at hs
  · exact readAfterSlashes_append h hs hst
  -- Otherwise there is no authority.
  · cases hs
    cases hauthority
  · cases hs
    cases hauthority

/-- A text with a host and the same text with a remainder are not read as the same
    URL. -/
theorem ofText_append {text text' : String} {u u' : Url}
    (htext : significant text'.toList = significant text.toList ++ t) (h : Remainder t)
    (hhost : ∃ authority, u.authority = some authority ∧ authority.host ≠ .name [])
    (hread : ofText text = .ok u) (hread' : ofText text' = .ok u') : u ≠ u' := by
  unfold ofText at hread hread'
  rw [htext] at hread'
  split at hread
  · cases hread
  · rename_i scheme rest hsplit
    rw [splitScheme_append hsplit] at hread'
    dsimp only at hread'
    split at hread
    · rename_i hkind
      rw [hkind] at hread'
      refine readFile_append h (fun authority hauthority => ?_) hread hread'
      rcases hhost with ⟨_, hauthority', hname⟩
      cases hauthority.symm.trans hauthority'
      exact hname
    · rename_i hkind
      rw [hkind] at hread'
      have hslash : ∀ c ∈ t.head?, isSlash .special c = false :=
        fun c hc => h.isSlash_eq .special c (List.mem_of_head? hc)
      dsimp only at hread'
      rw [Text.dropWhile_append_of_head hslash] at hread'
      exact readAfterSlashes_append h hread hread'
    · rename_i hkind
      rw [hkind] at hread'
      exact readOther_append h hhost hread hread'

/-! ## What an endpoint begins with -/

variable {text : String} {u : Url}

/-- What is dropped everywhere is ignored at the ends, too. -/
theorem isBorder_of_isIgnored {c : Char} (h : UrlPath.isIgnored c = true) : isBorder c = true := by
  simp only [UrlPath.isIgnored, Bool.or_eq_true, beq_iff_eq] at h
  rcases h with (rfl | rfl) | rfl <;> rfl

theorem head_significant {before after : List Char} {c : Char}
    (h : text.toList = before ++ c :: after) (hbefore : ∀ d ∈ before, isBorder d = true)
    (hc : isBorder c = false) : ∃ rest, significant text.toList = c :: rest := by
  have hdrop : text.toList.dropWhile isBorder = c :: after := by
    rw [h, List.dropWhile_append_of_pos hbefore,
      List.dropWhile_cons_of_neg (Bool.eq_false_iff.mp hc)]
  have hne : Text.strip isBorder text.toList ≠ [] := by
    intro hnil
    have hmem : c ∈ text.toList := h ▸ List.mem_append_right before (.head after)
    exact Bool.eq_false_iff.mp hc (Text.strip_eq_nil_iff.mp hnil c hmem)
  rcases List.exists_cons_of_ne_nil hne with ⟨d, rest, hstrip⟩
  rcases Text.exists_dropWhile_eq isBorder text.toList with ⟨tail, htail⟩
  rw [hdrop, hstrip] at htail
  have hkept : (!UrlPath.isIgnored c) = true := by
    rw [Bool.not_eq_true', Bool.eq_false_iff]
    exact fun hignored => Bool.eq_false_iff.mp hc (isBorder_of_isIgnored hignored)
  refine ⟨rest.filter (!UrlPath.isIgnored ·), ?_⟩
  rw [significant, hstrip, ← (List.cons.inj htail).1, List.filter_cons, if_pos hkept]

/-- The first character that is not ignored begins the scheme. -/
theorem isAlpha_of_ofText (hread : ofText text = .ok u) {before after : List Char} {c : Char}
    (h : text.toList = before ++ c :: after) (hbefore : ∀ d ∈ before, isBorder d = true)
    (hc : isBorder c = false) : c.isAlpha = true := by
  rcases head_significant h hbefore hc with ⟨rest, hrest⟩
  unfold ofText at hread
  rw [hrest, splitScheme] at hread
  by_contra halpha
  rw [if_neg halpha] at hread
  cases hread

/-- Nothing that comes to nothing stands in front of an endpoint, except what is
    ignored there. -/
theorem isBorder_of_ofText (hread : ofText text = .ok u) {before after : List Char}
    (h : text.toList = before ++ after) (hbefore : ∀ d ∈ before, IsLoose d) :
    ∀ d ∈ before, isBorder d = true := by
  -- The first character that is not ignored would be a letter.
  refine List.dropWhile_eq_nil_iff.mp (Classical.byContradiction fun hne => ?_)
  rcases Text.exists_cons_dropWhile hne with ⟨c, rest, hc, hstop⟩
  have hsplit := List.takeWhile_append_dropWhile (p := isBorder) (l := before)
  rw [hc] at hsplit
  have htext : text.toList = before.takeWhile isBorder ++ c :: (rest ++ after) := by
    rw [h, ← List.cons_append, ← List.append_assoc, hsplit]
  have halpha := isAlpha_of_ofText hread htext (fun d hd => List.mem_takeWhile_imp hd) hstop
  rw [(hbefore c (hsplit ▸ List.mem_append_right _ (.head rest))).isAlpha_eq] at halpha
  exact Bool.false_ne_true halpha

/-- No endpoint begins with a comma, whatever comes to nothing in front of it. -/
theorem exists_not_loose (hread : ofText text = .ok u) {front rest : List Char}
    (h : text.toList = front ++ ',' :: rest) : ∃ c ∈ front, ¬ IsLoose c := by
  by_contra hnone
  push Not at hnone
  have htext : text.toList = (front ++ [',']) ++ rest := by
    rw [h, List.append_assoc]
    rfl
  have hloose : ∀ c ∈ front ++ [','], IsLoose c :=
    List.forall_mem_append.mpr ⟨hnone, List.forall_mem_singleton.mpr (.inl rfl)⟩
  have hcomma := isBorder_of_ofText hread htext hloose ',' (List.mem_append_right _ (.head _))
  exact Bool.false_ne_true hcomma

/-- An endpoint that a list divides, with one entry in front and nothing that counts
    behind it, is not read as the URL of that entry. -/
theorem ne_of_divided {front rest : String} {u' : Url}
    (h : text.toList = front.toList ++ ',' :: rest.toList)
    (hrest : ∀ c ∈ rest.toList, c = ',' ∨ Text.isBlank c = true)
    (hread : ofText text = .ok u) (hread' : ofText (Text.trim front) = .ok u')
    (hhost : ∃ authority, u'.authority = some authority ∧ authority.host ≠ .name []) : u' ≠ u := by
  rcases Text.exists_append_strip Text.isBlank front.toList with
    ⟨before, after, hfront, hbefore, hafter⟩
  have htext : text.toList =
      before ++ Text.strip Text.isBlank front.toList ++ (after ++ ',' :: rest.toList) := by
    rw [h]
    conv_lhs => rw [hfront]
    simp only [List.append_assoc]
  have hloose : ∀ c ∈ after ++ ',' :: rest.toList, IsLoose c := by
    intro c hc
    rcases List.mem_append.mp hc with hc | hc
    · exact .inr (.inl (hafter c hc))
    rcases List.mem_cons.mp hc with rfl | hc
    · exact .inl rfl
    · exact (hrest c hc).imp id .inl
  have hlead : ∀ c ∈ before, isBorder c = true :=
    isBorder_of_ofText hread (htext.trans (List.append_assoc _ _ _))
      fun c hc => .inr (.inl (hbefore c hc))
  -- The entry is not empty for a URL either, so what is behind it is all that can differ.
  have hentry : Text.strip isBorder (Text.strip Text.isBlank front.toList) ≠ [] := by
    rcases exists_not_loose hread h with ⟨c, hc, hnot⟩
    rw [IsLoose, not_or, not_or] at hnot
    rw [hfront] at hc
    have hmem : c ∈ Text.strip Text.isBlank front.toList := by
      rcases List.mem_append.mp hc with hc | hc
      · exact (List.mem_append.mp hc).resolve_left fun hc => hnot.2.1 (hbefore c hc)
      · exact absurd (hafter c hc) hnot.2.1
    exact fun hnil => hnot.2.2 (Text.strip_eq_nil_iff.mp hnil c hmem)
  have hbehind : Text.strip isBorder (after ++ ',' :: rest.toList) ≠ [] := by
    intro hnil
    have hcomma := Text.strip_eq_nil_iff.mp hnil ',' (List.mem_append_right _ (.head _))
    exact Bool.false_ne_true hcomma
  rcases Text.exists_strip_append hlead hentry hbehind with ⟨more, hmore, hfrom, hkept⟩
  refine ofText_append (t := more.filter (!UrlPath.isIgnored ·)) ?_ ⟨?_, ?_⟩ hhost hread' hread
  · rw [significant, significant, htext, hmore, List.filter_append, Text.trim, String.toList_ofList]
  · exact List.mem_filter.mpr ⟨hkept ',' (List.mem_append_right _ (.head _)) rfl, rfl⟩
  · intro c hc
    rcases hfrom c (List.mem_of_mem_filter hc) with hborder | hmem
    · exact .inr (.inr hborder)
    · exact hloose c hmem

end Url

end EventFlow
