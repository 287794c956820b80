import EventFlow.Config
import EventFlow.Proofs.Url.Extension

/-!
# Endpoints That Were Checked

What is known of an endpoint once a worker has it.

Endpoints are checked twice. A configuration reads each from its text and keeps
it only if it is usable, so that routes can be put below it; and a rotation
accepts them only if there is one and all of them are usable. The second check
never fails after the first (`of_of_build`).

## Theorems

* `usable_of_mem`, `eq_of_of`: What a rotation accepts.
* `base_of_build`: Every endpoint of a configuration is a base.
* `of_of_build`: A rotation accepts them.
-/

namespace EventFlow

namespace Endpoints

variable {list : List Url} {e : Endpoints}

/-- The check of a rotation passes if each endpoint is usable. It goes on from one
    to the next and stops at the first that is not. -/
theorem forM_checkUsable :
    list.forM Url.checkUsable = .ok () ↔ ∀ u ∈ list, u.isUsable = true := by
  induction list with
  | nil => exact ⟨fun _ u hu => absurd hu List.not_mem_nil, fun _ => rfl⟩
  | cons v list ih =>
      rw [List.forall_mem_cons, ← ih, List.forM_eq_forM, List.forM_cons]
      by_cases hv : v.isUsable = true
      · rw [Url.checkUsable, if_pos hv]
        exact (and_iff_right hv).symm
      · rw [Url.checkUsable, if_neg hv]
        exact ⟨fun h => absurd h (by simp [bind, Except.bind]), fun h => absurd h.1 hv⟩

/-- What is accepted are the endpoints themselves, and their turns begin. -/
theorem eq_of_of (h : of list = .ok e) : e.list = list ∧ e.position = 0 := by
  unfold of at h
  split at h
  · exact absurd h (by simp)
  split at h
  · exact absurd h (by simp)
  · rw [← Except.ok.inj h]
    exact ⟨rfl, rfl⟩

/-- What is accepted as an endpoint is usable. -/
theorem usable_of_mem (h : of list = .ok e) {u : Url} (hu : u ∈ list) : u.isUsable = true := by
  unfold of at h
  split at h
  · exact absurd h (by simp)
  split at h
  · exact absurd h (by simp)
  · rename_i hall
    exact forM_checkUsable.mp hall u hu

/-- And if there is an endpoint, nothing else is asked for. In particular two of
    them may be the same. -/
theorem exists_of (hne : list ≠ []) (hall : ∀ u ∈ list, u.isUsable = true) :
    ∃ e, of list = .ok e := by
  unfold of
  -- The list has something in it, and the check goes through all of that.
  rw [dif_neg hne, forM_checkUsable.mpr hall]
  exact ⟨_, rfl⟩

end Endpoints

namespace Url

/-- An endpoint that was read can have routes below it. A URL that cannot, such as
    one without a host, is refused by the reader and never gets into a
    configuration. -/
theorem base_of_ofEndpointText {text : String} {u : Url} (h : ofEndpointText text = .ok u) :
    u.Base := by
  unfold ofEndpointText at h
  cases hread : ofText text with
  | error e =>
      rw [hread] at h
      exact absurd h (by simp)
  | ok v =>
      rw [hread] at h
      -- The reader has the same condition as the rotation.
      by_cases husable : v.isUsable = true
      · simp only [checkUsable, if_pos husable, Except.ok.injEq] at h
        exact h ▸ base_of_ofText hread husable
      · simp only [checkUsable, if_neg husable, reduceCtorEq] at h

/-- Endpoints are read one by one, and all of them, or there is an error. So they
    are as many as their texts, and in the same order. -/
theorem read_of_mapM {texts : List String} {urls : List Url}
    (h : texts.mapM ofEndpointText = .ok urls) :
    List.Forall₂ (fun text u => ofEndpointText text = .ok u) texts urls := by
  induction texts generalizing urls with
  | nil =>
      rw [List.mapM_nil] at h
      obtain rfl := Except.ok.inj h
      exact .nil
  | cons text texts ih =>
      rw [List.mapM_cons] at h
      cases hfirst : ofEndpointText text with
      | error e =>
          rw [hfirst] at h
          exact absurd h (by simp [bind, Except.bind])
      | ok first =>
          cases hothers : texts.mapM ofEndpointText with
          | error e =>
              rw [hfirst, hothers] at h
              exact absurd h (by simp [bind, Except.bind])
          | ok others =>
              rw [hfirst, hothers] at h
              obtain rfl := Except.ok.inj h
              exact .cons hfirst (ih hothers)

/-- Endpoints that can be read one by one can be read together. -/
theorem mapM_of_read {texts : List String} {urls : List Url}
    (h : List.Forall₂ (fun text u => ofEndpointText text = .ok u) texts urls) :
    texts.mapM ofEndpointText = .ok urls := by
  induction h with
  | nil => rfl
  | cons hfirst _ ih => rw [List.mapM_cons, hfirst, ih]; rfl

end Url

namespace Settings

variable {s : Settings} {config : Config}

/-- The endpoints of a configuration were read from texts, of which there was
    one at least. -/
theorem read_of_build (h : s.build = .ok config) : s.endpoints ≠ [] ∧
    List.Forall₂ (fun text u => Url.ofEndpointText text = .ok u) s.endpoints config.endpoints := by
  unfold build at h
  cases hurls : s.endpointUrls with
  | error e =>
      rw [hurls] at h
      exact absurd h (by simp)
  | ok urls =>
      -- The identifiers are checked after the endpoints, and leave them alone.
      have hconfig : config.endpoints = urls := by
        rw [hurls] at h
        simp only at h
        split at h
        · exact absurd h (by simp)
        split at h
        · exact absurd h (by simp)
        · rw [← Except.ok.inj h]
      rw [hconfig]
      unfold endpointUrls at hurls
      split at hurls
      · exact absurd hurls (by simp)
      · rename_i hne
        split at hurls
        · exact absurd hurls (by simp)
        · rename_i hmap
          obtain rfl := Except.ok.inj hurls
          exact ⟨fun hnil => hne (List.isEmpty_iff.mpr hnil), Url.read_of_mapM hmap⟩

/-- Every endpoint of a configuration can have routes below it. -/
theorem base_of_build (h : s.build = .ok config) : ∀ u ∈ config.endpoints, u.Base := by
  intro u hu
  have hread := (read_of_build h).2
  rcases List.get_of_mem hu with ⟨i, rfl⟩
  have hlt : i.val < s.endpoints.length := hread.length_eq.symm ▸ i.isLt
  exact Url.base_of_ofEndpointText (hread.get hlt i.isLt)

/-- A rotation accepts the endpoints of a configuration. That a worker is refused
    for its endpoints can therefore only happen before it has a configuration. -/
theorem of_of_build (h : s.build = .ok config) : ∃ e, Endpoints.of config.endpoints = .ok e := by
  rcases read_of_build h with ⟨hne, hread⟩
  refine Endpoints.exists_of (fun hnil => ?_) fun u hu => (base_of_build h u hu).usable
  -- There are as many endpoints as texts.
  have hlength := hread.length_eq
  rw [hnil] at hlength
  exact hne (List.eq_nil_of_length_eq_zero hlength)

end Settings

end EventFlow
