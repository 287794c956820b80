import EventFlow.Proofs.Url.Escapes
import EventFlow.Url.Reader
import Mathlib.Data.List.Forall2
import Mathlib.Data.List.TakeWhile

/-!
# Adding Segments to a Path

What becomes of a path when segments are added to it.

Most segments are put behind the others in their escaped form, and that is the
end of it. The exceptions are the segments of dots. A plain one is skipped, and
one with a tab or a line end in it takes a segment away, since the tab is
dropped and the dots are not. `Addressable` are the segments that are no
exception.

Two things hold of all segments, whatever is in them. The first is that a path
to which at least one segment was added keeps everything that was there before
(`within_push`): a segment of two dots takes away no more than the last one,
and leaves an empty one in its place. The second is that each segment adds at
most one (`length_push_le`). So a path that has grown by as many segments as
were added lost none of them on the way, and each stands where it was put
(`grown_foldl_push`). Counting thus tells the exceptions from the rest.

## Main definitions

* `UrlPath.kept`: The segments that stay when another one is added.
* `UrlPath.Addressable`: A segment that is added as it is.
* `UrlPath.Firm`: A path that is kept as a whole.
* `UrlPath.Within`: A path that goes on behind some segments.
* `UrlPath.Placed`: What a segment may leave where it was put.

## Theorems

* `decode_encodeSegment`: What is written for a segment.
* `push_addressable`: Addressable segments are put behind the others.
* `within_push`: Nothing that was there before is lost.
* `length_push_le`, `grown_foldl_push`: How a path grows.
-/

namespace EventFlow

namespace UrlPath

variable {kind : SchemeKind} {list stem : List (List Char)} {s : List Char}

/-- The segments that stay when another one is added: an empty one that is the
    only one gives way. -/
def kept (list : List (List Char)) : List (List Char) := if list = [[]] then [] else list

/-- A segment that is neither one dot nor two, and in which nothing is ignored.
    These are the segments that a route can have without losing a part of what it
    says. -/
def Addressable (s : List Char) : Prop :=
  s ≠ ['.'] ∧ s ≠ ['.', '.'] ∧ ∀ c ∈ s, isIgnored c = false

instance : DecidablePred Addressable := fun s =>
  decidable_of_iff (s ≠ ['.'] ∧ s ≠ ['.', '.'] ∧ s.all (!isIgnored ·) = true) <| by
    unfold Addressable
    simp only [List.all_eq_true, Bool.not_eq_true']

/-- A segment of dots, without anything to be ignored in it, is skipped. The
    comparison is with the segment as it is given, so one that comes to be dots
    later is not caught here. -/
theorem push_of_dots (h : s = ['.'] ∨ s = ['.', '.']) : push kind list s = list := by
  unfold push
  rw [if_pos (by simpa using h)]

/-- Any other is written, and what is written is read like the segment of a path. -/
theorem push_of_not_dots (h : ¬ (s = ['.'] ∨ s = ['.', '.'])) :
    push kind list s = settle kind (step kind (kept list) (encodeSegment kind s) true) := by
  unfold push
  rw [if_neg (by simpa using h)]
  rfl

/-! ## What is written for a segment -/

/-- What is written for a segment is read as the segment without what is ignored.
    The escapes themselves lose nothing; tabs and line ends are dropped before there
    is anything to escape. -/
theorem decode_encodeSegment (kind : SchemeKind) (s : List Char) :
    Percent.decode (encodeSegment kind s) = Bytes.ofChars (s.filter (!isIgnored ·)) := by
  unfold encodeSegment
  refine Percent.decode_encode ?_ _
  cases kind <;> rfl

/-- An addressable segment is read back, as nothing of it is ignored. -/
theorem decode_of_addressable (kind : SchemeKind) (h : Addressable s) :
    Percent.decode (encodeSegment kind s) = Bytes.ofChars s := by
  rw [decode_encodeSegment, List.filter_eq_self.mpr fun c hc => by rw [h.2.2 c hc]; rfl]

/-- No character of what is written for a segment ends it or the path. Otherwise it
    would be read back as more than one segment, or as a query. -/
theorem endsAuthority_of_mem_encodeSegment {c : Char} (h : c ∈ encodeSegment kind s) :
    Url.endsAuthority kind c = false := by
  -- What is escaped comes back as a percent sign and digits, and none of these ends anything.
  have hdigit : ∀ n : Fin 16, '/' ≠ Percent.hexDigit n ∧ '\\' ≠ Percent.hexDigit n ∧
      '?' ≠ Percent.hexDigit n ∧ '#' ≠ Percent.hexDigit n := by decide
  rw [← Bool.not_eq_true]
  intro hends
  unfold Url.endsAuthority Url.isSlash Url.isMark at hends
  simp only [Bool.or_eq_true, Bool.and_eq_true, beq_iff_eq] at hends
  revert h
  unfold encodeSegment
  refine Percent.not_mem_encode ?_ ?_ (fun n hn => ?_) _
  · rcases hends with (rfl | ⟨hspecial, rfl⟩) | rfl | rfl
    · cases kind <;> rfl
    · rw [if_pos hspecial]
      rfl
    · cases kind <;> rfl
    · cases kind <;> rfl
  · rcases hends with (rfl | ⟨-, rfl⟩) | rfl | rfl <;> decide
  · rcases hdigit ⟨n, hn⟩ with ⟨hslash, hbackslash, hquestion, hhash⟩
    rcases hends with (rfl | ⟨-, rfl⟩) | rfl | rfl
    · exact hslash
    · exact hbackslash
    · exact hquestion
    · exact hhash

/-- What becomes something else than a small letter was that before. -/
theorem toLower_eq {c d : Char} (h : c.toLower = d) (hd : d.toNat < 97 ∨ 122 < d.toNat) :
    c = d := by
  unfold Char.toLower at h
  split at h
  · rename_i hupper
    rw [← h] at hd
    change (c.val + 32).toNat < 97 ∨ 122 < (c.val + 32).toNat at hd
    have hlow : 65 ≤ c.val.toNat := UInt32.le_iff_toNat_le.mp hupper.1
    have hhigh : c.val.toNat ≤ 90 := UInt32.le_iff_toNat_le.mp hupper.2
    rw [UInt32.toNat_add] at hd
    change (c.val.toNat + 32) % 4294967296 < 97 ∨ 122 < (c.val.toNat + 32) % 4294967296 at hd
    omega
  · exact h

/-- What becomes the small letter of an escape was that letter or the capital one. -/
theorem toLower_eq_e {c : Char} (h : c.toLower = 'e') : c = 'e' ∨ c = 'E' := by
  unfold Char.toLower at h
  split at h
  · right
    have hval := congrArg Char.val h
    change c.val + 32 = 101 at hval
    apply Char.ext
    change c.val = 69
    refine (UInt32.add_left_inj 32).mp ?_
    rw [hval]
    rfl
  · exact .inl h

/-- A dot in front, written as one or as an escape, is read as a dot. A path takes
    both for the same, and capital letters in the escape for small ones. -/
theorem decode_dot {x y : List Char} (h : x.map Char.toLower = '.' :: y ∨
    x.map Char.toLower = '%' :: '2' :: 'e' :: y) :
    ∃ x', Percent.decode x = 0x2e :: Percent.decode x' ∧ x'.map Char.toLower = y := by
  rcases h with h | h
  · rcases List.map_eq_cons_iff.mp h with ⟨c, x', rfl, hc, hx'⟩
    obtain rfl := toLower_eq hc (by decide)
    exact ⟨x', Percent.decode_cons (by decide) x', hx'⟩
  · rcases List.map_eq_cons_iff.mp h with ⟨c, x₁, rfl, hc, hx₁⟩
    rcases List.map_eq_cons_iff.mp hx₁ with ⟨d, x₂, rfl, hd, hx₂⟩
    rcases List.map_eq_cons_iff.mp hx₂ with ⟨e, x', rfl, he, hx'⟩
    obtain rfl := toLower_eq hc (by decide)
    obtain rfl := toLower_eq hd (by decide)
    refine ⟨x', ?_, hx'⟩
    rw [Percent.decode, if_pos rfl]
    rcases toLower_eq_e he with rfl | rfl <;> rfl

/-- A segment that means the current level is read as a dot. -/
theorem decode_of_isDot {x : List Char} (h : isDot x = true) : Percent.decode x = [0x2e] := by
  unfold isDot at h
  simp only [Bool.or_eq_true, beq_iff_eq] at h
  rcases decode_dot h with ⟨x', hx, hx'⟩
  obtain rfl := List.map_eq_nil_iff.mp hx'
  rw [hx, Percent.decode]

/-- A segment that means the level above is read as two dots. -/
theorem decode_of_isDotDot {x : List Char} (h : isDotDot x = true) :
    Percent.decode x = [0x2e, 0x2e] := by
  unfold isDotDot at h
  simp only [Bool.or_eq_true, beq_iff_eq, List.cons_append, List.nil_append] at h
  -- Either dot may be written as itself or as an escape, so the first one is looked at alone.
  have hfirst : ∃ y, (y = ['.'] ∨ y = ['%', '2', 'e']) ∧
      (x.map Char.toLower = '.' :: y ∨ x.map Char.toLower = '%' :: '2' :: 'e' :: y) := by
    rcases h with ((h | h) | h) | h
    · exact ⟨_, .inl rfl, .inl h⟩
    · exact ⟨_, .inr rfl, .inl h⟩
    · exact ⟨_, .inl rfl, .inr h⟩
    · exact ⟨_, .inr rfl, .inr h⟩
  rcases hfirst with ⟨y, hy, hx⟩
  rcases decode_dot hx with ⟨x', hdecode, hx'⟩
  have hdot : isDot x' = true := by
    unfold isDot
    simp only [Bool.or_eq_true, beq_iff_eq, hx']
    exact hy
  rw [hdecode, decode_of_isDot hdot]

/-- What is written for an addressable segment is no segment of dots: it would be
    read as dots, and it is read as the segment. -/
theorem not_dots_of_addressable (kind : SchemeKind) (h : Addressable s) :
    isDot (encodeSegment kind s) = false ∧ isDotDot (encodeSegment kind s) = false := by
  have hdecode : Percent.decode (encodeSegment kind s) = Bytes.ofChars s :=
    decode_of_addressable kind h
  constructor
  · by_contra hdot
    rw [decode_of_isDot (Bool.not_eq_false _ ▸ hdot)] at hdecode
    exact h.1 (Bytes.ofChars_injective (t := ['.']) hdecode.symm)
  · by_contra hdots
    rw [decode_of_isDotDot (Bool.not_eq_false _ ▸ hdots)] at hdecode
    exact h.2.1 (Bytes.ofChars_injective (t := ['.', '.']) hdecode.symm)

/-! ## The segments of a file -/

/-- Only the path of a file is settled. What follows is about the others trivially,
    and is stated for all kinds so that nobody has to ask for the kind. -/
theorem settle_of_ne_file (h : kind ≠ .file) : settle kind list = list := by
  unfold settle
  rw [if_neg h]

/-- Settling leaves a segment. -/
theorem settle_ne_nil (h : list ≠ []) : settle kind list ≠ [] := by
  unfold settle
  by_cases hk : kind = .file
  · rw [if_pos hk]
    cases hd : list.dropWhile List.isEmpty with
    | nil => exact List.cons_ne_nil _ _
    | cons x xs => exact List.cons_ne_nil _ _
  · rw [if_neg hk]
    exact h

/-- Settling takes segments away, or changes nothing. So a path that is as long
    afterwards is the same one. -/
theorem settle_eq_or (kind : SchemeKind) (h : list ≠ []) :
    settle kind list = list ∨ (settle kind list).length < list.length := by
  unfold settle
  by_cases hk : kind = .file
  · rw [if_pos hk]
    have hsuffix := List.dropWhile_suffix List.isEmpty (l := list)
    cases hd : list.dropWhile List.isEmpty with
    | nil =>
        -- All of them are empty, and one stays.
        simp only
        rcases Nat.lt_or_eq_of_le (List.length_pos_iff.mpr h) with hlong | hone
        · exact .inr hlong
        · rcases List.length_eq_one_iff.mp hone.symm with ⟨x, rfl⟩
          rw [List.dropWhile_eq_nil_iff] at hd
          rw [List.isEmpty_iff.mp (hd x (.head _))]
          exact .inl rfl
    | cons x xs =>
        simp only
        rw [hd] at hsuffix
        rcases Nat.lt_or_eq_of_le hsuffix.length_le with hless | heq
        · exact .inr hless
        · exact .inl (hsuffix.eq_of_length heq)
  · rw [if_neg hk]
    exact .inl rfl

/-- So it does not make a path longer, whatever the kind. -/
theorem length_settle_le (kind : SchemeKind) (h : list ≠ []) :
    (settle kind list).length ≤ list.length := by
  rcases settle_eq_or kind h with heq | hlt
  · exact Nat.le_of_eq (congrArg List.length heq)
  · exact Nat.le_of_lt hlt

/-- A path that begins with no empty segment is settled. -/
theorem settle_of_head (h : list ≠ []) (head : kind = .file → list.head? ≠ some []) :
    settle kind list = list := by
  by_cases hk : kind = .file
  · cases list with
    | nil => exact absurd rfl h
    | cons x xs =>
        have hx : x.isEmpty = false := by
          rw [← Bool.not_eq_true, List.isEmpty_iff]
          exact fun hnil => head hk (congrArg some hnil)
        unfold settle
        rw [if_pos hk, List.dropWhile_cons_of_neg (Bool.not_eq_true _ ▸ hx)]
  · exact settle_of_ne_file hk

/-- And it stays so with more behind it, since empty segments are taken away in
    front only. -/
theorem settle_append (h : stem ≠ []) (head : kind = .file → stem.head? ≠ some [])
    (more : List (List Char)) : settle kind (stem ++ more) = stem ++ more := by
  refine settle_of_head (List.append_ne_nil_of_left_ne_nil h more) fun hk => ?_
  rw [List.head?_append_of_ne_nil _ h]
  exact head hk

/-- Settling twice is settling once. -/
theorem settle_settle (list : List (List Char)) :
    settle .file (settle .file list) = settle .file list := by
  cases hd : list.dropWhile List.isEmpty with
  | nil =>
      have hone : settle .file list = [[]] := by
        unfold settle
        rw [if_pos rfl, hd]
      rw [hone]
      rfl
  | cons x xs =>
      have hkept : settle .file list = x :: xs := by
        unfold settle
        rw [if_pos rfl, hd]
      have hx := List.head?_dropWhile_not List.isEmpty list
      rw [hd] at hx
      rw [hkept]
      refine settle_of_head (List.cons_ne_nil x xs) fun _ hnil => ?_
      obtain rfl := Option.some.inj hnil
      simp at hx

/-- A path that is settled is the root, or begins with no empty segment. -/
theorem head_of_settled (h : settle .file list = list) : list = [[]] ∨ list.head? ≠ some [] := by
  unfold settle at h
  rw [if_pos rfl] at h
  cases hd : list.dropWhile List.isEmpty with
  | nil =>
      rw [hd] at h
      exact .inl h.symm
  | cons x xs =>
      have hx := List.head?_dropWhile_not List.isEmpty list
      rw [hd] at h hx
      refine .inr fun hnil => ?_
      rw [← h] at hnil
      obtain rfl := Option.some.inj hnil
      simp at hx

/-- An empty segment at the end is not the first one, unless it is the only one,
    which stays. -/
theorem head?_dropEmptyLast (list : List (List Char)) :
    (dropEmptyLast list).head? = list.head? := by
  unfold dropEmptyLast
  split
  · cases list with
    | nil => rfl
    | cons x xs =>
        cases xs with
        | nil => simp_all
        | cons y ys => rfl
  · rfl

/-- Behind others it gives way. -/
theorem dropEmptyLast_concat_nil (h : stem ≠ []) : dropEmptyLast (stem ++ [[]]) = stem := by
  have hpos := List.length_pos_iff.mpr h
  unfold dropEmptyLast
  rw [List.getLast?_concat, List.dropLast_concat, List.length_append, List.length_singleton,
    decide_eq_true (by omega), decide_eq_true rfl, Bool.and_self, if_pos rfl]

/-- Segments stay if the last of them is not empty. -/
theorem kept_dropEmptyLast_concat (h : s ≠ []) (stem : List (List Char)) :
    kept (dropEmptyLast (stem ++ [s])) = stem ++ [s] := by
  have hnone : ¬ (stem ++ [s]).getLast? = some [] := by
    rw [List.getLast?_concat]
    exact fun hnil => h (Option.some.inj hnil)
  unfold dropEmptyLast kept
  rw [decide_eq_false hnone, Bool.and_false, if_neg Bool.false_ne_true, if_neg]
  intro hroot
  rw [hroot] at hnone
  exact hnone rfl

/-! ## Addressable segments -/

/-- A path that is kept as a whole when segments are added. The root is none: its
    one segment is empty and gives way to the first that is added. -/
structure Firm (kind : SchemeKind) (list : List (List Char)) : Prop where
  ne_nil : list ≠ []
  ne_root : list ≠ [[]]
  head : kind = .file → list.head? ≠ some []

/-- Nothing of such a path gives way. -/
theorem Firm.kept_eq (h : Firm kind list) : kept list = list := by
  unfold kept
  rw [if_neg h.ne_root]

/-- And it stays such a path with more behind it. -/
theorem Firm.append (h : Firm kind list) (more : List (List Char)) : Firm kind (list ++ more) where
  ne_nil := List.append_ne_nil_of_left_ne_nil h.ne_nil more
  ne_root := fun hroot => by
    rcases List.append_eq_singleton_iff.mp hroot with ⟨hnil, -⟩ | ⟨hroot, -⟩
    · exact h.ne_nil hnil
    · exact h.ne_root hroot
  head := fun hk => by
    rw [List.head?_append_of_ne_nil _ h.ne_nil]
    exact h.head hk

/-- An addressable segment is put behind the others in its escaped form. -/
theorem push_addressable (h : Firm kind list) (hs : Addressable s) :
    push kind list s = list ++ [encodeSegment kind s] := by
  rcases not_dots_of_addressable kind hs with ⟨hdot, hdots⟩
  have hnotEmpty : list.isEmpty = false := by
    rw [← Bool.not_eq_true, List.isEmpty_iff]
    exact h.ne_nil
  rw [push_of_not_dots (not_or.mpr ⟨hs.1, hs.2.1⟩), h.kept_eq]
  unfold step
  rw [if_neg (Bool.not_eq_true _ ▸ hdots), if_neg (Bool.not_eq_true _ ▸ hdot), hnotEmpty,
    Bool.and_false, Bool.false_and, if_neg Bool.false_ne_true]
  exact settle_append h.ne_nil h.head _

/-- Addressable segments are put behind the others one after the other, by induction
    on the route: the path stays firm with each. -/
theorem foldl_push_addressable {route : List (List Char)} (h : Firm kind list)
    (hroute : ∀ s ∈ route, Addressable s) :
    route.foldl (push kind) list = list ++ route.map (encodeSegment kind) := by
  induction route generalizing list with
  | nil => exact (List.append_nil list).symm
  | cons s route ih =>
      rw [List.foldl_cons, push_addressable h (hroute s (.head route)),
        ih (h.append _) fun s' hs' => hroute s' (.tail s hs'), List.append_assoc]
      rfl

/-! ## What is there stays there -/

/-- A path that goes on behind some segments. -/
def Within (stem list : List (List Char)) : Prop :=
  ∃ more, more ≠ [] ∧ list = stem ++ more

/-- Going a level up takes the last segment away, or leaves it if it is a drive. -/
theorem shorten_eq (h : list ≠ []) : shorten list = list ∨ shorten list = list.dropLast := by
  unfold shorten
  rw [List.getLast?_eq_some_getLast h]
  simp only
  split
  · exact .inl rfl
  · exact .inr rfl

/-- A step at the end of a path leaves a segment. -/
theorem step_ne_nil (kind : SchemeKind) (done : List (List Char)) (segment : List Char) :
    step kind done segment true ≠ [] := by
  unfold step
  simp only [if_true]
  split
  · exact List.append_ne_nil_of_right_ne_nil _ (List.cons_ne_nil _ _)
  split
  · exact List.append_ne_nil_of_right_ne_nil _ (List.cons_ne_nil _ _)
  split
  · exact List.cons_ne_nil _ _
  · exact List.append_ne_nil_of_right_ne_nil _ (List.cons_ne_nil _ _)

/-- And so does adding one. -/
theorem push_ne_nil (h : list ≠ []) (s : List Char) : push kind list s ≠ [] := by
  by_cases hs : s = ['.'] ∨ s = ['.', '.']
  · rw [push_of_dots hs]
    exact h
  · rw [push_of_not_dots hs]
    exact settle_ne_nil (step_ne_nil _ _ _)

/-- A step behind some segments leaves them where they are. It takes one away at
    most, and that is the last, behind which there is none of these. -/
theorem within_step {more : List (List Char)} (kind : SchemeKind) (hstem : stem ≠ [])
    (hmore : more ≠ []) (segment : List Char) :
    Within stem (step kind (stem ++ more) segment true) := by
  have hne : stem ++ more ≠ [] := List.append_ne_nil_of_left_ne_nil hstem more
  have hnotEmpty : (stem ++ more).isEmpty = false := by
    rw [← Bool.not_eq_true, List.isEmpty_iff]
    exact hne
  have hlast : ∀ x : List Char, more ++ [x] ≠ [] := fun x =>
    List.append_ne_nil_of_right_ne_nil _ (List.cons_ne_nil _ _)
  unfold step
  simp only [if_true]
  split
  · -- Two dots take away the last segment, which is none of those in front.
    rcases shorten_eq hne with heq | heq
    · rw [heq, List.append_assoc]
      exact ⟨_, hlast _, rfl⟩
    · rw [heq, List.dropLast_append_of_ne_nil hmore, List.append_assoc]
      exact ⟨_, List.append_ne_nil_of_right_ne_nil _ (List.cons_ne_nil _ _), rfl⟩
  split
  · rw [List.append_assoc]
    exact ⟨_, hlast _, rfl⟩
  · rw [hnotEmpty, Bool.and_false, Bool.false_and, if_neg Bool.false_ne_true, List.append_assoc]
    exact ⟨_, hlast _, rfl⟩

/-- Whatever segment is added to a path that goes on behind some segments, the
    path still does. -/
theorem within_push (head : kind = .file → stem.head? ≠ some []) (h : Within stem list)
    (s : List Char) : Within stem (push kind list s) := by
  rcases h with ⟨more, hmore, rfl⟩
  -- Where nothing has to stay, it is enough that something is there.
  by_cases hstem : stem = []
  · subst hstem
    exact ⟨_, push_ne_nil hmore s, rfl⟩
  by_cases hs : s = ['.'] ∨ s = ['.', '.']
  · rw [push_of_dots hs]
    exact ⟨more, hmore, rfl⟩
  · have hkept : kept (stem ++ more) = stem ++ more := by
      unfold kept
      refine if_neg fun hroot => ?_
      rcases List.append_eq_singleton_iff.mp hroot with ⟨hnil, -⟩ | ⟨-, hnil⟩
      · exact hstem hnil
      · exact hmore hnil
    rw [push_of_not_dots hs, hkept]
    rcases within_step kind hstem hmore (encodeSegment kind s) with ⟨after, hafter, heq⟩
    rw [heq, settle_append hstem head]
    exact ⟨after, hafter, rfl⟩

/-- So whatever segments are added, the path goes on behind what stays. -/
theorem within_foldl_push {route : List (List Char)} (head : kind = .file → stem.head? ≠ some [])
    (h : Within stem list) : Within stem (route.foldl (push kind) list) := by
  induction route generalizing list with
  | nil => exact h
  | cons s route ih => exact ih (within_push head h s)

/-! ## How a path grows -/

/-- What a segment may leave where it was put: its escaped form, or nothing. -/
def Placed (kind : SchemeKind) (s written : List Char) : Prop :=
  ¬ (s = ['.'] ∨ s = ['.', '.']) ∧ (written = encodeSegment kind s ∨ written = [])

/-- Giving way does not make a path longer. -/
theorem length_kept_le (list : List (List Char)) : (kept list).length ≤ list.length := by
  unfold kept
  split
  · exact Nat.zero_le _
  · exact Nat.le_refl _

/-- A step adds one segment at most. One that goes a level up puts an empty one in
    the place of the last. -/
theorem length_step_le (kind : SchemeKind) (done : List (List Char)) (segment : List Char) :
    (step kind done segment true).length ≤ done.length + 1 := by
  unfold step
  simp only [if_true]
  split
  · have hshorten : (shorten done).length ≤ done.length := by
      by_cases hne : done = []
      · rw [hne]
        exact Nat.le_refl _
      · rcases shorten_eq hne with heq | heq
        · exact Nat.le_of_eq (congrArg List.length heq)
        · rw [heq, List.length_dropLast]
          exact Nat.sub_le _ _
    rw [List.length_append]
    exact Nat.succ_le_succ hshorten
  split
  · rw [List.length_append]
    exact Nat.le_refl _
  split
  · exact Nat.succ_le_succ (Nat.zero_le _)
  · rw [List.length_append]
    exact Nat.le_refl _

/-- A segment adds at most one. -/
theorem length_push_le (kind : SchemeKind) (list : List (List Char)) (s : List Char) :
    (push kind list s).length ≤ list.length + 1 := by
  by_cases hs : s = ['.'] ∨ s = ['.', '.']
  · rw [push_of_dots hs]
    exact Nat.le_succ _
  · rw [push_of_not_dots hs]
    have hsettle := length_settle_le kind
      (step_ne_nil kind (kept list) (encodeSegment kind s))
    have hstep := length_step_le kind (kept list) (encodeSegment kind s)
    have hkept := length_kept_le list
    omega

/-- And so a route adds as many as it has at most. It adds fewer if a segment is
    skipped, if one takes another away, or if the path was the root. -/
theorem length_foldl_push_le (kind : SchemeKind) (route list : List (List Char)) :
    (route.foldl (push kind) list).length ≤ list.length + route.length := by
  induction route generalizing list with
  | nil => exact Nat.le_refl _
  | cons s route ih =>
      have hpush := length_push_le kind list s
      have hrest := ih (push kind list s)
      rw [List.foldl_cons, List.length_cons]
      omega

/-- A path that has grown by a segment has it at its end. All ways of adding one
    that leave the path shorter than that are ruled out by its length. -/
theorem grown_push (h : list ≠ []) (grown : (push kind list s).length = list.length + 1) :
    ∃ written, push kind list s = list ++ [written] ∧ Placed kind s written := by
  have hpos := List.length_pos_iff.mpr h
  by_cases hs : s = ['.'] ∨ s = ['.', '.']
  · rw [push_of_dots hs] at grown
    omega
  rw [push_of_not_dots hs] at grown ⊢
  have hstep := length_step_le kind (kept list) (encodeSegment kind s)
  have hlen := length_kept_le list
  -- Neither giving way nor settling can have taken a segment away.
  have hkept : kept list = list := by
    by_cases hroot : list = [[]]
    · have hnone : (kept list).length = 0 := by
        rw [hroot]
        rfl
      have hsettle := length_settle_le kind
        (step_ne_nil kind (kept list) (encodeSegment kind s))
      omega
    · unfold kept
      exact if_neg hroot
  rw [hkept] at grown hstep ⊢
  have hsettled : settle kind (step kind list (encodeSegment kind s) true) =
      step kind list (encodeSegment kind s) true := by
    rcases settle_eq_or kind (step_ne_nil kind list (encodeSegment kind s)) with heq | hlt
    · exact heq
    · omega
  rw [hsettled] at grown ⊢
  unfold step at grown ⊢
  simp only [if_true] at grown ⊢
  split
  · rename_i hdots
    rw [if_pos hdots, List.length_append, List.length_singleton] at grown
    rcases shorten_eq h with heq | heq
    · rw [heq]
      -- A drive was not taken away, and an empty segment is behind it.
      exact ⟨[], rfl, hs, .inr rfl⟩
    · rw [heq, List.length_dropLast] at grown
      omega
  split
  · exact ⟨[], rfl, hs, .inr rfl⟩
  · have hnotEmpty : list.isEmpty = false := by
      rw [← Bool.not_eq_true, List.isEmpty_iff]
      exact h
    rw [hnotEmpty, Bool.and_false, Bool.false_and, if_neg Bool.false_ne_true]
    exact ⟨_, rfl, hs, .inl rfl⟩

/-- A path that has grown by as many segments as were added has each of them
    where it was put. -/
theorem grown_foldl_push {route : List (List Char)} (h : list ≠ [])
    (grown : (route.foldl (push kind) list).length = list.length + route.length) :
    ∃ written, route.foldl (push kind) list = list ++ written ∧
      List.Forall₂ (Placed kind) route written := by
  induction route generalizing list with
  | nil => exact ⟨[], (List.append_nil list).symm, .nil⟩
  | cons s route ih =>
      have hpush := length_push_le kind list s
      have hrest := length_foldl_push_le kind route (push kind list s)
      rw [List.foldl_cons, List.length_cons] at grown
      -- None can add more than one, so each has added one.
      have hone : (push kind list s).length = list.length + 1 := by omega
      have hothers : (route.foldl (push kind) (push kind list s)).length =
          (push kind list s).length + route.length := by omega
      rcases grown_push h hone with ⟨first, hfirst, hplaced⟩
      rcases ih (push_ne_nil h s) hothers with ⟨written, hwritten, hall⟩
      refine ⟨first :: written, ?_, .cons hplaced hall⟩
      rw [List.foldl_cons, hwritten, hfirst, List.append_assoc]
      rfl

/-- A segment is addressable if what it left is read as the segment. If a part of it
    was ignored, less is read; if nothing was left, nothing is. -/
theorem addressable_of_placed {written : List Char} (h : Placed kind s written)
    (hdecode : Percent.decode written = Bytes.ofChars s) : Addressable s := by
  rcases h with ⟨hdots, hwritten⟩
  rw [not_or] at hdots
  refine ⟨hdots.1, hdots.2, fun c hc => ?_⟩
  rcases hwritten with rfl | rfl
  · -- What is ignored is not written, so nothing is.
    rw [decode_encodeSegment] at hdecode
    have hfilter := Bytes.ofChars_injective hdecode
    rw [List.filter_eq_self] at hfilter
    exact (Bool.not_eq_eq_eq_not.mp (hfilter c hc)).trans rfl
  · rw [Percent.decode] at hdecode
    -- Nothing was written, so there was nothing to write.
    obtain rfl := Bytes.ofChars_injective (s := []) hdecode
    exact absurd hc List.not_mem_nil

/-- This goes for a whole route, segment by segment. -/
theorem addressable_of_forall_placed {route written : List (List Char)}
    (h : List.Forall₂ (Placed kind) route written)
    (hdecode : written.map Percent.decode = route.map Bytes.ofChars) :
    ∀ s ∈ route, Addressable s := by
  induction h with
  | nil => exact fun s hs => absurd hs List.not_mem_nil
  | cons hplaced _ ih =>
      rcases List.cons.inj hdecode with ⟨hfirst, hothers⟩
      intro s hs
      rcases List.mem_cons.mp hs with rfl | hs
      · exact addressable_of_placed hplaced hfirst
      · exact ih hothers s hs

end UrlPath

end EventFlow
