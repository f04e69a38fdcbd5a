import Mathlib.Data.List.Permutation
import SiteSync.Proofs.Cdn.ServedPath
import SiteSync.Proofs.Cloud.Purge

/-!
# `SiteSync.Proofs.Cloud.Preview`: a trial names the patterns that are sent

A trial run reduces the keys of the bucket as they are. A client reduces
the paths the keys are served at, which start with one slash whatever
slashes the keys start with. For a distribution without an origin path
the two lists are cleaned to the same paths, as long as every key is a
place within the bucket: a relative path may go up from where it starts,
and an absolute one may not.

- `StaysInside`: the keys that the two agree about.
- `cleaned_slash`: such a key is cleaned to the same path with a slash in
  front and without it.
- `reduce_map`: a reduction sees nothing of its paths but what is left
  once they are cleaned.
- `DistributionClient.previews`: so a trial names what is sent.
-/

set_option autoImplicit false

namespace SiteSync

namespace Cdn

variable {key p q : Text} {paths : List Text}

/-! ### Keys within the bucket -/

/-- A key stays inside the bucket if there is something left of it once
it is cleaned, and that does not start with a step up. -/
structure StaysInside (key : Text) : Prop where
  /-- It is not the bucket itself. -/
  ne_dot : Path.clean key ≠ ['.']
  /-- It does not leave the bucket. -/
  no_step_up : (Path.segments (Path.clean key)).head? ≠ some Path.dots

instance (key : Text) : Decidable (StaysInside key) :=
  decidable_of_iff
    (Path.clean key ≠ ['.'] ∧ (Path.segments (Path.clean key)).head? ≠ some Path.dots)
    ⟨fun ⟨hdot, hdots⟩ => ⟨hdot, hdots⟩, fun h => ⟨h.ne_dot, h.no_step_up⟩⟩

/-- What is put together from a step up and more starts with a step up. -/
theorem head?_segments_dots (rest : List Text) :
    (Path.segments (Path.ofSegments (Path.dots :: rest))).head? = some Path.dots := by
  cases rest with
  | nil => rfl
  | cons t ts =>
    show (Text.split '/' (Path.dots ++ '/' :: Path.ofSegments (t :: ts))).head? = _
    rw [Text.split_append (by decide), List.head?_cons]

/-- A relative key that stays inside does not climb. -/
theorem StaysInside.not_climbs (h : StaysInside key) (hrelative : Path.isAbsolute key = false) :
    ¬Climbs key := by
  rintro ⟨rest, hrest⟩
  obtain ⟨c, cs, hcons, -⟩ :=
    Path.exists_ofSegments_eq_cons (s := Path.dots) (by decide) (by decide) rest
  have hclean : Path.clean key = Path.ofSegments (Path.dots :: rest) := by
    unfold Path.clean
    dsimp only
    rw [hrest, hrelative, if_neg Bool.false_ne_true, if_neg (hcons ▸ List.cons_ne_nil c cs)]
  apply h.no_step_up
  rw [hclean]
  exact head?_segments_dots rest

/-- What such a key leaves is something, and the same as it would leave
with a slash in front. -/
theorem StaysInside.cleanSegments_eq (h : StaysInside key)
    (hrelative : Path.isAbsolute key = false) :
    Path.cleanSegments false (Path.segments key) = Path.cleanSegments true (Path.segments key) ∧
      Path.cleanSegments true (Path.segments key) ≠ [] := by
  obtain ⟨ups, hups⟩ :=
    Path.exists_cleanSegments_relative fun s (hs : s ∈ Path.segments key) =>
      Text.not_mem_of_mem_split hs
  cases ups with
  | succ ups =>
    -- The steps up would come first.
    have hclimbs : Climbs key := ⟨_, by rw [hrelative, hups, List.replicate_succ, List.cons_append]⟩
    exact absurd hclimbs (h.not_climbs hrelative)
  | zero =>
    rw [List.replicate_zero, List.nil_append] at hups
    refine ⟨hups, fun hnil => h.ne_dot ?_⟩
    unfold Path.clean
    dsimp only
    rw [hrelative, if_neg Bool.false_ne_true, hups, hnil]
    rfl

/-- A slash in front makes no difference to where a key is. -/
theorem cleaned_slash (h : StaysInside key) : cleaned ('/' :: key) = cleaned key := by
  cases hkey : Path.isAbsolute key with
  | true => exact congrArg Path.rooted (Path.clean_eq_of_parts hkey.symm (Path.parts_slash key))
  | false =>
    obtain ⟨hsame, hne⟩ := h.cleanSegments_eq hkey
    -- Both are the absolute path with the segments that are left.
    have hall : ∀ s ∈ Path.cleanSegments true (Path.segments key), s ≠ [] ∧ '/' ∉ s := by
      intro s hs
      obtain ⟨ups, plain, hsegments, hups, hplain⟩ :=
        Path.cleanSegments_spec true fun s (hs : s ∈ Path.segments key) =>
          Text.not_mem_of_mem_split hs
      rw [hsegments, hups rfl, List.replicate_zero, List.nil_append] at hs
      exact ⟨(hplain s hs).ne_nil, (hplain s hs).no_slash⟩
    have hsegments : Path.segments ('/' :: key) = [] :: Path.segments key := rfl
    have hslash : Path.cleanSegments (Path.isAbsolute ('/' :: key)) (Path.segments ('/' :: key))
        = Path.cleanSegments true (Path.segments key) := by
      rw [hsegments]
      rfl
    rw [← hkey] at hsame
    exact (Path.rooted_clean hslash hne hall).trans (Path.rooted_clean hsame hne hall).symm

/-- A distribution without an origin path serves a key where it is. -/
theorem cleaned_servedPath (h : StaysInside key) : cleaned (servedPath key []) = cleaned key := by
  rw [← cleaned_slash h]
  refine congrArg Path.rooted (Path.clean_eq_of_parts (isAbsolute_servedPath key []) ?_)
  rw [servedPath, if_pos rfl, Path.parts_rooted, Path.parts_trimStart, Path.parts_slash]

/-! ### Reductions of the same paths -/

/-- The exact pattern looks at the clean path only. -/
theorem exactPattern_congr (h : cleaned p = cleaned q) : exactPattern p = exactPattern q := by
  unfold exactPattern
  rw [h]

/-- Paths may be replaced by others that are cleaned to the same. -/
theorem reduce_map (root : Text) (threshold : Nat) (force : Bool) {f : Text → Text}
    (hf : ∀ p ∈ paths, cleaned (f p) = cleaned p) :
    reduce root threshold force (paths.map f) = reduce root threshold force paths := by
  have hexact : exactPatterns (paths.map f) = exactPatterns paths := by
    unfold exactPatterns
    rw [List.map_map]
    exact congrArg Text.sortedSet (List.map_congr_left fun p hp => exactPattern_congr (hf p hp))
  have hdepth : maxDepth (paths.map f) = maxDepth paths := by
    unfold maxDepth
    rw [List.foldl_map]
    exact List.foldl_ext _ _ 0 fun d p hp => by rw [hf p hp]
  unfold reduce
  rw [hexact, hdepth]

end Cdn

namespace Cloud

namespace DistributionClient

variable {σ : Type}

/-- A trial reduces the keys to what a client reduces them to for a
distribution without an origin path. -/
theorem reduction_nil (c : DistributionClient σ) {keys : List Text}
    (hkeys : ∀ key ∈ keys, Cdn.StaysInside key) :
    c.reduction [] keys = Cdn.dryRunReduction c.bucketPath c.force keys :=
  Cdn.reduce_map _ _ _ fun key hkey => Cdn.cleaned_servedPath (hkeys key hkey)

/-- Whatever the bucket path is, and whether or not everything is to be
forgotten, a trial run with keys within the bucket finds the patterns that
a client finds for a distribution without an origin path, and in a run of
the client these are the patterns that every such distribution is sent. -/
theorem previews (c : DistributionClient σ) {keys : List Text}
    (hkeys : ∀ key ∈ keys, Cdn.StaysInside key) (s : σ) :
    let trial := Cdn.dryRunReduction c.bucketPath c.force keys
    c.reduction [] keys = trial ∧
      ∃ log, c.recorded.invalidate keys (s, []) = (c.invalidate keys s).withRecord log ∧
        (keys ≠ [] → Conversation (fun id path r => path = [] → r = c.request id trial) c.ids log
          (c.invalidate keys s).outcome) := by
  intro trial
  have htrial : c.reduction [] keys = trial := c.reduction_nil hkeys
  refine ⟨htrial, ?_⟩
  -- About a distribution with an origin path a trial says nothing.
  let Previewed (id path : Text) (r : InvalidationRequest) : Prop :=
    path = [] → r = c.request id trial
  have hrequest : ∀ id path, Previewed id path (c.request id (c.reduction path keys)) := by
    rintro id path rfl
    rw [htrial]
  unfold invalidate
  split
  case isTrue hnil => exact ⟨[], rfl, fun hne => absurd hnil hne⟩
  case isFalse hne =>
    obtain ⟨log, hconversation, hrecorded⟩ :=
      invalidateAll_recorded (P := Previewed) hrequest c.ids s []
    exact ⟨log, hrecorded, fun _ => hconversation⟩

/-- Three keys with slashes and steps in them, and a distribution without
an origin path, which is sent what the trial names. -/
theorem previews_sample :
    let server : Server := { distributions := [("E1".toList, ⟨[none], false⟩)] }
    let c : DistributionClient Server :=
      ⟨.inMemory, ["E1".toList], "my/".toList, false, "20240229120000".toList⟩
    let keys := ["//my/index.html".toList, "my/./a b.css".toList, "my/x/../c".toList]
    let trial := Cdn.dryRunReduction "my/".toList false keys
    (∀ key ∈ keys, Cdn.StaysInside key) ∧
      trial.patterns = ["/my/".toList, "/my/a b.css".toList, "/my/c".toList] ∧
      (c.recorded.invalidate keys (server, [])).state.2
        = [.origins "E1".toList (.ok [none]),
          .invalidate (c.request "E1".toList trial) (.ok ())] := by
  have hpatterns : (Cdn.dryRunReduction "my/".toList false
      ["//my/index.html".toList, "my/./a b.css".toList, "my/x/../c".toList]).patterns
      = ["/my/".toList, "/my/a b.css".toList, "/my/c".toList] := by cbv
  intro server c keys trial
  have hkeys : ∀ key ∈ keys, Cdn.StaysInside key := by decide
  obtain ⟨-, log, hrecorded, hconversation⟩ := previews c hkeys server
  have hlog : (c.recorded.invalidate keys (server, [])).state.2 = log :=
    congrArg (·.state.2) hrecorded
  have hdone : (c.invalidate keys server).outcome = .done () := rfl
  have hasked : log.head? = some (.origins "E1".toList (.ok [none])) := by
    rw [← hlog]
    rfl
  have hall := hconversation (by decide)
  rw [hdone] at hall
  refine ⟨hkeys, hpatterns, ?_⟩
  rw [hlog]
  cases hall with
  | next first rest =>
    cases rest
    cases first with
    | told path more r hr =>
      cases hasked
      rw [hr rfl]
      rfl

end DistributionClient

end Cloud

end SiteSync
