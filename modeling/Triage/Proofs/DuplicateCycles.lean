import Mathlib
import Triage.Duplicate.Cycle
import Triage.Proofs.EntryKeys

/-!
# Cycles of the duplicate relation

The search for cycles is a loop in a loop over a growing set of visited issues. Whatever was visited
before, the issues that a visited one leads to are visited too, so a cycle is either visited whole or
not at all, and the walk that enters it first goes around it once and reports it. The lists that are
found are exactly the cycles of the relation.
-/

namespace Triage.Duplicate.Cycle

open Relation

variable {edges : Edges} {visited : List Int} {x y node start : Int} {path : List Int}
  {stop : Option Int}

def Leads (edges : Edges) (x y : Int) : Prop := Entries.get? x edges = some y

/-- Whether an issue comes back to itself after one or more steps. -/
def OnCycle (edges : Edges) (x : Int) : Prop := TransGen (Leads edges) x x

/-- Issues each of which leads to the next, and the last to the first. -/
def IsRing (edges : Edges) : List Int → Prop
  | [] => False
  | x :: xs => List.IsChain (Leads edges) (x :: (xs ++ [x]))

/-- A cycle as it is reported. -/
structure IsCycle (edges : Edges) (cycle : List Int) : Prop where
  nonempty : cycle ≠ []
  nodup : cycle.Nodup
  least : ∀ first ∈ cycle.head?, ∀ x ∈ cycle, first ≤ x
  ring : IsRing edges cycle

/-- The inner loop without a bound on its steps: from an issue along the relation, to the end or to a
visited issue. -/
inductive Follows (edges : Edges) : List Int → Int → List Int → Option Int → Prop where
  | visited {visited : List Int} {node : Int} : node ∈ visited →
      Follows edges visited node [] (some node)
  | last {visited : List Int} {node : Int} : node ∉ visited → Entries.get? node edges = none →
      Follows edges visited node [node] none
  | step {visited : List Int} {node target : Int} {path : List Int} {stop : Option Int} :
      node ∉ visited → Leads edges node target → Follows edges (node :: visited) target path stop →
      Follows edges visited node (node :: path) stop

/-- The outer loop: a walk from each issue in turn, past everything that the earlier ones visited. -/
inductive Finds (edges : Edges) : List Int → List Int → List (List Int) → Prop where
  | nil (visited : List Int) : Finds edges visited [] []
  | cons {visited : List Int} {start : Int} {starts path : List Int} {stop : Option Int}
      {cycles : List (List Int)} : Follows edges visited start path stop →
      Finds edges (path ++ visited) starts cycles →
      Finds edges visited (start :: starts) ((close path stop).toList ++ cycles)

/-- Lists that are the cycles of a relation, with every cycle among them once. -/
structure Enumerates (edges : Edges) (cycles : List (List Int)) : Prop where
  sound : ∀ cycle ∈ cycles, IsCycle edges cycle
  once : ∀ x, OnCycle edges x → cycles.countP (x ∈ ·) = 1
  empty_iff : cycles = [] ↔ ∀ x, ¬OnCycle edges x
  apart : cycles.Pairwise List.Disjoint

section Steps

lemma transGen_of_isChain {xs : List Int} (h : List.IsChain (Leads edges) (x :: (xs ++ [y]))) :
    TransGen (Leads edges) x y := by
  induction xs generalizing x with
  | nil => exact .single (List.isChain_pair.mp h)
  | cons z xs ih =>
    rw [List.cons_append, List.isChain_cons_cons] at h
    exact .head h.1 (ih h.2)

/-- From an issue on a cycle there is a way back from everything that it leads to: no issue leads to
two others. -/
lemma OnCycle.back (hx : OnCycle edges x) (h : ReflTransGen (Leads edges) x y) :
    ReflTransGen (Leads edges) y x := by
  induction h with
  | refl => exact .refl
  | tail _ hstep ih =>
    rcases ReflTransGen.cases_head ih with rfl | ⟨next, hnext, hback⟩
    · obtain ⟨next, hnext, hback⟩ := TransGen.head'_iff.mp hx
      obtain rfl := Option.some.inj (hnext.symm.trans hstep)
      exact hback
    · obtain rfl := Option.some.inj (hnext.symm.trans hstep)
      exact hback

lemma OnCycle.of_reached (hx : OnCycle edges x) (h : ReflTransGen (Leads edges) x y) :
    OnCycle edges y :=
  (TransGen.trans_right (hx.back h) hx).trans_left h

lemma OnCycle.exists_target (hx : OnCycle edges x) : ∃ y, Entries.get? x edges = some y := by
  obtain ⟨y, hy, -⟩ := TransGen.head'_iff.mp hx
  exact ⟨y, hy⟩

lemma IsRing.rotate {a b : List Int} (h : IsRing edges (a ++ b)) : IsRing edges (b ++ a) := by
  cases a with
  | nil => rwa [List.append_nil]
  | cons x a =>
    cases b with
    | nil => rwa [List.append_nil] at h
    | cons y b =>
      simp only [List.cons_append, IsRing, List.append_assoc] at h ⊢
      rw [List.isChain_cons_split] at h ⊢
      exact ⟨h.2, h.1⟩

lemma IsRing.at_member {xs : List Int} (h : IsRing edges xs) (hx : x ∈ xs) :
    ∃ rest, IsRing edges (x :: rest) ∧ ∀ y, y ∈ x :: rest ↔ y ∈ xs := by
  obtain ⟨a, b, rfl⟩ := List.append_of_mem hx
  refine ⟨b ++ a, h.rotate, fun y => ?_⟩
  simp only [List.mem_cons, List.mem_append]
  tauto

lemma IsRing.onCycle {xs : List Int} (h : IsRing edges xs) (hx : x ∈ xs) : OnCycle edges x := by
  obtain ⟨rest, hring, -⟩ := h.at_member hx
  exact transGen_of_isChain hring

/-- Nothing leads out of a ring. -/
lemma IsRing.mem_of_reached {xs : List Int} (h : IsRing edges xs) (hx : x ∈ xs)
    (hreach : ReflTransGen (Leads edges) x y) : y ∈ xs := by
  induction hreach with
  | refl => exact hx
  | tail _ hstep ih =>
    obtain ⟨rest, hring, hmem⟩ := h.at_member ih
    rw [← hmem]
    cases rest with
    | nil =>
      obtain rfl := Option.some.inj ((List.isChain_pair.mp hring).symm.trans hstep)
      exact List.mem_cons_self
    | cons z rest =>
      rw [IsRing, List.cons_append, List.isChain_cons_cons] at hring
      obtain rfl := Option.some.inj (hring.1.symm.trans hstep)
      exact List.mem_cons_of_mem _ List.mem_cons_self

end Steps

section FromSmallest

lemma fromSmallest_eq {cycle : List Int} (h : cycle ≠ []) :
    ∃ a least b, cycle = a ++ least :: b ∧ (∀ x ∈ cycle, least ≤ x) ∧
      fromSmallest cycle = least :: b ++ a := by
  obtain ⟨least, hmin⟩ := Option.isSome_iff_exists.mp (List.isSome_min?_iff.mpr h)
  obtain ⟨hmem, hle⟩ := List.min?_eq_some_iff.mp hmin
  obtain ⟨a, b, rfl, ha⟩ := List.eq_append_cons_of_mem hmem
  have hne : ∀ x ∈ a, decide (x ≠ least) = true := by
    intro x hx
    exact decide_eq_true fun hxl => ha (hxl ▸ hx)
  refine ⟨a, least, b, rfl, hle, ?_⟩
  have hdrop : (a ++ least :: b).dropWhile (· ≠ least) = least :: b := by
    rw [List.dropWhile_append_of_pos hne, List.dropWhile_cons_of_neg (by simp)]
  have htake : (a ++ least :: b).takeWhile (· ≠ least) = a := by
    rw [List.takeWhile_append_of_pos hne, List.takeWhile_cons_of_neg (by simp), List.append_nil]
  rw [fromSmallest, hmin]
  exact congrArg₂ _ hdrop htake

lemma fromSmallest_perm {cycle : List Int} (h : cycle ≠ []) : (fromSmallest cycle).Perm cycle := by
  obtain ⟨a, least, b, rfl, -, hcycle⟩ := fromSmallest_eq h
  rw [hcycle]
  exact List.perm_append_comm

lemma isCycle_fromSmallest {cycle : List Int} (hne : cycle ≠ []) (hn : cycle.Nodup)
    (hring : IsRing edges cycle) : IsCycle edges (fromSmallest cycle) := by
  have hperm := fromSmallest_perm hne
  obtain ⟨a, least, b, rfl, hle, hcycle⟩ := fromSmallest_eq hne
  refine ⟨?_, hperm.nodup_iff.mpr hn, fun first hfirst x hx => ?_, ?_⟩
  · rw [hcycle]
    exact List.cons_ne_nil _ _
  · rw [hcycle] at hfirst
    obtain rfl := Option.some.inj hfirst
    exact hle x (hperm.mem_iff.mp hx)
  · rw [hcycle]
    exact hring.rotate

end FromSmallest

section Walk

/-- What a walk comes to: it goes along the relation through issues that were not visited, each once,
and ends at an issue without a target or before one that was visited by then. -/
structure Trail (edges : Edges) (visited : List Int) (node : Int) (path : List Int)
    (stop : Option Int) : Prop where
  nodup : path.Nodup
  fresh : ∀ x ∈ path, x ∉ visited
  begins : (path ++ stop.toList).head? = some node
  chain : List.IsChain (Leads edges) (path ++ stop.toList)
  ends : ∀ s ∈ stop, s ∈ path ∨ s ∈ visited
  last : stop = none → ∃ front z, path = front ++ [z] ∧ Entries.get? z edges = none

theorem Follows.trail (h : Follows edges visited node path stop) :
    Trail edges visited node path stop := by
  induction h with
  | @visited visited node hmem =>
    refine ⟨List.nodup_nil, by simp, rfl, .singleton _, fun s hs => ?_, by simp⟩
    obtain rfl := Option.some.inj hs
    exact .inr hmem
  | @last visited node hnot hnone =>
    exact ⟨List.nodup_singleton _, by simpa using hnot, rfl, .singleton _, by simp,
      fun _ => ⟨[], node, rfl, hnone⟩⟩
  | @step visited node target path stop hnot hlead _ ih =>
    refine ⟨?_, ?_, rfl, ?_, fun s hs => ?_, fun hstop => ?_⟩
    · exact List.nodup_cons.mpr ⟨fun hm => ih.fresh node hm List.mem_cons_self, ih.nodup⟩
    · intro x hx
      rcases List.mem_cons.mp hx with rfl | hx
      · exact hnot
      · exact fun hv => ih.fresh x hx (List.mem_cons_of_mem _ hv)
    · rw [List.cons_append, List.isChain_cons]
      refine ⟨fun z hz => ?_, ih.chain⟩
      rw [ih.begins] at hz
      obtain rfl := Option.some.inj hz
      exact hlead
    · rcases ih.ends s hs with hp | hv
      · exact .inl (List.mem_cons_of_mem _ hp)
      · rcases List.mem_cons.mp hv with rfl | hv
        · exact .inl List.mem_cons_self
        · exact .inr hv
    · obtain ⟨front, z, rfl, hz⟩ := ih.last hstop
      exact ⟨node :: front, z, rfl, hz⟩

lemma Trail.start_mem (h : Trail edges visited node path stop) : node ∈ path ∨ node ∈ visited := by
  cases path with
  | cons z path =>
    obtain rfl := Option.some.inj h.begins
    exact .inl List.mem_cons_self
  | nil =>
    refine h.ends node ?_
    have hbegins := h.begins
    rw [List.nil_append] at hbegins
    cases stop with
    | none => cases hbegins
    | some s => exact hbegins

lemma Trail.reaches {s : Int} (h : Trail edges visited node path (some s)) (hx : x ∈ path) :
    TransGen (Leads edges) x s := by
  obtain ⟨a, b, rfl⟩ := List.append_of_mem hx
  have hchain := h.chain
  rw [List.append_assoc, List.cons_append] at hchain
  exact transGen_of_isChain hchain.right_of_append

/-- Visited issues lead to visited ones only. -/
def Closed (edges : Edges) (visited : List Int) : Prop :=
  ∀ x ∈ visited, ∀ y, Leads edges x y → y ∈ visited

lemma Closed.mem_of_reached (hc : Closed edges visited) (hx : x ∈ visited)
    (h : ReflTransGen (Leads edges) x y) : y ∈ visited := by
  induction h with
  | refl => exact hx
  | tail _ hstep ih => exact hc _ ih _ hstep

/-- A walk leaves the visited issues closed. -/
lemma Trail.closed (h : Trail edges visited node path stop) (hc : Closed edges visited) :
    Closed edges (path ++ visited) := by
  intro x hx y hxy
  rw [List.mem_append]
  rcases List.mem_append.mp hx with hp | hv
  · obtain ⟨a, b, rfl⟩ := List.append_of_mem hp
    have hchain : List.IsChain (Leads edges) (x :: (b ++ stop.toList)) := by
      have hwhole := h.chain
      rw [List.append_assoc, List.cons_append] at hwhole
      exact hwhole.right_of_append
    cases b with
    | cons z b =>
      obtain rfl := Option.some.inj ((List.isChain_cons_cons.mp hchain).1.symm.trans hxy)
      exact .inl (by simp)
    | nil =>
      cases stop with
      | some s =>
        obtain rfl := Option.some.inj ((List.isChain_pair.mp hchain).symm.trans hxy)
        exact h.ends _ rfl
      | none =>
        obtain ⟨front, z, hfront, hz⟩ := h.last rfl
        obtain ⟨-, hxz⟩ := List.append_inj' hfront rfl
        obtain rfl := List.singleton_inj.mp hxz
        exact absurd (hz.symm.trans hxy) (by simp)
  · exact .inr (hc x hv y hxy)

/-- The cycle that a walk ends in begins where the walk stopped. -/
lemma Trail.close_eq {s : Int} (h : Trail edges visited node path (some s)) (hs : s ∈ path) :
    ∃ front back, path = front ++ s :: back ∧ IsRing edges (s :: back) ∧
      close path (some s) = some (fromSmallest (s :: back)) := by
  obtain ⟨front, back, hpath, hfront⟩ := List.eq_append_cons_of_mem hs
  have hne : ∀ x ∈ front, decide (x ≠ s) = true := by
    intro x hx
    exact decide_eq_true fun hxs => hfront (hxs ▸ hx)
  refine ⟨front, back, hpath, ?_, ?_⟩
  · have hchain := h.chain
    rw [hpath, List.append_assoc, List.cons_append] at hchain
    exact hchain.right_of_append
  · have hdrop : path.dropWhile (· ≠ s) = s :: back := by
      rw [hpath, List.dropWhile_append_of_pos hne, List.dropWhile_cons_of_neg (by simp)]
    rw [close, if_pos hs, hdrop]

/-- What a walk reports is a cycle among the issues that it visited. -/
theorem Trail.sound (h : Trail edges visited node path stop) {cycle : List Int}
    (hcycle : cycle ∈ close path stop) : IsCycle edges cycle ∧ cycle ⊆ path := by
  cases stop with
  | none => cases hcycle
  | some s =>
    by_cases hs : s ∈ path
    · obtain ⟨front, back, hpath, hring, hclose⟩ := h.close_eq hs
      rw [hclose] at hcycle
      obtain rfl := Option.some.inj hcycle
      have hne : s :: back ≠ [] := List.cons_ne_nil s back
      have hn := h.nodup
      rw [hpath] at hn ⊢
      refine ⟨isCycle_fromSmallest hne hn.of_append_right hring, fun x hx => ?_⟩
      exact List.mem_append_right front ((fromSmallest_perm hne).mem_iff.mp hx)
    · rw [close, if_neg hs] at hcycle
      cases hcycle

/-- A walk that visits an issue of a cycle reports that cycle. The walk cannot end without a target,
and it cannot end at an issue of an earlier walk, from which the whole cycle would have been visited. -/
theorem Trail.complete (h : Trail edges visited node path stop) (hc : Closed edges visited)
    (hx : x ∈ path) (hcycle : OnCycle edges x) : ∃ cycle ∈ close path stop, x ∈ cycle := by
  cases stop with
  | none =>
    obtain ⟨front, z, rfl, hz⟩ := h.last rfl
    have hreach : ReflTransGen (Leads edges) x z := by
      obtain ⟨a, b, hab⟩ := List.append_of_mem hx
      have hchain := h.chain
      rw [Option.toList_none, List.append_nil, hab] at hchain
      refine List.relationReflTransGen_of_exists_isChain_cons b hchain.right_of_append ?_
      have hlast : (front ++ [z]).getLast? = (a ++ x :: b).getLast? := congrArg List.getLast? hab
      rw [List.getLast?_concat, List.getLast?_append_of_ne_nil _ (List.cons_ne_nil x b),
        List.getLast?_eq_getLast_of_ne_nil (List.cons_ne_nil x b)] at hlast
      exact (Option.some.inj hlast).symm
    obtain ⟨y, hy⟩ := (hcycle.of_reached hreach).exists_target
    exact absurd (hz.symm.trans hy) (by simp)
  | some s =>
    have hreach := (h.reaches hx).to_reflTransGen
    have hback := hcycle.back hreach
    rcases h.ends s rfl with hs | hv
    · obtain ⟨front, back, -, hring, hclose⟩ := h.close_eq hs
      refine ⟨_, hclose, ?_⟩
      rw [(fromSmallest_perm (List.cons_ne_nil s back)).mem_iff]
      exact hring.mem_of_reached List.mem_cons_self hback
    · exact absurd (hc.mem_of_reached hv hback) (h.fresh x hx)

end Walk

section Search

variable {starts : List Int} {cycles : List (List Int)}

lemma countP_eq_zero_of_forall {x : Int} (h : ∀ cycle ∈ cycles, x ∉ cycle) :
    cycles.countP (x ∈ ·) = 0 :=
  List.countP_eq_zero.mpr fun cycle hcycle => by simpa using h cycle hcycle

/-- What the outer loop finds behind a closed set of visited issues: cycles outside of it, apart from each
other, and among them once each cycle of an issue that is still to be started from. -/
theorem Finds.exact (h : Finds edges visited starts cycles) (hc : Closed edges visited) :
    (∀ cycle ∈ cycles, IsCycle edges cycle ∧ ∀ x ∈ cycle, x ∉ visited) ∧
      cycles.Pairwise List.Disjoint ∧
      ∀ x ∈ starts, x ∉ visited → OnCycle edges x → cycles.countP (x ∈ ·) = 1 := by
  induction h with
  | nil visited => simp
  | @cons visited start starts path stop cycles hfollows _ ih =>
    have htrail := hfollows.trail
    obtain ⟨hrest, hapart, honce⟩ := ih (htrail.closed hc)
    have hfirst : ∀ cycle ∈ (close path stop).toList, IsCycle edges cycle ∧ cycle ⊆ path :=
      fun cycle hcycle => htrail.sound (Option.mem_toList.mp hcycle)
    have hlater : ∀ cycle ∈ cycles, ∀ x ∈ path, x ∉ cycle := fun cycle hcycle x hp hx =>
      (hrest cycle hcycle).2 x hx (List.mem_append_left _ hp)
    refine ⟨fun cycle hcycle => ?_, ?_, fun x hx hv hon => ?_⟩
    · rcases List.mem_append.mp hcycle with hnew | hold
      · exact ⟨(hfirst cycle hnew).1, fun x hx => htrail.fresh x ((hfirst cycle hnew).2 hx)⟩
      · obtain ⟨hcyc, hout⟩ := hrest cycle hold
        exact ⟨hcyc, fun x hx hv => hout x hx (List.mem_append_right _ hv)⟩
    · refine List.pairwise_append.mpr ⟨?_, hapart, fun cycle hcycle other hother x hx hx' => ?_⟩
      · cases close path stop <;> simp
      · exact hlater other hother x ((hfirst cycle hcycle).2 hx) hx'
    · rw [List.countP_append]
      by_cases hp : x ∈ path
      · obtain ⟨cycle, hclose, hmem⟩ := htrail.complete hc hp hon
        have hzero := countP_eq_zero_of_forall fun other hother => hlater other hother x hp
        rw [hzero, Option.mem_def.mp hclose]
        simp [hmem]
      · have hne : x ≠ start := by
          rintro rfl
          exact htrail.start_mem.elim hp hv
        have hzero := countP_eq_zero_of_forall fun cycle hcycle hxc =>
          hp ((hfirst cycle hcycle).2 hxc)
        have hout : x ∉ path ++ visited := by simp [hp, hv]
        rw [hzero, Nat.zero_add]
        exact honce x ((List.mem_cons.mp hx).resolve_left hne) hout hon

/-- How many issues with a target are not visited. -/
def unvisited (edges : Edges) (visited : List Int) : Nat :=
  ((Entries.keys edges).toFinset \ visited.toFinset).card

lemma unvisited_le (edges : Edges) (visited : List Int) : unvisited edges visited ≤ edges.length := by
  have hkeys := List.toFinset_card_le (Entries.keys edges)
  rw [Entries.keys, List.length_map] at hkeys
  exact (Finset.card_le_card Finset.sdiff_subset).trans hkeys

lemma unvisited_lt {target : Int} (hnot : node ∉ visited) (hlead : Leads edges node target) :
    unvisited edges (node :: visited) < unvisited edges visited := by
  have hkey : node ∈ (Entries.keys edges).toFinset \ visited.toFinset := by
    rw [Finset.mem_sdiff, List.mem_toFinset, List.mem_toFinset]
    exact ⟨Entries.mem_keys_of_get? hlead, hnot⟩
  unfold unvisited
  rw [List.toFinset_cons, Finset.sdiff_insert]
  exact Finset.card_erase_lt_of_mem hkey

/-- With fuel for the unvisited issues the walk ends by itself. -/
theorem follows_follow {fuel : Nat} (hfuel : unvisited edges visited < fuel) :
    Follows edges visited node (follow edges visited fuel node).1
      (follow edges visited fuel node).2 := by
  induction fuel generalizing visited node with
  | zero => exact absurd hfuel (Nat.not_lt_zero _)
  | succ fuel ih =>
    by_cases hv : node ∈ visited
    · rw [follow, if_pos hv]
      exact .visited hv
    · cases hget : Entries.get? node edges with
      | none =>
        rw [follow, if_neg hv, hget]
        exact .last hv hget
      | some target =>
        have hless := unvisited_lt hv hget
        rw [follow, if_neg hv, hget]
        exact .step hv hget (ih (by omega))

theorem finds_findFrom (edges : Edges) (visited starts : List Int) :
    Finds edges visited starts (findFrom edges visited starts) := by
  induction starts generalizing visited with
  | nil => exact .nil visited
  | cons start starts ih =>
    have hle := unvisited_le edges visited
    exact .cons (follows_follow (by omega)) (ih _)

end Search

section Order

variable {edges' : Edges}

lemma follow_congr (hget : ∀ x, Entries.get? x edges = Entries.get? x edges') (visited : List Int)
    (fuel : Nat) (node : Int) : follow edges visited fuel node = follow edges' visited fuel node := by
  induction fuel generalizing visited node with
  | zero => rfl
  | succ fuel ih =>
    rw [follow, follow, hget]
    simp only [ih]

lemma findFrom_congr (hget : ∀ x, Entries.get? x edges = Entries.get? x edges')
    (hlen : edges.length = edges'.length) (visited starts : List Int) :
    findFrom edges visited starts = findFrom edges' visited starts := by
  induction starts generalizing visited with
  | nil => rfl
  | cons start starts ih =>
    have hfollow := follow_congr hget visited (edges.length + 2) start
    simp only [findFrom, ← hlen, ← hfollow, ih]

lemma mergeSort_eq_of_perm {xs ys : List Int} (h : xs.Perm ys) :
    xs.mergeSort (fun a b => decide (a ≤ b)) = ys.mergeSort fun a b => decide (a ≤ b) := by
  have hsorted (zs : List Int) : (zs.mergeSort fun a b => decide (a ≤ b)).Pairwise
      fun a b => decide (a ≤ b) = true := List.pairwise_mergeSort
    (fun a b c hab hbc => by simp only [decide_eq_true_eq] at *; omega)
    (fun a b => by simp only [Bool.or_eq_true, decide_eq_true_eq]; omega) zs
  refine List.Perm.eq_of_pairwise (fun a b _ _ hab hba => ?_) (hsorted xs) (hsorted ys)
    ((List.mergeSort_perm xs _).trans (h.trans (List.mergeSort_perm ys _).symm))
  simp only [decide_eq_true_eq] at hab hba
  omega

theorem findAll_perm (hn : (Entries.keys edges).Nodup) (h : edges.Perm edges') :
    findAll edges' = findAll edges := by
  have hget := Entries.get?_of_perm hn h
  have hstarts := mergeSort_eq_of_perm (h.map Prod.fst)
  unfold findAll Entries.keys
  rw [← hstarts, findFrom_congr hget h.length_eq]

end Order

theorem enumerates_of_finds {starts : List Int} {cycles : List (List Int)}
    (h : Finds edges [] starts cycles) (hstarts : ∀ x ∈ Entries.keys edges, x ∈ starts) :
    Enumerates edges cycles := by
  obtain ⟨hsound, hapart, honce⟩ := h.exact fun x hx => absurd hx List.not_mem_nil
  have hcount : ∀ x, OnCycle edges x → cycles.countP (x ∈ ·) = 1 := by
    intro x hx
    obtain ⟨y, hy⟩ := hx.exists_target
    exact honce x (hstarts x (Entries.mem_keys_of_get? hy)) List.not_mem_nil hx
  refine ⟨fun cycle hcycle => (hsound cycle hcycle).1, hcount, ⟨?_, fun hnone => ?_⟩, hapart⟩
  · rintro rfl x hx
    exact absurd (hcount x hx) (by simp)
  · refine List.eq_nil_iff_forall_not_mem.mpr fun cycle hcycle => ?_
    have hcyc := (hsound cycle hcycle).1
    obtain ⟨x, hx⟩ := List.exists_mem_of_ne_nil cycle hcyc.nonempty
    exact hnone x (hcyc.ring.onCycle hx)

/-- The loop ends by itself, what it finds are the cycles of the relation, and the order in which the
relation is kept does not matter. -/
theorem findAll_enumerates (edges : Edges) (hn : (Entries.keys edges).Nodup) :
    Finds edges [] ((Entries.keys edges).mergeSort fun a b => decide (a ≤ b)) (findAll edges) ∧
      Enumerates edges (findAll edges) ∧ ∀ edges', edges.Perm edges' → findAll edges' = findAll edges := by
  have hfinds := finds_findFrom edges [] ((Entries.keys edges).mergeSort fun a b => decide (a ≤ b))
  refine ⟨hfinds, enumerates_of_finds hfinds fun x hx => ?_, fun edges' hp => findAll_perm hn hp⟩
  exact (List.mergeSort_perm _ _).mem_iff.mpr hx

/-- Two cycles and a tail into one of them; one issue duplicates itself, and one duplicates an issue that
is no duplicate. -/
def tangledEdges : Edges := [(9, 4), (4, 7), (7, 4), (1, 2), (5, 5), (2, 9), (8, 6)]

theorem findAll_enumerates_tangled :
    (Entries.keys tangledEdges).Nodup ∧ findAll tangledEdges = [[4, 7], [5]] ∧
      Finds tangledEdges [] [1, 2, 4, 5, 7, 8, 9] (findAll tangledEdges) ∧
      Enumerates tangledEdges (findAll tangledEdges) ∧
      ∀ edges', tangledEdges.Perm edges' → findAll edges' = findAll tangledEdges := by
  have hn : (Entries.keys tangledEdges).Nodup := by decide
  have hperm : (Entries.keys tangledEdges).Perm [1, 2, 4, 5, 7, 8, 9] := by decide
  have hstarts : ((Entries.keys tangledEdges).mergeSort fun a b => decide (a ≤ b)) =
      [1, 2, 4, 5, 7, 8, 9] :=
    (mergeSort_eq_of_perm hperm).trans (List.mergeSort_of_pairwise (by decide))
  have hfound : findAll tangledEdges = [[4, 7], [5]] := by
    rw [findAll, hstarts]
    decide
  exact ⟨hn, hfound, hstarts ▸ findAll_enumerates tangledEdges hn⟩

end Triage.Duplicate.Cycle
