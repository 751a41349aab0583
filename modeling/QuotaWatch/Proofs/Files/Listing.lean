import Mathlib.Data.String.Basic
import QuotaWatch.Proofs.Files.Frame
/-!
**Listing a directory.**

A directory lists the entries directly inside it, in name order: the entries one level below its
path, each under its last name, put in order by insertion. In a well-formed tree no path has two
entries, so a listing names each child once, in strictly increasing name order, and holds a name
exactly when the tree shows something at that child path. Everything a listing says can therefore
be read off `find?`, and a change that keeps `find?` one level below a directory keeps its listing.

Main results:

* `FileTree.sortByName_perm`, `FileTree.sortByName_sorted` — sorting by insertion keeps the
  entries and puts them in name order;
* `FileTree.children_eq_sortByName` — a listing is the sorted children one level below;
* `FileTree.mem_children` — a listing holds a name exactly when the tree shows its child path;
* `FileTree.children_sorted` — in a well-formed tree the names are strictly increasing.
-/

namespace QuotaWatch
namespace FileTree

/-! ### Sorting by name -/

section Sorting

variable {c d : String × Entry} {cs : List (String × Entry)}

theorem insertByName_perm : (insertByName c cs).Perm (c :: cs) := by
  induction cs with
  | nil => exact .refl _
  | cons d cs ih =>
    unfold insertByName
    split
    · exact .refl _
    · exact (ih.cons d).trans (.swap c d cs)

@[simp] theorem sortByName_nil : sortByName [] = [] := rfl

theorem sortByName_perm (cs : List (String × Entry)) : (sortByName cs).Perm cs := by
  induction cs with
  | nil => exact .refl _
  | cons d cs ih => exact insertByName_perm.trans (ih.cons d)

@[simp] theorem mem_sortByName : c ∈ sortByName cs ↔ c ∈ cs := (sortByName_perm cs).mem_iff

theorem insertByName_sorted (hs : cs.Pairwise fun a b => a.1 ≤ b.1) :
    (insertByName c cs).Pairwise fun a b => a.1 ≤ b.1 := by
  induction cs with
  | nil => exact List.pairwise_singleton _ _
  | cons d cs ih =>
    rw [List.pairwise_cons] at hs
    unfold insertByName
    split
    · -- `c` goes first: it is below `d`, and so below everything after `d`
      rename_i hcd
      refine List.pairwise_cons.2 ⟨fun e he => ?_, List.pairwise_cons.2 hs⟩
      rcases List.mem_cons.1 he with rfl | he
      · exact hcd
      · exact le_trans hcd (hs.1 e he)
    · -- `c` goes after `d`, which is below `c` and below everything after it
      rename_i hcd
      have hdc : d.1 ≤ c.1 := (le_total d.1 c.1).resolve_right hcd
      refine List.pairwise_cons.2 ⟨fun e he => ?_, ih hs.2⟩
      rcases List.mem_cons.1 (insertByName_perm.mem_iff.1 he) with rfl | he
      · exact hdc
      · exact hs.1 e he

theorem sortByName_sorted (cs : List (String × Entry)) :
    (sortByName cs).Pairwise fun a b => a.1 ≤ b.1 := by
  induction cs with
  | nil => exact List.Pairwise.nil
  | cons d cs ih => exact insertByName_sorted ih

end Sorting

/-! ### Listings -/

variable {t : FileTree} {p : Path} {cs : List (String × Entry)}

/-- A path one level below `p` is `p` and its last name. -/
private theorem eq_append_getLastD {q : Path} (hlen : q.length = p.length + 1)
    (hpre : p.isPrefixOf q = true) : q = p ++ [q.getLastD ""] := by
  obtain ⟨r, rfl⟩ := List.isPrefixOf_iff_prefix.1 hpre
  have hr : r.length = 1 := by
    simp only [List.length_append] at hlen
    omega
  obtain ⟨a, rfl⟩ := List.length_eq_one_iff.1 hr
  simp

/-- What a listing holds, before it is sorted: the entries one level below, by last name. -/
theorem children_eq_sortByName (h : t.children p = .ok cs) :
    ∃ m cs₀, t.find? p = some (.dir m) ∧ cs = sortByName cs₀ ∧
      (∀ n e, (n, e) ∈ cs₀ ↔ (p ++ [n], e) ∈ t.entries) ∧
      (t.paths.Nodup → (cs₀.map (·.1)).Nodup) := by
  unfold children at h
  split at h
  · cases h
  · cases h
  · cases h
  · rename_i m hdir
    cases h
    refine ⟨m, _, hdir, rfl, fun n e => ?_, fun hnd => ?_⟩
    · rw [List.mem_filterMap]
      constructor
      · rintro ⟨⟨q, f⟩, hx, hxe⟩
        simp only [Option.ite_none_right_eq_some, Option.some.injEq, Prod.mk.injEq] at hxe
        obtain ⟨hc, rfl, rfl⟩ := hxe
        rw [← eq_append_getLastD hc.1 hc.2]
        exact hx
      · intro hmem
        refine ⟨(p ++ [n], e), hmem, ?_⟩
        simp
    · -- two entries one level below with one last name would be one path
      rw [List.map_filterMap]
      have hkeys : (t.entries.filterMap fun x =>
          (if x.1.length = p.length + 1 ∧ p.isPrefixOf x.1 = true then some (x.1.getLastD "", x.2)
            else none).map (·.1)) =
          t.paths.filterMap fun q =>
            if q.length = p.length + 1 ∧ p.isPrefixOf q = true then some (q.getLastD "") else none := by
        rw [paths, List.filterMap_map]
        congr 1
        funext x
        simp only [Function.comp]
        split <;> rfl
      rw [hkeys]
      refine List.Nodup.filterMap (fun q q' n hq hq' => ?_) hnd
      simp only [Option.mem_def, Option.ite_none_right_eq_some, Option.some.injEq] at hq hq'
      rw [eq_append_getLastD hq.1.1 hq.1.2, eq_append_getLastD hq'.1.1 hq'.1.2, hq.2, hq'.2]

/-- **A listing holds what the tree shows one level down.** -/
theorem mem_children (ht : t.WellFormed) (h : t.children p = .ok cs) {n : String} {e : Entry} :
    (n, e) ∈ cs ↔ t.find? (p ++ [n]) = some e := by
  obtain ⟨m, cs₀, -, rfl, hmem, -⟩ := children_eq_sortByName h
  rw [mem_sortByName, hmem, find?_eq_some_iff ht.distinct (by simp)]

/-- **In a well-formed tree a listing is strictly increasing in name**: sorted, and no name
twice. -/
theorem children_sorted (ht : t.WellFormed) (h : t.children p = .ok cs) :
    cs.Pairwise fun a b => a.1 < b.1 := by
  obtain ⟨m, cs₀, -, rfl, -, hnames⟩ := children_eq_sortByName h
  have hne : (sortByName cs₀).Pairwise fun a b => a.1 ≠ b.1 :=
    List.pairwise_map.1 (((sortByName_perm cs₀).map _).nodup_iff.2 (hnames ht.distinct))
  exact ((sortByName_sorted cs₀).and hne).imp fun h => lt_of_le_of_ne h.1 h.2

end FileTree
end QuotaWatch
