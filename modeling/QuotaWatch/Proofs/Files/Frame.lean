import Mathlib.Data.List.Nodup
import QuotaWatch.Files.Tree
/-!
**What the operations on a file tree change, and what they keep.**

Through the view `find?`: writing changes its own path, removing the subtree below a path,
renaming the subtrees of its two paths, and making directories adds missing ancestors only.
Writes use fresh content numbers, so a tree whose files are numbered below the next free one
(`FileTree.WellFormed`) keeps every old file's content (`FileTree.KeepsContents`). A well-formed
tree has directories above every entry; every operation keeps both facts.

Main definitions:

* `FileTree.paths` — the paths the tree has entries at;
* `FileTree.dirChain`, `FileTree.mkdirStep` — the ancestors made by `mkdirAll`, and one step;
* `FileTree.WellFormed` — no path twice, directories above every entry, files numbered below the
  next free content;
* `FileTree.KeepsContents` — a later tree shows every old file's content unchanged.

Main results:

* `FileTree.find?_put_self`, `FileTree.find?_put_of_ne`, `FileTree.find?_remove_of_under`,
  `FileTree.find?_remove_of_not_under`, `FileTree.find?_rename_target`,
  `FileTree.find?_rename_of_not_under`, `FileTree.mkdirAll_spec` — what each operation changes
  and keeps;
* `FileTree.WellFormed.remove`, `FileTree.WellFormed.putBytes`, `FileTree.WellFormed.rename`,
  `FileTree.WellFormed.mkdirAll` — every operation keeps a tree well formed;
* `FileTree.WellFormed.bytesAt_eq` — bytes read before are read the same after any change that
  keeps contents.
-/

namespace QuotaWatch
namespace FileTree

variable {t t' : FileTree} {p q : Path}

/-! ### Looking a path up -/

theorem find?_nil (t : FileTree) : t.find? [] = some (.dir Instant.zero) := rfl

theorem find?_of_ne_nil (hq : q ≠ []) : t.find? q = (t.entries.find? (·.1 == q)).map (·.2) := by
  simp [find?, hq]

/-- A path that names something, other than the top, has an entry. -/
theorem mem_entries_of_find? {e : Entry} (hq : q ≠ []) (h : t.find? q = some e) : (q, e) ∈ t.entries := by
  rw [find?_of_ne_nil hq, Option.map_eq_some_iff] at h
  obtain ⟨x, hx, rfl⟩ := h
  have hq' : x.1 = q := by simpa using List.find?_some hx
  rw [← hq']
  exact List.mem_of_find?_eq_some hx

theorem under_iff {p q : Path} : under p q = true ↔ p <+: q := List.isPrefixOf_iff_prefix

theorem under_append (p r : Path) : under p (p ++ r) = true :=
  under_iff.2 (List.prefix_append p r)

theorem under_self (p : Path) : under p p = true := by
  simpa using under_append p []

theorem under_trans {p a q : Path} (h₁ : under p a = true) (h₂ : under a q = true) : under p q = true :=
  under_iff.2 ((under_iff.1 h₁).trans (under_iff.1 h₂))

theorem length_le_of_under {p q : Path} (h : under p q = true) : p.length ≤ q.length :=
  (under_iff.1 h).length_le

theorem under_take (q : Path) (i : Nat) : under (q.take i) q = true :=
  under_iff.2 (List.take_prefix i q)

theorem under_append_eq_false {p q : Path} (r : Path) (h : under p q = false) :
    under (p ++ r) q = false := by
  cases hu : under (p ++ r) q
  · rfl
  · rw [under_trans (under_append p r) hu] at h
    cases h

@[simp] theorem find?_withNextId (t : FileTree) (n : Nat) (q : Path) :
    ({ t with nextId := n } : FileTree).find? q = t.find? q := rfl

@[simp] theorem content_withNextId (t : FileTree) (n i : Nat) :
    ({ t with nextId := n } : FileTree).content i = t.content i := rfl

/-! ### Writing an entry -/

@[simp] theorem put_contents (t : FileTree) (p : Path) (e : Entry) : (t.put p e).contents = t.contents := by
  unfold put; split <;> rfl

@[simp] theorem put_nextId (t : FileTree) (p : Path) (e : Entry) : (t.put p e).nextId = t.nextId := by
  unfold put; split <;> rfl

@[simp] theorem content_put (t : FileTree) (p : Path) (e : Entry) (i : Nat) :
    (t.put p e).content i = t.content i := by
  simp [content]

/-- Setting a key in a list of pairs, in place or else at the end, as a tree sets its entries
and contents: the key shows the new value, every other key its old one. -/
theorem find?_setKey {α β : Type} [BEq α] [LawfulBEq α] [DecidableEq α] (l : List (α × β))
    (k q : α) (v : β) :
    ((if l.any (·.1 == k) then l.map (fun x : α × β => if x.1 == k then (x.1, v) else (x.1, x.2))
      else l ++ [(k, v)]).find? (·.1 == q)).map (·.2) =
      if q = k then some v else (l.find? (·.1 == q)).map (·.2) := by
  -- setting the value of a pair keeps its key, so the search is the same one
  have hkeys : ((fun x : α × β => x.1 == q) ∘ fun x : α × β => if x.1 == k then (x.1, v) else (x.1, x.2)) =
      (·.1 == q) := by
    funext x
    simp only [Function.comp]
    split <;> rfl
  split
  · rename_i hany
    rw [List.find?_map, hkeys]
    cases hf : l.find? (·.1 == q) with
    | none =>
      split
      · -- the key has an entry, which the search finds
        subst q
        obtain ⟨x, hx, hxk⟩ := List.any_eq_true.1 hany
        exact absurd hxk (List.find?_eq_none.1 hf x hx)
      · rfl
    | some x =>
      have hx : x.1 = q := by simpa using List.find?_some hf
      by_cases hqk : q = k <;> simp [hx, hqk]
  · rename_i hany
    have hnone : l.find? (·.1 == k) = none :=
      List.find?_eq_none.2 fun x hx hxk => hany (List.any_eq_true.2 ⟨x, hx, hxk⟩)
    rw [List.find?_append]
    by_cases hqk : q = k
    · subst q
      simp [hnone]
    · simp [Ne.symm hqk, hqk]

theorem put_entries (e : Entry) :
    (t.put p e).entries = if t.entries.any (·.1 == p) then
      t.entries.map (fun x : Path × Entry => if x.1 == p then (x.1, e) else (x.1, x.2)) else t.entries ++ [(p, e)] := by
  unfold put; split <;> rfl

theorem find?_put_of_ne {e : Entry} (h : q ≠ p) : (t.put p e).find? q = t.find? q := by
  unfold find?
  split
  · rfl
  · rw [put_entries, find?_setKey, if_neg h]

theorem find?_put_self {e : Entry} (hp : p ≠ []) : (t.put p e).find? p = some e := by
  rw [find?_of_ne_nil hp, put_entries, find?_setKey, if_pos rfl]

/-- An entry for a path that names nothing is added at the end. -/
theorem put_entries_of_find?_none {e : Entry} (hp : p ≠ []) (hn : t.find? p = none) :
    (t.put p e).entries = t.entries ++ [(p, e)] := by
  have hany : (t.entries.any fun x => x.1 == p) = false := by
    rw [find?_of_ne_nil hp, Option.map_eq_none_iff, List.find?_eq_none] at hn
    simpa using hn
  simp [put, hany]

/-- The paths that have an entry, in entry order. -/
def paths (t : FileTree) : List Path := t.entries.map (·.1)

/-- Writing an entry keeps the paths of the entries distinct. -/
theorem paths_put_nodup {e : Entry} (hnd : t.paths.Nodup) : (t.put p e).paths.Nodup := by
  unfold paths put
  split
  · -- written in place: the paths are those of before
    have hkeys : ((·.1) ∘ fun x : Path × Entry => if (x.1 == p) = true then (x.1, e) else (x.1, x.2)) =
        (·.1) := by
      funext x
      simp only [Function.comp]
      split <;> rfl
    rw [List.map_map, hkeys]
    exact hnd
  · -- added at the end: the path had no entry
    rename_i hany
    simp only [List.any_eq_true, beq_iff_eq, not_exists, not_and] at hany
    simp only [List.map_append, List.map_cons, List.map_nil, List.nodup_append, List.nodup_cons,
      List.not_mem_nil, not_false_eq_true, List.nodup_nil, and_self, List.mem_singleton, true_and]
    refine ⟨hnd, ?_⟩
    rintro a ha b rfl rfl
    obtain ⟨x, hx, rfl⟩ := List.mem_map.1 ha
    exact hany x hx rfl

/-- With distinct paths, a path names exactly what its entry holds. -/
theorem find?_eq_some_iff (hnd : t.paths.Nodup) (hq : q ≠ []) {e : Entry} :
    t.find? q = some e ↔ (q, e) ∈ t.entries := by
  refine ⟨mem_entries_of_find? hq, fun hmem => ?_⟩
  rw [find?_of_ne_nil hq]
  cases hf : t.entries.find? (·.1 == q) with
  | none =>
    rw [List.find?_eq_none] at hf
    exact absurd (by simp) (hf _ hmem)
  | some x =>
    have hx := List.mem_of_find?_eq_some hf
    have hxq : x.1 = q := by simpa using List.find?_some hf
    rw [List.inj_on_of_nodup_map hnd hx hmem hxq]
    rfl

/-! ### Writing a content -/

@[simp] theorem putContent_entries (t : FileTree) (id : Nat) (d : List UInt8) :
    (t.putContent id d).entries = t.entries := by
  unfold putContent; split <;> rfl

@[simp] theorem putContent_nextId (t : FileTree) (id : Nat) (d : List UInt8) :
    (t.putContent id d).nextId = t.nextId := by
  unfold putContent; split <;> rfl

@[simp] theorem find?_putContent (id : Nat) (d : List UInt8) : (t.putContent id d).find? q = t.find? q := by
  simp [find?]

theorem putContent_contents (id : Nat) (d : List UInt8) :
    (t.putContent id d).contents = if t.contents.any (·.1 == id) then
      t.contents.map (fun x : Nat × List UInt8 => if x.1 == id then (x.1, d) else (x.1, x.2)) else t.contents ++ [(id, d)] := by
  unfold putContent; split <;> rfl

theorem content_putContent_of_ne {id i : Nat} (d : List UInt8) (h : i ≠ id) :
    (t.putContent id d).content i = t.content i := by
  rw [content, content, putContent_contents, find?_setKey, if_neg h]

theorem content_putContent_self (id : Nat) (d : List UInt8) : (t.putContent id d).content id = d := by
  rw [content, putContent_contents, find?_setKey, if_pos rfl]
  rfl

/-! ### Removing a subtree -/

@[simp] theorem remove_contents (t : FileTree) (p : Path) : (t.remove p).contents = t.contents := rfl

@[simp] theorem remove_nextId (t : FileTree) (p : Path) : (t.remove p).nextId = t.nextId := rfl

theorem find?_remove_of_not_under (h : under p q = false) : (t.remove p).find? q = t.find? q := by
  unfold find? remove
  split
  · rfl
  · simp only [List.find?_filter]
    congr 2
    funext x
    by_cases hx : x.1 = q
    · simp [hx, h]
    · simp [hx]

theorem find?_remove_of_under (h : under p q = true) (hq : q ≠ []) : (t.remove p).find? q = none := by
  rw [find?_of_ne_nil hq]
  simp only [remove, List.find?_filter, Option.map_eq_none_iff, List.find?_eq_none]
  intro x _ hx
  simp only [decide_eq_true_eq, beq_iff_eq] at hx
  rw [hx.2, h] at hx
  simp at hx

/-! ### The ancestors of a path -/

theorem parentProblem_eq_none_iff :
    t.parentProblem p = none ↔ ∀ i < p.length, ∃ m, t.find? (p.take i) = some (.dir m) := by
  unfold parentProblem
  simp only [List.findSome?_eq_none_iff, List.mem_map, List.mem_range, forall_exists_index, and_imp]
  constructor
  · intro h i hi
    have := h _ i hi rfl
    split at this
    · cases this
    · exact ⟨_, by assumption⟩
    · cases this
  · rintro h _ i hi rfl
    obtain ⟨m, hm⟩ := h i hi
    simp [hm]

private theorem findSome?_congr {α β : Type} {f g : α → Option β} {l : List α}
    (h : ∀ a ∈ l, f a = g a) : l.findSome? f = l.findSome? g := by
  induction l with
  | nil => rfl
  | cons a l ih =>
    simp only [List.findSome?_cons, h a (List.mem_cons_self ..),
      ih fun b hb => h b (List.mem_cons_of_mem _ hb)]

/-- The ancestors' problem depends only on what the ancestors are. -/
theorem parentProblem_congr (h : ∀ i < p.length, t'.find? (p.take i) = t.find? (p.take i)) :
    t'.parentProblem p = t.parentProblem p := by
  simp only [parentProblem]
  apply findSome?_congr
  intro a ha
  obtain ⟨i, hi, rfl⟩ := List.mem_map.1 ha
  rw [h i (List.mem_range.1 hi)]

/-- Two paths with the same proper ancestors have the same problem. -/
theorem parentProblem_eq_of_take {p' : Path} (hlen : p'.length = p.length)
    (h : ∀ i < p.length, p'.take i = p.take i) : t.parentProblem p' = t.parentProblem p := by
  simp only [parentProblem, hlen]
  congr 1
  exact List.map_congr_left fun i hi => h i (List.mem_range.1 hi)

/-- A read succeeds on a file under directories, and gives its content. -/
theorem bytesAt_eq_ok_iff {data : List UInt8} :
    t.bytesAt p = .ok data ↔
      t.parentProblem p = none ∧ ∃ id m, t.find? p = some (.file id m) ∧ t.content id = data := by
  unfold bytesAt
  split
  · rename_i c hc
    simp [hc]
  · rename_i hpp
    split <;> simp_all

/-! ### Writing a new file -/

/-- Writing to a path that names nothing adds a file with the next content number. -/
theorem putBytes_of_find?_none {data : List UInt8} {now : Instant} (hp : t.parentProblem p = none)
    (hn : t.find? p = none) :
    t.putBytes p data now =
      .ok { (t.putContent t.nextId data).put p (.file t.nextId now) with nextId := t.nextId + 1 } := by
  simp [putBytes, hp, hn]

theorem putBytes_ok_of_find?_none {data : List UInt8} {now : Instant} (h : t.putBytes p data now = .ok t')
    (hn : t.find? p = none) :
    t.parentProblem p = none ∧
      t' = { (t.putContent t.nextId data).put p (.file t.nextId now) with nextId := t.nextId + 1 } := by
  cases hp : t.parentProblem p with
  | some c => simp [putBytes, hp] at h
  | none =>
    rw [putBytes_of_find?_none hp hn, Except.ok.injEq] at h
    exact ⟨rfl, h.symm⟩

section NewFile

variable {data : List UInt8} {now : Instant}

theorem find?_putBytes_of_ne (hn : t.find? p = none) (h : t.putBytes p data now = .ok t') (hq : q ≠ p) :
    t'.find? q = t.find? q := by
  obtain ⟨-, rfl⟩ := putBytes_ok_of_find?_none h hn
  rw [find?_withNextId, find?_put_of_ne hq, find?_putContent]

theorem find?_putBytes_self (hn : t.find? p = none) (h : t.putBytes p data now = .ok t') :
    t'.find? p = some (.file t.nextId now) := by
  have hp : p ≠ [] := by rintro rfl; simp [find?_nil] at hn
  obtain ⟨-, rfl⟩ := putBytes_ok_of_find?_none h hn
  rw [find?_withNextId, find?_put_self hp]

theorem content_putBytes_self (hn : t.find? p = none) (h : t.putBytes p data now = .ok t') :
    t'.content t.nextId = data := by
  obtain ⟨-, rfl⟩ := putBytes_ok_of_find?_none h hn
  rw [content_withNextId, content_put, content_putContent_self]

end NewFile

/-! ### Renaming -/

/-- A rename that succeeds has a target whose ancestors are directories. -/
theorem rename_parentProblem {src dst : Path} (h : t.rename src dst = .ok t') :
    t.parentProblem dst = none := by
  cases hpp : t.parentProblem dst with
  | none => rfl
  | some c =>
    unfold rename at h
    split at h
    · cases h
    · rw [hpp] at h
      cases h

/-- What a rename that succeeds leaves: the entries outside both paths, then those of the source
moved under the target. -/
theorem rename_eq {src dst : Path} (h : t.rename src dst = .ok t') :
    t' = { t with entries := t.entries.filter (fun x => !under src x.1 && !under dst x.1) ++
      t.entries.filterMap fun x => if under src x.1 then some (dst ++ x.1.drop src.length, x.2) else none } := by
  unfold rename at h
  split at h
  · cases h
  -- every failing case is an error; the two moves are the same
  · split at h <;> first
      | (cases h; rfl)
      | cases h
      | (split at h
         · cases h
         · cases h; rfl)

@[simp] theorem rename_contents {src dst : Path} (h : t.rename src dst = .ok t') : t'.contents = t.contents := by
  rw [rename_eq h]

@[simp] theorem rename_nextId {src dst : Path} (h : t.rename src dst = .ok t') : t'.nextId = t.nextId := by
  rw [rename_eq h]

/-- A rename keeps the paths of the entries distinct: what moves replaces everything at the
target, and moving is one-to-one. -/
theorem paths_rename_nodup {src dst : Path} (hnd : t.paths.Nodup) (h : t.rename src dst = .ok t') :
    t'.paths.Nodup := by
  rw [rename_eq h]
  simp only [paths, List.map_append, List.nodup_append]
  -- the moved paths, as a function of the old paths
  have hmoved : (t.entries.filterMap fun x =>
      if under src x.1 then some (dst ++ x.1.drop src.length, x.2) else none).map (·.1) =
      t.paths.filterMap fun q => if under src q then some (dst ++ q.drop src.length) else none := by
    rw [List.map_filterMap, paths, List.filterMap_map]
    congr 1
    funext x
    simp only [Function.comp]
    split <;> rfl
  refine ⟨List.Nodup.sublist (List.filter_sublist.map _) hnd, ?_, ?_⟩
  · rw [hmoved]
    refine List.Nodup.filterMap (fun a a' b ha ha' => ?_) hnd
    simp only [Option.mem_def, Option.ite_none_right_eq_some, Option.some.injEq] at ha ha'
    obtain ⟨hua, rfl⟩ := ha
    obtain ⟨hua', hb⟩ := ha'
    obtain ⟨r, rfl⟩ := under_iff.1 hua
    obtain ⟨r', rfl⟩ := under_iff.1 hua'
    simp only [List.drop_left, List.append_cancel_left_eq] at hb
    rw [hb]
  · -- a kept path is not under the target, a moved one is
    rintro a ha b hb rfl
    obtain ⟨x, hx, rfl⟩ := List.mem_map.1 ha
    have hkept := (List.mem_filter.1 hx).2
    rw [hmoved] at hb
    obtain ⟨q, -, hq⟩ := List.mem_filterMap.1 hb
    simp only [Option.ite_none_right_eq_some, Option.some.injEq] at hq
    rw [← hq.2, under_append] at hkept
    simp at hkept

/-- A rename keeps every path outside its two paths. -/
theorem find?_rename_of_not_under {src dst : Path} (h : t.rename src dst = .ok t')
    (hs : under src q = false) (hd : under dst q = false) : t'.find? q = t.find? q := by
  rw [rename_eq h]
  unfold find?
  split
  · rfl
  · -- nothing moved lands on `q`, and the entries of `q` are kept
    have hmoved : (t.entries.filterMap fun x => if under src x.1 then some (dst ++ x.1.drop src.length, x.2)
        else none).find? (·.1 == q) = none := by
      rw [List.find?_eq_none]
      intro y hy hyq
      obtain ⟨x, -, hx⟩ := List.mem_filterMap.1 hy
      split at hx
      · cases hx
        simp only [beq_iff_eq] at hyq
        rw [← hyq, under_append] at hd
        cases hd
      · cases hx
    rw [List.find?_append, hmoved, Option.or_none, List.find?_filter]
    congr 2
    funext x
    by_cases hx : x.1 = q
    · simp [hx, hs, hd]
    · simp [hx]

/-- After a rename, the target shows what the source showed. -/
theorem find?_rename_target {src dst : Path} (h : t.rename src dst = .ok t') (hs : src ≠ [])
    (hd : dst ≠ []) : t'.find? dst = t.find? src := by
  rw [rename_eq h]
  unfold find?
  rw [if_neg hd, if_neg hs]
  -- no kept entry is the target, and a moved entry is the target exactly when it was the source
  have hkept : (t.entries.filter fun x => !under src x.1 && !under dst x.1).find? (·.1 == dst) = none := by
    rw [List.find?_eq_none]
    intro y hy hyd
    simp only [beq_iff_eq] at hyd
    simp [List.mem_filter, hyd, under_self] at hy
  have hpred : (fun a : Path × Entry => (if under src a.1 then some (dst ++ a.1.drop src.length, a.2)
      else none).any (·.1 == dst)) = (fun a => a.1 == src) := by
    funext a
    by_cases hu : under src a.1 = true
    · obtain ⟨r, hr⟩ := under_iff.1 hu
      simp only [← hr, under_append, if_true, Option.any_some, List.drop_left]
      cases r with
      | nil => simp
      | cons x r =>
        have hlonger : ∀ l : Path, l ++ x :: r ≠ l := fun l he => by
          have := congrArg List.length he
          simp at this
        rw [beq_eq_false_iff_ne.2 (hlonger dst), beq_eq_false_iff_ne.2 (hlonger src)]
    · have hne : a.1 ≠ src := fun he => hu (he ▸ under_self src)
      simp [hu, hne]
  rw [List.find?_append, hkept, Option.none_or, List.find?_filterMap, hpred]
  cases hf : t.entries.find? (·.1 == src) with
  | none => rfl
  | some a =>
    have ha : a.1 = src := by simpa using List.find?_some hf
    simp [ha, under_self]

/-! ### Making directories -/

/-- The directories `mkdirAll` makes: the ancestors of a path, and the path itself. -/
def dirChain (p : Path) : List Path := (List.range p.length).map fun i => p.take (i + 1)

/-- One step of `mkdirAll`, at the path `a` of the chain. -/
def mkdirStep (now : Instant) (t : FileTree) (a : Path) : Except FsError FileTree :=
  match t.find? a with
  | some (.dir _) => .ok t
  | some _ => .error ⟨"mkdir", a, .notDir⟩
  | none => .ok (t.put a (.dir now))

theorem mkdirAll_eq (t : FileTree) (p : Path) (now : Instant) :
    t.mkdirAll p now = (dirChain p).foldlM (mkdirStep now) t := rfl

/-- The walk of `mkdirAll` at the first path of its chain: a path that named nothing is made a
directory, a directory is kept, and a file stops the walk. -/
theorem foldlM_mkdirStep_cons {now : Instant} {a : Path} {L : List Path}
    (h : (a :: L).foldlM (mkdirStep now) t = .ok t') :
    (t.find? a = none ∧ L.foldlM (mkdirStep now) (t.put a (.dir now)) = .ok t') ∨
      ∃ m, t.find? a = some (.dir m) ∧ L.foldlM (mkdirStep now) t = .ok t' := by
  rw [List.foldlM_cons, mkdirStep] at h
  cases hfa : t.find? a with
  | none =>
    rw [hfa] at h
    exact .inl ⟨rfl, h⟩
  | some e =>
    cases e with
    | dir m =>
      rw [hfa] at h
      exact .inr ⟨m, rfl, h⟩
    | file id m =>
      rw [hfa] at h
      cases h
    | socket m =>
      rw [hfa] at h
      cases h

/-- What making directories does: each path of the chain that named nothing becomes a directory
with the given time, each one ends up a directory, and nothing else changes. -/
theorem mkdirAll_spec {now : Instant} (h : t.mkdirAll p now = .ok t') :
    (∀ q, t'.find? q = t.find? q ∨ (t.find? q = none ∧ q ∈ dirChain p ∧ t'.find? q = some (.dir now))) ∧
    (∀ a ∈ dirChain p, ∃ m, t'.find? a = some (.dir m)) ∧
    (∀ x ∈ t'.entries, x ∈ t.entries ∨ (x.1 ∈ dirChain p ∧ x.2 = .dir now)) ∧
    t'.contents = t.contents ∧ t'.nextId = t.nextId := by
  rw [mkdirAll_eq] at h
  generalize dirChain p = L at h ⊢
  -- one directory at a time: the induction carries all five facts from the tree so far
  induction L generalizing t with
  | nil =>
    cases h
    exact ⟨fun _ => .inl rfl, by simp, fun x hx => .inl hx, rfl, rfl⟩
  | cons a L ih =>
    rcases foldlM_mkdirStep_cons h with ⟨hfa, hrest⟩ | ⟨m, hfa, hrest⟩
    · -- `a` named nothing, and is made a directory
      have ha : a ≠ [] := by rintro rfl; simp [find?_nil] at hfa
      obtain ⟨hfind, hdirs, hentries, hcont, hnext⟩ := ih hrest
      refine ⟨fun q => ?_, ?_, fun x hx => ?_, by simpa using hcont, by simpa using hnext⟩
      · by_cases hqa : q = a
        · subst hqa
          rcases hfind q with h₁ | ⟨h₁, -, -⟩
          · rw [find?_put_self ha] at h₁
            exact .inr ⟨hfa, List.mem_cons_self .., h₁⟩
          · rw [find?_put_self ha] at h₁
            cases h₁
        · rcases hfind q with h₁ | ⟨h₁, h₂, h₃⟩
          · rw [find?_put_of_ne hqa] at h₁
            exact .inl h₁
          · rw [find?_put_of_ne hqa] at h₁
            exact .inr ⟨h₁, List.mem_cons_of_mem _ h₂, h₃⟩
      · intro b hb
        rcases List.mem_cons.1 hb with rfl | hb
        · rcases hfind b with h₁ | ⟨h₁, -, -⟩
          · rw [h₁, find?_put_self ha]
            exact ⟨now, rfl⟩
          · rw [find?_put_self ha] at h₁
            cases h₁
        · exact hdirs b hb
      · rcases hentries x hx with hx | ⟨hx₁, hx₂⟩
        · rw [put_entries_of_find?_none ha hfa, List.mem_append, List.mem_singleton] at hx
          rcases hx with hx | rfl
          · exact .inl hx
          · exact .inr ⟨List.mem_cons_self .., rfl⟩
        · exact .inr ⟨List.mem_cons_of_mem _ hx₁, hx₂⟩
    · -- `a` was a directory already
      obtain ⟨hfind, hdirs, hentries, hcont, hnext⟩ := ih hrest
      refine ⟨fun q => ?_, ?_, fun x hx => ?_, hcont, hnext⟩
      · rcases hfind q with h₁ | ⟨h₁, h₂, h₃⟩
        · exact .inl h₁
        · exact .inr ⟨h₁, List.mem_cons_of_mem _ h₂, h₃⟩
      · intro b hb
        rcases List.mem_cons.1 hb with rfl | hb
        · rcases hfind b with h₁ | ⟨h₁, -, -⟩
          · exact ⟨m, h₁.trans hfa⟩
          · rw [hfa] at h₁
            cases h₁
        · exact hdirs b hb
      · rcases hentries x hx with hx | ⟨hx₁, hx₂⟩
        · exact .inl hx
        · exact .inr ⟨List.mem_cons_of_mem _ hx₁, hx₂⟩

/-- Making directories leaves every path longer than the last one as it was. -/
theorem find?_mkdirAll_of_length_lt {now : Instant} (h : t.mkdirAll p now = .ok t')
    (hq : p.length < q.length) : t'.find? q = t.find? q := by
  rcases (mkdirAll_spec h).1 q with hkept | ⟨-, hchain, -⟩
  · exact hkept
  · obtain ⟨i, hi, rfl⟩ := List.mem_map.1 hchain
    simp only [List.length_take] at hq
    omega

/-- Making directories keeps the paths of the entries distinct. -/
theorem paths_mkdirAll_nodup {now : Instant} (hnd : t.paths.Nodup) (h : t.mkdirAll p now = .ok t') :
    t'.paths.Nodup := by
  rw [mkdirAll_eq] at h
  generalize dirChain p = L at h
  induction L generalizing t with
  | nil =>
    cases h
    exact hnd
  | cons a L ih =>
    rcases foldlM_mkdirStep_cons h with ⟨-, hrest⟩ | ⟨-, -, hrest⟩
    · exact ih (paths_put_nodup hnd) hrest
    · exact ih hnd hrest

/-- No directory is made over a file. -/
theorem mkdirAll_ne_file {id : Nat} {m now : Instant} (hf : t.find? p = some (.file id m)) :
    t.mkdirAll p now ≠ .ok t' := by
  intro h
  obtain ⟨hfind, hdirs, -⟩ := mkdirAll_spec h
  have hp : 0 < p.length := List.length_pos_iff.2 (by rintro rfl; simp [find?_nil] at hf)
  -- the path itself is the last directory of its chain
  have hmem : p ∈ dirChain p :=
    List.mem_map.2 ⟨p.length - 1, List.mem_range.2 (by omega), by rw [Nat.sub_add_cancel hp, List.take_length]⟩
  obtain ⟨m', hm'⟩ := hdirs p hmem
  rcases hfind p with h₁ | ⟨h₁, -, -⟩
  · rw [h₁, hf] at hm'
    cases hm'
  · rw [h₁] at hf
    cases hf

/-! ### Well-formed trees -/

/-- A tree as its operations build it: every file has a content number below the next free
one, the ancestors of every entry are directories, and no path has two entries. -/
structure WellFormed (t : FileTree) : Prop where
  fresh : ∀ x ∈ t.entries, ∀ id m, x.2 = .file id m → id < t.nextId
  ancestors : ∀ x ∈ t.entries, t.parentProblem x.1 = none
  distinct : t.paths.Nodup

theorem wellFormed_empty : ({} : FileTree).WellFormed :=
  ⟨fun _ hx => by simp at hx, fun _ hx => by simp at hx, List.nodup_nil⟩

theorem WellFormed.id_lt (ht : t.WellFormed) {id : Nat} {m : Instant} (h : t.find? q = some (.file id m)) :
    id < t.nextId := by
  have hq : q ≠ [] := by rintro rfl; simp [find?_nil] at h
  exact ht.fresh _ (mem_entries_of_find? hq h) id m rfl

/-- The proper ancestors of a path whose ancestors are directories are directories. -/
theorem dir_of_parentProblem (hpp : t.parentProblem q = none) (hu : under p q = true) (hne : p ≠ q) :
    ∃ m, t.find? p = some (.dir m) := by
  obtain ⟨r, rfl⟩ := under_iff.1 hu
  have hlen : p.length < (p ++ r).length := by
    cases r with
    | nil => simp at hne
    | cons => simp
  obtain ⟨m, hm⟩ := parentProblem_eq_none_iff.1 hpp p.length hlen
  exact ⟨m, by simpa using hm⟩

/-- In a well-formed tree, whatever lies below a path is a directory's content: nothing lies
below a path that names nothing or a file. -/
theorem WellFormed.dir_of_under (ht : t.WellFormed) {e : Entry} (hq : t.find? q = some e)
    (hu : under p q = true) (hne : p ≠ q) : ∃ m, t.find? p = some (.dir m) := by
  have hq0 : q ≠ [] := by
    rintro rfl
    obtain ⟨r, hr⟩ := under_iff.1 hu
    exact hne (List.append_eq_nil_iff.1 hr).1
  exact dir_of_parentProblem (ht.ancestors _ (mem_entries_of_find? hq0 hq)) hu hne

theorem WellFormed.find?_of_under_none (ht : t.WellFormed) (hp : t.find? p = none)
    (hu : under p q = true) : t.find? q = none := by
  cases hq : t.find? q with
  | none => rfl
  | some e =>
    have hne : p ≠ q := by rintro rfl; rw [hp] at hq; cases hq
    obtain ⟨m, hm⟩ := ht.dir_of_under hq hu hne
    rw [hp] at hm
    cases hm

theorem WellFormed.remove (ht : t.WellFormed) (p : Path) : (t.remove p).WellFormed where
  fresh x hx := ht.fresh x (List.mem_filter.1 hx).1
  ancestors x hx := by
    obtain ⟨hx, hnu⟩ := List.mem_filter.1 hx
    rw [parentProblem_congr, ht.ancestors x hx]
    intro i _
    -- an ancestor under the removed path would put the entry under it too
    apply find?_remove_of_not_under
    cases hu : under p (x.1.take i)
    · rfl
    · simp [under_trans hu (under_take x.1 i)] at hnu
  distinct := List.Nodup.sublist (List.filter_sublist.map _) ht.distinct

theorem WellFormed.putBytes (ht : t.WellFormed) (hn : t.find? p = none) {data : List UInt8}
    {now : Instant} (h : t.putBytes p data now = .ok t') : t'.WellFormed := by
  -- every path but `p` shows what it showed
  have hkeep : ∀ a, a ≠ p → t'.find? a = t.find? a := fun a ha => find?_putBytes_of_ne hn h ha
  obtain ⟨hpp, rfl⟩ := putBytes_ok_of_find?_none h hn
  have hp : p ≠ [] := by rintro rfl; simp [find?_nil] at hn
  have hentries : ((t.putContent t.nextId data).put p (.file t.nextId now)).entries =
      t.entries ++ [(p, .file t.nextId now)] := by
    rw [put_entries_of_find?_none hp (by simpa using hn), putContent_entries]
  constructor
  · intro x hx id m hxm
    simp only [hentries, List.mem_append, List.mem_singleton] at hx
    rcases hx with hx | rfl
    · exact Nat.lt_succ_of_lt (ht.fresh x hx id m hxm)
    · cases hxm
      exact Nat.lt_succ_self _
  · intro x hx
    simp only [hentries, List.mem_append, List.mem_singleton] at hx
    rcases hx with hx | rfl
    · rw [parentProblem_congr, ht.ancestors x hx]
      intro i hi
      apply hkeep
      rintro hxi
      obtain ⟨m, hm⟩ := dir_of_parentProblem (ht.ancestors x hx) (hxi ▸ under_take x.1 i)
        (by
          intro he
          have := congrArg List.length hxi
          rw [he] at this
          simp only [List.length_take] at this
          omega)
      rw [hn] at hm
      cases hm
    · rw [parentProblem_congr, hpp]
      intro i hi
      dsimp only at hi ⊢
      apply hkeep
      intro he
      have := congrArg List.length he
      simp only [List.length_take] at this
      omega
  · exact paths_put_nodup (t := t.putContent t.nextId data) (by simpa [paths] using ht.distinct)

theorem WellFormed.rename (ht : t.WellFormed) {src dst : Path} {id : Nat} {m : Instant}
    (hsrc : t.find? src = some (.file id m)) (h : t.rename src dst = .ok t') : t'.WellFormed := by
  have hpp := rename_parentProblem h
  have hent := congrArg FileTree.entries (rename_eq h)
  have hnext := rename_nextId h
  -- nothing lies below the source file
  have hbelow : ∀ x ∈ t.entries, under src x.1 = true → x.1 = src := by
    intro x hx hu
    by_cases hne : x.1 = src
    · exact hne
    · obtain ⟨m', hm'⟩ := dir_of_parentProblem (ht.ancestors x hx) hu (Ne.symm hne)
      rw [hsrc] at hm'
      cases hm'
  -- the target's proper ancestors lie outside both paths
  have hanc : ∀ i < dst.length, t'.find? (dst.take i) = t.find? (dst.take i) := by
    intro i hi
    have hd : under dst (dst.take i) = false := by
      cases hu : under dst (dst.take i)
      · rfl
      · have := length_le_of_under hu
        simp only [List.length_take] at this
        omega
    have hs : under src (dst.take i) = false := by
      cases hu : under src (dst.take i)
      · rfl
      · -- the source would be a proper ancestor of the target, hence a directory
        have hlen := length_le_of_under hu
        simp only [List.length_take] at hlen
        obtain ⟨m', hm'⟩ := dir_of_parentProblem hpp (under_trans hu (under_take dst i))
          (by rintro rfl; omega)
        rw [hsrc] at hm'
        cases hm'
    exact find?_rename_of_not_under h hs hd
  constructor
  · intro x hx id' m' hxm
    rw [hent, List.mem_append] at hx
    rw [hnext]
    rcases hx with hx | hx
    · exact ht.fresh x (List.mem_filter.1 hx).1 id' m' hxm
    · obtain ⟨y, hy, hyx⟩ := List.mem_filterMap.1 hx
      split at hyx
      · cases hyx
        exact ht.fresh y hy id' m' hxm
      · cases hyx
  · intro x hx
    rw [hent, List.mem_append] at hx
    rcases hx with hx | hx
    · -- a kept entry's ancestors are kept too
      obtain ⟨hx, hnu⟩ := List.mem_filter.1 hx
      simp only [Bool.and_eq_true, Bool.not_eq_true'] at hnu
      rw [parentProblem_congr, ht.ancestors x hx]
      intro i _
      apply find?_rename_of_not_under h
      · cases hu : under src (x.1.take i)
        · rfl
        · rw [under_trans hu (under_take x.1 i)] at hnu
          cases hnu.1
      · cases hu : under dst (x.1.take i)
        · rfl
        · rw [under_trans hu (under_take x.1 i)] at hnu
          cases hnu.2
    · -- the moved entry is the source file, now at the target
      obtain ⟨y, hy, hyx⟩ := List.mem_filterMap.1 hx
      split at hyx
      · rename_i hu
        cases hyx
        rw [hbelow y hy hu, List.drop_length, List.append_nil, parentProblem_congr hanc]
        exact hpp
      · cases hyx
  · exact paths_rename_nodup ht.distinct h

theorem WellFormed.mkdirAll (ht : t.WellFormed) {now : Instant} (h : t.mkdirAll p now = .ok t') :
    t'.WellFormed := by
  obtain ⟨hfind, hdirs, hentries, -, hnext⟩ := mkdirAll_spec h
  constructor
  · intro x hx id m hxm
    rcases hentries x hx with hx | ⟨-, hx2⟩
    · rw [hnext]
      exact ht.fresh x hx id m hxm
    · rw [hx2] at hxm
      cases hxm
  · intro x hx
    rcases hentries x hx with hx | ⟨hchain, -⟩
    · -- an old entry's ancestors were directories, and directories stay
      rw [parentProblem_congr, ht.ancestors x hx]
      intro i hi
      obtain ⟨m, hm⟩ := parentProblem_eq_none_iff.1 (ht.ancestors x hx) i hi
      rcases hfind (x.1.take i) with h₁ | ⟨h₁, -, -⟩
      · exact h₁
      · rw [hm] at h₁
        cases h₁
    · -- a new directory's ancestors are the top and earlier links of the chain
      obtain ⟨k, hk, hxk⟩ := List.mem_map.1 hchain
      have hk' := List.mem_range.1 hk
      rw [parentProblem_eq_none_iff, ← hxk]
      intro j hj
      simp only [List.length_take] at hj
      rw [List.take_take]
      cases j with
      | zero => exact ⟨_, find?_nil t'⟩
      | succ j =>
        have hmin : min (j + 1) (k + 1) = j + 1 := by omega
        rw [hmin]
        exact hdirs _ (List.mem_map.2 ⟨j, List.mem_range.2 (by omega), rfl⟩)
  · exact paths_mkdirAll_nodup ht.distinct h

/-! ### Contents -/

/-- `t'` leaves the contents of `t` alone: content numbers only grow, and every content below
`t`'s next number is as it was. -/
structure KeepsContents (t t' : FileTree) : Prop where
  nextId_le : t.nextId ≤ t'.nextId
  content_eq : ∀ i < t.nextId, t'.content i = t.content i

theorem KeepsContents.refl (t : FileTree) : KeepsContents t t := ⟨Nat.le_refl _, fun _ _ => rfl⟩

theorem KeepsContents.trans {t₁ t₂ t₃ : FileTree} (h₁ : KeepsContents t₁ t₂) (h₂ : KeepsContents t₂ t₃) :
    KeepsContents t₁ t₃ :=
  ⟨Nat.le_trans h₁.nextId_le h₂.nextId_le, fun i hi => by
    rw [h₂.content_eq i (Nat.lt_of_lt_of_le hi h₁.nextId_le), h₁.content_eq i hi]⟩

/-- A change that keeps the contents list and the next number keeps the contents. -/
theorem KeepsContents.of_eq (hc : t'.contents = t.contents) (hn : t'.nextId = t.nextId) :
    KeepsContents t t' :=
  ⟨hn ▸ Nat.le_refl _, fun _ _ => by simp [content, hc]⟩

theorem keepsContents_remove (t : FileTree) (p : Path) : KeepsContents t (t.remove p) :=
  .of_eq rfl rfl

theorem keepsContents_putBytes (hn : t.find? p = none) {data : List UInt8} {now : Instant}
    (h : t.putBytes p data now = .ok t') : KeepsContents t t' := by
  obtain ⟨-, rfl⟩ := putBytes_ok_of_find?_none h hn
  refine ⟨Nat.le_succ _, fun i hi => ?_⟩
  rw [content_withNextId, content_put, content_putContent_of_ne data (Nat.ne_of_lt hi)]

/-- A read sees the same bytes where the path and its ancestors show what they showed and the
contents are kept. -/
theorem WellFormed.bytesAt_eq (ht : t.WellFormed) (hk : KeepsContents t t')
    (hf : ∀ i ≤ p.length, t'.find? (p.take i) = t.find? (p.take i)) : t'.bytesAt p = t.bytesAt p := by
  have hpp : t'.parentProblem p = t.parentProblem p :=
    parentProblem_congr fun i hi => hf i (Nat.le_of_lt hi)
  have hp : t'.find? p = t.find? p := by simpa using hf p.length (Nat.le_refl _)
  unfold bytesAt
  rw [hpp, hp]
  split
  · rfl
  · split
    · rfl
    · rfl
    · rename_i id m hfile
      rw [hk.content_eq id (ht.id_lt hfile)]
    · rfl

/-- A file that reads keeps reading the same where the tree shows the same entry, keeps its
contents and stays well formed. -/
theorem WellFormed.bytesAt_of_find? (ht : t.WellFormed) (ht' : t'.WellFormed) (hk : KeepsContents t t')
    {data : List UInt8} (h : t.bytesAt p = .ok data) (hf : t'.find? p = t.find? p) :
    t'.bytesAt p = .ok data := by
  obtain ⟨-, id, m, hfile, hcont⟩ := bytesAt_eq_ok_iff.1 h
  have hp : p ≠ [] := by rintro rfl; simp [find?_nil] at hfile
  have hfile' : t'.find? p = some (.file id m) := hf.trans hfile
  refine bytesAt_eq_ok_iff.2 ⟨ht'.ancestors _ (mem_entries_of_find? hp hfile'), id, m, hfile', ?_⟩
  rw [hk.content_eq id (ht.id_lt hfile), hcont]

end FileTree
end QuotaWatch
