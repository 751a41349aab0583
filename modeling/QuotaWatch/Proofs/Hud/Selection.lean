import Mathlib
import QuotaWatch.Hud.Board
/-!
**The selection cycles through the accounts.**

A step of `d` from index `i` of `n` lands on `(i + d) mod n` when `i + d` fits in 64 bits, and
runs of steps add up. Past 64 bits the sum wraps first.

Main definitions:

* `Board.emails` — the emails of the board's accounts, in order.

Main results:

* `Hud.cycleIndex_eq` — the index a step lands on, when the sum fits in 64 bits;
* `Board.selectNext_of_mem`, `Board.selectNext_of_not_mem` — one step from a listed selection,
  and from one that is not listed;
* `Board.selectNext_run` — a run of steps lands on the sum of its steps;
* `Board.selection_cycles` — **the selection cycles through the accounts**;
* `Hud.overlong_step_wraps` — a step past 64 bits wraps before it is reduced.
-/

namespace QuotaWatch.Hud

/-- A remainder toward zero, shifted by the divisor and taken again, is the remainder toward
minus infinity. -/
theorem tmod_add_tmod (x : Int) {n : Int} (hn : 0 < n) : (x.tmod n + n).tmod n = x % n := by
  have hlt : (x.tmod n).natAbs < n.natAbs := by
    rw [Int.natAbs_tmod]; exact Nat.mod_lt _ (by omega)
  rw [Int.tmod_eq_emod_of_nonneg (by omega), Int.add_emod_right, Int.tmod_eq_emod]
  split
  · simp
  · rw [Int.natAbs_of_nonneg (Int.le_of_lt hn), Int.sub_emod_right, Int.emod_emod]

/-- An index and a step whose sum is below `2^63` add as 64-bit words without wrapping. -/
theorem toInt_ofNat_add {i : Nat} {d : Int64} (h : i + d.toInt < 2 ^ 63) :
    (Int64.ofNat i + d).toInt = i + d.toInt := by
  have hd := Int64.le_toInt d
  have hs : (Int64.size : Int) = 2 ^ 64 := rfl
  rw [Int64.toInt_add, Int64.toInt_ofNat', Int.bmod_add_bmod]
  exact Int.bmod_eq_of_le (by simp at hd; omega) (by omega)

theorem cycleIndex_eq {n i : Nat} {d : Int64} (hn : 0 < n) (h : i + d.toInt < 2 ^ 63) :
    (cycleIndex n i d : Int) = (i + d.toInt) % n := by
  rw [cycleIndex, tmod_add_tmod _ (by omega), toInt_ofNat_add h]
  exact Int.toNat_of_nonneg (Int.emod_nonneg _ (by omega))

theorem cycleIndex_lt (i : Nat) (d : Int64) {n : Nat} (hn : 0 < n) : cycleIndex n i d < n := by
  have h := Int.emod_lt_of_pos (Int64.ofNat i + d).toInt (show (0 : Int) < n by omega)
  rw [cycleIndex, tmod_add_tmod _ (by omega)]
  omega

namespace Board

/-- The emails of the configured accounts, in order. -/
def emails (b : Board) : List String := b.accounts.map Account.email

variable {b : Board} {d : Int64}

theorem selectNext_of_accounts_eq_nil (h : b.accounts = []) (d : Int64) :
    b.selectNext d = (b, b.selected) := by
  rw [selectNext, h]

theorem selectNext_fst (b : Board) (d : Int64) :
    (b.selectNext d).1 = { b with selected := (b.selectNext d).2 } := by
  unfold selectNext
  cases b.accounts <;> rfl

@[simp] theorem accounts_selectNext : (b.selectNext d).1.accounts = b.accounts := by
  rw [selectNext_fst]; rfl

@[simp] theorem emails_selectNext : (b.selectNext d).1.emails = b.emails := by
  simp [emails]

theorem selected_selectNext : (b.selectNext d).1.selected = (b.selectNext d).2 := by
  rw [selectNext_fst]

theorem selectNext_of_findIdx?_some {i : Nat}
    (h : b.accounts.findIdx? (·.email == b.selected) = some i) :
    (b.selectNext d).2 = (b.accounts.getD (cycleIndex b.accounts.length i d) default).email := by
  unfold selectNext
  cases hacc : b.accounts with
  | nil => simp [hacc] at h
  | cons a as => rw [hacc] at h; simp only [h]

theorem selectNext_of_findIdx?_none (hne : b.accounts ≠ [])
    (h : b.accounts.findIdx? (·.email == b.selected) = none) :
    (b.selectNext d).2 = (b.accounts.getD 0 default).email := by
  unfold selectNext
  cases hacc : b.accounts with
  | nil => exact absurd hacc hne
  | cons a as => rw [hacc] at h; simp only [h]

theorem emails_getElem?_getD {k : Nat} (hk : k < b.accounts.length) :
    b.emails[k]? = some (b.accounts.getD k default).email := by
  simp [emails, hk]

theorem lt_length_of_getElem? {i : Nat} {e : String} (hi : b.emails[i]? = some e) :
    i < b.accounts.length := by
  simpa [emails] using (List.getElem?_eq_some_iff.1 hi).1

theorem emod_length_of_getElem? {i : Nat} {e : String} (hi : b.emails[i]? = some e) :
    (i : Int) % b.accounts.length = i :=
  Int.emod_eq_of_lt (Int.natCast_nonneg i) (by have := lt_length_of_getElem? hi; omega)

/-- With distinct emails, the selection is found at the one index that holds it. -/
theorem findIdx?_of_nodup {i : Nat} (hnd : b.emails.Nodup) (hi : b.emails[i]? = some b.selected) :
    b.accounts.findIdx? (·.email == b.selected) = some i := by
  obtain ⟨hlt, hget⟩ := List.getElem?_eq_some_iff.1 hi
  have hn := lt_length_of_getElem? hi
  have hsel : b.accounts[i].email = b.selected := by simpa [emails] using hget
  rw [List.findIdx?_eq_some_iff_getElem]
  refine ⟨hn, by simpa using hsel, fun j hji hj => ?_⟩
  -- an earlier account with the selected email would share it with the account at `i`
  refine List.pairwise_iff_getElem.1 hnd j i (by omega) hlt hji ?_
  simpa [emails, hsel] using hj

theorem findIdx?_of_not_mem (h : b.selected ∉ b.emails) :
    b.accounts.findIdx? (·.email == b.selected) = none := by
  rw [List.findIdx?_eq_none_iff]
  intro a ha
  simpa [emails, beq_iff_eq] using fun he => h (List.mem_map.2 ⟨a, ha, he⟩)

/-- A selection found at `i` moves to `(i + d) mod n` when the sum fits in 64 bits. -/
theorem selectNext_of_mem {i : Nat} (hnd : b.emails.Nodup) (hi : b.emails[i]? = some b.selected)
    (hw : i + d.toInt < 2 ^ 63) :
    b.emails[((i + d.toInt) % b.accounts.length).toNat]? = some (b.selectNext d).2 := by
  have hn : 0 < b.accounts.length := by have := lt_length_of_getElem? hi; omega
  rw [selectNext_of_findIdx?_some (findIdx?_of_nodup hnd hi), ← cycleIndex_eq hn hw,
    Int.toNat_natCast]
  exact emails_getElem?_getD (cycleIndex_lt _ _ hn)

/-- A selection that is no listed email goes to the first account. -/
theorem selectNext_of_not_mem (hne : b.accounts ≠ []) (h : b.selected ∉ b.emails) (d : Int64) :
    b.emails[0]? = some (b.selectNext d).2 := by
  rw [selectNext_of_findIdx?_none hne (findIdx?_of_not_mem h)]
  exact emails_getElem?_getD (List.length_pos_iff.2 hne)

/-- Every step selects a listed email, whatever the step. -/
theorem selectNext_mem (hne : b.accounts ≠ []) (d : Int64) : (b.selectNext d).2 ∈ b.emails := by
  have hn : 0 < b.accounts.length := List.length_pos_iff.2 hne
  cases hf : b.accounts.findIdx? (·.email == b.selected) with
  | none =>
    rw [selectNext_of_findIdx?_none hne hf]
    exact List.mem_of_getElem? (emails_getElem?_getD hn)
  | some i =>
    rw [selectNext_of_findIdx?_some hf]
    exact List.mem_of_getElem? (emails_getElem?_getD (cycleIndex_lt _ _ hn))

/-- Over a run of steps from the selection at `i`, none of whose index-plus-step sums leaves 64
bits, the selection ends at `i` plus the sum of the steps, modulo the number of accounts. -/
theorem selectNext_run (ds : List Int64) : ∀ {b : Board} {i : Nat}, b.emails.Nodup →
    b.emails[i]? = some b.selected →
    (∀ j (h : j < ds.length), ((i : Int) + ((ds.take j).map Int64.toInt).sum) % b.accounts.length +
      ds[j].toInt < 2 ^ 63) →
    b.emails[(((i : Int) + (ds.map Int64.toInt).sum) % b.accounts.length).toNat]? =
      some (ds.foldl (fun b d => (b.selectNext d).1) b).selected := by
  induction ds with
  | nil => intro b i _ hi _; simpa [emod_length_of_getElem? hi] using hi
  | cons d ds ih =>
    intro b i hnd hi hw
    have hn : 0 < b.accounts.length := by have := lt_length_of_getElem? hi; omega
    have hin := emod_length_of_getElem? hi
    have hw₀ : i + d.toInt < 2 ^ 63 := by
      have := hw 0 (by simp)
      rwa [List.take_zero, List.map_nil, List.sum_nil, Int.add_zero, hin, List.getElem_cons_zero]
        at this
    -- the first step lands on `k`, from which the rest of the run starts
    have hk : (((i + d.toInt) % b.accounts.length).toNat : Int) =
        (i + d.toInt) % b.accounts.length := Int.toNat_of_nonneg (Int.emod_nonneg _ (by omega))
    have hshift : ∀ x : Int, (((i + d.toInt) % b.accounts.length).toNat + x) % b.accounts.length =
        (i + (d.toInt + x)) % b.accounts.length := by
      intro x; rw [hk, Int.emod_add_emod, Int.add_assoc]
    have := @ih (b.selectNext d).1 ((i + d.toInt) % b.accounts.length).toNat (by simpa using hnd)
      (by rw [emails_selectNext, selected_selectNext]; exact selectNext_of_mem hnd hi hw₀)
      (fun j hj => by
        rw [accounts_selectNext]
        have := hw (j + 1) (by simp; omega)
        rwa [List.take_succ_cons, List.map_cons, List.sum_cons, List.getElem_cons_succ, ← hshift]
          at this)
    rw [List.map_cons, List.sum_cons, ← hshift]
    simpa using this

/-- **The selection cycles through the accounts.** Without accounts a step changes nothing;
otherwise it selects a listed email, the first when the selection is no listed email. With distinct
emails the selection at `i` moves by `d` to `(i + d) mod n` when the sum fits in 64 bits, and so
along a run. -/
theorem selection_cycles (b : Board) :
    (b.accounts = [] → ∀ d, b.selectNext d = (b, b.selected)) ∧
    (b.accounts ≠ [] → ∀ d, (b.selectNext d).2 ∈ b.emails ∧
      (b.selected ∉ b.emails → b.emails[0]? = some (b.selectNext d).2)) ∧
    (b.emails.Nodup → ∀ i : Nat, b.emails[i]? = some b.selected →
      (∀ d : Int64, i + d.toInt < 2 ^ 63 →
        b.emails[((i + d.toInt) % b.accounts.length).toNat]? = some (b.selectNext d).2) ∧
      ∀ ds : List Int64, (∀ j (h : j < ds.length), ((i : Int) + ((ds.take j).map Int64.toInt).sum) %
          b.accounts.length + ds[j].toInt < 2 ^ 63) →
        b.emails[(((i : Int) + (ds.map Int64.toInt).sum) % b.accounts.length).toNat]? =
          some (ds.foldl (fun b d => (b.selectNext d).1) b).selected) :=
  ⟨selectNext_of_accounts_eq_nil, fun hne d => ⟨selectNext_mem hne d, (selectNext_of_not_mem hne · d)⟩,
    fun hnd _ hi => ⟨fun _ => selectNext_of_mem hnd hi, fun ds => selectNext_run ds hnd hi⟩⟩

end Board

/-- Accounts `a`, `b` and `c`, with `b` selected as the first result's active account. -/
def threeAccounts : Board :=
  (Board.start ⟨0, 0, 0⟩).setResult
    { state := some { accounts := [{ email := "a@x.com" }, { email := "b@x.com" }, { email := "c@x.com" }] }
      at_ := ⟨0, 0, 0⟩, recommendation := {}, activeEmail := "b@x.com" }

theorem selection_cycles_through_three :
    threeAccounts.emails.Nodup ∧ threeAccounts.emails[1]? = some threeAccounts.selected ∧
      threeAccounts.emails[((1 + (-4 : Int64).toInt) % 3).toNat]? =
        some (threeAccounts.selectNext (-4)).2 ∧
      threeAccounts.emails[((1 + ([1, 1, -2].map Int64.toInt).sum) % 3).toNat]? =
        some ([1, 1, -2].foldl (fun b d => (b.selectNext d).1) threeAccounts).selected := by
  have hnd : threeAccounts.emails.Nodup := by decide
  have hi : threeAccounts.emails[1]? = some threeAccounts.selected := by decide
  obtain ⟨-, -, h⟩ := Board.selection_cycles threeAccounts
  exact ⟨hnd, hi, (h hnd 1 hi).1 (-4) (by decide), (h hnd 1 hi).2 [1, 1, -2] (by decide)⟩

/-- **A step of `2^63 - 1` wraps**: from `b`, at index 1 of 3, the sum leaves 64 bits and the
selection stays on `b`, not on `c` at `(1 + 2^63 - 1) mod 3 = 2`. -/
theorem overlong_step_wraps :
    threeAccounts.emails[1]? = some threeAccounts.selected ∧
      ((1 + (9223372036854775807 : Int64).toInt) % 3).toNat = 2 ∧
      threeAccounts.emails[2]? = some "c@x.com" ∧
      (threeAccounts.selectNext 9223372036854775807).2 = "b@x.com" := by
  decide

end QuotaWatch.Hud
