import Mathlib.Data.List.Forall2
import QuotaWatch.Service.Manager
/-!
**Tables and accounts under the updates of a refresh.**

The bookkeeping tables of the tracked state are finite maps kept in name order, and setting a
name changes what that name reads and nothing else. The account list is changed in two ways by
a refresh: the account that `AppState.account?` finds for the active email gets a new snapshot,
and every snapshot is normalized to the clock. Both keep the list's length, its order and each
account's identity, which is what every later statement about "the same account" rests on.

Main definitions:

* `Manager.normalizeAccount` — one account with its snapshot normalized to the clock.

Main results:

* `Table.get?_set`, `Table.get?_set_of_ne` — setting a name changes what it reads and nothing else;
* `AppState.account?_eq_some` — the account found for an email is a member with that email;
* `AppState.updateAccount_accounts` — updating the found account changes it alone, in place;
* `Manager.normalizeAll_accounts`, `Manager.account?_normalizeAll` — normalizing maps every
  account in place, and the found account is the normalized old one.
-/

namespace QuotaWatch

/-! ### Tables -/

namespace Table

variable {α : Type}

theorem find?_set_go (k k' : String) (v : α) (l : List (String × α)) :
    (set.go k v l).find? (·.1 == k') = if k = k' then some (k, v) else l.find? (·.1 == k') := by
  induction l with
  | nil => by_cases h : k = k' <;> simp [set.go, h]
  | cons p rest ih =>
      obtain ⟨a, b⟩ := p
      by_cases hak : a = k
      · -- the name has an entry, which is replaced
        subst hak
        by_cases h : a = k' <;> simp [set.go, h]
      · by_cases hlt : k < a
        · -- the name goes in before `a`
          simp only [set.go, hak, hlt, if_false, if_true]
          by_cases h : k = k' <;> simp [h]
        · -- the name goes in after `a`
          simp only [set.go, hak, hlt, if_false]
          by_cases h : a = k'
          · have hk : k ≠ k' := fun e => hak (h.trans e.symm)
            simp [h, hk]
          · rw [List.find?_cons_of_neg (by simpa using h), List.find?_cons_of_neg (by simpa using h),
              ih]

/-- Setting a name changes what that name reads, and nothing else. -/
theorem get?_set (t : Table α) (k k' : String) (v : α) :
    (t.set k v).get? k' = if k = k' then some v else t.get? k' := by
  simp only [get?, set, find?_set_go]
  split <;> simp

@[simp] theorem get?_set_self (t : Table α) (k : String) (v : α) : (t.set k v).get? k = some v := by
  simp [get?_set]

theorem get?_set_of_ne (t : Table α) {k k' : String} (v : α) (h : k' ≠ k) :
    (t.set k v).get? k' = t.get? k' := by
  simp [get?_set, Ne.symm h]

end Table

/-! ### Finding and updating accounts -/

namespace AppState

/-- The account found for an email is one of the accounts, and carries that email. -/
theorem account?_eq_some {st : AppState} {e : String} {a : Account} (h : st.account? e = some a) :
    a ∈ st.accounts ∧ a.email = e := by
  refine ⟨List.mem_of_find?_eq_some h, ?_⟩
  simpa using List.find?_some h

@[simp] theorem active_setActive (st : AppState) (e : String) : (st.setActive e).active = e := by
  by_cases h : e = "" <;> simp [setActive, active, h]

theorem updateAccount_go_forall₂ (e : String) (f : Account → Account) (l : List Account) :
    List.Forall₂ (fun a a' => a' = a ∨ (l.find? (·.email == e) = some a ∧ a' = f a)) l
      (updateAccount.go e f l) := by
  induction l with
  | nil => exact List.Forall₂.nil
  | cons a rest ih =>
      by_cases ha : a.email = e
      · simp only [updateAccount.go, ha, if_true]
        refine List.Forall₂.cons (.inr ⟨by simp [ha], rfl⟩) ?_
        exact List.forall₂_same.2 fun _ _ => .inl rfl
      · simp only [updateAccount.go, ha, if_false]
        refine List.Forall₂.cons (.inl rfl) (ih.imp ?_)
        -- the account found in the whole list is the one found in its tail
        intro x y hxy
        simpa [List.find?_cons, ha] using hxy

/-- Updating an email changes only the account that `account?` finds for it, by `f`; the
list keeps its length and order. -/
theorem updateAccount_accounts (st : AppState) (e : String) (f : Account → Account) :
    List.Forall₂ (fun a a' => a' = a ∨ (st.account? e = some a ∧ a' = f a)) st.accounts
      (st.updateAccount e f).accounts :=
  updateAccount_go_forall₂ e f st.accounts

end AppState

/-! ### Normalizing every account -/

namespace Manager

/-- The account with its snapshot normalized to `now`. -/
def normalizeAccount (now : Instant) (a : Account) : Account :=
  { a with lastSnapshot := a.lastSnapshot.map (·.normalize now) }

@[simp] theorem normalizeAccount_email (now : Instant) (a : Account) :
    (normalizeAccount now a).email = a.email := rfl

theorem normalizeAll_accounts (st : AppState) (now : Instant) :
    (normalizeAll st now).accounts = st.accounts.map (normalizeAccount now) := by
  simp only [normalizeAll]
  congr 1
  funext a
  obtain ⟨email, displayName, ordinal, snap, updated⟩ := a
  cases snap <;> rfl

/-- Normalizing keeps which account an email finds, normalized. -/
theorem account?_normalizeAll (st : AppState) (now : Instant) (e : String) :
    (normalizeAll st now).account? e = (st.account? e).map (normalizeAccount now) := by
  simp only [AppState.account?, normalizeAll_accounts, List.find?_map]
  rfl

end Manager

end QuotaWatch
