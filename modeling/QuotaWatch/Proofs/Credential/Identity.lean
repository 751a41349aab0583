import Mathlib
import QuotaWatch.Credential.Token
import QuotaWatch.Proofs.Credential.Base64
/-!
**The identity a credential carries.**

Claims are read as a reader taking every number as a double reads them (`Json.generic?`): keys
sorted, the last member of a name kept. Sorting keeps every lookup (`Json.get?_sortKeys`), so when
every number reads as a finite double (`Json.NumbersFit`) each string claim reads the same
(`Json.getString?_generic`); with the base64url round trip a token encoding such claims yields
them (`tokenClaims_encoded`). A number such as `1e400` spoils the claims.

Main definitions:

* `Json.strOf` — the text of a string value;
* `Json.NumbersFit` — a value whose every number reads as a finite double;
* `idToken?` — the token field of a credential file.

Main results:

* `Json.get?_sortKeys` — sorting the keys keeps every lookup;
* `Json.getString?_generic` — where the numbers fit, the generic reading keeps every string claim;
* `tokenClaims_encoded` — a token whose middle segment encodes claims yields them;
* `Identity.ofBytes_encoded_claims` — the identity of a credential is read from its claims;
* `credential_identity_decoding` — **what each credential file gives: an identity or its error**;
* `out_of_range_number_spoils_claims` — a number beyond the doubles spoils every claim.
-/

namespace QuotaWatch

namespace Json

/-! ### Lookups -/

/-- The text of a string value. -/
def strOf : Json → Option String
  | .str s => some s
  | _ => none

theorem getString?_eq (j : Json) (k : String) : j.getString? k = (j.get? k).bind strOf := by
  unfold getString?
  cases j.get? k with
  | none => rfl
  | some v => cases v <;> rfl

theorem get?_obj_cons (p : String × Json) (fs : List (String × Json)) (k : String) :
    (Json.obj (p :: fs)).get? k = ((Json.obj fs).get? k).or (if p.1 == k then some p.2 else none) := by
  simp only [get?, List.reverse_cons, List.find?_append, Option.map_or, List.find?_cons, List.find?_nil]
  split <;> simp_all

/-! ### Sorting the keys -/

theorem insertByName_perm (p : String × Json) (l : List (String × Json)) :
    (insertByName p l).Perm (p :: l) := by
  induction l with
  | nil => exact List.Perm.refl _
  | cons q rest ih =>
    unfold insertByName
    split
    · exact List.Perm.refl _
    · exact (ih.cons q).trans (List.Perm.swap p q rest)

theorem foldr_insertByName_perm (l : List (String × Json)) :
    (l.foldr insertByName []).Perm l := by
  induction l with
  | nil => exact List.Perm.refl _
  | cons p rest ih => exact (insertByName_perm p _).trans (ih.cons p)

theorem sortFields_eq (fs : List (String × Json)) :
    sortFields fs = fs.map fun p => (p.1, sortKeys p.2) := by
  induction fs with
  | nil => rfl
  | cons p rest ih => rw [sortFields, ih, List.map_cons]

/-- Keeping the first member of each name met: a name already kept hides later ones. -/
theorem find?_foldl_dedup (k : String) : ∀ (l acc : List (String × Json)),
    (l.foldl (fun acc p => if acc.any (·.1 == p.1) then acc else p :: acc) acc).find? (·.1 == k) =
      (acc.find? (·.1 == k)).or (l.find? (·.1 == k))
  | [], acc => by simp
  | p :: l, acc => by
    rw [List.foldl_cons, find?_foldl_dedup k l]
    by_cases hp : p.1 = k
    · subst hp
      cases hf : acc.find? (·.1 == p.1) with
      | some x =>
        have hany : acc.any (·.1 == p.1) = true :=
          List.any_eq_true.2 ⟨x, List.mem_of_find?_eq_some hf, by simpa using List.find?_some hf⟩
        simp [hany, hf]
      | none =>
        have hany : acc.any (·.1 == p.1) = false := by
          rw [List.any_eq_false]
          exact fun x hx => by simpa using List.find?_eq_none.1 hf x hx
        simp [hany]
    · have hp' : (p.1 == k) = false := by simpa using hp
      split <;> simp [hp']

theorem nodup_foldl_dedup : ∀ (l acc : List (String × Json)), (acc.map (·.1)).Nodup →
    ((l.foldl (fun acc p => if acc.any (·.1 == p.1) then acc else p :: acc) acc).map (·.1)).Nodup
  | [], acc, h => h
  | p :: l, acc, h => by
    rw [List.foldl_cons]
    apply nodup_foldl_dedup l
    split
    · exact h
    · rename_i hany
      rw [List.map_cons, List.nodup_cons]
      refine ⟨fun hm => hany ?_, h⟩
      obtain ⟨x, hx, hxp⟩ := List.mem_map.1 hm
      exact List.any_eq_true.2 ⟨x, hx, by simp [hxp]⟩

/-- In members of distinct names, the one found by name is the one of that name. -/
theorem find?_name_iff {l : List (String × Json)} (hn : (l.map (·.1)).Nodup) {k : String}
    {q : String × Json} : l.find? (·.1 == k) = some q ↔ q ∈ l ∧ q.1 = k := by
  constructor
  · intro h
    exact ⟨List.mem_of_find?_eq_some h, by simpa using List.find?_some h⟩
  · rintro ⟨hq, rfl⟩
    cases hf : l.find? (·.1 == q.1) with
    | none => simpa using List.find?_eq_none.1 hf q hq
    | some q' =>
      have hq' := List.mem_of_find?_eq_some hf
      have hname : q'.1 = q.1 := by simpa using List.find?_some hf
      rw [List.inj_on_of_nodup_map hn hq' hq hname]

theorem find?_name_perm {l l' : List (String × Json)} (hn : (l.map (·.1)).Nodup) (hp : l.Perm l')
    (k : String) : l.find? (·.1 == k) = l'.find? (·.1 == k) :=
  Option.ext fun q => by
    rw [find?_name_iff hn, find?_name_iff ((hp.map _).nodup_iff.1 hn), hp.mem_iff]

/-- **Sorting the keys keeps every lookup**: the last member of a name is the one kept. -/
theorem get?_sortKeys (j : Json) (k : String) : (sortKeys j).get? k = (j.get? k).map sortKeys := by
  cases j with
  | obj fs =>
    have hn := nodup_foldl_dedup (sortFields fs).reverse [] List.nodup_nil
    have hperm := foldr_insertByName_perm (dedupNames (sortFields fs))
    have hrev := (List.reverse_perm _).trans hperm
    have hnR := ((hrev.map (fun p : String × Json => p.1)).nodup_iff.2 hn)
    simp only [sortKeys, get?]
    rw [find?_name_perm hnR hrev,
      dedupNames, find?_foldl_dedup, List.find?_nil, Option.none_or, sortFields_eq, ← List.map_reverse,
      List.find?_map, Option.map_map, Option.map_map]
    rfl
  | arr items => rfl
  | null => rfl
  | bool b => rfl
  | num lit => rfl
  | str s => rfl

theorem strOf_sortKeys (j : Json) : strOf (sortKeys j) = strOf j := by
  cases j <;> rfl

theorem getString?_sortKeys (j : Json) (k : String) : (sortKeys j).getString? k = j.getString? k := by
  rw [getString?_eq, getString?_eq, get?_sortKeys, Option.bind_map]
  exact congrArg _ (funext strOf_sortKeys)

/-! ### The generic form -/

theorem get?_mem {fs : List (String × Json)} {k : String} {v : Json} (h : (Json.obj fs).get? k = some v) :
    ∃ p ∈ fs, p.2 = v := by
  obtain ⟨p, hp, rfl⟩ := Option.map_eq_some_iff.1 h
  exact ⟨p, List.mem_reverse.1 (List.mem_of_find?_eq_some hp), rfl⟩

theorem genericFields?_cons (k : String) (v : Json) (rest : List (String × Json)) :
    genericFields? ((k, v) :: rest) =
      (generic? v).bind fun g => (genericFields? rest).map fun gs => (k, g) :: gs := by
  simp only [genericFields?]
  cases generic? v <;> cases genericFields? rest <;> rfl

theorem isSome_generic_of_mem : ∀ {fs gs : List (String × Json)}, genericFields? fs = some gs →
    ∀ p ∈ fs, (generic? p.2).isSome
  | [], _, _, p, hp => absurd hp List.not_mem_nil
  | (k, v) :: rest, gs, h, p, hp => by
    rw [genericFields?_cons] at h
    obtain ⟨g, hg, h⟩ := Option.bind_eq_some_iff.1 h
    obtain ⟨gs', hgs', -⟩ := Option.map_eq_some_iff.1 h
    rcases List.mem_cons.1 hp with rfl | hp
    · rw [hg]; rfl
    · exact isSome_generic_of_mem hgs' p hp

/-- The generic form of an object finds, by each name, the generic form of the member found. -/
theorem get?_genericFields : ∀ {fs gs : List (String × Json)}, genericFields? fs = some gs →
    ∀ k, (Json.obj gs).get? k = ((Json.obj fs).get? k).bind generic?
  | [], gs, h, k => by cases h; rfl
  | (k', v) :: rest, gs, h, k => by
    rw [genericFields?_cons] at h
    obtain ⟨g, hg, h⟩ := Option.bind_eq_some_iff.1 h
    obtain ⟨gs', hgs', rfl⟩ := Option.map_eq_some_iff.1 h
    rw [get?_obj_cons, get?_obj_cons, get?_genericFields hgs' k]
    cases hw : (Json.obj rest).get? k with
    | none => split <;> simp [hg]
    | some w =>
      -- the member found is one of the object's, so it has a generic form
      obtain ⟨p, hp, rfl⟩ := get?_mem hw
      obtain ⟨g', hg'⟩ := Option.isSome_iff_exists.1 (isSome_generic_of_mem hgs' p hp)
      simp [hg']

theorem get?_generic {j g : Json} (h : generic? j = some g) (k : String) :
    g.get? k = ((j.get? k).bind generic?).map sortKeys := by
  cases j with
  | obj fs =>
    obtain ⟨gs, hgs, rfl⟩ := Option.map_eq_some_iff.1 (by simpa [generic?] using h)
    rw [get?_sortKeys, get?_genericFields hgs]
  | arr items =>
    obtain ⟨gs, -, rfl⟩ := Option.map_eq_some_iff.1 (by simpa [generic?] using h)
    rfl
  | num lit =>
    obtain ⟨x, -, rfl⟩ := Option.map_eq_some_iff.1 (by simpa [generic?] using h)
    unfold ofFloat
    split <;> rfl
  | null => cases h; rfl
  | bool b => cases h; rfl
  | str s => cases h; rfl

/-- Every number of a document reads as a finite double. -/
inductive NumbersFit : Json → Prop
  | null : NumbersFit .null
  | bool (b : Bool) : NumbersFit (.bool b)
  | num {lit : String} {x : Float} {b : Decimal.Binary} (hx : litFloat? lit = some x)
      (hb : Decimal.classify x = .finite b) : NumbersFit (.num lit)
  | str (s : String) : NumbersFit (.str s)
  | arr {items : List Json} : (∀ j ∈ items, NumbersFit j) → NumbersFit (.arr items)
  | obj {fs : List (String × Json)} : (∀ p ∈ fs, NumbersFit p.2) → NumbersFit (.obj fs)

theorem genericItems?_isSome : ∀ {items : List Json}, (∀ j ∈ items, (generic? j).isSome) →
    (genericItems? items).isSome
  | [], _ => rfl
  | j :: rest, h => by
    obtain ⟨g, hg⟩ := Option.isSome_iff_exists.1 (h j List.mem_cons_self)
    obtain ⟨gs, hgs⟩ := Option.isSome_iff_exists.1
      (genericItems?_isSome fun j' hj' => h j' (List.mem_cons_of_mem j hj'))
    simp [genericItems?, hg, hgs]

theorem genericFields?_isSome : ∀ {fs : List (String × Json)}, (∀ p ∈ fs, (generic? p.2).isSome) →
    (genericFields? fs).isSome
  | [], _ => rfl
  | (k, v) :: rest, h => by
    obtain ⟨g, hg⟩ := Option.isSome_iff_exists.1 (h (k, v) List.mem_cons_self)
    obtain ⟨gs, hgs⟩ := Option.isSome_iff_exists.1
      (genericFields?_isSome fun p hp => h p (List.mem_cons_of_mem _ hp))
    rw [genericFields?_cons, hg, Option.bind_some, hgs]
    rfl

theorem NumbersFit.isSome_generic {j : Json} (h : NumbersFit j) : (generic? j).isSome := by
  induction h with
  | num hx _ => simp [generic?, hx]
  | arr _ ih => simpa [generic?] using genericItems?_isSome ih
  | obj _ ih => simpa [generic?] using genericFields?_isSome ih
  | _ => rfl

theorem NumbersFit.strOf_generic {j g : Json} (h : NumbersFit j) (hg : generic? j = some g) :
    strOf g = strOf j := by
  cases h with
  | num hx hb =>
    simp only [generic?, hx, Option.map_some, Option.some.injEq] at hg
    rw [← hg, ofFloat, hb]
    rfl
  | arr _ =>
    obtain ⟨gs, -, rfl⟩ := Option.map_eq_some_iff.1 (by simpa [generic?] using hg)
    rfl
  | obj _ =>
    obtain ⟨gs, -, rfl⟩ := Option.map_eq_some_iff.1 (by simpa [generic?] using hg)
    rw [strOf_sortKeys]
    rfl
  | _ => cases hg; rfl

theorem NumbersFit.of_get? {fs : List (String × Json)} (h : NumbersFit (.obj fs)) {k : String}
    {v : Json} (hv : (Json.obj fs).get? k = some v) : NumbersFit v := by
  obtain ⟨p, hp, rfl⟩ := get?_mem hv
  cases h with
  | obj hall => exact hall p hp

/-- **A string member reads the same in the generic form**, and a member of another kind is no
string there either. -/
theorem getString?_generic {fs : List (String × Json)} {g : Json} (hj : NumbersFit (.obj fs))
    (hg : generic? (.obj fs) = some g) (k : String) : g.getString? k = (Json.obj fs).getString? k := by
  rw [getString?_eq, getString?_eq, get?_generic hg]
  cases hv : (Json.obj fs).get? k with
  | none => rfl
  | some v =>
    have hfit := hj.of_get? hv
    obtain ⟨g0, hg0⟩ := Option.isSome_iff_exists.1 hfit.isSome_generic
    simp only [Option.bind_some, hg0, Option.map_some]
    rw [strOf_sortKeys, hfit.strOf_generic hg0]

/-- A string member of an object member reads the same in the generic form. -/
theorem nested_getString?_generic {fs : List (String × Json)} {g : Json} (hj : NumbersFit (.obj fs))
    (hg : generic? (.obj fs) = some g) (k k' : String) :
    (g.get? k).bind (·.getString? k') = ((Json.obj fs).get? k).bind (·.getString? k') := by
  rw [get?_generic hg]
  cases hv : (Json.obj fs).get? k with
  | none => rfl
  | some v =>
    have hfit := hj.of_get? hv
    obtain ⟨g0, hg0⟩ := Option.isSome_iff_exists.1 hfit.isSome_generic
    simp only [Option.bind_some, hg0, Option.map_some, getString?_sortKeys]
    cases hfit with
    | obj hall => exact getString?_generic (.obj hall) hg0 k'
    | _ =>
      rw [getString?_eq, getString?_eq, get?_generic hg0]
      rfl

end Json

/-! ### Decoding a credential -/

/-- **A token whose second segment is the base64url text of a claims object yields those claims**
in generic form, padded or not. -/
theorem tokenClaims_encoded {tok s0 seg : String} {more : List String} {p : List UInt8}
    {fs : List (String × Json)} {c : Json} (hseg : tokenSegments tok = s0 :: seg :: more)
    (henc : Utf8.bytesOf seg = Base64.encode p ∨ Utf8.bytesOf seg = Base64.padded (Base64.encode p))
    (hp : Json.parseBytes p = .ok (.obj fs)) (hc : (Json.obj fs).generic? = some c) :
    tokenClaims tok = .ok c := by
  have hdec : Base64.decode (Base64.padded (Utf8.bytesOf seg)) = .ok p := by
    rcases henc with h | h
    · rw [h]
      exact Base64.decode_padded_encode p
    · rw [h, Base64.padded_padded]
      exact Base64.decode_padded_encode p
  unfold tokenClaims
  simp only [hseg, hdec, hp, hc]

/-- A token's claims fail only as a malformed token. -/
theorem tokenClaims_error {tok : String} {e : CredentialError} (h : tokenClaims tok = .error e) :
    ∃ d, e = .invalidToken d := by
  unfold tokenClaims at h
  dsimp only at h
  -- every failing branch builds a malformed-token error
  repeat' split at h
  all_goals first | (cases h; exact ⟨_, rfl⟩) | cases h

/-- The id token of a credential file: the string `id_token` of its `tokens` object. -/
def idToken? (ffs : List (String × Json)) : Option String :=
  match (Json.obj ffs).get? "tokens" with
  | some (.obj ts) => (Json.obj ts).getString? "id_token"
  | _ => none

namespace Identity

variable {data : List UInt8} {ffs : List (String × Json)}

theorem ofBytes_not_object (h : ∀ ffs, Json.parseBytes data ≠ .ok (.obj ffs)) :
    ∃ d, ofBytes data = .error (.invalidJson d) := by
  unfold ofBytes
  cases hd : Json.parseBytes data with
  | error e => exact ⟨_, rfl⟩
  | ok j =>
    cases j with
    | obj fs => exact absurd hd (h fs)
    | null => exact ⟨_, rfl⟩
    | _ => exact ⟨_, rfl⟩

theorem idToken?_eq_some {tok : String} (h : idToken? ffs = some tok) :
    ∃ ts, (Json.obj ffs).get? "tokens" = some (.obj ts) ∧
      (Json.obj ts).getString? "id_token" = some tok := by
  unfold idToken? at h
  -- a case split on the lookup, not on a match: the matches on it may share one matcher
  cases ht : (Json.obj ffs).get? "tokens" with
  | none => rw [ht] at h; cases h
  | some t =>
    rw [ht] at h
    cases t with
    | obj ts => exact ⟨ts, rfl, h⟩
    | _ => cases h

theorem ofBytes_no_token (hfile : Json.parseBytes data = .ok (.obj ffs)) (h : idToken? ffs = none) :
    ofBytes data = .error .missingToken := by
  unfold idToken? at h
  unfold ofBytes
  simp only [hfile, Except.toOption, Option.getD_some]
  cases ht : (Json.obj ffs).get? "tokens" with
  | none => rfl
  | some t =>
    rw [ht] at h
    cases t with
    | obj ts => simp only at h; simp only [h]
    | _ => rfl

theorem ofBytes_bad_token (hfile : Json.parseBytes data = .ok (.obj ffs)) {tok : String}
    (h : idToken? ffs = some tok) {e : CredentialError} (he : tokenClaims tok = .error e) :
    ofBytes data = .error e := by
  obtain ⟨ts, hts, htok⟩ := idToken?_eq_some h
  unfold ofBytes
  simp only [hfile, Except.toOption, Option.getD_some, hts, htok, he]

theorem ofBytes_no_email (hfile : Json.parseBytes data = .ok (.obj ffs)) {tok : String}
    (h : idToken? ffs = some tok) {c : Json} (hc : tokenClaims tok = .ok c)
    (he : (c.getString? "email").getD "" = "") : ofBytes data = .error .missingEmail := by
  obtain ⟨ts, hts, htok⟩ := idToken?_eq_some h
  unfold ofBytes
  simp only [hfile, Except.toOption, Option.getD_some, hts, htok, hc, he, if_true]

/-- **A credential whose id token carries encoded claims yields their identity**: the email, the
subject when it is a string, and the first non-empty of the string account ids of the tokens, of
the file and of the nested claim. -/
theorem ofBytes_encoded_claims (hfile : Json.parseBytes data = .ok (.obj ffs))
    {ts fs : List (String × Json)} {tok s0 seg email : String} {more : List String} {p : List UInt8}
    (htokens : (Json.obj ffs).get? "tokens" = some (.obj ts))
    (htok : (Json.obj ts).getString? "id_token" = some tok)
    (hseg : tokenSegments tok = s0 :: seg :: more)
    (henc : Utf8.bytesOf seg = Base64.encode p ∨ Utf8.bytesOf seg = Base64.padded (Base64.encode p))
    (hp : Json.parseBytes p = .ok (.obj fs)) (hfit : Json.NumbersFit (.obj fs))
    (hemail : (Json.obj fs).getString? "email" = some email) (hne : email ≠ "") :
    ofBytes data = .ok ⟨email, ((Json.obj fs).getString? "sub").getD "",
      firstNonEmpty [((Json.obj ts).getString? "account_id").getD "",
        ((Json.obj ffs).getString? "account_id").getD "",
        (((Json.obj fs).get? "https://api.openai.com/auth").bind
          (·.getString? "chatgpt_account_id")).getD ""]⟩ := by
  obtain ⟨c, hc⟩ := Option.isSome_iff_exists.1 hfit.isSome_generic
  have hnest := Json.nested_getString?_generic hfit hc "https://api.openai.com/auth" "chatgpt_account_id"
  unfold ofBytes
  simp only [hfile, Except.toOption, Option.getD_some, htokens, htok,
    tokenClaims_encoded hseg henc hp hc, Json.getString?_generic hfit hc, hemail, hne, if_false]
  -- the nested account id, found or not
  cases hn : c.get? "https://api.openai.com/auth" <;> rw [hn] at hnest <;> simp [← hnest]

end Identity

/-- **What decoding a credential gives.** A file whose id token's second segment is the base64url
text, padded or not, of a claims object whose numbers all read as finite doubles, and whose email
claim is a non-empty string, yields the email, the subject when it is a string, and the first
non-empty string account id of the tokens, the file and the nested claim. Any other content fails
at its first failing stage: not an object, no string id token, a malformed token, no email. -/
theorem credential_identity_decoding :
    (∀ {data : List UInt8} {ffs ts fs : List (String × Json)} {tok s0 seg email : String}
        {more : List String} {p : List UInt8},
      Json.parseBytes data = .ok (.obj ffs) → (Json.obj ffs).get? "tokens" = some (.obj ts) →
      (Json.obj ts).getString? "id_token" = some tok → tokenSegments tok = s0 :: seg :: more →
      (Utf8.bytesOf seg = Base64.encode p ∨ Utf8.bytesOf seg = Base64.padded (Base64.encode p)) →
      Json.parseBytes p = .ok (.obj fs) → Json.NumbersFit (.obj fs) →
      (Json.obj fs).getString? "email" = some email → email ≠ "" →
      Identity.ofBytes data = .ok ⟨email, ((Json.obj fs).getString? "sub").getD "",
        firstNonEmpty [((Json.obj ts).getString? "account_id").getD "",
          ((Json.obj ffs).getString? "account_id").getD "",
          (((Json.obj fs).get? "https://api.openai.com/auth").bind
            (·.getString? "chatgpt_account_id")).getD ""]⟩) ∧
    ∀ data : List UInt8,
      ((∀ ffs, Json.parseBytes data ≠ .ok (.obj ffs)) →
        ∃ d, Identity.ofBytes data = .error (.invalidJson d)) ∧
      ∀ ffs, Json.parseBytes data = .ok (.obj ffs) →
        (idToken? ffs = none → Identity.ofBytes data = .error .missingToken) ∧
        ∀ tok, idToken? ffs = some tok →
          (∀ e, tokenClaims tok = .error e →
            Identity.ofBytes data = .error e ∧ ∃ d, e = .invalidToken d) ∧
          ∀ c, tokenClaims tok = .ok c → (c.getString? "email").getD "" = "" →
            Identity.ofBytes data = .error .missingEmail :=
  ⟨fun hfile htokens htok hseg henc hp hfit hemail hne =>
      Identity.ofBytes_encoded_claims hfile htokens htok hseg henc hp hfit hemail hne,
    fun _ => ⟨Identity.ofBytes_not_object, fun _ hfile =>
      ⟨Identity.ofBytes_no_token hfile, fun _ htok =>
        ⟨fun _ he => ⟨Identity.ofBytes_bad_token hfile htok he, tokenClaims_error he⟩,
          fun _ hc hemail => Identity.ofBytes_no_email hfile htok hc hemail⟩⟩⟩⟩

/-- The claims of the sample credential: an email and a subject. -/
def sampleClaims : List (String × Json) := [("email", .str "a@x.com"), ("sub", .str "u1")]

/-- The id token of the sample credential, its second segment encoding `sampleClaims`. -/
def sampleToken : String := "h.eyJlbWFpbCI6ImFAeC5jb20iLCJzdWIiOiJ1MSJ9.s"

/-- The tokens object of the sample credential. -/
def sampleTokens : List (String × Json) := [("id_token", .str sampleToken), ("account_id", .str "acct")]

theorem sample_credential_identity :
    Identity.ofBytes (Utf8.bytesOf ("\x7b\"tokens\":\x7b\"id_token\":\"" ++ sampleToken ++
      "\",\"account_id\":\"acct\"\x7d\x7d")) =
      .ok ⟨"a@x.com", ((Json.obj sampleClaims).getString? "sub").getD "",
        firstNonEmpty [((Json.obj sampleTokens).getString? "account_id").getD "",
          ((Json.obj [("tokens", .obj sampleTokens)]).getString? "account_id").getD "",
          (((Json.obj sampleClaims).get? "https://api.openai.com/auth").bind
            (·.getString? "chatgpt_account_id")).getD ""]⟩ := by
  have hfile : Json.parseBytes (Utf8.bytesOf ("\x7b\"tokens\":\x7b\"id_token\":\"" ++ sampleToken ++
      "\",\"account_id\":\"acct\"\x7d\x7d")) = .ok (.obj [("tokens", .obj sampleTokens)]) := by
    decide +kernel
  have hseg : tokenSegments sampleToken = ["h", "eyJlbWFpbCI6ImFAeC5jb20iLCJzdWIiOiJ1MSJ9", "s"] := by
    decide +kernel
  have henc : Utf8.bytesOf "eyJlbWFpbCI6ImFAeC5jb20iLCJzdWIiOiJ1MSJ9" =
      Base64.encode (Utf8.bytesOf "\x7b\"email\":\"a@x.com\",\"sub\":\"u1\"\x7d") := by
    decide +kernel
  have hp : Json.parseBytes (Utf8.bytesOf "\x7b\"email\":\"a@x.com\",\"sub\":\"u1\"\x7d") =
      .ok (.obj sampleClaims) := by
    decide +kernel
  have hfit : Json.NumbersFit (.obj sampleClaims) := .obj fun q hq => by
    simp only [sampleClaims, List.mem_cons, List.not_mem_nil, or_false] at hq
    rcases hq with rfl | rfl <;> exact .str _
  exact credential_identity_decoding.1 hfile rfl rfl hseg (.inl henc) hp hfit rfl (by decide)

/-- **A number beyond the doubles spoils the claims**: a token encoding claims with the email
`a@x.com` and a number `1e400` is refused as malformed, as the claims cannot be read. -/
theorem out_of_range_number_spoils_claims :
    tokenSegments "h.eyJlbWFpbCI6ImFAeC5jb20iLCJuIjoxZTQwMH0.s" =
        ["h", "eyJlbWFpbCI6ImFAeC5jb20iLCJuIjoxZTQwMH0", "s"] ∧
      Utf8.bytesOf "eyJlbWFpbCI6ImFAeC5jb20iLCJuIjoxZTQwMH0" =
        Base64.encode (Utf8.bytesOf "\x7b\"email\":\"a@x.com\",\"n\":1e400\x7d") ∧
      Json.parseBytes (Utf8.bytesOf "\x7b\"email\":\"a@x.com\",\"n\":1e400\x7d") =
        .ok (.obj [("email", .str "a@x.com"), ("n", .num "1e400")]) ∧
      Identity.ofBytes (Utf8.bytesOf
        "\x7b\"tokens\":\x7b\"id_token\":\"h.eyJlbWFpbCI6ImFAeC5jb20iLCJuIjoxZTQwMH0.s\"\x7d\x7d") =
        .error (.invalidToken "payload is not a JSON object") :=
  ⟨by decide +kernel, by decide +kernel, by decide +kernel, by decide +kernel⟩

end QuotaWatch
