import Pretzel.Collectord.ApiService
import Pretzel.Collectord.CredentialController
import Pretzel.Ipc.Protocol

/-!
The answer with the stored keys, and the re-issue of keys
(`collectord/service/api/ApiService.cpp`).

* `cacheKeys`, `handleKeyState`: the answer fills the cache anew.
* `refresh`: one turn of `autoRefreshTick`.
* `foldlM_cacheKey`, `lookup_caches`: the cache that the entries of an answer leave; the
  first entry of an oid that opens is the one kept.
-/

namespace Pretzel.Collectord

open Nlohmann Texts Util Staged Ipc

/-! ### The answer -/

/-- `emplace`, which leaves what is there. -/
def emplace {α : Type} (t : AList fun _ : String => α) (oid : String) (a : α) :
    AList fun _ : String => α :=
  if oid ∈ t then t else t.insert oid a

/-- A blob, opened. -/
def opened (H : Host) (sealed : String) : Option Bytes :=
  if sealed = "" then none else decrypt H.key sealed

/-- An account, opened. -/
def openedAccount (H : Host) (idEnc pwEnc : String) : Option IssuedCredential := do
  let id ← opened H idEnc
  let pw ← opened H pwEnc
  return ⟨id, pw⟩

/-- The members of an entry. -/
structure KeyEntry where
  oid : String
  keyEnc : String
  idEnc : String := ""
  pwEnc : String := ""

/-- An entry goes into the cache. -/
def KeyCache.caches (H : Host) (c : KeyCache) (e : KeyEntry) : KeyCache :=
  { issuedKeys := match opened H e.keyEnc with
      | none => c.issuedKeys
      | some plain => emplace c.issuedKeys e.oid plain
    credentials := match openedAccount H e.idEnc e.pwEnc with
      | none => c.credentials
      | some cred => emplace c.credentials e.oid cred }

/-- One turn of the loop of `cacheKeys`. -/
def cacheKey (H : Host) (c : KeyCache) (k : Json) : Except JsonError KeyCache :=
  if k.isObject then do
    let oid ← k.valueString "oid" ""
    if oid = "" then return c
    else
      let keyEnc ← k.valueString "key_enc" ""
      let idEnc ← k.valueString "id_enc" ""
      let pwEnc ← k.valueString "pw_enc" ""
      return c.caches H { oid, keyEnc, idEnc, pwEnc }
  else .ok c

/-- `cacheKeys`: the cache is moved in when every entry is read. -/
def cacheKeys (H : Host) (payload : Json) (c : KeyCache) : Except JsonError KeyCache := do
  let keys ← payload.valueJson "keys" (.arr [])
  if keys.isArray then keys.elements.foldlM (cacheKey H) {} else return c

/-- `handleKeyState`. -/
def handleKeyState (H : Host) (payload : Payload) (c : KeyCache) : KeyCache :=
  match payload with
  | .empty | .malformed => c
  | .json root => ((cacheKeys H root c).toOption).getD c

/-! ### The re-issue -/

/-- What a turn of `autoRefreshTick` finds of the profile's device. -/
structure RefreshDevice where
  target : String
  deviceType : String
  fingerprint : String

/-- The request of a turn. Its secrets are those the cache has under the oid, and stay
out: `withStored` takes them from there. -/
def refreshInput (p : AuthProfile) (d : RefreshDevice) : Json :=
  .obj [("device_type", .str d.deviceType), ("endpoint", .str p.endpoint),
    ("fingerprint", .str d.fingerprint), ("mode", .str "keygen"), ("oid", .str p.oid),
    ("target", .str d.target)]

/-- The account of the profile is cached, and its device has a target. -/
def refreshes (cache : KeyCache) (p : AuthProfile) (d : RefreshDevice) : Bool :=
  (cache.credentialFor p.oid).isSome && d.target ≠ ""

/-- One turn of `autoRefreshTick`, of a profile that is due. -/
def refresh (H : Host) (m : Moment) (cache : KeyCache) (p : AuthProfile) (d : RefreshDevice) : Step :=
  if refreshes cache p d then runKeygenTest H m cache 0 (refreshInput p d) else .done

/-! ### What the entries leave -/

section Entries

variable {H : Host} {c : KeyCache} {oid : String}

lemma lookup_emplace {α : Type} (t : AList fun _ : String => α) (other : String) (a : α) :
    (emplace t other a).lookup oid = (t.lookup oid).or (if oid = other then some a else none) := by
  rw [emplace]
  by_cases hmem : other ∈ t
  · rw [if_pos hmem]
    split
    · next heq =>
        subst heq
        obtain ⟨v, hv⟩ := Option.isSome_iff_exists.mp (AList.lookup_isSome.mpr hmem)
        rw [hv]
        rfl
    · exact (Option.or_none).symm
  · rw [if_neg hmem]
    split
    · next heq =>
        subst heq
        rw [AList.lookup_insert, AList.lookup_eq_none.mpr hmem]
        rfl
    · next hne => rw [AList.lookup_insert_ne hne, Option.or_none]

/-- The key under an oid, after an entry. -/
lemma lookup_issuedKeys_caches (e : KeyEntry) :
    (c.caches H e).issuedKeys.lookup oid
      = (c.issuedKeys.lookup oid).or (if oid = e.oid then opened H e.keyEnc else none) := by
  rw [KeyCache.caches]
  dsimp only
  cases opened H e.keyEnc with
  | none => rw [ite_self, Option.or_none]
  | some plain => exact lookup_emplace _ _ _

/-- The account under an oid, after an entry. -/
lemma lookup_credentials_caches (e : KeyEntry) :
    (c.caches H e).credentials.lookup oid
      = (c.credentials.lookup oid).or
          (if oid = e.oid then openedAccount H e.idEnc e.pwEnc else none) := by
  rw [KeyCache.caches]
  dsimp only
  cases openedAccount H e.idEnc e.pwEnc with
  | none => rw [ite_self, Option.or_none]
  | some cred => exact lookup_emplace _ _ _

/-- **The first entry of an oid that opens is kept.** -/
lemma lookup_caches (es : List KeyEntry) :
    (es.foldl (KeyCache.caches H) c).issuedKeys.lookup oid = (c.issuedKeys.lookup oid).or
        (es.findSome? fun e => if oid = e.oid then opened H e.keyEnc else none) ∧
      (es.foldl (KeyCache.caches H) c).credentials.lookup oid = (c.credentials.lookup oid).or
        (es.findSome? fun e => if oid = e.oid then openedAccount H e.idEnc e.pwEnc else none) := by
  induction es generalizing c with
  | nil => exact ⟨Option.or_none.symm, Option.or_none.symm⟩
  | cons e es ih =>
      obtain ⟨hkeys, hcreds⟩ := @ih (c.caches H e)
      rw [List.foldl_cons, hkeys, hcreds, lookup_issuedKeys_caches, lookup_credentials_caches,
        List.findSome?_cons, List.findSome?_cons, Option.or_assoc, Option.or_assoc]
      constructor
      · cases (if oid = e.oid then opened H e.keyEnc else none) <;> rfl
      · cases (if oid = e.oid then openedAccount H e.idEnc e.pwEnc else none) <;> rfl

/-- Documents that are read as entries. -/
lemma foldlM_cacheKey {α : Type} {json : α → Option Json} {entry : α → Option KeyEntry} {l : List α}
    (h : ∀ a ∈ l, (json a = none ∧ entry a = none) ∨ ∃ k e, json a = some k ∧ entry a = some e ∧
      ∀ c, cacheKey H c k = .ok (c.caches H e)) (c : KeyCache) :
    (l.filterMap json).foldlM (cacheKey H) c
      = .ok ((l.filterMap entry).foldl (KeyCache.caches H) c) := by
  induction l generalizing c with
  | nil => rfl
  | cons a l ih =>
      obtain ⟨ha, hl⟩ := List.forall_mem_cons.mp h
      rcases ha with ⟨hjson, hentry⟩ | ⟨k, e, hjson, hentry, hread⟩
      · rw [List.filterMap_cons_none hjson, List.filterMap_cons_none hentry]
        exact ih hl c
      · rw [List.filterMap_cons_some hjson, List.filterMap_cons_some hentry, List.foldlM_cons,
          hread]
        exact ih hl (c.caches H e)

end Entries

end Pretzel.Collectord
