import Mathlib.Tactic

/-!
The stored form of a local account's password (`shared/util/PasswordHash.cpp`).

* `Digests`: the two digests the library computes. A call of it may fail, which
  the caller's `kdf` says.
* `parseStored`: a value of the current format, taken apart.
* `hashPassword`, `verifyPassword`, `needsRehash`, `generateSalt`: the interface.
* `verifyPassword_hashPassword`, `needsRehash_hashPassword`: a value made here
  verifies exactly the passwords of its digest, and is up to date.
-/

namespace Pretzel.Util

/-- PBKDF2 of a password and a salt at a cost, and SHA-256 of a text. -/
structure Digests where
  pbkdf2 : String → String → ℕ → Vector UInt8 32
  sha256 : String → Vector UInt8 32

/-- The two digits of a byte. -/
def hexDigits (b : UInt8) : List Char :=
  [Nat.digitChar (b.toNat / 16), Nat.digitChar (b.toNat % 16)]

/-- `toHex`. -/
def toHex (data : List UInt8) : String := String.ofList (data.flatMap hexDigits)

/-- `kPrefix`. -/
def kPrefix : List Char := ['p', 'b', 'k', 'd', 'f', '2', '$']

/-- `kPbkdf2Iterations`. -/
def kPbkdf2Iterations : ℤ := 210000

/-- `pbkdf2Hex`. -/
def pbkdf2Hex (D : Digests) (kdf : Bool) (password salt : String) (iterations : ℤ) : String :=
  if iterations ≤ 0 then ""
  else if !kdf then ""
  else toHex (D.pbkdf2 password salt iterations.toNat).toList

/-- `legacySha256Hex`. -/
def legacySha256Hex (D : Digests) (kdf : Bool) (password salt : String) : String :=
  if !kdf then "" else toHex (D.sha256 (password ++ salt)).toList

/-- `atoi` of a text of digits: `strtol`, which stops at the largest `long`, cut
to an `int`. -/
def atoi (digits : List Char) : ℤ :=
  let n := digits.foldl (fun n c => n * 10 + (c.toNat - '0'.toNat)) 0
  Int.bmod (min n (2 ^ 63 - 1) : ℕ) (2 ^ 32)

/-- `parseStored`: the cost and the digest of a value of the current format. -/
def parseStored (stored : String) : Option (ℤ × String) :=
  if kPrefix.isPrefixOf stored.toList then
    let rest := stored.toList.drop kPrefix.length
    match rest.dropWhile (· ≠ '$') with
    | [] => none
    | _ :: hex =>
        let costStr := rest.takeWhile (· ≠ '$')
        if costStr = [] || !costStr.all Char.isDigit then none
        else if 0 < atoi costStr && hex ≠ [] then some (atoi costStr, String.ofList hex)
        else none
  else none

/-- `hashPassword`. -/
def hashPassword (D : Digests) (kdf : Bool) (password salt : String) : String :=
  let hex := pbkdf2Hex D kdf password salt kPbkdf2Iterations
  if hex = "" then "" else String.ofList (kPrefix ++ "210000$".toList ++ hex.toList)

/-- `verifyPassword`. -/
def verifyPassword (D : Digests) (kdf : Bool) (password salt stored : String) : Bool :=
  if stored = "" then false
  else
    match parseStored stored with
    | some (iterations, expected) =>
        let actual := pbkdf2Hex D kdf password salt iterations
        actual ≠ "" && actual = expected
    | none =>
        let legacy := legacySha256Hex D kdf password salt
        legacy ≠ "" && legacy = stored

/-- `needsRehash`. -/
def needsRehash (stored : String) : Bool :=
  match parseStored stored with
  | none => true
  | some (iterations, _) => iterations < kPbkdf2Iterations

/-- `generateSalt`, of the bytes the generator gives, if it does. -/
def generateSalt (random : Option (Vector UInt8 16)) : String :=
  match random with
  | none => ""
  | some buf => toHex buf.toList

/-! ### What is made here -/

variable {D : Digests} {password salt stored : String}

lemma toHex_ne_empty {b : UInt8} {data : List UInt8} : toHex (b :: data) ≠ "" := by
  intro h
  have hlist : (toHex (b :: data)).toList = [] := by rw [h]; rfl
  simp [toHex, hexDigits] at hlist

lemma toHex_vector_ne_empty {n : ℕ} (v : Vector UInt8 (n + 1)) : toHex v.toList ≠ "" := by
  cases hv : v.toList with
  | nil => simpa [hv] using v.length_toList
  | cons b data => exact toHex_ne_empty

lemma digitChar_inj : ∀ m n : Fin 16, Nat.digitChar m = Nat.digitChar n → m = n := by decide

lemma hexDigits_injective : Function.Injective hexDigits := by
  intro a b h
  have ha := a.toNat_lt
  have hb := b.toNat_lt
  have hpair : Nat.digitChar (a.toNat / 16) = Nat.digitChar (b.toNat / 16) ∧
      Nat.digitChar (a.toNat % 16) = Nat.digitChar (b.toNat % 16) := by
    simpa [hexDigits] using h
  have hhigh : a.toNat / 16 = b.toNat / 16 := congrArg Fin.val
    (digitChar_inj ⟨a.toNat / 16, by omega⟩ ⟨b.toNat / 16, by omega⟩ hpair.1)
  have hlow : a.toNat % 16 = b.toNat % 16 := congrArg Fin.val
    (digitChar_inj ⟨a.toNat % 16, by omega⟩ ⟨b.toNat % 16, by omega⟩ hpair.2)
  exact UInt8.toNat_inj.mp (by omega)

lemma toHex_injective : Function.Injective toHex := by
  intro xs ys h
  have hlist : xs.flatMap hexDigits = ys.flatMap hexDigits := by
    simpa [toHex] using congrArg String.toList h
  clear h
  induction xs generalizing ys with
  | nil =>
      cases ys with
      | nil => rfl
      | cons y ys => simp [hexDigits] at hlist
  | cons x xs ih =>
      cases ys with
      | nil => simp [hexDigits] at hlist
      | cons y ys =>
          rw [List.flatMap_cons, List.flatMap_cons] at hlist
          obtain ⟨hfirst, hrest⟩ := List.append_inj hlist rfl
          rw [hexDigits_injective hfirst, ih hrest]

lemma pbkdf2Hex_current : pbkdf2Hex D true password salt kPbkdf2Iterations =
    toHex (D.pbkdf2 password salt 210000).toList := rfl

lemma pbkdf2Hex_current_ne_empty : pbkdf2Hex D true password salt kPbkdf2Iterations ≠ "" :=
  toHex_vector_ne_empty (n := 31) _

/-- A value made here. -/
lemma hashPassword_true : hashPassword D true password salt =
    String.ofList (kPrefix ++ "210000$".toList ++
      (pbkdf2Hex D true password salt kPbkdf2Iterations).toList) := by
  rw [hashPassword, if_neg pbkdf2Hex_current_ne_empty]

lemma hashPassword_false : hashPassword D false password salt = "" := rfl

lemma hashPassword_true_ne_empty : hashPassword D true password salt ≠ "" := by
  rw [hashPassword_true]
  intro h
  have hlist := congrArg String.toList h
  simp [kPrefix] at hlist

lemma nul_notMem_toHex {data : List UInt8} : '\x00' ∉ (toHex data).toList := by
  have hdigit : ∀ n : Fin 16, Nat.digitChar n ≠ '\x00' := by decide
  rw [toHex, String.toList_ofList, List.mem_flatMap]
  rintro ⟨b, -, hb⟩
  have hlt := b.toNat_lt
  rcases List.mem_cons.mp hb with h | h
  · exact hdigit ⟨b.toNat / 16, by omega⟩ h.symm
  · exact hdigit ⟨b.toNat % 16, by omega⟩ (List.mem_singleton.mp h).symm

lemma nul_notMem_hashPassword : '\x00' ∉ (hashPassword D true password salt).toList := by
  have hhex : '\x00' ∉ (pbkdf2Hex D true password salt kPbkdf2Iterations).toList :=
    nul_notMem_toHex
  rw [hashPassword_true]
  simp [kPrefix, hhex]

/-- **A value made here reads back**, at the current cost. -/
theorem parseStored_hashPassword : parseStored (hashPassword D true password salt) =
    some (kPbkdf2Iterations, pbkdf2Hex D true password salt kPbkdf2Iterations) := by
  have htext : pbkdf2Hex D true password salt kPbkdf2Iterations ≠ "" := pbkdf2Hex_current_ne_empty
  have hne : (pbkdf2Hex D true password salt kPbkdf2Iterations).toList ≠ [] := by simpa using htext
  rw [hashPassword_true]
  generalize pbkdf2Hex D true password salt kPbkdf2Iterations = hex at hne
  have hcost : atoi ['2', '1', '0', '0', '0', '0'] = kPbkdf2Iterations := by decide
  have hpos : 0 < kPbkdf2Iterations := by decide
  simp [parseStored, kPrefix, List.isPrefixOf, List.dropWhile, List.takeWhile, hcost, hpos, hne]

/-- **A value made here is up to date.** -/
theorem needsRehash_hashPassword : needsRehash (hashPassword D true password salt) = false := by
  rw [needsRehash, parseStored_hashPassword]
  rfl

/-- **A value made here verifies exactly the passwords of its digest.** -/
theorem verifyPassword_hashPassword {attempt : String} :
    verifyPassword D true attempt salt (hashPassword D true password salt) = true ↔
      D.pbkdf2 attempt salt 210000 = D.pbkdf2 password salt 210000 := by
  have hverify : verifyPassword D true attempt salt (hashPassword D true password salt) = true ↔
      pbkdf2Hex D true attempt salt kPbkdf2Iterations =
        pbkdf2Hex D true password salt kPbkdf2Iterations := by
    rw [verifyPassword, if_neg hashPassword_true_ne_empty, parseStored_hashPassword]
    simp [pbkdf2Hex_current_ne_empty]
  rw [hverify, pbkdf2Hex_current, pbkdf2Hex_current]
  constructor
  · intro h
    exact Vector.toList_inj.mp (toHex_injective h)
  · intro h
    rw [h]

/-- The password a value was made from verifies. -/
lemma verifyPassword_self :
    verifyPassword D true password salt (hashPassword D true password salt) = true :=
  verifyPassword_hashPassword.mpr rfl

end Pretzel.Util
