import Pretzel.Authd.SamlClient
import Pretzel.Library.Texts

/-!
Credentials that have to be handed back (`shared/util/Secret.cpp`): AES-256-GCM
under the master key, stored as `base64(nonce ‖ tag ‖ ciphertext)`.

* `Gcm`: the cipher under a master key. `Gcm.ofStream`: one by its key stream.
* `base64Decode`: characters that are no digit are passed over.
* `MasterKey`, `available`, `encrypt`, `decrypt`: the interface. The random bytes
  of a nonce may not be had, and the cipher may refuse.
* `decrypt_encrypt`: what was sealed opens.
* `encrypt_ne_empty`, `encrypt_no_nul`: the sealed text is a parameter that
  arrives whole.
-/

namespace Pretzel.Util

/-- AES-256-GCM under a key: of a nonce and a plaintext it makes a tag and a
ciphertext, which open again. -/
structure Gcm where
  seals : Vector UInt8 12 → List UInt8 → Vector UInt8 16 × List UInt8
  opens : Vector UInt8 12 → Vector UInt8 16 → List UInt8 → Option (List UInt8)
  opens_seals : ∀ nonce plain,
    opens nonce (seals nonce plain).1 (seals nonce plain).2 = some plain

/-- `masterKey()`, by the cipher under it: none where there is no usable key. -/
abbrev MasterKey := Option Gcm

/-- A key stream over a text, which it does not outlast. -/
def overlay : List UInt8 → List UInt8 → List UInt8
  | _, [] => []
  | [], text => text
  | k :: stream, c :: text => (k ^^^ c) :: overlay stream text

lemma overlay_overlay (stream text : List UInt8) : overlay stream (overlay stream text) = text := by
  induction text generalizing stream with
  | nil => cases stream <;> rfl
  | cons c text ih =>
      cases stream with
      | nil => rfl
      | cons k stream =>
          rw [overlay, overlay, ih, ← UInt8.xor_assoc, UInt8.xor_self, UInt8.zero_xor]

/-- The cipher of a key stream and of its tags. -/
def Gcm.ofStream (stream : Vector UInt8 12 → List UInt8)
    (tag : Vector UInt8 12 → List UInt8 → Vector UInt8 16) : Gcm where
  seals nonce plain := (tag nonce plain, overlay (stream nonce) plain)
  opens nonce t cipher :=
    if tag nonce (overlay (stream nonce) cipher) = t then some (overlay (stream nonce) cipher)
    else none
  opens_seals nonce plain := by rw [overlay_overlay, if_pos rfl]

/-! ### Base 64 -/

/-- A text of base 64, by its characters. -/
def digitsText (digits : List UInt8) : String :=
  String.ofList (digits.map fun b => Char.ofNat b.toNat)

/-- The characters of a text that may be digits. -/
def textDigits (text : String) : List UInt8 :=
  (text.toList.filter fun c => c.toNat < 128).map fun c => UInt8.ofNat c.toNat

/-- `base64Encode`, the code of which is authd's. -/
def base64Encode (data : List UInt8) : String := digitsText (Authd.base64Encode data)

/-- The loop of `base64Decode`: the bytes pushed from here on. -/
def base64Loop : List UInt8 → UInt32 → UInt32 → List UInt8
  | [], _, _ => []
  | c :: rest, buf, bits =>
      if c = 61 then []
      else
        match Authd.base64Val c with
        | none => base64Loop rest buf bits
        | some v =>
            let buf := buf <<< 6 ||| v
            let bits := bits + 6
            if bits ≥ 8 then
              let bits := bits - 8
              (buf >>> bits).toUInt8 :: base64Loop rest buf bits
            else base64Loop rest buf bits

/-- `base64Decode`. -/
def base64Decode (text : String) : List UInt8 := base64Loop (textDigits text) 0 0

/-! ### The interface -/

/-- `available`. -/
def available (key : MasterKey) : Bool := key.isSome

/-- `encrypt`, where the nonce is drawn and the cipher does not refuse, or not. -/
def encrypt (key : MasterKey) (nonce : Option (Vector UInt8 12)) (plaintext : List UInt8) :
    Option String := do
  let gcm ← key
  let nonce ← nonce
  let (tag, cipher) := gcm.seals nonce plaintext
  return base64Encode (nonce.toList ++ tag.toList ++ cipher)

/-- A blob taken apart. -/
def parts (blob : List UInt8) : Option (Vector UInt8 12 × Vector UInt8 16 × List UInt8) :=
  if h : 12 + 16 ≤ blob.length then
    some (⟨(blob.take 12).toArray, by simp; omega⟩,
      ⟨((blob.drop 12).take 16).toArray, by simp; omega⟩, blob.drop (12 + 16))
  else none

/-- `decrypt`. -/
def decrypt (key : MasterKey) (encoded : String) : Option (List UInt8) := do
  let gcm ← key
  let (nonce, tag, cipher) ← parts (base64Decode encoded)
  gcm.opens nonce tag cipher

/-! ### What was sealed opens -/

/-- The digits of a byte string are characters below 128, and none of them is
NUL. -/
lemma base64Encode_bounds {b : UInt8} {data : List UInt8} (h : b ∈ Authd.base64Encode data) :
    0 < b.toNat ∧ b.toNat < 128 := by
  have hdigit : ∀ n : UInt32, 0 < (Authd.base64Char (n &&& 63)).toNat ∧
      (Authd.base64Char (n &&& 63)).toNat < 128 := by
    intro n
    have hall : ∀ k < 64, 0 < (Authd.base64Char (UInt32.ofNat k)).toNat ∧
        (Authd.base64Char (UInt32.ofNat k)).toNat < 128 := by decide
    have hk := hall (n &&& 63).toNat (UInt32.lt_iff_toNat_lt.mp (Authd.digit_lt n))
    rwa [UInt32.ofNat_toNat] at hk
  induction data using Authd.base64Encode.induct with
  | case1 => cases h
  | case2 x =>
      simp only [Authd.base64Encode, List.mem_cons, List.not_mem_nil, or_false] at h
      rcases h with rfl | rfl | rfl | rfl
      · exact hdigit _
      · exact hdigit _
      · decide
      · decide
  | case3 x y =>
      simp only [Authd.base64Encode, List.mem_cons, List.not_mem_nil, or_false] at h
      rcases h with rfl | rfl | rfl | rfl
      · exact hdigit _
      · exact hdigit _
      · exact hdigit _
      · decide
  | case4 x y z rest ih =>
      simp only [Authd.base64Encode, List.mem_cons] at h
      rcases h with rfl | rfl | rfl | rfl | h
      · exact hdigit _
      · exact hdigit _
      · exact hdigit _
      · exact hdigit _
      · exact ih h

lemma toNat_ofNat_of_lt {n : ℕ} (h : n < 128) : (Char.ofNat n).toNat = n := by
  rw [Char.ofNat, dif_pos (Or.inl (by omega))]
  rfl

/-- The characters of digits, read back. -/
lemma textDigits_digitsText {digits : List UInt8} (h : ∀ b ∈ digits, b.toNat < 128) :
    textDigits (digitsText digits) = digits := by
  rw [textDigits, digitsText, String.toList_ofList]
  induction digits with
  | nil => rfl
  | cons b rest ih =>
      have hb : b.toNat < 128 := h b List.mem_cons_self
      have hchar : (Char.ofNat b.toNat).toNat = b.toNat := toNat_ofNat_of_lt hb
      rw [List.map_cons, List.filter_cons_of_pos (by simp [hchar, hb]), List.map_cons, hchar,
        UInt8.ofNat_toNat, ih fun c hc => h c (List.mem_cons_of_mem _ hc)]

/-- Where authd's loop decodes a text, this one decodes the same. -/
lemma base64Loop_of_some {digits data : List UInt8} {buf bits : UInt32}
    (h : Authd.base64Loop digits buf bits = some data) : base64Loop digits buf bits = data := by
  induction digits generalizing buf bits data with
  | nil =>
      cases h
      rfl
  | cons c rest ih =>
      rw [Authd.base64Loop] at h
      rw [base64Loop]
      split at h
      · next hpad =>
          cases h
          rw [if_pos hpad]
      · next hpad =>
          rw [if_neg hpad]
          split at h
          · next hblank =>
              have hval : Authd.base64Val c = none := by
                rcases hblank with rfl | rfl | rfl | rfl <;> decide
              rw [hval]
              exact ih h
          · cases hval : Authd.base64Val c with
            | none =>
                rw [hval] at h
                cases h
            | some v =>
                rw [hval] at h
                dsimp only at h ⊢
                split at h
                · next hfull =>
                    rw [if_pos hfull]
                    obtain ⟨tail, htail, rfl⟩ := Option.map_eq_some_iff.mp h
                    rw [ih htail]
                · next hfull =>
                    rw [if_neg hfull]
                    exact ih h

/-- What is encoded is decoded. -/
lemma base64Decode_base64Encode (data : List UInt8) :
    base64Decode (base64Encode data) = data := by
  rw [base64Decode, base64Encode,
    textDigits_digitsText fun b hb => (base64Encode_bounds hb).2]
  exact base64Loop_of_some (Authd.base64Decode_base64Encode data)

lemma parts_append (nonce : Vector UInt8 12) (tag : Vector UInt8 16) (cipher : List UInt8) :
    parts (nonce.toList ++ tag.toList ++ cipher) = some (nonce, tag, cipher) := by
  have hnonce : nonce.toList.length = 12 := by simp
  have htag : tag.toList.length = 16 := by simp
  have hlen : 12 + 16 ≤ (nonce.toList ++ tag.toList ++ cipher).length := by
    rw [List.length_append, List.length_append, hnonce, htag]
    omega
  rw [parts, dif_pos hlen]
  have htake : (nonce.toList ++ tag.toList ++ cipher).take 12 = nonce.toList := by
    rw [List.append_assoc, List.take_left' hnonce]
  have hmid : ((nonce.toList ++ tag.toList ++ cipher).drop 12).take 16 = tag.toList := by
    rw [List.append_assoc, List.drop_left' hnonce, List.take_left' htag]
  have hrest : (nonce.toList ++ tag.toList ++ cipher).drop (12 + 16) = cipher := by
    rw [List.drop_left' (by rw [List.length_append, hnonce, htag])]
  simp only [htake, hmid, hrest, Vector.toArray_toList]

/-- **What was sealed opens.** -/
theorem decrypt_encrypt {key : MasterKey} {nonce : Option (Vector UInt8 12)}
    {plaintext : List UInt8} {encoded : String} (h : encrypt key nonce plaintext = some encoded) :
    decrypt key encoded = some plaintext := by
  cases key with
  | none => cases h
  | some gcm =>
      cases nonce with
      | none => cases h
      | some nonce =>
          have hencoded : base64Encode (nonce.toList ++ (gcm.seals nonce plaintext).1.toList ++
              (gcm.seals nonce plaintext).2) = encoded := Option.some.inj h
          have hparts : parts (base64Decode encoded) = some
              (nonce, (gcm.seals nonce plaintext).1, (gcm.seals nonce plaintext).2) := by
            rw [← hencoded, base64Decode_base64Encode, parts_append]
          calc decrypt (some gcm) encoded
              = (parts (base64Decode encoded)).bind fun p => gcm.opens p.1 p.2.1 p.2.2 := rfl
            _ = some plaintext := by
                rw [hparts, Option.bind_some]
                exact gcm.opens_seals nonce plaintext

/-- The sealed text, by the blob it encodes. -/
lemma encrypt_eq_some {key : MasterKey} {nonce : Option (Vector UInt8 12)}
    {plaintext : List UInt8} {encoded : String} (h : encrypt key nonce plaintext = some encoded) :
    ∃ blob, blob ≠ [] ∧ encoded = base64Encode blob := by
  cases key with
  | none => cases h
  | some gcm =>
      cases nonce with
      | none => cases h
      | some nonce =>
          refine ⟨nonce.toList ++ (gcm.seals nonce plaintext).1.toList ++
            (gcm.seals nonce plaintext).2, ?_, (Option.some.inj h).symm⟩
          refine List.ne_nil_of_length_pos ?_
          rw [List.length_append, List.length_append, Vector.length_toList]
          omega

/-- A sealed text is not empty. -/
lemma encrypt_ne_empty {key : MasterKey} {nonce : Option (Vector UInt8 12)}
    {plaintext : List UInt8} {encoded : String} (h : encrypt key nonce plaintext = some encoded) :
    encoded ≠ "" := by
  obtain ⟨blob, hblob, rfl⟩ := encrypt_eq_some h
  intro hempty
  have hdigits := congrArg textDigits hempty
  rw [base64Encode, textDigits_digitsText fun b hb => (base64Encode_bounds hb).2] at hdigits
  match blob, hblob with
  | [_], _ => cases hdigits
  | [_, _], _ => cases hdigits
  | _ :: _ :: _ :: _, _ => cases hdigits

/-- A sealed text has no NUL. -/
lemma encrypt_no_nul {key : MasterKey} {nonce : Option (Vector UInt8 12)}
    {plaintext : List UInt8} {encoded : String} (h : encrypt key nonce plaintext = some encoded) :
    '\x00' ∉ encoded.toList := by
  obtain ⟨blob, -, rfl⟩ := encrypt_eq_some h
  intro hmem
  rw [base64Encode, digitsText, String.toList_ofList, List.mem_map] at hmem
  obtain ⟨b, hb, hnul⟩ := hmem
  obtain ⟨hpos, hlt⟩ := base64Encode_bounds hb
  have hchar : (Char.ofNat b.toNat).toNat = b.toNat := toNat_ofNat_of_lt hlt
  rw [hnul] at hchar
  exact absurd hchar.symm (Nat.ne_of_gt hpos)

end Pretzel.Util
