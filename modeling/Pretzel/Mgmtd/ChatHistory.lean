import Mathlib.Data.String.Basic
import Pretzel.Library.LongestSuffix
import Pretzel.Mgmtd.ChatController

/-!
The history of a chat request, which `parseHistory` trims to the turns that
matter: those at its end, so many of them and so many characters.

* `validTurns`: the turns of a history that may be kept. `Fits`: the two caps.
* `parseHistory_eq_ok_iff`: what a history is read as. The characters are counted
  before the turns beyond the first cap leave, and not counted down for them.
* `parseHistory_longest_iff`: **the longest suffix that fits is what is read exactly
  when the turns beyond the first cap take nothing from the second.**
-/

namespace Pretzel.Mgmtd

open Nlohmann LongestSuffix

/-! ### What may be kept -/

/-- The turn of an entry: an object, of one of the two roles, with a content that
is not too long. -/
def validTurn (entry : Json) : Option ChatTurn :=
  match entry.find? "role", entry.find? "content" with
  | some (.str role), some (.str content) =>
      if (role = "user" ∨ role = "assistant") ∧ content ≠ "" ∧
          content.utf8ByteSize ≤ kMaxMessageChars then some ⟨role, content⟩
      else none
  | _, _ => none

/-- The valid turns of a history. -/
def validTurns (input : Json) : List ChatTurn :=
  match input.find? "history" with
  | some (.arr entries) => entries.filterMap validTurn
  | _ => []

/-- The content of some turns, in bytes. -/
def contentSize (turns : List ChatTurn) : ℕ := (turns.map fun t => t.content.utf8ByteSize).sum

/-- The turns keep within the two caps. -/
def Fits (turns : List ChatTurn) : Prop :=
  turns.length ≤ kMaxHistoryTurns ∧ contentSize turns ≤ kMaxHistoryChars

instance : DecidablePred Fits := fun turns =>
  inferInstanceAs (Decidable (turns.length ≤ kMaxHistoryTurns ∧
    contentSize turns ≤ kMaxHistoryChars))

/-- An entry that is no object, or one with texts for its role and its content. -/
def ReadableTurn (entry : Json) : Prop :=
  entry.isObject = true →
    entry.stringOrAbsent "role" = true ∧ entry.stringOrAbsent "content" = true

/-- Each entry of the history is readable. -/
def ReadableHistory (input : Json) : Prop :=
  ∀ entries, input.find? "history" = some (.arr entries) → ∀ entry ∈ entries, ReadableTurn entry

/-- The turns beyond the first cap. -/
def olderTurns (turns : List ChatTurn) : List ChatTurn :=
  turns.take (turns.length - kMaxHistoryTurns)

/-- The turns within it. -/
def recentTurns (turns : List ChatTurn) : List ChatTurn :=
  turns.drop (turns.length - kMaxHistoryTurns)

/-! ### What is read -/

lemma validTurn_of_not_isObject {entry : Json} (h : entry.isObject = false) :
    validTurn entry = none := by
  cases entry with
  | obj ms => cases h
  | _ => rfl

/-- An object with texts, by what these are. -/
lemma validTurn_of_readable {entry : Json} (hrole : entry.stringOrAbsent "role" = true)
    (hcontent : entry.stringOrAbsent "content" = true) :
    validTurn entry =
      if entry.textOr "content" "" = "" ∨
          (entry.textOr "role" "" ≠ "user" ∧ entry.textOr "role" "" ≠ "assistant") then none
      else if (entry.textOr "content" "").utf8ByteSize > kMaxMessageChars then none
      else some ⟨entry.textOr "role" "", entry.textOr "content" ""⟩ := by
  rcases Json.find?_of_stringOrAbsent hrole with hr | ⟨role, hr⟩
  · have htext : entry.textOr "role" "" = "" := by rw [Json.textOr, hr]
    rw [validTurn, hr, htext, if_pos (.inr ⟨by decide, by decide⟩)]
  · rw [validTurn, hr, Json.textOr_of_find? hr]
    rcases Json.find?_of_stringOrAbsent hcontent with hc | ⟨content, hc⟩
    · have htext : entry.textOr "content" "" = "" := by rw [Json.textOr, hc]
      rw [hc, htext, if_pos (.inl rfl)]
    · rw [hc, Json.textOr_of_find? hc]
      grind

/-- An entry is read as the turn it is, where it is readable. -/
lemma historyTurn_eq_ok_iff {entry : Json} {r : Option ChatTurn} :
    historyTurn entry = .ok r ↔ ReadableTurn entry ∧ r = validTurn entry := by
  rw [historyTurn, ReadableTurn]
  cases hobj : entry.isObject with
  | false =>
      rw [if_pos (by rfl), validTurn_of_not_isObject hobj]
      constructor
      · intro h
        cases h
        exact ⟨fun h => absurd h Bool.false_ne_true, rfl⟩
      · rintro ⟨-, rfl⟩
        rfl
  | true =>
      rw [if_neg (by simp), except_bind_eq_ok]
      simp only [forall_const]
      constructor
      · rintro ⟨role, hr, h⟩
        obtain ⟨content, hc, h⟩ := except_bind_eq_ok.mp h
        obtain ⟨hrole, rfl⟩ := (Json.valueString_eq_ok_iff hobj).mp hr
        obtain ⟨hcontent, rfl⟩ := (Json.valueString_eq_ok_iff hobj).mp hc
        refine ⟨⟨hrole, hcontent⟩, ?_⟩
        rw [validTurn_of_readable hrole hcontent]
        split_ifs at h ⊢ <;> cases h <;> rfl
      · rintro ⟨⟨hrole, hcontent⟩, rfl⟩
        refine ⟨_, (Json.valueString_eq_ok_iff hobj).mpr ⟨hrole, rfl⟩, ?_⟩
        refine except_bind_eq_ok.mpr
          ⟨_, (Json.valueString_eq_ok_iff hobj).mpr ⟨hcontent, rfl⟩, ?_⟩
        rw [validTurn_of_readable hrole hcontent]
        split_ifs <;> rfl

@[simp]
lemma contentSize_nil : contentSize [] = 0 := rfl

@[simp]
lemma contentSize_cons (t : ChatTurn) (ts : List ChatTurn) :
    contentSize (t :: ts) = t.content.utf8ByteSize + contentSize ts := rfl

lemma contentSize_append (ts ts' : List ChatTurn) :
    contentSize (ts ++ ts') = contentSize ts + contentSize ts' := by
  simp [contentSize]

/-- A suffix has no more content. -/
lemma contentSize_le_of_suffix {ts ts' : List ChatTurn} (h : ts' <:+ ts) :
    contentSize ts' ≤ contentSize ts := by
  obtain ⟨front, rfl⟩ := h
  rw [contentSize_append]
  omega

/-- The second loop, where so much is counted beyond the turns it looks at. -/
lemma trimChars_eq (older : ℕ) (ts : List ChatTurn) :
    trimChars (older + contentSize ts) ts =
      longestSuffix (fun r => older + contentSize r ≤ kMaxHistoryChars) ts := by
  induction ts with
  | nil => rfl
  | cons t ts ih =>
      rw [trimChars, longestSuffix]
      split
      · next hover =>
          rw [if_neg (by omega), ← ih, contentSize_cons]
          congr 1
          omega
      · next hfits => rw [if_pos (by omega)]

lemma contentSize_older_recent (turns : List ChatTurn) :
    contentSize turns = contentSize (olderTurns turns) + contentSize (recentTurns turns) := by
  rw [← contentSize_append, olderTurns, recentTurns, List.take_append_drop]

/-- **What a history is read as**: the last turns, shortened until their content and
that of the turns before them keep within the second cap. -/
theorem parseHistory_eq_ok_iff {input : Json} {turns : List ChatTurn} :
    parseHistory input = .ok turns ↔ ReadableHistory input ∧
      turns = longestSuffix
        (fun r => contentSize (olderTurns (validTurns input)) + contentSize r ≤ kMaxHistoryChars)
        (recentTurns (validTurns input)) := by
  have hother (h : ∀ entries, input.find? "history" ≠ some (.arr entries))
      (hparse : parseHistory input = .ok []) (hvalid : validTurns input = []) :
      parseHistory input = .ok turns ↔ ReadableHistory input ∧
        turns = longestSuffix
          (fun r => contentSize (olderTurns (validTurns input)) + contentSize r ≤
            kMaxHistoryChars) (recentTurns (validTurns input)) := by
    have hreadable : ReadableHistory input := fun entries hfind => absurd hfind (h entries)
    rw [hparse, hvalid]
    simp [hreadable, recentTurns, longestSuffix, eq_comm]
  cases hfind : input.find? "history" with
  | none =>
      exact hother (by simp [hfind]) (by simp [parseHistory, hfind]) (by simp [validTurns, hfind])
  | some history =>
      cases history with
      | arr entries =>
          have hvalid : validTurns input = entries.filterMap validTurn := by
            rw [validTurns, hfind]
          have hreadable : ReadableHistory input ↔ ∀ e ∈ entries, ReadableTurn e := by
            simp [ReadableHistory, hfind]
          have hparse : parseHistory input = (do
              let turns ← Json.readEach historyTurn entries
              return trimChars (contentSize turns) (recentTurns turns)) := by
            rw [parseHistory, hfind]
            rfl
          rw [hparse, hreadable, except_bind_eq_ok]
          constructor
          · rintro ⟨read, hread, h⟩
            obtain ⟨hentries, rfl⟩ :=
              (Json.readEach_eq_ok_iff fun e r => historyTurn_eq_ok_iff).mp hread
            cases h
            rw [← hvalid, contentSize_older_recent, trimChars_eq]
            exact ⟨hentries, rfl⟩
          · rintro ⟨hentries, rfl⟩
            refine ⟨_, (Json.readEach_eq_ok_iff fun e r => historyTurn_eq_ok_iff).mpr
              ⟨hentries, rfl⟩, ?_⟩
            rw [← hvalid, contentSize_older_recent, trimChars_eq]
            rfl
      | _ =>
          exact hother (by simp [hfind]) (by simp [parseHistory, hfind])
            (by simp [validTurns, hfind])

/-! ### The longest suffix -/

/-- The longest suffix that fits, by the one cap and then the other. -/
lemma longestSuffix_fits (turns : List ChatTurn) :
    longestSuffix Fits turns =
      longestSuffix (fun r => contentSize r ≤ kMaxHistoryChars) (recentTurns turns) := by
  have hlength : ∀ r r' : List ChatTurn, r' <:+ r → r.length ≤ kMaxHistoryTurns →
      r'.length ≤ kMaxHistoryTurns := fun r r' hsuffix h => hsuffix.length_le.trans h
  rw [recentTurns, ← longestSuffix_length]
  exact longestSuffix_and hlength turns

/-- **The longest suffix of the valid turns that keeps within the caps is what a
history is read as exactly when its entries are readable and no turns within the
first cap keep within the second only without those beyond the first.** -/
theorem parseHistory_longest_iff (input : Json) :
    (∃ turns, parseHistory input = .ok turns ∧ IsLongestSuffix Fits (validTurns input) turns) ↔
      ReadableHistory input ∧
        ∀ r, r <:+ recentTurns (validTurns input) → r ≠ [] → contentSize r ≤ kMaxHistoryChars →
          contentSize (olderTurns (validTurns input)) + contentSize r ≤ kMaxHistoryChars := by
  have hnil : Fits [] := ⟨Nat.zero_le _, Nat.zero_le _⟩
  have hlongest : ∀ turns, IsLongestSuffix Fits (validTurns input) turns ↔
      turns = longestSuffix Fits (validTurns input) := by
    intro turns
    constructor
    · intro h
      exact h.eq
    · rintro rfl
      exact isLongestSuffix_longestSuffix hnil _
  rw [← longestSuffix_eq_iff (by intro r h; omega)
    (by intro r r' hsuffix h; have := contentSize_le_of_suffix hsuffix; omega),
    ← longestSuffix_fits]
  constructor
  · rintro ⟨turns, hparse, hturns⟩
    obtain ⟨hreadable, hread⟩ := parseHistory_eq_ok_iff.mp hparse
    rw [hlongest] at hturns
    exact ⟨hreadable, hread.symm.trans hturns⟩
  · rintro ⟨hreadable, heq⟩
    exact ⟨_, parseHistory_eq_ok_iff.mpr ⟨hreadable, rfl⟩, (hlongest _).mpr heq⟩

/-- An entry of a user's turn. -/
def userEntry (content : String) : Json := .obj [("content", .str content), ("role", .str "user")]

/-- Two turns of a content, the first beyond the first cap, and nineteen short
ones. -/
def crowdedHistory (content : String) : Json :=
  .obj [("history", .arr (userEntry content :: userEntry content ::
    List.replicate 19 (userEntry "a")))]

lemma validTurn_userEntry {content : String} (hne : content ≠ "")
    (hsize : content.utf8ByteSize ≤ kMaxMessageChars) :
    validTurn (userEntry content) = some ⟨"user", content⟩ := by
  rw [validTurn]
  exact if_pos ⟨.inl rfl, hne, hsize⟩

lemma olderTurns_crowded (t u v : ChatTurn) : olderTurns (t :: u :: List.replicate 19 v) = [t] :=
  rfl

lemma recentTurns_crowded (t u v : ChatTurn) :
    recentTurns (t :: u :: List.replicate 19 v) = u :: List.replicate 19 v := rfl

section Crowded

variable {content : String} (hsize : content.utf8ByteSize = kMaxMessageChars)

include hsize

lemma validTurns_crowdedHistory : validTurns (crowdedHistory content) =
    ⟨"user", content⟩ :: ⟨"user", content⟩ :: List.replicate 19 ⟨"user", "a"⟩ := by
  have hlong : validTurn (userEntry content) = some ⟨"user", content⟩ := by
    refine validTurn_userEntry ?_ (le_of_eq hsize)
    rintro rfl
    cases hsize
  have hshort : validTurn (userEntry "a") = some ⟨"user", "a"⟩ :=
    validTurn_userEntry (by decide) (by decide)
  have hentries : validTurns (crowdedHistory content) = (userEntry content :: userEntry content ::
    List.replicate 19 (userEntry "a")).filterMap validTurn := rfl
  rw [hentries, List.filterMap_cons, hlong, List.filterMap_cons, hlong,
    List.filterMap_replicate_of_some hshort]

/-- Of two contents as long as a message may be, the first leaves for the number of
turns, and the second for the characters of the first. -/
lemma crowded_not_longest : ¬∃ turns, parseHistory (crowdedHistory content) = .ok turns ∧
    IsLongestSuffix Fits (validTurns (crowdedHistory content)) turns := by
  rintro ⟨turns, hparse, hlongest⟩
  obtain ⟨-, hturns⟩ := parseHistory_eq_ok_iff.mp hparse
  have hvalid := validTurns_crowdedHistory hsize
  have holder : contentSize (olderTurns (validTurns (crowdedHistory content))) =
      kMaxMessageChars := by
    rw [hvalid, olderTurns_crowded, contentSize_cons, contentSize_nil, hsize, Nat.add_zero]
  have hshort : contentSize (List.replicate 19 ⟨"user", "a"⟩) = 19 := by decide
  have hrecent : contentSize (recentTurns (validTurns (crowdedHistory content))) =
      kMaxMessageChars + 19 := by
    rw [hvalid, recentTurns_crowded, contentSize_cons, hsize, hshort]
  have hcaps : kMaxHistoryChars = kMaxMessageChars + kMaxMessageChars := rfl
  have hmessage : 19 < kMaxMessageChars := by decide
  have hfits : Fits (recentTurns (validTurns (crowdedHistory content))) := by
    refine ⟨?_, by omega⟩
    rw [hvalid, recentTurns_crowded]
    simp [kMaxHistoryTurns]
  have hsuffix : recentTurns (validTurns (crowdedHistory content)) <:+
      validTurns (crowdedHistory content) := List.drop_suffix _ _
  have hle := contentSize_le_of_suffix (hlongest.longest _ hsuffix hfits)
  rcases longestSuffix_holds (p := fun r =>
      contentSize (olderTurns (validTurns (crowdedHistory content))) + contentSize r ≤
        kMaxHistoryChars) (recentTurns (validTurns (crowdedHistory content))) with hnil | hwithin
  · rw [hnil] at hturns
    rw [hturns, contentSize_nil] at hle
    omega
  · rw [← hturns] at hwithin
    omega

end Crowded

/-- A content as long as a message may be. -/
def longContent : String := String.ofList (List.replicate kMaxMessageChars 'a')

lemma utf8ByteSize_replicate (n : ℕ) :
    (String.ofList (List.replicate n 'a')).utf8ByteSize = n := by
  rw [String.utf8ByteSize_ofList]
  induction n with
  | zero => rfl
  | succ n ih =>
      rw [List.replicate_succ, String.utf8Len_cons, ih]
      rfl

/-- **The longest suffix is not read**: of two long turns and nineteen short ones the
second long one is left out, which with the short ones keeps within both caps. -/
theorem crowdedHistory_not_longest :
    ¬∃ turns, parseHistory (crowdedHistory longContent) = .ok turns ∧
      IsLongestSuffix Fits (validTurns (crowdedHistory longContent)) turns :=
  crowded_not_longest (utf8ByteSize_replicate kMaxMessageChars)

end Pretzel.Mgmtd
