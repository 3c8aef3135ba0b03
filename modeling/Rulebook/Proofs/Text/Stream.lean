import Rulebook.Text.Stream

/-!
# Reading a file piece by piece

Bytes that only begin a character are kept for the next piece. So it does not matter where the
pieces end: the characters are those of all bytes together, and if there are bytes that are no
text, these are the same, though their position is counted anew in every piece.

* `Utf8.outcome_append`: bytes that are text, before others.
* `Utf8.outcome_append_ended`, `Utf8.outcome_append_wrong`: bytes of which the last ones only begin
  a character, and bytes that are no text, before others.
* `TextStream.ofBytes_of_text`, `TextStream.ofBytes_broken`: what reading a file gives.
-/

namespace Rulebook

namespace Utf8

/-! ## One character -/

theorem follow_append {low high value seen n v : Nat} {bytes : List UInt8}
    (h : follow low high value seen n bytes = .ok v) (more : List UInt8) :
    n ≤ bytes.length ∧ follow low high value seen n (bytes ++ more) = .ok v := by
  induction n generalizing low high value seen bytes with
  | zero => exact ⟨Nat.zero_le _, by rw [follow] at h ⊢; exact h⟩
  | succ n ih =>
    cases bytes with
    | nil => cases h
    | cons b bytes =>
      rw [List.cons_append, follow]
      rw [follow] at h
      split at h
      · obtain ⟨hlength, hrest⟩ := ih h
        exact ⟨Nat.succ_le_succ hlength, by rw [if_pos ‹_›]; exact hrest⟩
      · cases h

/-- Bytes that break off are all taken, and what is wrong otherwise is wrong whatever follows. -/
theorem follow_error {low high value seen n taken : Nat} {bytes : List UInt8} {reason : Reason}
    (h : follow low high value seen n bytes = .error (taken, reason)) :
    (reason = .ended → taken = seen + bytes.length) ∧
      (reason ≠ .ended → taken ≤ seen + bytes.length ∧ ∀ more,
        follow low high value seen n (bytes ++ more) = .error (taken, reason)) := by
  induction n generalizing low high value seen bytes with
  | zero => cases h
  | succ n ih =>
    cases bytes with
    | nil =>
      cases h
      exact ⟨fun _ => rfl, fun hreason => absurd rfl hreason⟩
    | cons b bytes =>
      rw [follow] at h
      split at h
      · obtain ⟨hended, hwrong⟩ := ih h
        rw [List.length_cons]
        refine ⟨fun hreason => (hended hreason).trans (by omega), fun hreason => ?_⟩
        obtain ⟨hlength, hmore⟩ := hwrong hreason
        refine ⟨by omega, fun more => ?_⟩
        rw [List.cons_append, follow, if_pos ‹_›]
        exact hmore more
      · cases h
        refine ⟨nofun, fun _ => ⟨Nat.le_add_right _ _, fun more => ?_⟩⟩
        rw [List.cons_append, follow, if_neg ‹_›]

theorem first_append {b : UInt8} {bytes : List UInt8} {c : Char} {n : Nat}
    (h : first b bytes = .ok (c, n)) (more : List UInt8) :
    n ≤ bytes.length ∧ first b (bytes ++ more) = .ok (c, n) := by
  unfold first at h ⊢
  cases hlead : lead b.toNat with
  | whole =>
    rw [hlead] at h
    cases h
    exact ⟨Nat.zero_le _, rfl⟩
  | none =>
    rw [hlead] at h
    cases h
  | before n' low high value =>
    rw [hlead] at h
    dsimp only at h ⊢
    cases hv : follow low high value 1 n' bytes with
    | error e => rw [hv] at h; cases h
    | ok v =>
      rw [hv] at h
      cases h
      obtain ⟨hlength, hmore⟩ := follow_append hv more
      exact ⟨hlength, by rw [hmore]; rfl⟩

theorem first_error {b : UInt8} {bytes : List UInt8} {n : Nat} {reason : Reason}
    (h : first b bytes = .error (n, reason)) :
    (reason = .ended → n = bytes.length + 1) ∧
      (reason ≠ .ended → n ≤ bytes.length + 1 ∧
        ∀ more, first b (bytes ++ more) = .error (n, reason)) := by
  unfold first at h ⊢
  cases hlead : lead b.toNat with
  | whole =>
    rw [hlead] at h
    cases h
  | none =>
    rw [hlead] at h
    cases h
    exact ⟨nofun, fun _ => ⟨Nat.le_add_left _ _, fun more => rfl⟩⟩
  | before n' low high value =>
    rw [hlead] at h
    dsimp only at h ⊢
    cases hv : follow low high value 1 n' bytes with
    | ok v => rw [hv] at h; cases h
    | error e =>
      rw [hv] at h
      cases h
      obtain ⟨hended, hwrong⟩ := follow_error hv
      refine ⟨fun hreason => (hended hreason).trans (Nat.add_comm _ _), fun hreason => ?_⟩
      obtain ⟨hlength, hmore⟩ := hwrong hreason
      exact ⟨by omega, fun more => by rw [hmore]; rfl⟩

/-! ## Many characters -/

/-- Bytes that cannot be read, and why, wherever they are. -/
def DecodeError.what (e : DecodeError) : List UInt8 × Reason := (e.bytes, e.reason)

/-- What reading bytes gives, wherever they are. -/
def outcome (bytes : List UInt8) : List Char × Option (List UInt8 × Reason) :=
  ((decode 0 bytes).1, (decode 0 bytes).2.map DecodeError.what)

/-- The position of the first byte counts in the position of those that cannot be read only. -/
theorem decode_outcome (p q : Nat) (bytes : List UInt8) :
    (decode p bytes).1 = (decode q bytes).1 ∧
      (decode p bytes).2.map DecodeError.what = (decode q bytes).2.map DecodeError.what := by
  induction p, bytes using decode.induct generalizing q with
  | case1 p => simp [decode]
  | case2 p b rest n reason h => simp [decode, h, DecodeError.what]
  | case3 p b rest c n h _ _ _ ih =>
    obtain ⟨hchars, hwhat⟩ := ih (q + n + 1)
    rw [decode, decode, h]
    exact ⟨congrArg (c :: ·) hchars, hwhat⟩

theorem outcome_ok {b : UInt8} {bytes : List UInt8} {c : Char} {n : Nat}
    (h : first b bytes = .ok (c, n)) :
    outcome (b :: bytes) = (c :: (outcome (bytes.drop n)).1, (outcome (bytes.drop n)).2) := by
  obtain ⟨hchars, hwhat⟩ := decode_outcome (0 + n + 1) 0 (bytes.drop n)
  rw [outcome, decode, h]
  exact Prod.ext (congrArg (c :: ·) hchars) hwhat

theorem outcome_error {b : UInt8} {bytes : List UInt8} {n : Nat} {reason : Reason}
    (h : first b bytes = .error (n, reason)) :
    outcome (b :: bytes) = ([], some ((b :: bytes).take n, reason)) := by
  rw [outcome, decode, h]
  rfl

/-- Bytes that are text, before others. -/
theorem outcome_append {bytes : List UInt8} (h : (outcome bytes).2 = none) (more : List UInt8) :
    outcome (bytes ++ more) = ((outcome bytes).1 ++ (outcome more).1, (outcome more).2) := by
  induction 0, bytes using decode.induct with
  | case1 p => simp [outcome, decode]
  | case2 p b rest n reason hfirst =>
    rw [outcome_error hfirst] at h
    cases h
  | case3 p b rest c n hfirst _ _ _ ih =>
    obtain ⟨hlength, hmore⟩ := first_append hfirst more
    rw [outcome_ok hfirst] at h
    rw [List.cons_append, outcome_ok hmore, outcome_ok hfirst,
      List.drop_append_of_le_length hlength, ih h]
    rfl

/-- Bytes of which the last ones only begin a character, before others. -/
theorem outcome_append_ended {bytes ending : List UInt8}
    (h : (outcome bytes).2 = some (ending, .ended)) (more : List UInt8) :
    outcome (bytes ++ more) =
      ((outcome bytes).1 ++ (outcome (ending ++ more)).1, (outcome (ending ++ more)).2) := by
  induction 0, bytes using decode.induct with
  | case1 p => simp [outcome, decode] at h
  | case2 p b rest n reason hfirst =>
    rw [outcome_error hfirst] at h ⊢
    obtain ⟨hending, hreason⟩ := Prod.mk.inj (Option.some.inj h)
    have hall : n = (b :: rest).length := (first_error hfirst).1 hreason
    rw [hall, List.take_length] at hending
    rw [hending]
    rfl
  | case3 p b rest c n hfirst _ _ _ ih =>
    obtain ⟨hlength, hmore⟩ := first_append hfirst more
    rw [outcome_ok hfirst] at h
    rw [List.cons_append, outcome_ok hmore, outcome_ok hfirst,
      List.drop_append_of_le_length hlength, ih h]
    rfl

/-- Bytes that are no text, whatever follows, before others. -/
theorem outcome_append_wrong {bytes wrong : List UInt8} {reason : Reason}
    (h : (outcome bytes).2 = some (wrong, reason)) (hreason : reason ≠ .ended)
    (more : List UInt8) : outcome (bytes ++ more) = outcome bytes := by
  induction 0, bytes using decode.induct with
  | case1 p => simp [outcome, decode] at h
  | case2 p b rest n reason' hfirst =>
    rw [outcome_error hfirst] at h ⊢
    obtain ⟨-, rfl⟩ := Prod.mk.inj (Option.some.inj h)
    obtain ⟨hlength, hmore⟩ := (first_error hfirst).2 hreason
    have htaken : n ≤ (b :: rest).length := hlength
    rw [List.cons_append, outcome_error (hmore more), ← List.cons_append,
      List.take_append_of_le_length htaken]
  | case3 p b rest c n hfirst _ _ _ ih =>
    obtain ⟨hlength, hmore⟩ := first_append hfirst more
    rw [outcome_ok hfirst] at h
    rw [List.cons_append, outcome_ok hmore, outcome_ok hfirst,
      List.drop_append_of_le_length hlength, ih h]

end Utf8

namespace TextStream

open Utf8

/-- What is taken piece by piece is what is read of all bytes together. -/
theorem taken_outcome (kept rest : List UInt8) :
    (taken kept rest).broken?.map DecodeError.what = (outcome (kept ++ rest)).2 ∧
      ((outcome (kept ++ rest)).2 = none →
        (taken kept rest).chars = (outcome (kept ++ rest)).1) := by
  -- What a piece leaves unread is kept, so each case is one of the three ways in which bytes come
  -- before others.
  have hsplit : ∀ kept (b : UInt8) bs, kept ++ b :: bs =
      (kept ++ b :: bs.take (pieceSize - 1)) ++ bs.drop (pieceSize - 1) := fun kept b bs => by
    rw [List.append_assoc, List.cons_append, List.take_append_drop]
  induction kept, rest using taken.induct with
  | case1 kept cs broken? h =>
    rw [taken, List.append_nil]
    exact ⟨rfl, fun _ => rfl⟩
  | case2 kept b bs later cs h ih =>
    have hpiece : (outcome (kept ++ b :: bs.take (pieceSize - 1))) = (cs, none) := by
      rw [outcome, h]
      rfl
    rw [hsplit, outcome_append (congrArg Prod.snd hpiece), hpiece, taken, h]
    exact ⟨ih.1, fun hnone => congrArg (cs ++ ·) (ih.2 hnone)⟩
  | case3 kept b bs later cs e h hreason ih =>
    have hpiece : (outcome (kept ++ b :: bs.take (pieceSize - 1))) =
        (cs, some (e.bytes, .ended)) := by
      rw [outcome, h, ← hreason]
      rfl
    rw [hsplit, outcome_append_ended (congrArg Prod.snd hpiece), hpiece, taken, h]
    dsimp only
    rw [if_pos hreason]
    exact ⟨ih.1, fun hnone => congrArg (cs ++ ·) (ih.2 hnone)⟩
  | case4 kept b bs cs e h hreason =>
    have hpiece : (outcome (kept ++ b :: bs.take (pieceSize - 1))) =
        (cs, some (e.bytes, e.reason)) := by
      rw [outcome, h]
      rfl
    rw [hsplit, outcome_append_wrong (congrArg Prod.snd hpiece) hreason, hpiece, taken, h]
    dsimp only
    rw [if_neg hreason]
    exact ⟨rfl, nofun⟩

/-- A file whose bytes are text gives this text, with its line ends made one. -/
theorem ofBytes_of_text {data : List UInt8} {cs : List Char} (h : decode 0 data = (cs, none)) :
    ofBytes data = ⟨unifyLineEnds cs, none⟩ := by
  obtain ⟨hbroken, hchars⟩ := taken_outcome [] data
  have houtcome : outcome data = (cs, none) := by
    rw [outcome, h]
    rfl
  rw [List.nil_append, houtcome] at hbroken hchars
  rw [ofBytes, Option.map_eq_none_iff.mp hbroken, hchars rfl]

/-- Reading a file breaks off if and only if its bytes are no text, and then at the bytes that are
none. -/
theorem ofBytes_broken (data : List UInt8) :
    (ofBytes data).broken?.map DecodeError.what = (decode 0 data).2.map DecodeError.what :=
  (taken_outcome [] data).1

end TextStream

end Rulebook
