import Rulebook.Value.Order

/-!
# Moments and clocks

A time is a moment as soon as it is known how far its clock is ahead; a time without an offset is
read on the local clock. Moving a time to another clock keeps its moment, and fails only where a
time that is looked at on the way lies outside of the calendar.

* `DateTime.momentOn`, `DateTime.dayOn`: the moment of a time, and the day of a moment on a clock.
* `DateTime.moveZone_ok_iff`, `DateTime.toLocal_ok_iff`: when a time can be moved, and where to.
* `DateTime.compare?_eq`: times compare as their moments do.
* `DateTime.date_eq_iff`: two times show the same day iff their moments do on their clocks.
-/

namespace Rulebook

namespace DateTime

/-- The moment of a time in microseconds of universal time; a time without an offset is one of a
clock that is `ahead`. -/
def momentOn (ahead : Int) (t : DateTime) : Int := t.instant (t.offset.getD ahead)

/-- The day that a clock shows at a moment, counted like the days of the calendar. -/
def dayOn (ahead moment : Int) : Int := (moment + ahead) / microsPerDay

/-- A clock with this reading shows a day of the calendar. -/
def InCalendar (reading : Int) : Prop := 0 ≤ reading ∧ reading < calendarDays * microsPerDay

/-- The moment can be shown on a clock: universal time and the clock show days of the calendar. -/
def Shown (ahead moment : Int) : Prop := InCalendar moment ∧ InCalendar (moment + ahead)

/-- A time can be moved to the local clock. For a time without an offset that of the local clock is
looked up first: on the local clock when universal time shows this time, and a day earlier. -/
def Reaches (zone : Int) (t : DateTime) : Prop :=
  Shown (offsetOfSeconds zone) (t.momentOn (offsetOfSeconds zone)) ∧
    (t.offset = none →
      InCalendar (t.clock + offsetOfSeconds zone) ∧ InCalendar (t.clock - microsPerDay))

theorem inCalendar_clock (t : DateTime) : InCalendar t.clock := by
  have h := t.inRange
  unfold InCalendar
  omega

theorem exists_clock {reading : Int} (h : InCalendar reading) (offset : Option Int) :
    ∃ t : DateTime, (t.clock : Int) = reading ∧ t.offset = offset := by
  obtain ⟨hlow, hhigh⟩ := h
  exact ⟨⟨reading.toNat, offset, by omega⟩, Int.toNat_of_nonneg hlow, rfl⟩

theorem ofClock?_eq_some_iff {reading : Int} {offset : Option Int} {t : DateTime} :
    ofClock? reading offset = some t ↔
      InCalendar reading ∧ (t.clock : Int) = reading ∧ t.offset = offset := by
  unfold ofClock?
  constructor
  · intro h
    split at h
    · rename_i hr
      cases h
      exact ⟨⟨hr.1, by omega⟩, Int.toNat_of_nonneg hr.1, rfl⟩
    · cases h
  · rintro ⟨hr, hclock, rfl⟩
    have hn : reading.toNat = t.clock := by omega
    rw [dif_pos ⟨hr.1, by rw [hn]; exact t.inRange⟩]
    simp only [hn]

theorem ofClock?_eq_none_iff {reading : Int} {offset : Option Int} :
    ofClock? reading offset = none ↔ ¬ InCalendar reading := by
  unfold ofClock? InCalendar
  split <;> simp <;> omega

/-- Moving a time to another clock keeps its moment. -/
theorem moveZone_ok_iff {t r : DateTime} {offset ahead : Int} :
    t.moveZone offset ahead = .ok r ↔ Shown ahead (t.instant offset) ∧
      (r.clock : Int) = t.instant offset + ahead ∧ r.offset = some ahead := by
  unfold moveZone Shown
  cases hu : ofClock? (t.instant offset) none with
  | none =>
    have hout := ofClock?_eq_none_iff.mp hu
    simp [hout]
  | some u =>
    obtain ⟨hin, hclock, -⟩ := ofClock?_eq_some_iff.mp hu
    simp only [hclock]
    cases hm : ofClock? (t.instant offset + ahead) (some ahead) with
    | none =>
      have hout := ofClock?_eq_none_iff.mp hm
      simp [hout]
    | some m =>
      obtain ⟨hin', hclock', hoffset⟩ := ofClock?_eq_some_iff.mp hm
      constructor
      · intro h
        cases h
        exact ⟨⟨hin, hin'⟩, hclock', hoffset⟩
      · rintro ⟨-, h⟩
        rw [Except.ok.injEq, ← Option.some.injEq, ← hm]
        exact ofClock?_eq_some_iff.mpr ⟨hin', h⟩

/-- A time is not moved to a clock that cannot show its moment. -/
theorem moveZone_hidden {t : DateTime} {offset ahead : Int}
    (h : ¬ Shown ahead (t.instant offset)) : t.moveZone offset ahead = .error .outOfRange := by
  cases hm : t.moveZone offset ahead with
  | ok r => exact absurd (moveZone_ok_iff.mp hm).1 h
  | error e =>
    unfold moveZone at hm
    split at hm
    · exact hm.symm
    · split at hm
      · exact hm.symm
      · cases hm

theorem checkLocal_ok_iff {t : DateTime} {zone : Int} :
    t.checkLocal zone = .ok () ↔
      InCalendar (t.clock + offsetOfSeconds zone) ∧ InCalendar (t.clock - microsPerDay) := by
  have h := t.inRange
  unfold checkLocal InCalendar offsetOfSeconds calendarSeconds
  unfold calendarDays microsPerDay at *
  simp only [Bool.or_eq_true, decide_eq_true_eq]
  split
  · simp only [reduceCtorEq, false_iff]
    omega
  · split
    · simp only [reduceCtorEq, false_iff]
      omega
    · simp only [true_iff]
      omega

/-- A time that can be moved to the local clock keeps its moment there; no other one can. -/
theorem toLocal_ok_iff {t r : DateTime} {zone : Int} :
    t.toLocal zone = .ok r ↔ t.Reaches zone ∧
      (r.clock : Int) = t.momentOn (offsetOfSeconds zone) + offsetOfSeconds zone ∧
      r.offset = some (offsetOfSeconds zone) := by
  unfold toLocal Reaches momentOn
  cases ho : t.offset with
  | some offset => simp [moveZone_ok_iff]
  | none =>
    simp only [Option.getD_none, true_implies]
    cases hc : t.checkLocal zone with
    | error e =>
      have hout := mt (@checkLocal_ok_iff t zone).mpr (by simp [hc])
      constructor
      · intro h
        cases h
      · rintro ⟨⟨-, h⟩, -⟩
        exact absurd h hout
    | ok _ =>
      have hin := checkLocal_ok_iff.mp hc
      show t.moveZone _ _ = _ ↔ _
      rw [moveZone_ok_iff]
      simp [hin]

theorem exists_moveZone {t : DateTime} {offset ahead : Int} (h : Shown ahead (t.instant offset)) :
    ∃ r, t.moveZone offset ahead = .ok r ∧ (r.clock : Int) = t.instant offset + ahead ∧
      r.offset = some ahead := by
  obtain ⟨r, hr⟩ := exists_clock h.2 (some ahead)
  exact ⟨r, moveZone_ok_iff.mpr ⟨h, hr⟩, hr⟩

theorem exists_toLocal {t : DateTime} {zone : Int} (h : t.Reaches zone) :
    ∃ r, t.toLocal zone = .ok r ∧
      (r.clock : Int) = t.momentOn (offsetOfSeconds zone) + offsetOfSeconds zone ∧
      r.offset = some (offsetOfSeconds zone) := by
  obtain ⟨r, hr⟩ := exists_clock h.1.2 (some (offsetOfSeconds zone))
  exact ⟨r, toLocal_ok_iff.mpr ⟨h, hr⟩, hr⟩

/-! ## Comparing -/

/-- Times that both have an offset, or both have none, compare as their moments do. -/
theorem compare?_eq (ahead : Int) {a b : DateTime} (h : a.offset.isSome = b.offset.isSome) :
    a.compare? b = some (compare (a.momentOn ahead) (b.momentOn ahead)) := by
  unfold compare? momentOn instant
  cases ha : a.offset with
  | some x =>
    cases hb : b.offset with
    | some y => rfl
    | none => rw [ha, hb] at h; cases h
  | none =>
    cases hb : b.offset with
    | some y => rw [ha, hb] at h; cases h
    | none =>
      have hlt : (a.clock : Int) - ahead < b.clock - ahead ↔ a.clock < b.clock := by omega
      have heq : (a.clock : Int) - ahead = b.clock - ahead ↔ a.clock = b.clock := by omega
      simp only [Option.getD_none, compare, compareOfLessAndEq, hlt, heq]

/-- The day that a time shows is that of its moment on its own clock. -/
theorem date_eq_iff {a b : DateTime} {x y moment moment' : Int} (ha : (a.clock : Int) = moment + x)
    (hb : (b.clock : Int) = moment' + y) : a.date = b.date ↔ dayOn x moment = dayOn y moment' := by
  unfold date dayOn
  rw [Date.mk.injEq, ← ha, ← hb]
  omega

end DateTime

end Rulebook
