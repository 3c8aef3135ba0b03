import Mathlib
import Rulebook.Predicate
import Rulebook.Proofs.Action
import Rulebook.Proofs.Calendar

/-!
# Checks of dates

A time is before, at or after the current moment as moments are, whatever clocks the two are read
on. The current moment is put into a form in which a time is compared with it; this keeps its
moment, and shows the day that the check for today looks at. A plain date is compared with the day
that the current moment shows.

* `Predicate.align_ok`: the form of the current moment.
* `Predicate.orderedWithNow_datetime`, `Predicate.isToday_datetime`: what is answered for a time.
* `Predicate.checks_follow_moments`: the checks agree with moments, and for a plain date exactly
  one of them holds.
-/

namespace Rulebook

open DateTime

namespace DateTime

/-- How far the clock is ahead on which days are looked at: the clock of the current moment if
both times have an offset, and the local one otherwise. -/
def dayClock (zone : Int) (t now : DateTime) : Int :=
  match t.offset, now.offset with
  | some _, some ahead => ahead
  | _, _ => offsetOfSeconds zone

/-- If only one of the two times has an offset, the current moment is moved to the local clock for
comparing them; this does not leave the calendar. -/
def Comparable (zone : Int) (t now : DateTime) : Prop :=
  t.offset.isSome ≠ now.offset.isSome → now.Reaches zone

/-- A time with an offset is moved to the clock on which days are looked at; this does not leave the
calendar. -/
def DayShown (zone : Int) (t now : DateTime) : Prop :=
  t.offset.isSome → Shown (t.dayClock zone now) (t.momentOn (offsetOfSeconds zone))

end DateTime

namespace Comparison

variable {α : Type} [LinearOrder α] (x y : α)

theorem holds_gt : gt.holds (compare x y) = decide (y < x) := by
  rw [Bool.eq_iff_iff, decide_eq_true_iff, ← compare_gt_iff_gt]
  exact beq_iff_eq

theorem holds_lt : lt.holds (compare x y) = decide (x < y) := by
  rw [Bool.eq_iff_iff, decide_eq_true_iff, ← compare_lt_iff_lt]
  exact beq_iff_eq

end Comparison

namespace Predicate

variable {zone : Int} {t now : DateTime}

/-- The form in which a time is compared with the current moment has an offset iff the time has
one. It keeps the moment, and shows it on the clock on which days are looked at. -/
theorem align_ok (h : t.Comparable zone now) :
    ∃ n, align zone t now = .ok n ∧
      n.offset = (if t.offset.isSome then some (t.dayClock zone now) else none) ∧
      n.momentOn (offsetOfSeconds zone) = now.momentOn (offsetOfSeconds zone) ∧
      (n.clock : Int) = now.momentOn (offsetOfSeconds zone) + t.dayClock zone now := by
  unfold Comparable at h
  unfold align dayClock
  cases ht : t.offset with
  | none =>
    cases hn : now.offset with
    | none => exact ⟨now, rfl, by simp [hn], rfl, by simp [momentOn, instant, hn]⟩
    | some b =>
      obtain ⟨r, hr, hclock, -⟩ := exists_toLocal (h (by simp [ht, hn]))
      simp only [hr]
      refine ⟨{ r with offset := none }, rfl, rfl, ?_, hclock⟩
      simp only [momentOn, instant, Option.getD_none] at hclock ⊢
      omega
  | some a =>
    cases hn : now.offset with
    | none =>
      obtain ⟨r, hr, hclock, hoffset⟩ := exists_toLocal (h (by simp [ht, hn]))
      simp only [hr]
      refine ⟨r, rfl, hoffset, ?_, hclock⟩
      simp only [momentOn, instant, hoffset, Option.getD_some] at hclock ⊢
      omega
    | some b => exact ⟨now, rfl, by simp [hn], rfl, by simp [momentOn, instant, hn]⟩

/-- Whether a time is in an order to the current moment is decided by the two moments. -/
theorem orderedWithNow_datetime (c : Comparison) (h : t.Comparable zone now) :
    orderedWithNow c zone (.datetime t) (.datetime now) =
      .ok (c.holds (compare (t.momentOn (offsetOfSeconds zone))
        (now.momentOn (offsetOfSeconds zone)))) := by
  obtain ⟨n, hn, hoffset, hmoment, -⟩ := align_ok h
  have hsome : t.offset.isSome = n.offset.isSome := by
    rw [hoffset]
    cases t.offset <;> rfl
  have hcompare := compare?_eq (offsetOfSeconds zone) hsome
  rw [hmoment] at hcompare
  simp only [orderedWithNow, moment]
  show (align zone t now >>= _) = _
  rw [hn, ok_then, hcompare]
  rfl

/-- A plain date is compared with the day that the current moment shows. -/
theorem orderedWithNow_date (c : Comparison) (zone : Int) (d : Date) (now : DateTime) :
    orderedWithNow c zone (.date d) (.datetime now) =
      .ok (c.holds (compare d.ordinal now.date.ordinal)) := rfl

theorem isToday_date (zone : Int) (d : Date) (now : DateTime) :
    isToday zone (.date d) (.datetime now) = .ok (decide (d.ordinal = now.date.ordinal)) := by
  show Except.ok (d == now.date) = _
  rw [Except.ok.injEq, Bool.eq_iff_iff, beq_iff_eq, decide_eq_true_iff, Date.mk.injEq]

/-- A time is shown on the clock on which days are looked at. -/
theorem onClockOf_ok {n : DateTime} (h : t.DayShown zone now)
    (hn : n.offset = (if t.offset.isSome then some (t.dayClock zone now) else none)) :
    ∃ m, onClockOf t n = .ok m ∧
      (m.clock : Int) = t.momentOn (offsetOfSeconds zone) + t.dayClock zone now := by
  unfold DayShown at h
  unfold onClockOf
  rw [hn]
  cases ht : t.offset with
  | none => exact ⟨t, rfl, by simp [momentOn, instant, dayClock, ht]⟩
  | some a =>
    have hshown : Shown (t.dayClock zone now) (t.instant a) := by
      simpa [momentOn, ht] using h (by simp [ht])
    obtain ⟨m, hm, hclock, -⟩ := exists_moveZone hshown
    refine ⟨m, ?_, by simpa [momentOn, ht] using hclock⟩
    simp only [Option.isSome_some, if_true, hm]
    rfl

/-- Whether a time falls on the current day is decided by the days of the two moments. -/
theorem isToday_datetime (h : t.Comparable zone now) (hday : t.DayShown zone now) :
    isToday zone (.datetime t) (.datetime now) =
      .ok (decide (dayOn (t.dayClock zone now) (t.momentOn (offsetOfSeconds zone)) =
        dayOn (t.dayClock zone now) (now.momentOn (offsetOfSeconds zone)))) := by
  obtain ⟨n, hn, hoffset, -, hclock⟩ := align_ok h
  obtain ⟨m, hm, hclock'⟩ := onClockOf_ok hday hoffset
  simp only [isToday, moment]
  show (align zone t now >>= _) = _
  rw [hn, ok_then, hm, ok_then]
  show Except.ok (m.date == n.date) = _
  rw [Except.ok.injEq, Bool.eq_iff_iff, beq_iff_eq, decide_eq_true_iff]
  exact date_eq_iff hclock' hclock

/-- The checks agree with moments. Where comparing does not leave the calendar, a time is after the
current moment, or before it, iff its moment is; and where looking at the day does not either, it is
of today iff the two moments fall on the same day of the clock on which days are looked at. For a
plain date exactly one of the checks holds. -/
theorem checks_follow_moments (zone : Int) (now : DateTime) :
    (∀ t : DateTime, t.Comparable zone now →
      isFuture zone (.datetime t) (.datetime now) =
        .ok (decide (now.momentOn (offsetOfSeconds zone) < t.momentOn (offsetOfSeconds zone))) ∧
      isPast zone (.datetime t) (.datetime now) =
        .ok (decide (t.momentOn (offsetOfSeconds zone) < now.momentOn (offsetOfSeconds zone))) ∧
      (t.DayShown zone now → isToday zone (.datetime t) (.datetime now) =
        .ok (decide (dayOn (t.dayClock zone now) (t.momentOn (offsetOfSeconds zone)) =
          dayOn (t.dayClock zone now) (now.momentOn (offsetOfSeconds zone)))))) ∧
    ∀ d : Date, ∃ future past today : Bool,
      isFuture zone (.date d) (.datetime now) = .ok future ∧
      isPast zone (.date d) (.datetime now) = .ok past ∧
      isToday zone (.date d) (.datetime now) = .ok today ∧
      [future, past, today].count true = 1 := by
  constructor
  · intro t h
    refine ⟨?_, ?_, isToday_datetime h⟩
    · rw [isFuture, orderedWithNow_datetime _ h]
      exact congrArg Except.ok (Comparison.holds_gt _ _)
    · rw [isPast, orderedWithNow_datetime _ h]
      exact congrArg Except.ok (Comparison.holds_lt _ _)
  · intro d
    refine ⟨decide (now.date.ordinal < d.ordinal), decide (d.ordinal < now.date.ordinal),
      decide (d.ordinal = now.date.ordinal), ?_, ?_, ?_, ?_⟩
    · rw [isFuture, orderedWithNow_date]
      exact congrArg Except.ok (Comparison.holds_gt _ _)
    · rw [isPast, orderedWithNow_date]
      exact congrArg Except.ok (Comparison.holds_lt _ _)
    · exact isToday_date zone d now
    · rcases lt_trichotomy d.ordinal now.date.ordinal with h | h | h
      · simp [h, h.ne, h.not_gt]
      · simp [h]
      · simp [h, h.ne', h.not_gt]

/-- The last evening of 2024, half past eleven on a clock that is three hours behind. -/
def sampleEvening : DateTime := ⟨63871284600000000, some (-10800000000), by decide⟩

/-- The next morning, five past eight on the local clock. -/
def sampleMorning : DateTime := ⟨63871315500000000, none, by decide⟩

/-- On a local clock that is five and a half hours ahead, the evening was five minutes ago, and it is
of today. -/
theorem checks_follow_moments_sample :
    sampleEvening.Comparable 19800 sampleMorning ∧ sampleEvening.DayShown 19800 sampleMorning ∧
      isFuture 19800 (.datetime sampleEvening) (.datetime sampleMorning) = .ok false ∧
      isPast 19800 (.datetime sampleEvening) (.datetime sampleMorning) = .ok true ∧
      isToday 19800 (.datetime sampleEvening) (.datetime sampleMorning) = .ok true := by
  have hcomparable : sampleEvening.Comparable 19800 sampleMorning := by
    intro _
    unfold Reaches Shown InCalendar
    decide
  have hshown : sampleEvening.DayShown 19800 sampleMorning := by
    intro _
    unfold Shown InCalendar
    decide
  obtain ⟨hfuture, hpast, htoday⟩ :=
    (checks_follow_moments 19800 sampleMorning).1 sampleEvening hcomparable
  exact ⟨hcomparable, hshown, hfuture, hpast, htoday hshown⟩

end Predicate

end Rulebook
